import Sift.Proofs.Grammar.Forward

/-!
# What the reader builds

Every expression that is read is well formed, whatever the limit on tests. The scanner makes words
that are names (`valid_of_tokens`), and from such tokens each part of the reader builds a
well-formed part. `Ensures pre r post` is the partial statement that this takes: if the reader
succeeds from a state in `pre`, then `post` holds of what it built and of the state it left. Two
facts travel with the states: that the words are names, and which token a part started at, since a
selector must not start with a word that means something else there.
-/

namespace Sift

/-! ## Scanned tokens -/

/-- A word has to be a name. -/
def Token.Valid : Token → Prop
  | .word w => isName w = true
  | _ => True

/-- What characters can be scanned as: any valid token but the end of the text. -/
def Token.Scanned : Token → Prop
  | .word w => isName w = true
  | .finish => False
  | _ => True

theorem Token.Scanned.valid {t : Token} (scanned : t.Scanned) : t.Valid := by
  cases t with
  | word w => exact scanned
  | _ => trivial

/-- Nothing has been scanned but what can be. -/
def Scan.Sound : Scan → Prop
  | token t _ => t.Scanned
  | fault .. => True

namespace Scan

theorem sound_string (decoded : List Char) (read : Nat) (text : List Char) :
    (string decoded read text).Sound := by
  fun_induction string decoded read text <;> trivial

theorem sound_finishNumber (numeral rest : List Char) : (finishNumber numeral rest).Sound := by
  unfold finishNumber
  dsimp only
  split
  · split <;> trivial
  · trivial

theorem sound_fraction (numeral rest : List Char) : (fraction numeral rest).Sound := by
  unfold fraction
  split
  · dsimp only
    split
    · trivial
    · exact sound_finishNumber _ _
  · exact sound_finishNumber _ _

theorem sound_number (sign text : List Char) : (number sign text).Sound := by
  unfold number
  split
  · exact sound_fraction _ _
  · dsimp only
    split
    · trivial
    · exact sound_fraction _ _

theorem sound_raw (rest : List Char) : (raw rest).Sound := by
  unfold raw
  dsimp only
  split <;> trivial

theorem sound_comparison {plain withEquals : Token} (plainScanned : plain.Scanned)
    (equalsScanned : withEquals.Scanned) (rest : List Char) :
    (comparison plain withEquals rest).Sound := by
  unfold comparison
  split
  · exact equalsScanned
  · exact plainScanned

end Scan

/-- A scanned word is a name, and the end of the text is not scanned. -/
theorem sound_scan (first : Char) (rest : List Char) : (scan first rest).Sound := by
  unfold scan
  split
  case h_11 => refine Scan.sound_comparison ?_ ?_ _ <;> trivial
  case h_12 => refine Scan.sound_comparison ?_ ?_ _ <;> trivial
  case h_13 => exact Scan.sound_string _ _ _
  case h_14 => exact Scan.sound_raw _
  case h_15 => exact Scan.sound_number _ _
  case h_16 => split <;> trivial
  case h_17 =>
    split
    · exact Scan.sound_number _ _
    · split
      next letter =>
        simp only [Scan.Sound, Token.Scanned, isName, String.toList_ofList, letter, Bool.true_and,
          List.all_takeWhile]
      next => trivial
  all_goals trivial

theorem valid_of_tokensFrom (c : Cursor) {spanned : List SpannedToken}
    (lexed : tokensFrom c = .ok spanned) : ∀ t ∈ spanned, t.token.Valid := by
  fun_induction tokensFrom c generalizing spanned with
  | case1 =>
    cases lexed
    intro t inside
    obtain rfl := List.mem_singleton.mp inside
    trivial
  | case2 c here first rest split t more scanned behind others goesOn =>
    rename_i ih
    cases lexed
    intro t' inside
    rcases List.mem_cons.mp inside with rfl | inside
    · have sound := sound_scan first rest
      rw [scanned] at sound
      exact sound.valid
    · exact ih goesOn t' inside
  | case3 => cases lexed
  | case4 => cases lexed

/-! ## Parts of the reader -/

namespace Reader

/-- All words that are left are names. -/
def State.Valid (s : State) : Prop := ∀ t ∈ s.tokens, t.Valid

/-- Started at a token, the reader builds only what has a property, and leaves names behind. -/
def BuildsAt {α : Type} (t : Token) (r : Reader α) (P : α → Prop) : Prop :=
  ∀ s : State, s.Valid → s.current.token = t → ∀ a s', r.run s = .ok a s' → P a ∧ s'.Valid

/-- Wherever it starts, the reader builds only what has a property. -/
def Builds {α : Type} (r : Reader α) (P : α → Prop) : Prop := ∀ t, BuildsAt t r P

namespace BuildsAt

variable {α β : Type} {t : Token} {P : α → Prop} {Q : β → Prop}

theorem pure {a : α} (holds : P a) : BuildsAt t (Pure.pure a) P := by
  intro s valid _ a' s' run
  cases run
  exact ⟨holds, valid⟩

theorem malformed (fault : Fault) : BuildsAt t (Reader.malformed fault) P :=
  fun _ _ _ _ _ run => nomatch run

theorem unexpected (expected : Expected) : BuildsAt t (Reader.unexpected expected) P :=
  fun _ _ _ _ _ run => nomatch run

theorem bind {r : Reader α} {f : α → Reader β} (first : BuildsAt t r P)
    (second : ∀ a, P a → Builds (f a) Q) : BuildsAt t (r >>= f) Q := by
  intro s valid here b s' run
  simp only [EStateM.run_bind] at run
  split at run
  next a middle ran =>
    obtain ⟨holds, valid'⟩ := first s valid here a middle ran
    exact second a holds _ middle valid' rfl b s' run
  next => cases run

/-- Looking at the current token changes nothing, and the token is valid. -/
theorem token {f : Token → Reader β} (behind : t.Valid → BuildsAt t (f t) Q) :
    BuildsAt t (Reader.token >>= f) Q := by
  rintro s valid rfl b s' run
  exact behind (valid _ List.mem_cons_self) s valid rfl b s' run

theorem advance : BuildsAt t Reader.advance fun _ => True := by
  rintro ⟨current, rest, counted⟩ valid - a s' run
  cases rest with
  | nil =>
    cases run
    exact ⟨trivial, valid⟩
  | cons next rest =>
    cases run
    exact ⟨trivial, fun t inside => valid t (List.mem_cons_of_mem _ inside)⟩

/-- Going on to the next token, whatever it is. -/
theorem step {f : Unit → Reader β} (behind : Builds (f ()) Q) :
    BuildsAt t (Reader.advance >>= f) Q :=
  advance.bind fun _ _ => behind

theorem atWord {w : String} {f : Bool → Reader β}
    (behind : BuildsAt t (f (decide (t = .word w))) Q) : BuildsAt t (Reader.atWord w >>= f) Q := by
  rintro s valid rfl b s' run
  exact behind s valid rfl b s' run

/-- A step that changes nothing but the count. -/
theorem counted {count : State → Nat} {f : Unit → Reader β} (behind : BuildsAt t (f ()) Q) :
    BuildsAt t ((modify fun s => { s with counted := count s }) >>= f) Q :=
  fun s valid here b s' run => behind { s with counted := count s } valid here b s' run

/-- Going on from the state, whatever it is. -/
theorem state {f : State → Reader β} (each : ∀ s, BuildsAt t (f s) Q) :
    BuildsAt t (get >>= f) Q :=
  fun s valid here b s' run => each s s valid here b s' run

theorem expect (t' : Token) (expected : Expected) :
    BuildsAt t (Reader.expect t' expected) fun _ => True := by
  refine token fun _ => ?_
  split
  · exact advance
  · exact unexpected expected

end BuildsAt

theorem builds_pathRest (steps : Nat) (path : List String) :
    Builds (pathRest steps path) fun whole => ∃ others, whole = path ++ others := by
  induction steps generalizing path with
  | zero => exact fun _ => .unexpected _
  | succ steps ih =>
    have further (segment : String) : Builds (pathRest steps (path ++ [segment]))
        fun whole => ∃ others, whole = path ++ others := by
      intro t s valid here whole s' run
      obtain ⟨⟨others, rfl⟩, valid'⟩ := ih (path ++ [segment]) t s valid here whole s' run
      exact ⟨⟨segment :: others, by simp⟩, valid'⟩
    intro t
    refine BuildsAt.token fun _ => ?_
    split
    · refine .step fun t => .token fun _ => ?_
      split
      · exact .step (further _)
      · exact .unexpected _
    · refine .step fun t => .token fun _ => ?_
      split
      · refine .step fun t => .token fun _ => ?_
        split
        · exact .step (further _)
        · exact .malformed _
      · refine .step fun t => .token fun _ => ?_
        split
        · exact .step (further _)
        · exact .malformed _
      · exact .malformed _
    · exact .pure ⟨[], by simp⟩

/-- A well-formed selector that starts with a word only if a token is that word. -/
def SelectsFrom (t : Token) (s : Selector) : Prop :=
  s.WellFormed ∧ ∀ w, s.StartsWith w → t = .word w

/-- A path that goes on from a first word selects. -/
theorem selectsFrom_words {first : String} (name : (Token.word first).Valid) (others : List String) :
    SelectsFrom (.word first) ⟨.words, [first] ++ others⟩ := by
  refine ⟨⟨first, others, rfl, name⟩, ?_⟩
  rintro w ⟨-, head⟩
  cases head
  rfl

/-- A pointer text selects and starts with no word. -/
theorem selectsFrom_pointer {text : String} {path : List String}
    (read : Pointer.decode? text = some path) (t : Token) : SelectsFrom t ⟨.pointer, path⟩ :=
  ⟨Pointer.segments_of_decode? read, fun _ starts => nomatch starts.1⟩

theorem buildsAt_operand (steps : Nat) (t : Token) :
    BuildsAt t (operand steps) fun op => ∀ s, op.selector? = some s → SelectsFrom t s := by
  refine .token fun valid => ?_
  split
  · refine .step fun t => (builds_pathRest steps _ t).bind fun whole made t => .pure ?_
    obtain ⟨others, rfl⟩ := made
    rintro s selects
    cases selects
    exact selectsFrom_words valid others
  · refine .step fun t => .pure ?_
    intro s selects
    obtain ⟨path, read, rfl⟩ := Option.map_eq_some_iff.mp selects
    exact selectsFrom_pointer read _
  · exact .step fun t => .pure nofun
  · exact .step fun t => .pure nofun
  · exact .unexpected _

theorem builds_literal (steps : Nat) : Builds (literal steps) fun _ => True := by
  intro t
  refine .token fun _ => ?_
  split
  · exact .step fun t => (builds_pathRest steps _ t).bind fun _ _ _ => .pure trivial
  · exact .step fun t => .pure trivial
  · exact .step fun t => .pure trivial
  · exact .step fun t => .pure trivial
  · exact .unexpected _

theorem buildsAt_selector (steps : Nat) (t : Token) :
    BuildsAt t (selector steps) (SelectsFrom t) := by
  refine .token fun valid => ?_
  split
  · refine .step fun t => (builds_pathRest steps _ t).bind fun whole made t => .pure ?_
    obtain ⟨others, rfl⟩ := made
    exact selectsFrom_words valid others
  · split
    next read => exact .step fun t => .pure (selectsFrom_pointer read _)
    next => exact .malformed _
  · exact .malformed _

/-! ## Tests and bindings -/

section

variable {op : Operand} {t₀ : Token}

theorem builds_selectorFirst (selects : ∀ s, op.selector? = some s → SelectsFrom t₀ s)
    (notNot : t₀ ≠ .word "not") {operator : Operator} (takes : operator.takesLiteral = true)
    (steps : Nat) : Builds (selectorFirst steps op operator) Expr.WellFormed := by
  intro t
  unfold selectorFirst
  split
  · exact .unexpected _
  next s selected =>
    obtain ⟨wf, starts⟩ := selects s selected
    refine .step fun t => (builds_literal steps t).bind fun value _ t => .pure ?_
    exact ⟨wf, takes.symm, fun _ started => notNot (starts "not" started)⟩

theorem builds_literalFirst {operator : Operator} (takes : operator.takesLiteral = true)
    (membership : operator.isMembership = true) (steps : Nat) :
    Builds (literalFirst steps op operator) Expr.WellFormed := by
  intro t
  refine .step fun t => (buildsAt_selector steps t).bind fun s selects t => .pure ?_
  exact ⟨selects.1, takes.symm, fun other => by rw [membership] at other; cases other⟩

theorem builds_emptiness (selects : ∀ s, op.selector? = some s → SelectsFrom t₀ s)
    (notNot : t₀ ≠ .word "not") : Builds (emptiness op) Expr.WellFormed := by
  intro t
  unfold emptiness
  split
  · exact .unexpected _
  next s selected =>
    obtain ⟨wf, starts⟩ := selects s selected
    have built (negated : Bool) : (Expr.test s
        (if negated then Operator.isNotEmpty else Operator.isEmpty) none).WellFormed := by
      refine ⟨wf, ?_, fun _ started => notNot (starts "not" started)⟩
      cases negated <;> rfl
    refine .step fun t => .atWord ?_
    dsimp only
    split
    · exact .step fun t => (BuildsAt.expect _ _).bind fun _ _ t => .pure (built true)
    · exact (BuildsAt.expect _ _).bind fun _ _ t => .pure (built false)

theorem builds_negatedTest (selects : ∀ s, op.selector? = some s → SelectsFrom t₀ s)
    (notNot : t₀ ≠ .word "not") (steps : Nat) : Builds (negatedTest steps op) Expr.WellFormed := by
  intro t
  refine .step fun t => .token fun _ => ?_
  split
  · exact builds_literalFirst rfl rfl steps _
  · exact builds_selectorFirst selects notNot rfl steps _
  · exact builds_selectorFirst selects notNot rfl steps _
  · exact .unexpected _

end

/-- A test that does not start with `not` is well formed. -/
theorem buildsAt_test (limit steps : Nat) {t : Token} (notNot : t ≠ .word "not") :
    BuildsAt t (test limit steps) Expr.WellFormed := by
  refine .counted (.state fun s => ?_)
  dsimp only
  split
  · exact fun _ _ _ _ _ run => nomatch run
  · refine (buildsAt_operand steps t).bind fun op selects t => .token fun _ => ?_
    split
    case h_7 => exact builds_literalFirst rfl rfl steps _
    case h_10 => exact builds_emptiness selects notNot _
    case h_11 => exact builds_negatedTest selects notNot steps _
    case h_12 => exact .unexpected _
    all_goals exact builds_selectorFirst selects notNot rfl steps _

theorem builds_binding : Builds binding Binding.WellFormed := by
  intro t
  refine .token fun valid => ?_
  split
  · refine .step fun t => .token fun _ => ?_
    split
    · refine .step fun t => .token fun valid' => ?_
      split
      · exact .step fun t => .pure valid
      · split
        · exact .malformed _
        next distinct => exact .step fun t => .pure ⟨valid, valid', Ne.symm distinct⟩
      · exact .unexpected _
    · exact .pure valid
  · refine .step fun t => (BuildsAt.expect _ _).bind fun _ _ t => .token fun valid => ?_
    split
    · exact .step fun t => .pure valid
    · exact .unexpected _
  · exact .unexpected _

/-! ## Expressions -/

theorem wellFormed_negated {e : Expr String} (wf : e.WellFormed) : (negated e).WellFormed := by
  cases e with
  | not operand => exact wf.1
  | test | and | or | quantified => exact ⟨wf, rfl⟩

/-- What stands behind the current token is no word of an operator. -/
def State.SelectsNext (s : State) : Prop :=
  ∃ next rest, s.rest = next :: rest ∧ ∀ w, next.token = .word w → isOperatorWord w = false

/-- A quantifier is seen only in front of something that can be a selector. -/
theorem selectsNext_of_quantifierAt {s : State} {quantifier : Quantifier}
    (found : quantifierAt s.current.token (s.rest.map (·.token)) = some quantifier) :
    s.SelectsNext := by
  have follows : followsQuantifier (s.rest.map (·.token)) = true := by
    cases other : followsQuantifier (s.rest.map (·.token)) with
    | true => rfl
    | false =>
      rw [quantifierAt_eq_none other] at found
      cases found
  obtain ⟨current, others, counted⟩ := s
  cases others with
  | nil => cases follows
  | cons next rest =>
    refine ⟨next, rest, rfl, fun w isWord => ?_⟩
    simpa [isWord, followsQuantifier] using follows

/-- With a number of steps, every part of the reader builds well-formed expressions. -/
structure BuildsWell (limit steps : Nat) : Prop where
  disjunction : Builds (disjunction limit steps) Expr.WellFormed
  disjunctionRest : ∀ left : Expr String, left.WellFormed →
    Builds (disjunctionRest limit steps left) Expr.WellFormed
  conjunction : Builds (conjunction limit steps) Expr.WellFormed
  conjunctionRest : ∀ left : Expr String, left.WellFormed →
    Builds (conjunctionRest limit steps left) Expr.WellFormed
  negation : Builds (negation limit steps) Expr.WellFormed
  quantified : ∀ (quantifier : Quantifier) (s : State), s.Valid → s.SelectsNext → ∀ e s',
    (quantified limit steps quantifier).run s = .ok e s' → e.WellFormed ∧ s'.Valid
  primary : ∀ t, t ≠ .word "not" → BuildsAt t (primary limit steps) Expr.WellFormed

namespace BuildsWell

variable {limit steps : Nat}

theorem disjunction_succ (ih : BuildsWell limit steps) :
    Builds (Reader.disjunction limit (steps + 1)) Expr.WellFormed := by
  intro t
  rw [Reader.disjunction]
  exact (ih.conjunction t).bind fun left wf => ih.disjunctionRest left wf

theorem disjunctionRest_succ (ih : BuildsWell limit steps) {left : Expr String}
    (wf : left.WellFormed) :
    Builds (Reader.disjunctionRest limit (steps + 1) left) Expr.WellFormed := by
  intro t
  rw [Reader.disjunctionRest]
  refine .atWord ?_
  split
  · refine .step fun t => (ih.conjunction t).bind fun right rightWf => ?_
    exact ih.disjunctionRest _ ⟨wf, rightWf⟩
  · exact .pure wf

theorem conjunction_succ (ih : BuildsWell limit steps) :
    Builds (Reader.conjunction limit (steps + 1)) Expr.WellFormed := by
  intro t
  rw [Reader.conjunction]
  exact (ih.negation t).bind fun left wf => ih.conjunctionRest left wf

theorem conjunctionRest_succ (ih : BuildsWell limit steps) {left : Expr String}
    (wf : left.WellFormed) :
    Builds (Reader.conjunctionRest limit (steps + 1) left) Expr.WellFormed := by
  intro t
  rw [Reader.conjunctionRest]
  refine .atWord ?_
  split
  · refine .step fun t => (ih.negation t).bind fun right rightWf => ?_
    exact ih.conjunctionRest _ ⟨wf, rightWf⟩
  · exact .pure wf

/-- A `not` is taken off, a quantifier goes on if one is seen, and the rest is bound tightly. -/
theorem negation_succ (ih : BuildsWell limit steps) :
    Builds (Reader.negation limit (steps + 1)) Expr.WellFormed := by
  intro t
  rw [Reader.negation]
  refine .atWord ?_
  split
  · refine .step fun t => .token fun _ => ?_
    split
    · exact (ih.negation t).bind fun operand wf t => .pure (wellFormed_negated wf)
    · exact .unexpected _
  next notNot =>
    have primary := ih.primary t (by simpa using notNot)
    intro s valid here e s' run
    simp only [EStateM.run_bind] at run
    split at run
    next found middle ran =>
      rw [run_quantifier?] at ran
      injection ran with isFound same
      subst same
      cases found with
      | none => exact primary s valid here e s' run
      | some quantifier =>
        have selectsNext := selectsNext_of_quantifierAt isFound
        exact ih.quantified quantifier s valid selectsNext e s' run
    next => cases run

theorem quantified_succ (ih : BuildsWell limit steps) (quantifier : Quantifier) {s s' : State}
    (valid : s.Valid) (selectsNext : s.SelectsNext) {e : Expr String}
    (run : (Reader.quantified limit (steps + 1) quantifier).run s = .ok e s') :
    e.WellFormed ∧ s'.Valid := by
  obtain ⟨current, others, counted⟩ := s
  obtain ⟨next, rest, rfl, noOperator⟩ := selectsNext
  rw [Reader.quantified] at run
  have behind : State.Valid ⟨next, rest, counted⟩ :=
    fun t inside => valid t (List.mem_cons_of_mem _ inside)
  refine BuildsAt.bind (buildsAt_selector steps next.token) (fun selector selects t => ?_)
    ⟨next, rest, counted⟩ behind rfl e s' run
  have wf (binding : Binding) (body : Expr String) (bindingWf : binding.WellFormed)
      (bodyWf : body.WellFormed) :
      (Expr.quantified quantifier selector binding body).WellFormed := by
    refine ⟨selects.1, fun word operator started => ?_, bindingWf, bodyWf⟩
    rw [noOperator word (selects.2 word started)] at operator
    cases operator
  refine (BuildsAt.expect _ _).bind fun _ _ t => (builds_binding t).bind fun b bWf t => ?_
  refine (BuildsAt.expect _ _).bind fun _ _ t => (ih.disjunction t).bind fun body bodyWf t => ?_
  refine .token fun _ => ?_
  split
  · exact .step fun t => .pure (wf b body bWf bodyWf)
  · exact .malformed _
  · exact .unexpected _

theorem primary_succ (ih : BuildsWell limit steps) {t : Token} (notNot : t ≠ .word "not") :
    BuildsAt t (Reader.primary limit (steps + 1)) Expr.WellFormed := by
  rw [Reader.primary]
  refine .token fun _ => ?_
  split
  · refine .step fun t => (ih.disjunction t).bind fun inner wf t => .token fun _ => ?_
    split
    · exact .step fun t => .pure wf
    · exact .malformed _
    · exact .unexpected _
  · exact buildsAt_test limit steps notNot

end BuildsWell

theorem buildsWell (limit steps : Nat) : BuildsWell limit steps := by
  induction steps with
  | zero =>
    exact {
      disjunction := fun _ => .unexpected _
      disjunctionRest := fun _ _ _ => .unexpected _
      conjunction := fun _ => .unexpected _
      conjunctionRest := fun _ _ _ => .unexpected _
      negation := fun _ => .unexpected _
      quantified := fun _ _ _ _ _ _ run => nomatch run
      primary := fun _ _ => .unexpected _ }
  | succ steps ih =>
    exact {
      disjunction := ih.disjunction_succ
      disjunctionRest := fun _ wf => ih.disjunctionRest_succ wf
      conjunction := ih.conjunction_succ
      conjunctionRest := fun _ wf => ih.conjunctionRest_succ wf
      negation := ih.negation_succ
      quantified := fun quantifier _ valid selectsNext _ _ run =>
        ih.quantified_succ quantifier valid selectsNext run
      primary := fun _ notNot => ih.primary_succ notNot }

end Reader

/-! ## Whole texts -/

/-- What a text is read as is well formed. -/
theorem wellFormed_of_read {limit : Nat} {text : String} {e : Expr String}
    (read : Expr.read limit text = .ok e) : e.WellFormed := by
  obtain ⟨first, rest, s, lexed, ran⟩ := Expr.read_eq_ok.mp read
  have valid := valid_of_tokensFrom (.ofText text) lexed
  have built (steps : Nat) : Reader.Builds (Reader.whole limit steps) Expr.WellFormed := by
    refine fun t => ((Reader.buildsWell limit steps).disjunction t).bind fun e wf t =>
      .token fun _ => ?_
    split
    · exact .pure wf
    · exact .unexpected _
  refine (built _ first.token ⟨first, rest, 0⟩ (fun t inside => ?_) rfl e s ran).1
  rw [Reader.State.tokens, ← List.map_cons] at inside
  obtain ⟨spanned, here, rfl⟩ := List.mem_map.mp inside
  exact valid spanned here

end Sift
