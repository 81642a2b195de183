import Sift.Proofs.Grammar.PointerText

/-!
# Reading the tokens of an expression

`Reads r before a behind` says that a reader takes `before` to `behind` and builds `a`, wherever
the tokens stand. A chain that groups to the left is read by a loop that carries what has been read
so far, so what is said about a left operand has to speak of the whole chain: `Readable` states it
for every way in which the loop can go on. `readable` proves it of every well-formed expression, and
with it the number of steps that its tokens use up.
-/

namespace Sift.Reader

/-- A reader goes from some tokens to others and builds a value. -/
def Reads {α : Type} (r : Reader α) (before : List Token) (a : α) (behind : List Token) : Prop :=
  ∀ s : State, s.tokens = before → ∃ s', r.run s = .ok a s' ∧ s'.tokens = behind

/-! ## Steps -/

namespace Reads

variable {α β : Type} {t next : Token} {tokens before middle behind : List Token}

theorem pure (a : α) : Reads (Pure.pure a) tokens a tokens :=
  fun s here => ⟨s, rfl, here⟩

theorem bind {r : Reader α} {f : α → Reader β} {a : α} {b : β} (first : Reads r before a middle)
    (second : Reads (f a) middle b behind) : Reads (r >>= f) before b behind := by
  intro s here
  obtain ⟨s', run, there⟩ := first s here
  obtain ⟨s'', run', there'⟩ := second s' there
  refine ⟨s'', ?_, there'⟩
  simp only [EStateM.run_bind, run]
  exact run'

/-- A step that does not touch the tokens. -/
theorem modified {f : State → State} (same : ∀ s, (f s).tokens = s.tokens) :
    Reads (modify f) tokens () tokens :=
  fun s here => ⟨f s, rfl, (same s).trans here⟩

/-- Going on from the state, whatever it is. -/
theorem state {f : State → Reader α} {a : α}
    (each : ∀ s, Reads (f s) before a behind) : Reads (get >>= f) before a behind :=
  fun s here => each s s here

theorem token : Reads Reader.token (t :: tokens) t (t :: tokens) := by
  intro s here
  cases here
  exact ⟨s, rfl, rfl⟩

/-- Going on to tokens of which there is at least one. -/
theorem pass (filled : tokens ≠ []) : Reads Reader.advance (t :: tokens) () tokens := by
  rintro ⟨current, rest, counted⟩ here
  cases rest with
  | nil =>
    cases here
    exact absurd rfl filled
  | cons second rest =>
    cases here
    exact ⟨⟨second, rest, counted⟩, rfl, rfl⟩

theorem advance : Reads Reader.advance (t :: next :: tokens) () (next :: tokens) := pass (by simp)

theorem atWord (w : String) :
    Reads (Reader.atWord w) (t :: tokens) (decide (t = .word w)) (t :: tokens) :=
  token.bind (.pure _)

theorem expect (filled : tokens ≠ []) (expected : Expected) :
    Reads (Reader.expect t expected) (t :: tokens) () tokens := by
  refine token.bind ?_
  rw [if_pos rfl]
  exact pass filled

end Reads

/-! ## Paths -/

/-- A token that does not go on with a path. -/
def EndsPath (t : Token) : Prop := t ≠ .dot ∧ t ≠ .openBracket

instance (t : Token) : Decidable (EndsPath t) := inferInstanceAs (Decidable (_ ∧ _))

/-- How a segment behind the first word of a path is written. -/
inductive PathStep where
  /-- A word behind a point. -/
  | word (segment : String)
  /-- A text between double quotes, in brackets. -/
  | string (segment : String)
  /-- A text between backquotes, in brackets. -/
  | raw (segment : String)
deriving DecidableEq, Repr

namespace PathStep

/-- The segment that is written. -/
def segment : PathStep → String
  | word s | string s | raw s => s

/-- The tokens of the segment. -/
def tokens : PathStep → List Token
  | word s => [.dot, .word s]
  | string s => [.openBracket, .string s, .closeBracket]
  | raw s => [.openBracket, .raw s, .closeBracket]

end PathStep

variable {next : Token} {rest : List Token}

theorem reads_steps (ends : EndsPath next) (others : List PathStep) (path : List String)
    {steps : Nat} (enough : others.length < steps) :
    Reads (pathRest steps path) (others.flatMap PathStep.tokens ++ next :: rest)
      (path ++ others.map PathStep.segment) (next :: rest) := by
  induction others generalizing path steps with
  | nil =>
    obtain ⟨steps, rfl⟩ : ∃ k, steps = k + 1 := ⟨steps - 1, by simp at enough; omega⟩
    rw [List.map_nil, List.append_nil]
    refine Reads.token.bind ?_
    split
    · exact absurd rfl ends.1
    · exact absurd rfl ends.2
    · exact .pure path
  | cons step others ih =>
    obtain ⟨steps, rfl⟩ : ∃ k, steps = k + 1 := ⟨steps - 1, by simp at enough; omega⟩
    have more := @ih (path ++ [step.segment]) steps (by simpa using enough)
    rw [List.append_assoc] at more
    cases step with
    | word s =>
      exact Reads.token.bind (Reads.advance.bind (Reads.token.bind
        ((Reads.pass (by simp)).bind more)))
    | string s | raw s =>
      refine Reads.token.bind (Reads.advance.bind (Reads.token.bind (Reads.advance.bind
        (Reads.token.bind ?_))))
      rw [if_pos rfl]
      exact (Reads.pass (by simp)).bind more

theorem reads_pathRest (ends : EndsPath next) (others path : List String) {steps : Nat}
    (enough : others.length < steps) :
    Reads (pathRest steps path) (indexTokens others ++ next :: rest) (path ++ others)
      (next :: rest) := by
  have read : Reads (pathRest steps path) _ _ (next :: rest) :=
    reads_steps ends (others.map .string) path (by rwa [List.length_map])
  rwa [List.flatMap_map, List.map_map, show PathStep.segment ∘ .string = id from rfl,
    List.map_id] at read

/-! ## Selectors, tests and bindings -/

theorem length_others_lt {first : String} {others : List String} {steps : Nat}
    (enough : (pathTokens (first :: others)).length ≤ steps) : others.length < steps := by
  simp only [pathTokens, indexTokens, List.length_cons, List.length_flatMap, List.length_nil,
    List.map_const', List.sum_replicate_nat] at enough
  omega

theorem reads_selector {s : Selector} (wf : s.WellFormed) (ends : EndsPath next) {steps : Nat}
    (enough : s.tokens.length ≤ steps) :
    Reads (selector steps) (s.tokens ++ next :: rest) s (next :: rest) := by
  obtain ⟨form, path⟩ := s
  cases form with
  | words =>
    obtain ⟨first, others, rfl, -⟩ := wf
    exact Reads.token.bind ((Reads.pass (by simp)).bind
      ((reads_pathRest ends others [first] (length_others_lt enough)).bind (.pure _)))
  | pointer =>
    refine Reads.token.bind ?_
    simp only [Pointer.decode?_encode wf.1 wf.2]
    exact Reads.advance.bind (.pure _)

/-- The selector in front of an operator is read as an operand that selects the same; how the
reader goes on is known for every such operand. -/
theorem reads_operand {s : Selector} (wf : s.WellFormed) {steps : Nat}
    (enough : s.tokens.length ≤ steps) (ends : EndsPath next) {α : Type} {f : Operand → Reader α}
    {a : α} {behind : List Token}
    (goesOn : ∀ op : Operand, op.selector? = some s → Reads (f op) (next :: rest) a behind) :
    Reads (operand steps >>= f) (s.tokens ++ next :: rest) a behind := by
  obtain ⟨form, path⟩ := s
  cases form with
  | words =>
    obtain ⟨first, others, rfl, -⟩ := wf
    refine Reads.bind (Reads.token.bind ?_) (goesOn (.path (first :: others)) rfl)
    exact (Reads.pass (by simp)).bind
      ((reads_pathRest ends others [first] (length_others_lt enough)).bind (.pure _))
  | pointer =>
    refine Reads.bind (Reads.token.bind ?_) (goesOn (.string (Pointer.encode path)) ?_)
    · exact Reads.advance.bind (.pure _)
    · simp [Operand.selector?, Pointer.decode?_encode wf.1 wf.2]

theorem reads_operand_string (value : String) {steps : Nat} :
    Reads (operand steps) (.string value :: next :: rest) (.string value) (next :: rest) :=
  Reads.token.bind (Reads.advance.bind (.pure _))

theorem reads_literal (value : String) {steps : Nat} :
    Reads (literal steps) (.string value :: next :: rest) value (next :: rest) := by
  refine Reads.token.bind ?_
  exact Reads.advance.bind (.pure _)

theorem reads_selectorFirst {op : Operand} {s : Selector} (selects : op.selector? = some s)
    (operator : Operator) (value : String) {t : Token} {steps : Nat} :
    Reads (selectorFirst steps op operator) (t :: .string value :: next :: rest)
      (.test s operator (some value)) (next :: rest) := by
  unfold selectorFirst
  simp only [selects]
  exact Reads.advance.bind ((reads_literal value).bind (.pure _))

theorem reads_literalFirst {s : Selector} (wf : s.WellFormed) (ends : EndsPath next)
    (operator : Operator) (op : Operand) {t : Token} {steps : Nat}
    (enough : s.tokens.length ≤ steps) :
    Reads (literalFirst steps op operator) (t :: s.tokens ++ next :: rest)
      (.test s operator (some op.literal)) (next :: rest) := by
  exact (Reads.pass (by simp)).bind ((reads_selector wf ends enough).bind (.pure _))

theorem reads_emptiness {op : Operand} {s : Selector} (selects : op.selector? = some s)
    (negated : Bool) :
    Reads (emptiness op)
      (.word "is" :: (if negated then [.word "not"] else []) ++ .word "empty" :: next :: rest)
      (.test s (if negated then .isNotEmpty else .isEmpty) none) (next :: rest) := by
  unfold emptiness
  simp only [selects]
  cases negated with
  | false =>
    exact Reads.advance.bind ((Reads.atWord "not").bind ((Reads.expect (by simp) _).bind (.pure _)))
  | true =>
    exact Reads.advance.bind ((Reads.atWord "not").bind (Reads.advance.bind
      ((Reads.expect (by simp) _).bind (.pure _))))

/-- A test is read whatever has been counted, if there is no limit. -/
theorem reads_test {s : Selector} {operator : Operator} {value : Option String}
    (wf : (Expr.test s operator value).WellFormed) (ends : EndsPath next) {steps : Nat}
    (enough : s.tokens.length ≤ steps) :
    Reads (test 0 steps) (Expr.testTokens s operator value ++ next :: rest)
      (.test s operator value) (next :: rest) := by
  obtain ⟨selectorWf, taken, -⟩ := wf
  refine Reads.bind (Reads.modified ?_) (Reads.state fun counted => ?_)
  · exact fun _ => rfl
  simp only [Nat.lt_irrefl, false_and, if_false]
  cases operator with
  | equal | notEqual | less | lessEqual | greater | greaterEqual | isMatch =>
    obtain ⟨value, rfl⟩ := Option.isSome_iff_exists.mp taken
    simp only [Expr.testTokens, Operator.isMembership, Operator.tokens, List.append_assoc,
      List.cons_append, List.nil_append]
    refine reads_operand selectorWf enough (by decide) fun op selects => ?_
    exact Reads.token.bind (reads_selectorFirst selects _ value)
  | notMatch =>
    obtain ⟨value, rfl⟩ := Option.isSome_iff_exists.mp taken
    simp only [Expr.testTokens, Operator.isMembership, Operator.tokens, List.append_assoc,
      List.cons_append, List.nil_append]
    refine reads_operand selectorWf enough (by decide) fun op selects => ?_
    exact Reads.token.bind (Reads.advance.bind (Reads.token.bind
      (reads_selectorFirst selects _ value)))
  | isEmpty =>
    obtain rfl : value = none := Option.not_isSome_iff_eq_none.mp (by rw [taken]; decide)
    simp only [Expr.testTokens, Operator.isMembership, Operator.tokens, List.append_assoc,
      List.cons_append, List.nil_append]
    refine reads_operand selectorWf enough (by decide) fun op selects => ?_
    exact Reads.token.bind (reads_emptiness selects false)
  | isNotEmpty =>
    obtain rfl : value = none := Option.not_isSome_iff_eq_none.mp (by rw [taken]; decide)
    simp only [Expr.testTokens, Operator.isMembership, Operator.tokens, List.append_assoc,
      List.cons_append, List.nil_append]
    refine reads_operand selectorWf enough (by decide) fun op selects => ?_
    exact Reads.token.bind (reads_emptiness selects true)
  | isIn =>
    obtain ⟨value, rfl⟩ := Option.isSome_iff_exists.mp taken
    simp only [Expr.testTokens, Operator.isMembership, Operator.tokens, List.cons_append,
      List.nil_append]
    exact (reads_operand_string value).bind (Reads.token.bind
      (reads_literalFirst selectorWf ends _ (.string value) enough))
  | notIn =>
    obtain ⟨value, rfl⟩ := Option.isSome_iff_exists.mp taken
    simp only [Expr.testTokens, Operator.isMembership, Operator.tokens, List.cons_append,
      List.nil_append]
    exact (reads_operand_string value).bind (Reads.token.bind (Reads.advance.bind
      (Reads.token.bind (reads_literalFirst selectorWf ends _ (.string value) enough))))

theorem reads_binding {b : Binding} (wf : b.WellFormed) (other : next ≠ .comma) :
    Reads binding (b.tokens ++ next :: rest) b (next :: rest) := by
  cases b with
  | each name =>
    refine Reads.token.bind (Reads.advance.bind (Reads.token.bind ?_))
    rw [if_neg other]
    exact .pure _
  | index name =>
    refine Reads.token.bind (Reads.advance.bind (Reads.token.bind ?_))
    rw [if_pos rfl]
    exact Reads.advance.bind (Reads.token.bind (Reads.advance.bind (.pure _)))
  | value name =>
    refine Reads.token.bind (Reads.advance.bind (Reads.bind (Reads.expect (by simp) _) ?_))
    exact Reads.token.bind (Reads.advance.bind (.pure _))
  | both i v =>
    refine Reads.token.bind (Reads.advance.bind (Reads.token.bind ?_))
    rw [if_pos rfl]
    refine Reads.advance.bind (Reads.token.bind ?_)
    simp only [if_neg wf.2.2.symm]
    exact Reads.advance.bind (.pure _)

/-! ## Quantifiers -/

/-- Whether a quantifier can be followed by these tokens. -/
def followsQuantifier : List Token → Bool
  | .word w :: _ => !isOperatorWord w
  | .string _ :: _ => true
  | _ => false

/-- The quantifier that a token is, with these tokens behind it. -/
def quantifierAt (t : Token) (tokens : List Token) : Option Quantifier :=
  match t, followsQuantifier tokens with
  | .word "any", true => some .any
  | .word "all", true => some .all
  | _, _ => none

theorem followsQuantifier_tokens (others : List SpannedToken) :
    (match others with
      | ⟨.word w, _, _⟩ :: _ => !isOperatorWord w
      | ⟨.string _, _, _⟩ :: _ => true
      | _ => false) = followsQuantifier (others.map (·.token)) := by
  rcases others with - | ⟨⟨second, _, _⟩, others⟩
  · rfl
  · cases second <;> rfl

theorem run_quantifier?_eq (t : Token) (start finish : Position) (others : List SpannedToken)
    (counted : Nat) :
    quantifier?.run ⟨⟨t, start, finish⟩, others, counted⟩ =
      (match t, followsQuantifier (others.map (·.token)) with
        | .word "any", true => Pure.pure (some .any)
        | .word "all", true => Pure.pure (some .all)
        | _, _ => Pure.pure none : Reader (Option Quantifier)).run
          ⟨⟨t, start, finish⟩, others, counted⟩ := by
  rw [← followsQuantifier_tokens]
  rfl

/-- Looking for a quantifier changes nothing. -/
theorem run_quantifier? (s : State) : quantifier?.run s =
    .ok (quantifierAt s.current.token (s.rest.map (·.token))) s := by
  obtain ⟨⟨t, start, finish⟩, others, counted⟩ := s
  rw [run_quantifier?_eq]
  unfold quantifierAt
  generalize followsQuantifier (others.map (·.token)) = follows
  split <;> rfl

theorem reads_quantifier? {t : Token} {tokens : List Token} :
    Reads quantifier? (t :: tokens) (quantifierAt t tokens) (t :: tokens) := by
  intro s here
  obtain ⟨rfl, rfl⟩ := List.cons_eq_cons.mp here
  exact ⟨s, run_quantifier? s, rfl⟩

/-! ## Whole expressions -/

/-- The tokens of a negation are read, and so many steps are enough for it. -/
def ReadsNegation (e : Expr String) : Prop :=
  ∀ ⦃next rest⦄, EndsPath next → ∀ ⦃steps⦄, 8 * (e.tokensAt .unit).length ≤ steps + 1 →
    Reads (negation 0 steps) (e.tokensAt .unit ++ next :: rest) e (next :: rest)

/-- The tokens of a conjunction are read and become the left operand of what follows. -/
def ReadsConjunction (e : Expr String) : Prop :=
  ∀ ⦃next rest behind b n⦄, EndsPath next →
    (∀ ⦃steps⦄, n ≤ steps → Reads (conjunctionRest 0 steps e) (next :: rest) b behind) →
    ∀ ⦃steps⦄, n + 8 * (e.tokensAt .conjunct).length ≤ steps →
      Reads (conjunction 0 steps) (e.tokensAt .conjunct ++ next :: rest) b behind

/-- The tokens of a disjunction are read and become the left operand of what follows. -/
def ReadsDisjunction (e : Expr String) : Prop :=
  ∀ ⦃next rest behind b n⦄, EndsPath next → next ≠ .word "and" →
    (∀ ⦃steps⦄, n ≤ steps → Reads (disjunctionRest 0 steps e) (next :: rest) b behind) →
    ∀ ⦃steps⦄, n + 8 * (e.tokensAt .loose).length + 2 ≤ steps →
      Reads (disjunction 0 steps) (e.tokensAt .loose ++ next :: rest) b behind

theorem reads_conjunctionRest_done {e : Expr String} (other : next ≠ .word "and") {steps : Nat}
    (enough : 1 ≤ steps) :
    Reads (conjunctionRest 0 steps e) (next :: rest) e (next :: rest) := by
  obtain ⟨steps, rfl⟩ := Nat.exists_eq_add_of_le' enough
  rw [conjunctionRest]
  refine (Reads.atWord "and").bind ?_
  rw [decide_eq_false other]
  exact .pure e

theorem reads_disjunctionRest_done {e : Expr String} (other : next ≠ .word "or") {steps : Nat}
    (enough : 1 ≤ steps) :
    Reads (disjunctionRest 0 steps e) (next :: rest) e (next :: rest) := by
  obtain ⟨steps, rfl⟩ := Nat.exists_eq_add_of_le' enough
  rw [disjunctionRest]
  refine (Reads.atWord "or").bind ?_
  rw [decide_eq_false other]
  exact .pure e

/-- A conjunction that ends here is read as itself. -/
theorem ReadsConjunction.alone {e : Expr String} (e_reads : ReadsConjunction e)
    (ends : EndsPath next) (other : next ≠ .word "and") {steps : Nat}
    (enough : 1 + 8 * (e.tokensAt .conjunct).length ≤ steps) :
    Reads (conjunction 0 steps) (e.tokensAt .conjunct ++ next :: rest) e (next :: rest) :=
  e_reads ends (fun _ many => reads_conjunctionRest_done other many) enough

/-- A disjunction that ends here is read as itself. -/
theorem ReadsDisjunction.alone {e : Expr String} (e_reads : ReadsDisjunction e)
    (ends : EndsPath next) (noAnd : next ≠ .word "and") (noOr : next ≠ .word "or") {steps : Nat}
    (enough : 3 + 8 * (e.tokensAt .loose).length ≤ steps) :
    Reads (disjunction 0 steps) (e.tokensAt .loose ++ next :: rest) e (next :: rest) :=
  e_reads ends noAnd (fun _ many => reads_disjunctionRest_done noOr many) (by omega)

/-- A tightly bound expression stands alone in a conjunction. -/
theorem ReadsNegation.conjunction {e : Expr String}
    (same : e.tokensAt .conjunct = e.tokensAt .unit) (filled : 0 < (e.tokensAt .unit).length)
    (e_reads : ReadsNegation e) : ReadsConjunction e := by
  intro next rest behind b n ends goesOn steps enough
  obtain ⟨steps, rfl⟩ : ∃ k, steps = k + 1 := ⟨steps - 1, by rw [same] at enough; omega⟩
  rw [Reader.conjunction, same]
  rw [same] at enough
  exact (e_reads ends (by omega)).bind (goesOn (by omega))

/-- An expression that is no `or` stands alone in a disjunction. -/
theorem ReadsConjunction.disjunction {e : Expr String}
    (same : e.tokensAt .loose = e.tokensAt .conjunct) (e_reads : ReadsConjunction e) :
    ReadsDisjunction e := by
  intro next rest behind b n ends other goesOn steps enough
  obtain ⟨steps, rfl⟩ : ∃ k, steps = k + 1 := ⟨steps - 1, by omega⟩
  rw [Reader.disjunction, same]
  rw [same] at enough
  exact (e_reads.alone ends other (by omega)).bind (goesOn (by omega))

theorem reads_primary {t : Token} {tokens behind : List Token} {e : Expr String} {steps : Nat}
    (other : t ≠ .word "not") (none : quantifierAt t tokens = none)
    (primary : Reads (primary 0 steps) (t :: tokens) e behind) :
    Reads (negation 0 (steps + 1)) (t :: tokens) e behind := by
  rw [negation]
  refine (Reads.atWord "not").bind ?_
  rw [decide_eq_false other]
  refine reads_quantifier?.bind ?_
  rw [none]
  exact primary

/-- Where neither a negation nor a quantifier nor a group starts, a test is read. -/
theorem reads_negation_of_test {t : Token} {tokens behind : List Token} {e : Expr String}
    {steps : Nat} (notNot : t ≠ .word "not") (none : quantifierAt t tokens = none)
    (noParen : t ≠ .openParen) (tested : Reads (test 0 steps) (t :: tokens) e behind) :
    Reads (negation 0 (steps + 2)) (t :: tokens) e behind := by
  refine reads_primary notNot none ?_
  rw [primary]
  refine Reads.token.bind ?_
  rw [if_neg noParen]
  exact tested

/-- A group in parentheses is read as what is in it. -/
theorem reads_group {tokens behind : List Token} {e : Expr String} {steps : Nat}
    (inner : Reads (disjunction 0 steps) (tokens ++ .closeParen :: behind) e (.closeParen :: behind))
    (filled : behind ≠ []) :
    Reads (negation 0 (steps + 2)) (.openParen :: (tokens ++ .closeParen :: behind)) e behind := by
  refine reads_primary (by decide) rfl ?_
  rw [primary]
  refine Reads.token.bind ?_
  rw [if_pos rfl]
  exact (Reads.pass (by simp)).bind
    (inner.bind (Reads.token.bind ((Reads.pass filled).bind (.pure e))))

/-- A group in parentheses is bound tightly, whatever is in it. -/
theorem ReadsDisjunction.grouped {e : Expr String}
    (same : e.tokensAt .unit = .openParen :: e.tokensAt .loose ++ [.closeParen])
    (e_reads : ReadsDisjunction e) : ReadsNegation e := by
  intro next rest ends steps enough
  simp only [same, List.length_append, List.length_cons, List.length_nil] at enough
  obtain ⟨steps, rfl⟩ : ∃ k, steps = k + 2 := ⟨steps - 2, by omega⟩
  have inner : Reads (disjunction 0 steps) (e.tokensAt .loose ++ .closeParen :: next :: rest) e _ :=
    e_reads.alone (by decide) (by decide) (by decide) (by omega)
  rw [same, List.cons_append, List.cons_append, List.append_assoc]
  exact reads_group inner (by simp)

/-! ## One case for each kind of expression -/

theorem quantifierAt_eq_none {t : Token} {tokens : List Token}
    (other : followsQuantifier tokens = false) : quantifierAt t tokens = none := by
  unfold quantifierAt
  rw [other]
  split <;> simp_all

/-- A test starts neither with a negation nor with a quantifier. -/
theorem starts_testTokens {s : Selector} {operator : Operator} {value : Option String}
    (wf : (Expr.test s operator value).WellFormed) (behind : List Token) :
    ∃ t tokens, Expr.testTokens s operator value ++ behind = t :: tokens ∧ t ≠ .openParen ∧
      t ≠ .word "not" ∧ quantifierAt t tokens = none := by
  obtain ⟨selectorWf, -, noNot⟩ := wf
  obtain ⟨form, path⟩ := s
  unfold Expr.testTokens
  cases membership : operator.isMembership with
  | true => exact ⟨_, _, rfl, nofun, nofun, rfl⟩
  | false =>
    cases form with
    | pointer => cases value <;> exact ⟨_, _, rfl, nofun, nofun, rfl⟩
    | words =>
      obtain ⟨first, others, rfl, -⟩ := selectorWf
      have notNot : Token.word first ≠ .word "not" := by
        rintro same
        cases same
        exact noNot membership ⟨rfl, rfl⟩
      cases others with
      | cons second others =>
        cases value <;> exact ⟨_, _, rfl, nofun, notNot, quantifierAt_eq_none rfl⟩
      | nil =>
        cases value <;> cases operator <;>
          exact ⟨_, _, rfl, nofun, notNot, quantifierAt_eq_none rfl⟩

theorem readsNegation_test {s : Selector} {operator : Operator} {value : Option String}
    (wf : (Expr.test s operator value).WellFormed) : ReadsNegation (.test s operator value) := by
  intro next rest ends steps enough
  have short : s.tokens.length + 1 ≤ (Expr.testTokens s operator value).length := by
    unfold Expr.testTokens
    split
    · simp
    · simp
    · simp only [List.length_append]
      cases operator <;> simp [Operator.tokens]
  replace enough : 8 * (Expr.testTokens s operator value).length ≤ steps + 1 := enough
  obtain ⟨steps, rfl⟩ : ∃ k, steps = k + 2 := ⟨steps - 2, by omega⟩
  have tested : Reads (test 0 steps) (Expr.testTokens s operator value ++ next :: rest) _ _ :=
    reads_test wf ends (by omega)
  obtain ⟨t, tokens, same, noParen, notNot, none⟩ := starts_testTokens wf (next :: rest)
  rw [Expr.tokensAt]
  rw [same] at tested ⊢
  exact reads_negation_of_test notNot none noParen tested

/-- What `not` can be applied to starts like an operand of it. -/
theorem startsOperand_tokensAt (e : Expr String) (wf : e.WellFormed) (behind : List Token) :
    ∃ t tokens, e.tokensAt .unit ++ behind = t :: tokens ∧ startsOperand t = true := by
  cases e with
  | test selector operator value =>
    obtain ⟨form, path⟩ := selector
    simp only [Expr.tokensAt]
    unfold Expr.testTokens
    cases operator.isMembership with
    | true => exact ⟨_, _, rfl, rfl⟩
    | false =>
      cases form with
      | pointer => cases value <;> exact ⟨_, _, rfl, rfl⟩
      | words =>
        obtain ⟨first, others, rfl, -⟩ := wf.1
        cases value <;> exact ⟨_, _, rfl, rfl⟩
  | not | and | or | quantified => exact ⟨_, _, rfl, rfl⟩

theorem ReadsNegation.not {e : Expr String} (wf : (Expr.not e).WellFormed)
    (e_reads : ReadsNegation e) : ReadsNegation (.not e) := by
  intro next rest ends steps enough
  simp only [Expr.tokensAt, List.length_cons] at enough
  obtain ⟨steps, rfl⟩ : ∃ k, steps = k + 1 := ⟨steps - 1, by omega⟩
  have operand : Reads (negation 0 steps) (e.tokensAt .unit ++ next :: rest) e (next :: rest) :=
    e_reads ends (by omega)
  obtain ⟨t, tokens, same, starts⟩ := startsOperand_tokensAt e wf.1 (next :: rest)
  have single : negated e = .not e := by
    cases e with
    | not => cases wf.2
    | test | and | or | quantified => rfl
  rw [Expr.tokensAt, List.cons_append]
  rw [same] at operand ⊢
  rw [negation, ← single]
  refine (Reads.atWord "not").bind (Reads.advance.bind (Reads.token.bind ?_))
  rw [if_pos starts]
  exact operand.bind (.pure _)

theorem ReadsConjunction.and {left right : Expr String} (left_reads : ReadsConjunction left)
    (right_reads : ReadsNegation right) : ReadsConjunction (.and left right) := by
  intro next rest behind b n ends goesOn steps enough
  have apart : (Expr.and left right).tokensAt .conjunct ++ next :: rest =
      left.tokensAt .conjunct ++ .word "and" :: (right.tokensAt .unit ++ next :: rest) := by
    simp [Expr.tokensAt, Expr.groupedTokens]
  have long : ((Expr.and left right).tokensAt .conjunct).length =
      (left.tokensAt .conjunct).length + (right.tokensAt .unit).length + 1 := by
    simp [Expr.tokensAt, Expr.groupedTokens]
    omega
  rw [apart]
  rw [long] at enough
  refine left_reads (n := n + 8 * (right.tokensAt .unit).length + 1) (by decide) ?_ (by omega)
  intro steps enough
  obtain ⟨steps, rfl⟩ : ∃ k, steps = k + 1 := ⟨steps - 1, by omega⟩
  rw [conjunctionRest]
  refine (Reads.atWord "and").bind ((Reads.pass (by simp)).bind ?_)
  exact (right_reads ends (by omega)).bind (goesOn (by omega))

theorem ReadsDisjunction.or {left right : Expr String} (left_reads : ReadsDisjunction left)
    (right_reads : ReadsConjunction right) : ReadsDisjunction (.or left right) := by
  intro next rest behind b n ends other goesOn steps enough
  have apart : (Expr.or left right).tokensAt .loose ++ next :: rest =
      left.tokensAt .loose ++ .word "or" :: (right.tokensAt .conjunct ++ next :: rest) := by
    simp [Expr.tokensAt, Expr.groupedTokens]
  have long : ((Expr.or left right).tokensAt .loose).length =
      (left.tokensAt .loose).length + (right.tokensAt .conjunct).length + 1 := by
    simp [Expr.tokensAt, Expr.groupedTokens]
    omega
  rw [apart]
  rw [long] at enough
  refine left_reads (n := n + 8 * (right.tokensAt .conjunct).length + 2) (by decide) (by decide) ?_
    (by omega)
  intro steps enough
  obtain ⟨steps, rfl⟩ : ∃ k, steps = k + 1 := ⟨steps - 1, by omega⟩
  rw [disjunctionRest]
  refine (Reads.atWord "or").bind ((Reads.pass (by simp)).bind ?_)
  exact (right_reads.alone ends other (by omega)).bind (goesOn (by omega))

/-- In front of a well-formed selector that is no operator, a quantifier is seen as one. -/
theorem quantifierAt_written {s : Selector} (wf : s.WellFormed)
    (noOperator : ∀ word, isOperatorWord word = true → ¬ s.StartsWith word)
    (quantifier : Quantifier) (behind : List Token) :
    quantifierAt (.word quantifier.written) (s.tokens ++ behind) = some quantifier := by
  have follows : followsQuantifier (s.tokens ++ behind) = true := by
    obtain ⟨form, path⟩ := s
    cases form with
    | pointer => rfl
    | words =>
      obtain ⟨first, others, rfl, -⟩ := wf
      simp only [Selector.tokens, pathTokens, List.cons_append, followsQuantifier]
      cases isOperator : isOperatorWord first with
      | false => rfl
      | true => exact absurd ⟨rfl, rfl⟩ (noOperator first isOperator)
  unfold quantifierAt
  rw [follows]
  cases quantifier <;> rfl

theorem ReadsDisjunction.quantified {quantifier : Quantifier} {s : Selector} {b : Binding}
    {body : Expr String} (wf : (Expr.quantified quantifier s b body).WellFormed)
    (body_reads : ReadsDisjunction body) :
    ReadsNegation (.quantified quantifier s b body) := by
  obtain ⟨selectorWf, noOperator, bindingWf, -⟩ := wf
  intro next rest ends steps enough
  simp only [Expr.tokensAt, List.length_append, List.length_cons, List.length_nil] at enough
  obtain ⟨steps, rfl⟩ : ∃ k, steps = k + 2 := ⟨steps - 2, by omega⟩
  have notNot : Token.word quantifier.written ≠ .word "not" := by cases quantifier <;> decide
  have inner : Reads (disjunction 0 steps) (body.tokensAt .loose ++ .closeBrace :: next :: rest)
    body _ := body_reads.alone (by decide) (by decide) (by decide) (by omega)
  have apart : (Expr.quantified quantifier s b body).tokensAt .unit ++ next :: rest =
      .word quantifier.written :: (s.tokens ++ .word "as" :: (b.tokens ++ .openBrace ::
        (body.tokensAt .loose ++ .closeBrace :: next :: rest))) := by
    simp [Expr.tokensAt]
  rw [apart, negation]
  refine (Reads.atWord "not").bind ?_
  rw [decide_eq_false notNot]
  refine reads_quantifier?.bind ?_
  rw [quantifierAt_written selectorWf noOperator]
  refine (Reads.pass (by simp)).bind ?_
  refine (reads_selector selectorWf (by decide) (by omega)).bind ?_
  refine (Reads.expect (by simp) _).bind ?_
  refine (reads_binding bindingWf (by decide)).bind ?_
  refine (Reads.expect (by simp) _).bind ?_
  exact inner.bind (Reads.token.bind (Reads.advance.bind (.pure _)))

/-- What reading has to know of an expression at every place where it can stand. -/
structure Readable (e : Expr String) : Prop where
  negation : ReadsNegation e
  conjunction : ReadsConjunction e
  disjunction : ReadsDisjunction e

/-- An expression that is bound tightly wherever it stands is readable if it is read as a
negation. -/
theorem Readable.tight {e : Expr String} (conjunct : e.tokensAt .conjunct = e.tokensAt .unit)
    (loose : e.tokensAt .loose = e.tokensAt .unit) (filled : e.tokensAt .unit ≠ [])
    (e_reads : ReadsNegation e) : Readable e :=
  have conjunction := e_reads.conjunction conjunct (List.length_pos_iff.mpr filled)
  ⟨e_reads, conjunction, conjunction.disjunction (loose.trans conjunct.symm)⟩

theorem readable (e : Expr String) (wf : e.WellFormed) : Readable e := by
  induction e with
  | test selector operator value =>
    refine .tight rfl rfl ?_ (readsNegation_test wf)
    obtain ⟨t, tokens, same, -⟩ := starts_testTokens wf []
    rw [List.append_nil] at same
    rw [Expr.tokensAt, same]
    exact List.cons_ne_nil t tokens
  | not operand ih => exact .tight rfl rfl (by simp [Expr.tokensAt]) ((ih wf.1).negation.not wf)
  | and left right leftIh rightIh =>
    have conjunction := (leftIh wf.1).conjunction.and (rightIh wf.2).negation
    have disjunction := conjunction.disjunction rfl
    exact ⟨disjunction.grouped rfl, conjunction, disjunction⟩
  | or left right leftIh rightIh =>
    have disjunction := (leftIh wf.1).disjunction.or (rightIh wf.2).conjunction
    have negation := disjunction.grouped rfl
    exact ⟨negation, negation.conjunction rfl (by simp [Expr.tokensAt, Expr.groupedTokens]),
      disjunction⟩
  | quantified quantifier selector binding body ih =>
    exact .tight rfl rfl (by simp [Expr.tokensAt])
      ((ih wf.2.2.2).disjunction.quantified wf)

/-- A disjunction up to the last token is a whole expression. -/
theorem Reads.whole {tokens : List Token} {e : Expr String} {steps : Nat}
    (read : Reads (disjunction 0 steps) tokens e [.finish]) :
    Reads (Reader.whole 0 steps) tokens e [.finish] := by
  refine read.bind (Reads.token.bind ?_)
  rw [if_pos rfl]
  exact .pure e

/-- The tokens of a whole expression are read back, with more steps to spare. -/
theorem reads_whole (e : Expr String) (wf : e.WellFormed) {steps : Nat}
    (enough : 3 + 8 * (e.tokensAt .loose).length ≤ steps) :
    Reads (whole 0 steps) (e.tokensAt .loose ++ [.finish]) e [.finish] :=
  Reads.whole ((readable e wf).disjunction.alone (by decide) (by decide) (by decide) enough)

end Sift.Reader

namespace Sift

/-! ## Whole texts -/

/-- Every text that can be scanned has a token, if only the last one. -/
theorem exists_cons_of_tokensFrom (c : Cursor) {spanned : List SpannedToken}
    (lexed : tokensFrom c = .ok spanned) : ∃ first rest, spanned = first :: rest := by
  fun_induction tokensFrom c generalizing spanned with
  | case1 | case2 =>
    cases lexed
    exact ⟨_, _, rfl⟩
  | case3 | case4 => cases lexed

/-- What a text is read as is what the reader builds from its tokens, and the count is its, too. -/
theorem Expr.readCounted_eq_ok {limit : Nat} {text : String} {e : Expr String} {tests : Nat} :
    readCounted limit text = .ok (e, tests) ↔ ∃ first rest s, tokens text = .ok (first :: rest) ∧
      (Reader.whole limit (Reader.stepsFor rest.length)).run ⟨first, rest, 0⟩ = .ok e s ∧
        s.counted = tests := by
  unfold readCounted
  constructor
  · intro read
    split at read
    next => cases read
    next spanned lexed =>
      obtain ⟨first, rest, rfl⟩ := exists_cons_of_tokensFrom (.ofText text) lexed
      split at read
      next ran =>
        cases read
        exact ⟨first, rest, _, lexed, ran, rfl⟩
      next => cases read
  · rintro ⟨first, rest, s, lexed, ran, rfl⟩
    simp only [lexed, ofTokens, ran]

/-- What a text is read as is what the reader builds from its tokens. -/
theorem Expr.read_eq_ok {limit : Nat} {text : String} {e : Expr String} :
    read limit text = .ok e ↔ ∃ first rest s, tokens text = .ok (first :: rest) ∧
      (Reader.whole limit (Reader.stepsFor rest.length)).run ⟨first, rest, 0⟩ = .ok e s := by
  constructor
  · intro read
    cases counted : readCounted limit text with
    | error =>
      rw [Expr.read, counted] at read
      cases read
    | ok pair =>
      rw [Expr.read, counted] at read
      cases read
      obtain ⟨first, rest, s, lexed, ran, -⟩ := readCounted_eq_ok.mp counted
      exact ⟨first, rest, s, lexed, ran⟩
  · rintro ⟨first, rest, s, lexed, ran⟩
    rw [Expr.read, readCounted_eq_ok.mpr ⟨first, rest, s, lexed, ran, rfl⟩]
    rfl

/-- A text whose tokens are read as an expression is read as it. -/
theorem Expr.read_of_reads {text : String} {e : Expr String} {spanned : List SpannedToken}
    {read : List Token} (lexed : tokens text = .ok spanned) (same : spanned.map (·.token) = read)
    (reads : Reader.Reads (Reader.whole 0 (Reader.stepsFor (read.length - 1))) read e [.finish]) :
    Expr.read 0 text = .ok e := by
  obtain ⟨first, rest, rfl⟩ := exists_cons_of_tokensFrom (.ofText text) lexed
  have long : read.length - 1 = rest.length := by rw [← same]; simp
  obtain ⟨s, run, -⟩ := reads ⟨first, rest, 0⟩ same
  exact Expr.read_eq_ok.mpr ⟨first, rest, s, lexed, long ▸ run⟩

end Sift
