import Sift.Proofs.Grammar.Forward

/-!
# Readers side by side

Two texts that share a stretch of tokens are read alike as long as a reader stays inside of it,
whatever stands behind, how many steps it may take and what the limit on tests is: if it succeeds in
both, it has built the same and left the same rest of the stretch (`AgreeAt`). What stands behind has
to be closed to the reader, or to one of the two, so that no part goes on past the end of the stretch.
`agree_disjunction` says this of an expression before a brace in one text and before a parenthesis in
the other.
-/

namespace Sift.Reader

/-! ## Runs on tokens -/

/-- From somewhere in these tokens a reader gets to others and has built a value. -/
def Goes {α : Type} (r : Reader α) (before : List Token) (a : α) (behind : List Token) : Prop :=
  ∃ s s', s.tokens = before ∧ r.run s = .ok a s' ∧ s'.tokens = behind

namespace Goes

variable {α β : Type} {before behind tokens : List Token} {t : Token} {b : β}

theorem of_pure {a : β} (goes : Goes (Pure.pure a) before b behind) : b = a ∧ behind = before := by
  obtain ⟨s, s', rfl, run, rfl⟩ := goes
  cases run
  exact ⟨rfl, rfl⟩

theorem of_bind {r : Reader α} {f : α → Reader β} (goes : Goes (r >>= f) before b behind) :
    ∃ a middle, Goes r before a middle ∧ Goes (f a) middle b behind := by
  obtain ⟨s, s', here, run, there⟩ := goes
  simp only [EStateM.run_bind] at run
  split at run
  next a between ran => exact ⟨a, between.tokens, ⟨s, between, here, ran, rfl⟩,
    ⟨between, s', rfl, run, there⟩⟩
  next => cases run

theorem of_token {f : Token → Reader β} (goes : Goes (Reader.token >>= f) (t :: tokens) b behind) :
    Goes (f t) (t :: tokens) b behind := by
  obtain ⟨s, s', here, run, there⟩ := goes
  obtain ⟨rfl, -⟩ := List.cons_eq_cons.mp here
  exact ⟨s, s', here, run, there⟩

theorem of_advance {u : Unit} (filled : tokens ≠ [])
    (goes : Goes Reader.advance (t :: tokens) u behind) : behind = tokens := by
  obtain ⟨⟨current, rest, counted⟩, s', here, run, rfl⟩ := goes
  obtain ⟨-, rfl⟩ := List.cons_eq_cons.mp here
  cases rest with
  | nil => exact absurd rfl filled
  | cons next rest =>
    cases run
    rfl

theorem of_step (filled : tokens ≠ []) {f : Unit → Reader β}
    (goes : Goes (Reader.advance >>= f) (t :: tokens) b behind) : Goes (f ()) tokens b behind := by
  obtain ⟨u, middle, ran, goesOn⟩ := goes.of_bind
  rwa [ran.of_advance filled] at goesOn

/-- A step that changes nothing but the count. -/
theorem of_counted {count : State → Nat} {f : Unit → Reader β}
    (goes : Goes ((modify fun s => { s with counted := count s }) >>= f) before b behind) :
    Goes (f ()) before b behind := by
  obtain ⟨s, s', here, run, there⟩ := goes
  exact ⟨{ s with counted := count s }, s', here, run, there⟩

theorem of_state {f : State → Reader β} (goes : Goes (get >>= f) before b behind) :
    ∃ s, Goes (f s) before b behind := by
  obtain ⟨s, s', here, run, there⟩ := goes
  exact ⟨s, s, s', here, run, there⟩

/-- There is always a current token. -/
theorem exists_cons {r : Reader β} (goes : Goes r before b behind) :
    ∃ t rest, behind = t :: rest := by
  obtain ⟨s, s', -, -, rfl⟩ := goes
  exact ⟨s'.current.token, s'.rest.map (·.token), rfl⟩

theorem of_atWord {w : String} {f : Bool → Reader β}
    (goes : Goes (Reader.atWord w >>= f) (t :: tokens) b behind) :
    Goes (f (decide (t = .word w))) (t :: tokens) b behind :=
  @of_token β behind tokens t b (fun t => f (decide (t = .word w))) goes

end Goes

/-- A reader that never succeeds. -/
def Fails {α : Type} (r : Reader α) : Prop := ∀ before a behind, ¬ Goes r before a behind

theorem fails_unexpected {α : Type} (expected : Expected) : Fails (unexpected expected : Reader α) := by
  rintro before a behind ⟨s, s', -, run, -⟩
  cases run

theorem fails_malformed {α : Type} (fault : Fault) : Fails (malformed fault : Reader α) := by
  rintro before a behind ⟨s, s', -, run, -⟩
  cases run

theorem Fails.bind {α β : Type} {r : Reader α} {f : α → Reader β} (fails : Fails r) :
    Fails (r >>= f) := by
  intro before b behind goes
  obtain ⟨a, middle, ran, -⟩ := goes.of_bind
  exact fails _ _ _ ran

namespace Goes

variable {α β : Type} {before behind tokens : List Token} {t wanted : Token} {b : β}
  {expected : Expected} {f : Unit → Reader β}

theorem eq_of_expect (goes : Goes (Reader.expect wanted expected >>= f) (t :: tokens) b behind) :
    t = wanted := by
  obtain ⟨_, middle, ran, -⟩ := goes.of_bind
  have looked := ran.of_token
  by_cases same : t = wanted
  · exact same
  · rw [if_neg same] at looked
    exact absurd looked (fails_unexpected _ _ _ _)

theorem of_expect (filled : tokens ≠ [])
    (goes : Goes (Reader.expect wanted expected >>= f) (t :: tokens) b behind) :
    t = wanted ∧ Goes (f ()) tokens b behind := by
  have same := goes.eq_of_expect
  obtain ⟨_, middle, ran, goesOn⟩ := goes.of_bind
  have looked := ran.of_token
  rw [if_pos same] at looked
  rw [looked.of_advance filled] at goesOn
  exact ⟨same, goesOn⟩

/-- Looking for a quantifier changes nothing. -/
theorem of_quantifier? {f : Option Quantifier → Reader β}
    (goes : Goes (quantifier? >>= f) (t :: tokens) b behind) :
    Goes (f (quantifierAt t tokens)) (t :: tokens) b behind := by
  obtain ⟨s, s', here, run, there⟩ := goes
  obtain ⟨rfl, rfl⟩ := List.cons_eq_cons.mp here
  simp only [EStateM.run_bind, run_quantifier?] at run
  exact ⟨s, s', here, run, there⟩

end Goes

/-! ## Two runs -/

/-- What stands behind the shared tokens in one text and in the other. -/
structure Tails where
  stop : Token
  rest : List Token
  stop' : Token
  rest' : List Token

/-- A token that no part of an expression starts or goes on with. -/
inductive Closes : Token → Prop
  | brace : Closes .closeBrace
  | paren : Closes .closeParen
  | finish : Closes .finish

theorem not_closes_word (w : String) : ¬ Closes (.word w) := nofun

theorem not_closes_comma : ¬ Closes .comma := nofun

theorem not_closes_openBrace : ¬ Closes .openBrace := nofun

theorem Closes.endsPath {t : Token} (closes : Closes t) : EndsPath t := by
  cases closes <;> decide

/-- No part goes on behind the shared tokens: in one of the texts nothing can, in the other no path
does. -/
structure Tails.Closed (tails : Tails) : Prop where
  closes : Closes tails.stop
  endsPath : EndsPath tails.stop'

/-- Where two texts go on with the same tokens and then each with its own, two readers that both
succeed build the same and leave the same of what is shared. -/
def AgreeAt {α : Type} (tails : Tails) (shared : List Token) (r r' : Reader α) : Prop :=
  ∀ a a' behind behind', Goes r (shared ++ tails.stop :: tails.rest) a behind →
    Goes r' (shared ++ tails.stop' :: tails.rest') a' behind' →
      a = a' ∧ ∃ left, behind = left ++ tails.stop :: tails.rest ∧
        behind' = left ++ tails.stop' :: tails.rest'

/-- Wherever in the shared tokens they start, two readers agree. -/
def Agree {α : Type} (tails : Tails) (r r' : Reader α) : Prop :=
  ∀ shared, AgreeAt tails shared r r'

section

variable {α β : Type} {tails : Tails} {shared : List Token} {t : Token}

namespace AgreeAt

theorem pure (a : α) : AgreeAt tails shared (Pure.pure a) (Pure.pure a) := by
  intro a₁ a₂ behind behind' goes goes'
  obtain ⟨rfl, rfl⟩ := goes.of_pure
  obtain ⟨rfl, rfl⟩ := goes'.of_pure
  exact ⟨rfl, shared, rfl, rfl⟩

theorem of_fails {r r' : Reader α} (fails : Fails r) : AgreeAt tails shared r r' :=
  fun _ _ _ _ goes => absurd goes (fails _ _ _)

theorem of_stuck {r r' : Reader α}
    (stuck : ∀ a behind, ¬ Goes r (shared ++ tails.stop :: tails.rest) a behind) :
    AgreeAt tails shared r r' :=
  fun _ _ _ _ goes => absurd goes (stuck _ _)

theorem of_fails' {r r' : Reader α} (fails : Fails r') : AgreeAt tails shared r r' :=
  fun _ _ _ _ _ goes => absurd goes (fails _ _ _)

theorem counted {count count' : State → Nat} {f f' : Unit → Reader β}
    (behind : AgreeAt tails shared (f ()) (f' ())) :
    AgreeAt tails shared ((modify fun s => { s with counted := count s }) >>= f)
      ((modify fun s => { s with counted := count' s }) >>= f') :=
  fun b b' after after' goes goes' => behind b b' after after' goes.of_counted goes'.of_counted

theorem state {f f' : State → Reader β} (each : ∀ s s', AgreeAt tails shared (f s) (f' s')) :
    AgreeAt tails shared (get >>= f) (get >>= f') := by
  intro b b' behind behind' goes goes'
  obtain ⟨s, goesOn⟩ := goes.of_state
  obtain ⟨s', goesOn'⟩ := goes'.of_state
  exact each s s' b b' behind behind' goesOn goesOn'

theorem unexpected (expected : Expected) {r : Reader α} :
    AgreeAt tails shared (Reader.unexpected expected) r :=
  of_fails (fails_unexpected expected)

theorem malformed (fault : Fault) {r : Reader α} :
    AgreeAt tails shared (Reader.malformed fault) r :=
  of_fails (fails_malformed fault)

theorem bind {r r' : Reader α} {f f' : α → Reader β} (first : AgreeAt tails shared r r')
    (second : ∀ a, Agree tails (f a) (f' a)) : AgreeAt tails shared (r >>= f) (r' >>= f') := by
  intro b b' behind behind' goes goes'
  obtain ⟨a, middle, ran, goesOn⟩ := goes.of_bind
  obtain ⟨a', middle', ran', goesOn'⟩ := goes'.of_bind
  obtain ⟨rfl, left, rfl, rfl⟩ := first a a' middle middle' ran ran'
  exact second a left b b' behind behind' goesOn goesOn'

/-- Looking at a shared token. -/
theorem token {f f' : Token → Reader β} (same : AgreeAt tails (t :: shared) (f t) (f' t)) :
    AgreeAt tails (t :: shared) (Reader.token >>= f) (Reader.token >>= f') :=
  fun b b' behind behind' goes goes' => same b b' behind behind' goes.of_token goes'.of_token

/-- Looking past the end of what is shared. -/
theorem token_end {f f' : Token → Reader β}
    (apart : AgreeAt tails [] (f tails.stop) (f' tails.stop')) :
    AgreeAt tails [] (Reader.token >>= f) (Reader.token >>= f') :=
  fun b b' behind behind' goes goes' => apart b b' behind behind' goes.of_token goes'.of_token

/-- Looking at a token that has to be there. -/
theorem token_of_closes (closed : tails.Closed) {f f' : Token → Reader β}
    (same : ∀ t shared, AgreeAt tails (t :: shared) (f t) (f' t))
    (fails : ∀ t, Closes t → Fails (f t)) :
    AgreeAt tails shared (Reader.token >>= f) (Reader.token >>= f') := by
  cases shared with
  | nil => exact token_end (of_fails (fails _ closed.closes))
  | cons t shared => exact token (same t shared)

/-- Going on behind a shared token. -/
theorem step {f f' : Unit → Reader β} (behind : Agree tails (f ()) (f' ())) :
    AgreeAt tails (t :: shared) (Reader.advance >>= f) (Reader.advance >>= f') :=
  fun b b' after after' goes goes' => behind shared b b' after after'
    (goes.of_step (by simp)) (goes'.of_step (by simp))

theorem atWord {w : String} {f f' : Bool → Reader β}
    (same : AgreeAt tails (t :: shared) (f (decide (t = .word w))) (f' (decide (t = .word w)))) :
    AgreeAt tails (t :: shared) (Reader.atWord w >>= f) (Reader.atWord w >>= f') :=
  fun b b' behind behind' goes goes' => same b b' behind behind' goes.of_atWord goes'.of_atWord

theorem atWord_end {w : String} {f f' : Bool → Reader β}
    (apart : AgreeAt tails [] (f (decide (tails.stop = .word w)))
      (f' (decide (tails.stop' = .word w)))) :
    AgreeAt tails [] (Reader.atWord w >>= f) (Reader.atWord w >>= f') :=
  fun b b' behind behind' goes goes' => apart b b' behind behind' goes.of_atWord goes'.of_atWord

/-- Going on behind a shared token, and no further. -/
theorem advance : AgreeAt tails (t :: shared) Reader.advance Reader.advance := by
  have stepped : AgreeAt tails (t :: shared) (Reader.advance >>= fun _ => Pure.pure ())
      (Reader.advance >>= fun _ => Pure.pure ()) :=
    step fun shared => pure ()
  simpa only [bind_pure_unit] using stepped

/-- A token that has to be there and is none of those that close. -/
theorem expect (closed : tails.Closed) {wanted : Token} (other : ¬ Closes wanted)
    (expected : Expected) :
    AgreeAt tails shared (Reader.expect wanted expected) (Reader.expect wanted expected) := by
  refine token_of_closes closed (fun t shared => ?_) fun t closes => ?_
  · split
    · exact advance
    · exact .unexpected _
  · have different : t ≠ wanted := fun same => other (same ▸ closes)
    rw [if_neg different]
    exact fails_unexpected _

end AgreeAt

/-! ## Paths, operands and literals -/

theorem agree_pathRest (closed : tails.Closed) (steps steps' : Nat) (path : List String) :
    Agree tails (pathRest steps path) (pathRest steps' path) := by
  induction steps generalizing steps' path with
  | zero => exact fun _ => .unexpected _
  | succ steps ih =>
    cases steps' with
    | zero => exact fun _ => .of_fails' (fails_unexpected _)
    | succ steps' =>
      rintro (- | ⟨t, shared⟩)
      · refine .token_end ?_
        have ends := closed.closes.endsPath
        have ends' := closed.endsPath
        split
        next dot => exact absurd dot ends.1
        next bracket => exact absurd bracket ends.2
        next =>
          split
          next dot => exact absurd dot ends'.1
          next bracket => exact absurd bracket ends'.2
          next => exact .pure path
      · refine .token ?_
        cases t with
        | dot =>
          refine .step fun shared => .token_of_closes closed (fun t shared => ?_) fun t closes => ?_
          · cases t with
            | word segment => exact .step (ih steps' _)
            | _ => exact .unexpected _
          · cases closes <;> exact fails_unexpected _
        | openBracket =>
          have bracket (key : String) : Agree tails
              (do
                if (← token) = .closeBracket then
                  advance
                  pathRest steps (path ++ [key])
                else malformed .unclosedIndex)
              (do
                if (← token) = .closeBracket then
                  advance
                  pathRest steps' (path ++ [key])
                else malformed .unclosedIndex) := by
            refine fun shared => .token_of_closes closed (fun t shared => ?_) fun t closes => ?_
            · split
              · exact .step (ih steps' _)
              · exact .malformed _
            · cases closes <;> exact fails_malformed _
          refine .step fun shared => .token_of_closes closed (fun t shared => ?_) fun t closes => ?_
          · cases t with
            | string key => exact .step (bracket key)
            | raw key => exact .step (bracket key)
            | _ => exact .malformed _
          · cases closes <;> exact fails_malformed _
        | _ => exact .pure path

theorem agree_operand (closed : tails.Closed) (steps steps' : Nat) :
    Agree tails (operand steps) (operand steps') := by
  refine fun shared => .token_of_closes closed (fun t shared => ?_) fun t closes => ?_
  · cases t with
    | word first =>
      exact .step fun shared => (agree_pathRest closed steps steps' _ shared).bind fun _ _ => .pure _
    | string s => exact .step fun shared => .pure _
    | raw s => exact .step fun shared => .pure _
    | number s => exact .step fun shared => .pure _
    | _ => exact .unexpected _
  · cases closes <;> exact fails_unexpected _

theorem agree_literal (closed : tails.Closed) (steps steps' : Nat) :
    Agree tails (literal steps) (literal steps') := by
  refine fun shared => .token_of_closes closed (fun t shared => ?_) fun t closes => ?_
  · cases t with
    | word first =>
      exact .step fun shared => (agree_pathRest closed steps steps' _ shared).bind fun _ _ => .pure _
    | string s => exact .step fun shared => .pure _
    | raw s => exact .step fun shared => .pure _
    | number s => exact .step fun shared => .pure _
    | _ => exact .unexpected _
  · cases closes <;> exact fails_unexpected _

theorem agree_selector (closed : tails.Closed) (steps steps' : Nat) :
    Agree tails (selector steps) (selector steps') := by
  refine fun shared => .token_of_closes closed (fun t shared => ?_) fun t closes => ?_
  · cases t with
    | word first =>
      exact .step fun shared => (agree_pathRest closed steps steps' _ shared).bind fun _ _ => .pure _
    | string s =>
      dsimp only
      cases Pointer.decode? s with
      | none => exact .malformed _
      | some path => exact .step fun shared => .pure _
    | _ => exact .malformed _
  · cases closes <;> exact fails_malformed _

/-! ## Tests and bindings -/

theorem agreeAt_selectorFirst (closed : tails.Closed) (steps steps' : Nat) (op : Operand)
    (operator : Operator) :
    AgreeAt tails (t :: shared) (selectorFirst steps op operator)
      (selectorFirst steps' op operator) := by
  unfold selectorFirst
  cases op.selector? with
  | none => exact .unexpected _
  | some selector =>
    exact .step fun shared => (agree_literal closed steps steps' shared).bind fun _ _ => .pure _

theorem agreeAt_literalFirst (closed : tails.Closed) (steps steps' : Nat) (op : Operand)
    (operator : Operator) :
    AgreeAt tails (t :: shared) (literalFirst steps op operator)
      (literalFirst steps' op operator) :=
  .step fun shared => (agree_selector closed steps steps' shared).bind fun _ _ => .pure _

theorem agreeAt_emptiness (closed : tails.Closed) (op : Operand) :
    AgreeAt tails (t :: shared) (emptiness op) (emptiness op) := by
  unfold emptiness
  cases op.selector? with
  | none => exact .unexpected _
  | some selector =>
    have ends (operator : Operator) : Agree tails
        (do
          Reader.expect (.word "empty") .emptyWord
          return (Expr.test selector operator none : Expr String))
        (do
          Reader.expect (.word "empty") .emptyWord
          return Expr.test selector operator none) :=
      fun shared => (AgreeAt.expect closed (not_closes_word "empty") _).bind fun _ _ => .pure _
    refine .step fun shared => ?_
    cases shared with
    | nil =>
      refine .atWord_end ?_
      have noWord (w : String) : tails.stop ≠ .word w := by
        intro same
        have closes := closed.closes
        rw [same] at closes
        cases closes
      rw [decide_eq_false (noWord "not")]
      refine .of_stuck fun e behind goes => ?_
      exact noWord "empty" goes.eq_of_expect
    | cons t shared =>
      refine .atWord ?_
      cases decide (t = .word "not") with
      | true => exact .step (ends .isNotEmpty)
      | false => exact ends .isEmpty _

theorem agreeAt_negatedTest (closed : tails.Closed) (steps steps' : Nat) (op : Operand) :
    AgreeAt tails (t :: shared) (negatedTest steps op) (negatedTest steps' op) := by
  refine .step fun shared => .token_of_closes closed (fun t shared => ?_) fun t closes => ?_
  · split
    · exact agreeAt_literalFirst closed steps steps' op _
    · exact agreeAt_selectorFirst closed steps steps' op _
    · exact agreeAt_selectorFirst closed steps steps' op _
    · exact .unexpected _
  · cases closes <;> exact fails_unexpected _

theorem agree_test (closed : tails.Closed) (limit limit' steps steps' : Nat) :
    Agree tails (test limit steps) (test limit' steps') := by
  refine fun shared => .counted (.state fun s s' => ?_)
  dsimp only
  split
  · exact .of_fails (fails_malformed _).bind
  · split
    · exact .of_fails' (fails_malformed _).bind
    · refine (agree_operand closed steps steps' shared).bind fun op shared => ?_
      refine .token_of_closes closed (fun t shared => ?_) fun t closes => ?_
      · split
        case h_7 => exact agreeAt_literalFirst closed steps steps' op _
        case h_10 => exact agreeAt_emptiness closed op
        case h_11 => exact agreeAt_negatedTest closed steps steps' op
        case h_12 => exact .unexpected _
        all_goals exact agreeAt_selectorFirst closed steps steps' op _
      · cases closes <;> exact fails_unexpected _

theorem agree_binding (closed : tails.Closed) (other : tails.stop' ≠ .comma) :
    Agree tails binding binding := by
  refine fun shared => .token_of_closes closed (fun t shared => ?_) fun t closes => ?_
  · cases t with
    | word first =>
      refine .step fun shared => ?_
      cases shared with
      | nil =>
        refine .token_end ?_
        have notComma : tails.stop ≠ .comma := by
          intro same
          have closes := closed.closes
          rw [same] at closes
          cases closes
        rw [if_neg notComma, if_neg other]
        exact .pure _
      | cons t shared =>
        refine .token ?_
        split
        · refine .step fun shared => .token_of_closes closed (fun t shared => ?_) fun t closes => ?_
          · cases t with
            | underscore => exact .step fun _ => .pure _
            | word second =>
              dsimp only
              split
              · exact .malformed _
              · exact .step fun _ => .pure _
            | _ => exact .unexpected _
          · cases closes <;> exact fails_unexpected _
        · exact .pure _
    | underscore =>
      refine .step fun shared => (AgreeAt.expect closed not_closes_comma _).bind fun _ shared => ?_
      refine .token_of_closes closed (fun t shared => ?_) fun t closes => ?_
      · cases t with
        | word name => exact .step fun _ => .pure _
        | _ => exact .unexpected _
      · cases closes <;> exact fails_unexpected _
    | _ => exact .unexpected _
  · cases closes <;> exact fails_unexpected _

end

/-! ## Expressions -/

/-- A brace in one text and a parenthesis in the other. -/
abbrev Tails.braceParen (rest rest' : List Token) : Tails := ⟨.closeBrace, rest, .closeParen, rest'⟩

section

variable {rest rest' : List Token}

theorem closed_braceParen : (Tails.braceParen rest rest').Closed :=
  ⟨.brace, Closes.paren.endsPath⟩

theorem quantifierAt_of_closes {t : Token} (closes : Closes t) (tokens : List Token) :
    quantifierAt t tokens = none := by
  cases closes <;> rfl

/-- No quantifier is seen before a token that closes. -/
theorem quantifierAt_beside (t : Token) {stop stop' : Token} (closes : Closes stop)
    (closes' : Closes stop') (shared : List Token) :
    quantifierAt t (shared ++ stop :: rest) = quantifierAt t (shared ++ stop' :: rest') := by
  have follows : followsQuantifier (shared ++ stop :: rest) =
      followsQuantifier (shared ++ stop' :: rest') := by
    cases shared with
    | nil => cases closes <;> cases closes' <;> rfl
    | cons next shared => cases next <;> rfl
  unfold quantifierAt
  rw [follows]

/-- Both texts see the same quantifier, and if they see one it is shared. -/
theorem AgreeAt.quantifier? {β : Type} {shared : List Token} {f f' : Option Quantifier → Reader β}
    (none : AgreeAt (.braceParen rest rest') shared (f none) (f' none))
    (some : ∀ t left quantifier, shared = t :: left →
      AgreeAt (.braceParen rest rest') shared (f (some quantifier)) (f' (some quantifier))) :
    AgreeAt (.braceParen rest rest') shared (Reader.quantifier? >>= f)
      (Reader.quantifier? >>= f') := by
  intro b b' behind behind' goes goes'
  cases shared with
  | nil =>
    have goesOn := goes.of_quantifier?
    have goesOn' := goes'.of_quantifier?
    rw [quantifierAt_of_closes .brace] at goesOn
    rw [quantifierAt_of_closes .paren] at goesOn'
    exact none b b' behind behind' goesOn goesOn'
  | cons t left =>
    have goesOn : Goes (f (quantifierAt t (left ++ .closeBrace :: rest)))
        (t :: (left ++ .closeBrace :: rest)) b behind := goes.of_quantifier?
    have goesOn' : Goes (f' (quantifierAt t (left ++ .closeParen :: rest')))
        (t :: (left ++ .closeParen :: rest')) b' behind' := goes'.of_quantifier?
    rw [← quantifierAt_beside t .brace .paren] at goesOn'
    generalize quantifierAt t (left ++ _) = found at goesOn goesOn'
    cases found with
    | none => exact none b b' behind behind' goesOn goesOn'
    | some quantifier => exact some t left quantifier rfl b b' behind behind' goesOn goesOn'

/-- If a word is there in one text, it is shared, since behind what is shared there is none. -/
theorem AgreeAt.atWord_braceParen {β : Type} {shared : List Token} {w : String}
    {f f' : Bool → Reader β}
    (word : ∀ t left, shared = t :: left →
      AgreeAt (.braceParen rest rest') shared (f true) (f' true))
    (other : AgreeAt (.braceParen rest rest') shared (f false) (f' false)) :
    AgreeAt (.braceParen rest rest') shared (Reader.atWord w >>= f) (Reader.atWord w >>= f') := by
  cases shared with
  | nil => exact .atWord_end other
  | cons t left =>
    refine .atWord ?_
    cases decide (t = .word w) with
    | true => exact word t left rfl
    | false => exact other

/-- With a number of steps on one side and any on the other, all parts of an expression agree. -/
structure AgreeOn (rest rest' : List Token) (limit limit' steps : Nat) : Prop where
  disjunction (steps' : Nat) : Agree (.braceParen rest rest') (disjunction limit steps)
    (disjunction limit' steps')
  disjunctionRest (steps' : Nat) (left : Expr String) : Agree (.braceParen rest rest')
    (disjunctionRest limit steps left) (disjunctionRest limit' steps' left)
  conjunction (steps' : Nat) : Agree (.braceParen rest rest') (conjunction limit steps)
    (conjunction limit' steps')
  conjunctionRest (steps' : Nat) (left : Expr String) : Agree (.braceParen rest rest')
    (conjunctionRest limit steps left) (conjunctionRest limit' steps' left)
  negation (steps' : Nat) : Agree (.braceParen rest rest') (negation limit steps)
    (negation limit' steps')
  quantified (steps' : Nat) (quantifier : Quantifier) (t : Token) (shared : List Token) :
    AgreeAt (.braceParen rest rest') (t :: shared) (quantified limit steps quantifier)
      (quantified limit' steps' quantifier)
  primary (steps' : Nat) : Agree (.braceParen rest rest') (primary limit steps)
    (primary limit' steps')

namespace AgreeOn

variable {limit limit' steps : Nat}

theorem disjunction_succ (ih : AgreeOn rest rest' limit limit' steps) (steps' : Nat) :
    Agree (.braceParen rest rest') (Reader.disjunction limit (steps + 1))
      (Reader.disjunction limit' steps') := by
  intro shared
  cases steps' with
  | zero => exact .of_fails' (fails_unexpected _)
  | succ steps' =>
    rw [Reader.disjunction, Reader.disjunction]
    exact (ih.conjunction steps' shared).bind fun left => ih.disjunctionRest steps' left

theorem disjunctionRest_succ (ih : AgreeOn rest rest' limit limit' steps) (steps' : Nat)
    (left : Expr String) :
    Agree (.braceParen rest rest') (Reader.disjunctionRest limit (steps + 1) left)
      (Reader.disjunctionRest limit' steps' left) := by
  intro shared
  cases steps' with
  | zero => exact .of_fails' (fails_unexpected _)
  | succ steps' =>
    rw [Reader.disjunctionRest, Reader.disjunctionRest]
    refine .atWord_braceParen ?_ (.pure left)
    rintro t shared rfl
    refine .step fun shared => (ih.conjunction steps' shared).bind fun right => ?_
    exact ih.disjunctionRest steps' _

theorem conjunction_succ (ih : AgreeOn rest rest' limit limit' steps) (steps' : Nat) :
    Agree (.braceParen rest rest') (Reader.conjunction limit (steps + 1))
      (Reader.conjunction limit' steps') := by
  intro shared
  cases steps' with
  | zero => exact .of_fails' (fails_unexpected _)
  | succ steps' =>
    rw [Reader.conjunction, Reader.conjunction]
    exact (ih.negation steps' shared).bind fun left => ih.conjunctionRest steps' left

theorem conjunctionRest_succ (ih : AgreeOn rest rest' limit limit' steps) (steps' : Nat)
    (left : Expr String) :
    Agree (.braceParen rest rest') (Reader.conjunctionRest limit (steps + 1) left)
      (Reader.conjunctionRest limit' steps' left) := by
  intro shared
  cases steps' with
  | zero => exact .of_fails' (fails_unexpected _)
  | succ steps' =>
    rw [Reader.conjunctionRest, Reader.conjunctionRest]
    refine .atWord_braceParen ?_ (.pure left)
    rintro t shared rfl
    refine .step fun shared => (ih.negation steps' shared).bind fun right => ?_
    exact ih.conjunctionRest steps' _

theorem negation_succ (ih : AgreeOn rest rest' limit limit' steps) (steps' : Nat) :
    Agree (.braceParen rest rest') (Reader.negation limit (steps + 1))
      (Reader.negation limit' steps') := by
  intro shared
  cases steps' with
  | zero => exact .of_fails' (fails_unexpected _)
  | succ steps' =>
    rw [Reader.negation, Reader.negation]
    refine .atWord_braceParen ?_ ?_
    · rintro t shared rfl
      refine .step fun shared => .token_of_closes closed_braceParen (fun t shared => ?_) ?_
      · split
        · exact (ih.negation steps' _).bind fun _ _ => .pure _
        · exact .unexpected _
      · rintro _ (_ | _ | _) <;> exact fails_unexpected _
    · refine .quantifier? (ih.primary steps' shared) ?_
      rintro t left quantifier rfl
      exact ih.quantified steps' quantifier t left

/-- Only one of the two texts can go on behind the body: the brace is shared, or it is behind what is
shared and the other one has a parenthesis there. -/
theorem quantified_succ (ih : AgreeOn rest rest' limit limit' steps) (steps' : Nat)
    (quantifier : Quantifier) (t : Token) (shared : List Token) :
    AgreeAt (.braceParen rest rest') (t :: shared) (Reader.quantified limit (steps + 1) quantifier)
      (Reader.quantified limit' steps' quantifier) := by
  cases steps' with
  | zero => exact .of_fails' (fails_unexpected _)
  | succ steps' =>
    rw [Reader.quantified, Reader.quantified]
    have closed := @closed_braceParen rest rest'
    refine .step fun shared => (agree_selector closed steps steps' shared).bind fun s shared => ?_
    refine (AgreeAt.expect closed (not_closes_word "as") _).bind fun _ shared => ?_
    refine (agree_binding closed nofun shared).bind fun b shared => ?_
    refine (AgreeAt.expect closed not_closes_openBrace _).bind fun _ shared => ?_
    refine (ih.disjunction steps' shared).bind fun body shared => ?_
    cases shared with
    | nil => exact .token_end (.of_fails' (fails_unexpected _))
    | cons t shared =>
      refine .token ?_
      cases t with
      | closeBrace => exact .step fun _ => .pure _
      | finish => exact .malformed _
      | _ => exact .unexpected _

theorem primary_succ (ih : AgreeOn rest rest' limit limit' steps) (steps' : Nat) :
    Agree (.braceParen rest rest') (Reader.primary limit (steps + 1))
      (Reader.primary limit' steps') := by
  intro shared
  cases steps' with
  | zero => exact .of_fails' (fails_unexpected _)
  | succ steps' =>
    have closed := @closed_braceParen rest rest'
    rw [Reader.primary, Reader.primary]
    cases shared with
    | nil => exact .token_end (agree_test closed limit limit' steps steps' [])
    | cons t shared =>
      refine .token ?_
      split
      · refine .step fun shared => (ih.disjunction steps' shared).bind fun inner shared => ?_
        cases shared with
        | nil => exact .token_end (.unexpected _)
        | cons t shared =>
          refine .token ?_
          cases t with
          | closeParen => exact .step fun _ => .pure _
          | finish => exact .malformed _
          | _ => exact .unexpected _
      · exact agree_test closed limit limit' steps steps' _

end AgreeOn

theorem agreeOn (rest rest' : List Token) (limit limit' steps : Nat) :
    AgreeOn rest rest' limit limit' steps := by
  induction steps with
  | zero =>
    exact {
      disjunction := fun _ _ => .unexpected _
      disjunctionRest := fun _ _ _ => .unexpected _
      conjunction := fun _ _ => .unexpected _
      conjunctionRest := fun _ _ _ => .unexpected _
      negation := fun _ _ => .unexpected _
      quantified := fun _ _ _ _ => .unexpected _
      primary := fun _ _ => .unexpected _ }
  | succ steps ih =>
    exact {
      disjunction := ih.disjunction_succ
      disjunctionRest := ih.disjunctionRest_succ
      conjunction := ih.conjunction_succ
      conjunctionRest := ih.conjunctionRest_succ
      negation := ih.negation_succ
      quantified := ih.quantified_succ
      primary := ih.primary_succ }

/-- A stretch of tokens that is an expression before a brace is the same one before a parenthesis. -/
theorem agree_disjunction {limit limit' steps steps' : Nat} {tokens : List Token}
    {e e' : Expr String} {behind behind' : List Token}
    (goes : Goes (disjunction limit steps) (tokens ++ .closeBrace :: rest) e
      (.closeBrace :: behind))
    (goes' : Goes (disjunction limit' steps') (tokens ++ .closeParen :: rest') e'
      (.closeParen :: behind')) :
    e = e' ∧ behind = rest ∧ behind' = rest' := by
  obtain ⟨same, left, here, here'⟩ :=
    (agreeOn rest rest' limit limit' steps).disjunction steps' tokens e e' _ _ goes goes'
  cases left with
  | nil =>
    cases here
    cases here'
    exact ⟨same, rfl, rfl⟩
  | cons t left =>
    cases here
    cases here'

end

end Sift.Reader
