import Mathlib
import Sift.Proofs.Grammar.Quantified
import Sift.Proofs.Grammar.Segments

/-!
# Texts in parentheses

Whatever is read at the end of a text is read in front of a closing parenthesis as well, and by any
larger number of steps: a reader that succeeds never goes past the end, and where it stops there, it
stops at the parenthesis (`Carries`). With the tokens of a text in parentheses being its own between
the two marks (`Lexed.enclosed`), a text that is an expression is the same one as an operand of `and`,
`or` and `not` (`read_enclosed`).
-/

namespace Sift

namespace Reader

/-! ## Steps -/

/-- What a reader does with these tokens at the end of a text, another one does with them in front of
a closing parenthesis. -/
def CarriesAt {α : Type} (rest shared : List Token) (r r' : Reader α) : Prop :=
  ∀ a behind, Goes r (shared ++ [.finish]) a behind →
    ∃ left, left <:+ shared ∧ behind = left ++ [.finish] ∧
      Reads r' (shared ++ .closeParen :: rest) a (left ++ .closeParen :: rest)

/-- The same, wherever in the tokens they start. -/
def Carries {α : Type} (rest : List Token) (r r' : Reader α) : Prop :=
  ∀ shared, CarriesAt rest shared r r'

section

variable {α β : Type} {rest shared : List Token} {t : Token}

namespace CarriesAt

theorem pure (a : α) : CarriesAt rest shared (Pure.pure a) (Pure.pure a) := by
  intro b behind goes
  obtain ⟨rfl, rfl⟩ := goes.of_pure
  exact ⟨shared, List.suffix_rfl, rfl, .pure b⟩

theorem of_fails {r r' : Reader α} (fails : Fails r) : CarriesAt rest shared r r' :=
  fun _ _ goes => absurd goes (fails _ _ _)

theorem unexpected (expected : Expected) {r : Reader α} :
    CarriesAt rest shared (Reader.unexpected expected) r :=
  of_fails (fails_unexpected expected)

theorem malformed (fault : Fault) {r : Reader α} :
    CarriesAt rest shared (Reader.malformed fault) r :=
  of_fails (fails_malformed fault)

theorem bind {r r' : Reader α} {f f' : α → Reader β} (first : CarriesAt rest shared r r')
    (second : ∀ a, Carries rest (f a) (f' a)) :
    CarriesAt rest shared (r >>= f) (r' >>= f') := by
  intro b behind goes
  obtain ⟨a, middle, ran, goesOn⟩ := goes.of_bind
  obtain ⟨left, inside, rfl, reads⟩ := first a middle ran
  obtain ⟨left', inside', rfl, readsOn⟩ := second a left b behind goesOn
  exact ⟨left', inside'.trans inside, rfl, reads.bind readsOn⟩

theorem counted {count count' : State → Nat} {f f' : Unit → Reader β}
    (behind : CarriesAt rest shared (f ()) (f' ())) :
    CarriesAt rest shared ((modify fun s => { s with counted := count s }) >>= f)
      ((modify fun s => { s with counted := count' s }) >>= f') := by
  intro b after goes
  obtain ⟨left, inside, same, reads⟩ := behind b after goes.of_counted
  exact ⟨left, inside, same, (Reads.modified (f := fun s => { s with counted := count' s })
    fun _ => rfl).bind reads⟩

/-- Looking at one of the tokens. -/
theorem token {f f' : Token → Reader β} (same : CarriesAt rest (t :: shared) (f t) (f' t)) :
    CarriesAt rest (t :: shared) (Reader.token >>= f) (Reader.token >>= f') := by
  intro b behind goes
  obtain ⟨left, inside, ends, reads⟩ := same b behind goes.of_token
  exact ⟨left, inside, ends, Reads.token.bind reads⟩

/-- Looking past the last of them. -/
theorem token_end {f f' : Token → Reader β}
    (apart : CarriesAt rest [] (f .finish) (f' .closeParen)) :
    CarriesAt rest [] (Reader.token >>= f) (Reader.token >>= f') := by
  intro b behind goes
  obtain ⟨left, inside, ends, reads⟩ := apart b behind goes.of_token
  exact ⟨left, inside, ends, Reads.token.bind reads⟩

/-- Looking at a token that has to be there. -/
theorem token_there {f f' : Token → Reader β}
    (same : ∀ t shared, CarriesAt rest (t :: shared) (f t) (f' t)) (fails : Fails (f .finish)) :
    CarriesAt rest shared (Reader.token >>= f) (Reader.token >>= f') := by
  cases shared with
  | nil => exact token_end (of_fails fails)
  | cons t shared => exact token (same t shared)

/-- Going on behind one of the tokens. -/
theorem step {f f' : Unit → Reader β} (behind : Carries rest (f ()) (f' ())) :
    CarriesAt rest (t :: shared) (Reader.advance >>= f) (Reader.advance >>= f') := by
  intro b after goes
  obtain ⟨left, inside, same, reads⟩ := behind shared b after (goes.of_step (by simp))
  exact ⟨left, inside.trans (List.suffix_cons t shared), same, (Reads.pass (by simp)).bind reads⟩

/-- A word that is there is one of the tokens. -/
theorem atWord {w : String} {f f' : Bool → Reader β}
    (word : ∀ t left, shared = t :: left → CarriesAt rest shared (f true) (f' true))
    (other : CarriesAt rest shared (f false) (f' false)) :
    CarriesAt rest shared (Reader.atWord w >>= f) (Reader.atWord w >>= f') := by
  intro b behind goes
  cases shared with
  | nil =>
    obtain ⟨left, inside, same, reads⟩ := other b behind goes.of_atWord
    exact ⟨left, inside, same, (Reads.atWord w).bind reads⟩
  | cons t shared =>
    have goesOn := goes.of_atWord
    by_cases here : t = .word w
    · rw [decide_eq_true here] at goesOn
      obtain ⟨left, inside, same, reads⟩ := word t shared rfl b behind goesOn
      refine ⟨left, inside, same, (Reads.atWord w).bind ?_⟩
      rw [decide_eq_true here]
      exact reads
    · rw [decide_eq_false here] at goesOn
      obtain ⟨left, inside, same, reads⟩ := other b behind goesOn
      refine ⟨left, inside, same, (Reads.atWord w).bind ?_⟩
      rw [decide_eq_false here]
      exact reads

/-- A token that has to be there and is not the end. -/
theorem expect (wanted : Token) (other : wanted ≠ .finish) (expected : Expected) :
    CarriesAt rest shared (Reader.expect wanted expected) (Reader.expect wanted expected) := by
  refine token_there (fun t shared => ?_) ?_
  · split
    · have stepped : CarriesAt rest (t :: shared) (Reader.advance >>= fun _ => Pure.pure ())
          (Reader.advance >>= fun _ => Pure.pure ()) := step fun shared => pure ()
      simpa only [bind_pure_unit] using stepped
    · exact .unexpected _
  · rw [if_neg other.symm]
    exact fails_unexpected _

/-- The same quantifier is seen, and if there is one, it is one of the tokens. -/
theorem quantifier? {f f' : Option Quantifier → Reader β}
    (none : CarriesAt rest shared (f none) (f' none))
    (some : ∀ t left quantifier, shared = t :: left →
      CarriesAt rest shared (f (some quantifier)) (f' (some quantifier))) :
    CarriesAt rest shared (Reader.quantifier? >>= f) (Reader.quantifier? >>= f') := by
  intro b behind goes
  cases shared with
  | nil =>
    obtain ⟨left, inside, same, reads⟩ := none b behind goes.of_quantifier?
    exact ⟨left, inside, same, reads_quantifier?.bind reads⟩
  | cons t shared =>
    have goesOn : Goes (f (quantifierAt t (shared ++ [.finish]))) (t :: shared ++ [.finish]) b behind :=
      goes.of_quantifier?
    have beside := @quantifierAt_beside [] rest t _ _ .finish .paren shared
    have seen : Reads Reader.quantifier? (t :: shared ++ .closeParen :: rest)
        (quantifierAt t (shared ++ [.finish])) (t :: shared ++ .closeParen :: rest) := by
      rw [beside]
      exact reads_quantifier?
    generalize quantifierAt t (shared ++ [.finish]) = found at goesOn seen
    cases found with
    | none =>
      obtain ⟨left, inside, same, reads⟩ := none b behind goesOn
      exact ⟨left, inside, same, seen.bind reads⟩
    | some quantifier =>
      obtain ⟨left, inside, same, reads⟩ := some t shared quantifier rfl b behind goesOn
      exact ⟨left, inside, same, seen.bind reads⟩

end CarriesAt

/-! ## Paths, operands and literals -/

theorem carries_pathRest {steps steps' : Nat} (more : steps ≤ steps') (path : List String) :
    Carries rest (pathRest steps path) (pathRest steps' path) := by
  induction steps generalizing steps' path with
  | zero => exact fun _ => .unexpected _
  | succ steps ih =>
    obtain ⟨steps', rfl⟩ := Nat.exists_eq_add_of_le' (Nat.one_le_of_lt more)
    replace more : steps ≤ steps' := Nat.le_of_succ_le_succ more
    have bracket (key : String) : Carries rest
        (do
          if (← Reader.token) = .closeBracket then
            Reader.advance
            pathRest steps (path ++ [key])
          else Reader.malformed .unclosedIndex)
        (do
          if (← Reader.token) = .closeBracket then
            Reader.advance
            pathRest steps' (path ++ [key])
          else Reader.malformed .unclosedIndex) := by
      refine fun shared => .token_there (fun t shared => ?_) (fails_malformed _)
      split
      · exact .step (ih more _)
      · exact .malformed _
    rintro (- | ⟨t, shared⟩)
    · exact .token_end (.pure path)
    · refine .token ?_
      cases t with
      | dot =>
        refine .step fun shared => .token_there (fun t shared => ?_) (fails_unexpected _)
        cases t with
        | word segment => exact .step (ih more _)
        | _ => exact .unexpected _
      | openBracket =>
        refine .step fun shared => .token_there (fun t shared => ?_) (fails_malformed _)
        cases t with
        | string key => exact .step (bracket key)
        | raw key => exact .step (bracket key)
        | _ => exact .malformed _
      | _ => exact .pure path

variable {steps steps' : Nat}

theorem carries_operand (more : steps ≤ steps') :
    Carries rest (operand steps) (operand steps') := by
  refine fun shared => .token_there (fun t shared => ?_) (fails_unexpected _)
  cases t with
  | word first =>
    exact .step fun shared => (carries_pathRest more _ shared).bind fun _ _ => .pure _
  | string s => exact .step fun shared => .pure _
  | raw s => exact .step fun shared => .pure _
  | number s => exact .step fun shared => .pure _
  | _ => exact .unexpected _

theorem carries_literal (more : steps ≤ steps') :
    Carries rest (literal steps) (literal steps') := by
  refine fun shared => .token_there (fun t shared => ?_) (fails_unexpected _)
  cases t with
  | word first =>
    exact .step fun shared => (carries_pathRest more _ shared).bind fun _ _ => .pure _
  | string s => exact .step fun shared => .pure _
  | raw s => exact .step fun shared => .pure _
  | number s => exact .step fun shared => .pure _
  | _ => exact .unexpected _

theorem carries_selector (more : steps ≤ steps') :
    Carries rest (selector steps) (selector steps') := by
  refine fun shared => .token_there (fun t shared => ?_) (fails_malformed _)
  cases t with
  | word first =>
    exact .step fun shared => (carries_pathRest more _ shared).bind fun _ _ => .pure _
  | string s =>
    dsimp only
    cases Pointer.decode? s with
    | none => exact .malformed _
    | some path => exact .step fun shared => .pure _
  | _ => exact .malformed _

/-! ## Tests and bindings -/

theorem carriesAt_selectorFirst (more : steps ≤ steps') (op : Operand) (operator : Operator) :
    CarriesAt rest (t :: shared) (selectorFirst steps op operator)
      (selectorFirst steps' op operator) := by
  unfold selectorFirst
  cases op.selector? with
  | none => exact .unexpected _
  | some selector =>
    exact .step fun shared => (carries_literal more shared).bind fun _ _ => .pure _

theorem carriesAt_literalFirst (more : steps ≤ steps') (op : Operand) (operator : Operator) :
    CarriesAt rest (t :: shared) (literalFirst steps op operator)
      (literalFirst steps' op operator) :=
  .step fun shared => (carries_selector more shared).bind fun _ _ => .pure _

theorem carriesAt_emptiness (op : Operand) :
    CarriesAt rest (t :: shared) (emptiness op) (emptiness op) := by
  unfold emptiness
  cases op.selector? with
  | none => exact .unexpected _
  | some selector =>
    have ends (operator : Operator) : Carries rest
        (do
          Reader.expect (.word "empty") .emptyWord
          return (Expr.test selector operator none : Expr String))
        (do
          Reader.expect (.word "empty") .emptyWord
          return Expr.test selector operator none) := fun shared =>
      (CarriesAt.expect (.word "empty") (fun same => by cases same) _).bind fun _ _ => .pure _
    refine .step fun shared => .atWord ?_ (ends .isEmpty shared)
    rintro t shared rfl
    exact .step (ends .isNotEmpty)

theorem carriesAt_negatedTest (more : steps ≤ steps') (op : Operand) :
    CarriesAt rest (t :: shared) (negatedTest steps op) (negatedTest steps' op) := by
  refine .step fun shared => .token_there (fun t shared => ?_) (fails_unexpected _)
  split
  · exact carriesAt_literalFirst more op _
  · exact carriesAt_selectorFirst more op _
  · exact carriesAt_selectorFirst more op _
  · exact .unexpected _

/-- Without a limit it does not matter how many tests have been met. -/
theorem test_unlimited (steps : Nat) :
    test 0 steps = (do
      modify fun s => { s with counted := s.counted + 1 }
      let operand ← operand steps
      match ← Reader.token with
      | .equal => selectorFirst steps operand .equal
      | .notEqual => selectorFirst steps operand .notEqual
      | .less => selectorFirst steps operand .less
      | .lessEqual => selectorFirst steps operand .lessEqual
      | .greater => selectorFirst steps operand .greater
      | .greaterEqual => selectorFirst steps operand .greaterEqual
      | .word "in" => literalFirst steps operand .isIn
      | .word "contains" => selectorFirst steps operand .isIn
      | .word "matches" => selectorFirst steps operand .isMatch
      | .word "is" => emptiness operand
      | .word "not" => negatedTest steps operand
      | _ => missingOperator operand) := by
  unfold test
  simp only [Nat.lt_irrefl, false_and, if_false]
  rfl

theorem carries_test (more : steps ≤ steps') : Carries rest (test 0 steps) (test 0 steps') := by
  rw [test_unlimited, test_unlimited]
  refine fun shared => .counted ((carries_operand more shared).bind fun op shared => ?_)
  refine .token_there (fun t shared => ?_) (fails_unexpected _)
  split
  case h_7 => exact carriesAt_literalFirst more op _
  case h_10 => exact carriesAt_emptiness op
  case h_11 => exact carriesAt_negatedTest more op
  case h_12 => exact .unexpected _
  all_goals exact carriesAt_selectorFirst more op _

theorem carries_binding : Carries rest binding binding := by
  refine fun shared => .token_there (fun t shared => ?_) (fails_unexpected _)
  cases t with
  | word first =>
    refine .step fun shared => ?_
    cases shared with
    | nil => exact .token_end (.pure _)
    | cons t shared =>
      refine .token ?_
      split
      · refine .step fun shared => .token_there (fun t shared => ?_) (fails_unexpected _)
        cases t with
        | underscore => exact .step fun _ => .pure _
        | word second =>
          dsimp only
          split
          · exact .malformed _
          · exact .step fun _ => .pure _
        | _ => exact .unexpected _
      · exact .pure _
  | underscore =>
    refine .step fun shared =>
      (CarriesAt.expect .comma (fun same => by cases same) _).bind fun _ shared => ?_
    refine .token_there (fun t shared => ?_) (fails_unexpected _)
    cases t with
    | word name => exact .step fun _ => .pure _
    | _ => exact .unexpected _
  | _ => exact .unexpected _

/-! ## Expressions -/

/-- With two numbers of steps, all parts of an expression carry. -/
structure CarriesOn (rest : List Token) (steps steps' : Nat) : Prop where
  disjunction : Carries rest (disjunction 0 steps) (disjunction 0 steps')
  disjunctionRest (left : Expr String) :
    Carries rest (disjunctionRest 0 steps left) (disjunctionRest 0 steps' left)
  conjunction : Carries rest (conjunction 0 steps) (conjunction 0 steps')
  conjunctionRest (left : Expr String) :
    Carries rest (conjunctionRest 0 steps left) (conjunctionRest 0 steps' left)
  negation : Carries rest (negation 0 steps) (negation 0 steps')
  quantified (quantifier : Quantifier) (t : Token) (shared : List Token) :
    CarriesAt rest (t :: shared) (quantified 0 steps quantifier) (quantified 0 steps' quantifier)
  primary : Carries rest (primary 0 steps) (primary 0 steps')

namespace CarriesOn

theorem zero : CarriesOn rest 0 steps' where
  disjunction _ := .unexpected _
  disjunctionRest _ _ := .unexpected _
  conjunction _ := .unexpected _
  conjunctionRest _ _ := .unexpected _
  negation _ := .unexpected _
  quantified _ _ _ := .unexpected _
  primary _ := .unexpected _

theorem disjunction_succ (ih : CarriesOn rest steps steps') :
    Carries rest (Reader.disjunction 0 (steps + 1)) (Reader.disjunction 0 (steps' + 1)) := by
  intro shared
  rw [Reader.disjunction, Reader.disjunction]
  exact (ih.conjunction shared).bind ih.disjunctionRest

theorem disjunctionRest_succ (ih : CarriesOn rest steps steps') (left : Expr String) :
    Carries rest (Reader.disjunctionRest 0 (steps + 1) left)
      (Reader.disjunctionRest 0 (steps' + 1) left) := by
  intro shared
  rw [Reader.disjunctionRest, Reader.disjunctionRest]
  refine .atWord ?_ (.pure left)
  rintro t shared rfl
  exact .step fun shared => (ih.conjunction shared).bind fun right => ih.disjunctionRest _

theorem conjunction_succ (ih : CarriesOn rest steps steps') :
    Carries rest (Reader.conjunction 0 (steps + 1)) (Reader.conjunction 0 (steps' + 1)) := by
  intro shared
  rw [Reader.conjunction, Reader.conjunction]
  exact (ih.negation shared).bind ih.conjunctionRest

theorem conjunctionRest_succ (ih : CarriesOn rest steps steps') (left : Expr String) :
    Carries rest (Reader.conjunctionRest 0 (steps + 1) left)
      (Reader.conjunctionRest 0 (steps' + 1) left) := by
  intro shared
  rw [Reader.conjunctionRest, Reader.conjunctionRest]
  refine .atWord ?_ (.pure left)
  rintro t shared rfl
  exact .step fun shared => (ih.negation shared).bind fun right => ih.conjunctionRest _

theorem negation_succ (ih : CarriesOn rest steps steps') :
    Carries rest (Reader.negation 0 (steps + 1)) (Reader.negation 0 (steps' + 1)) := by
  intro shared
  rw [Reader.negation, Reader.negation]
  refine .atWord ?_ (.quantifier? (ih.primary shared) ?_)
  · rintro t shared rfl
    refine .step fun shared => .token_there (fun t shared => ?_) (fails_unexpected _)
    split
    · exact (ih.negation _).bind fun _ _ => .pure _
    · exact .unexpected _
  · rintro t left quantifier rfl
    exact ih.quantified quantifier t left

theorem quantified_succ (ih : CarriesOn rest steps steps') (more : steps ≤ steps')
    (quantifier : Quantifier) (t : Token) (shared : List Token) :
    CarriesAt rest (t :: shared) (Reader.quantified 0 (steps + 1) quantifier)
      (Reader.quantified 0 (steps' + 1) quantifier) := by
  rw [Reader.quantified, Reader.quantified]
  refine .step fun shared => (carries_selector more shared).bind fun s shared => ?_
  refine (CarriesAt.expect (.word "as") (fun same => by cases same) _).bind fun _ shared => ?_
  refine (carries_binding shared).bind fun b shared => ?_
  refine (CarriesAt.expect .openBrace (fun same => by cases same) _).bind fun _ shared => ?_
  refine (ih.disjunction shared).bind fun body shared => ?_
  refine .token_there (fun t shared => ?_) (fails_malformed _)
  cases t with
  | closeBrace => exact .step fun _ => .pure _
  | finish => exact .malformed _
  | _ => exact .unexpected _

theorem primary_succ (ih : CarriesOn rest steps steps') (more : steps ≤ steps') :
    Carries rest (Reader.primary 0 (steps + 1)) (Reader.primary 0 (steps' + 1)) := by
  rintro (- | ⟨t, shared⟩)
  · rw [Reader.primary, Reader.primary]
    exact .token_end (carries_test more [])
  · rw [Reader.primary, Reader.primary]
    refine .token ?_
    split
    · refine .step fun shared => (ih.disjunction shared).bind fun inner shared => ?_
      refine .token_there (fun t shared => ?_) (fails_malformed _)
      cases t with
      | closeParen => exact .step fun _ => .pure _
      | finish => exact .malformed _
      | _ => exact .unexpected _
    · exact carries_test more _

end CarriesOn

/-- All parts of an expression carry to a number of steps that is no smaller. -/
theorem carriesOn (rest : List Token) (more : steps ≤ steps') : CarriesOn rest steps steps' := by
  induction steps generalizing steps' with
  | zero => exact .zero
  | succ steps ih =>
    obtain ⟨steps', rfl⟩ := Nat.exists_eq_add_of_le' (Nat.one_le_of_lt more)
    replace more : steps ≤ steps' := Nat.le_of_succ_le_succ more
    have inner := ih more
    exact {
      disjunction := inner.disjunction_succ
      disjunctionRest := inner.disjunctionRest_succ
      conjunction := inner.conjunction_succ
      conjunctionRest := inner.conjunctionRest_succ
      negation := inner.negation_succ
      quantified := inner.quantified_succ more
      primary := inner.primary_succ more }

end

/-! ## Groups -/

/-- These tokens are read as an expression in front of a closing parenthesis. -/
def Encloses (tokens : List Token) (e : Expr String) : Prop :=
  ∀ rest steps, stepsFor tokens.length ≤ steps →
    Reads (disjunction 0 steps) (tokens ++ .closeParen :: rest) e (.closeParen :: rest)

variable {tokens rest behind : List Token} {e : Expr String} {steps : Nat}

/-- What takes up all tokens of a text can be put in parentheses: it stops at the end, so it has gone
past all tokens in front of it. -/
theorem Goes.encloses (goes : Goes (whole 0 (stepsFor tokens.length)) (tokens ++ [.finish]) e behind)
    (inner : .finish ∉ tokens) : Encloses tokens e := by
  intro rest steps more
  obtain ⟨others, goesOn⟩ := of_goes_whole goes
  obtain ⟨left, inside, same, reads⟩ :=
    (carriesOn rest more).disjunction tokens e _ goesOn
  cases left with
  | nil => exact reads
  | cons t left =>
    -- what is left begins with the end of the text, which is none of the tokens
    obtain ⟨rfl, -⟩ := List.cons_eq_cons.mp same
    exact absurd (inside.subset List.mem_cons_self) inner

/-- A group in parentheses is read as what is in it. -/
theorem Encloses.group (encloses : Encloses tokens e) (filled : rest ≠ [])
    (enough : stepsFor tokens.length + 2 ≤ steps) :
    Reads (negation 0 steps) (.openParen :: (tokens ++ .closeParen :: rest)) e rest := by
  obtain ⟨steps, rfl⟩ : ∃ k, steps = k + 2 := ⟨steps - 2, by omega⟩
  exact reads_group (encloses rest steps (by omega)) filled

theorem finish_ne_word (w : String) : Token.finish ≠ .word w := nofun

/-- A group that no `and` follows is a conjunction. -/
theorem Encloses.alone {next : Token} (encloses : Encloses tokens e) (other : next ≠ .word "and")
    (enough : stepsFor tokens.length + 3 ≤ steps) :
    Reads (conjunction 0 steps) (.openParen :: (tokens ++ .closeParen :: next :: rest)) e
      (next :: rest) := by
  obtain ⟨steps, rfl⟩ : ∃ k, steps = k + 1 := ⟨steps - 1, by omega⟩
  rw [conjunction]
  exact (encloses.group (by simp) (by omega)).bind
    (reads_conjunctionRest_done other (by unfold stepsFor at enough; omega))

/-- What is a conjunction up to the last token is a disjunction. -/
theorem Reads.disjunction (read : Reads (conjunction 0 steps) tokens e [.finish])
    (enough : 1 ≤ steps) : Reads (disjunction 0 (steps + 1)) tokens e [.finish] := by
  rw [Reader.disjunction]
  exact read.bind (reads_disjunctionRest_done (finish_ne_word "or") enough)

section

variable {first second : List Token} {e₁ e₂ : Expr String}

/-- Two groups with `and` between them are read as both. -/
theorem reads_and (encloses₁ : Encloses first e₁) (encloses₂ : Encloses second e₂)
    (enough : stepsFor first.length + stepsFor second.length + 4 ≤ steps) :
    Reads (whole 0 steps)
      (.openParen :: (first ++ .closeParen :: .word "and" :: .openParen ::
        (second ++ [.closeParen, .finish]))) (.and e₁ e₂) [.finish] := by
  obtain ⟨steps, rfl⟩ : ∃ k, steps = k + 3 := ⟨steps - 3, by omega⟩
  refine (Reads.disjunction ?_ (by omega)).whole
  rw [conjunction]
  refine (encloses₁.group (by simp) (by omega)).bind ?_
  rw [conjunctionRest]
  refine (Reads.atWord "and").bind (Reads.advance.bind ?_)
  refine (encloses₂.group (by simp) (by unfold stepsFor at *; omega)).bind ?_
  exact reads_conjunctionRest_done (finish_ne_word "and") (by unfold stepsFor at *; omega)

/-- Two groups with `or` between them are read as one of both. -/
theorem reads_or (encloses₁ : Encloses first e₁) (encloses₂ : Encloses second e₂)
    (enough : stepsFor first.length + stepsFor second.length + 4 ≤ steps) :
    Reads (whole 0 steps)
      (.openParen :: (first ++ .closeParen :: .word "or" :: .openParen ::
        (second ++ [.closeParen, .finish]))) (.or e₁ e₂) [.finish] := by
  obtain ⟨steps, rfl⟩ : ∃ k, steps = k + 2 := ⟨steps - 2, by omega⟩
  refine Reads.whole ?_
  rw [disjunction]
  refine (encloses₁.alone (by decide) (by unfold stepsFor at *; omega)).bind ?_
  rw [disjunctionRest]
  refine (Reads.atWord "or").bind (Reads.advance.bind ?_)
  refine (encloses₂.alone (finish_ne_word "and") (by unfold stepsFor at *; omega)).bind ?_
  exact reads_disjunctionRest_done (finish_ne_word "or") (by unfold stepsFor at *; omega)

/-- A group with `not` in front is read as the negation. -/
theorem reads_not (encloses : Encloses tokens e) (enough : stepsFor tokens.length + 5 ≤ steps) :
    Reads (whole 0 steps) (.word "not" :: .openParen :: (tokens ++ [.closeParen, .finish]))
      (negated e) [.finish] := by
  obtain ⟨steps, rfl⟩ : ∃ k, steps = k + 3 := ⟨steps - 3, by omega⟩
  refine (Reads.disjunction ?_ (by omega)).whole
  rw [conjunction]
  refine Reads.bind ?_ (reads_conjunctionRest_done (finish_ne_word "and") (by omega))
  rw [negation]
  refine (Reads.atWord "not").bind (Reads.advance.bind (Reads.token.bind ?_))
  rw [if_pos (show startsOperand .openParen = true from rfl)]
  exact (encloses.group (by simp) (by omega)).bind (.pure _)

end

end Reader

/-! ## Texts -/

/-- A text that is read as an expression can be put in parentheses. -/
theorem exists_encloses_of_read {text : String} {e : Expr String} (read : Expr.read 0 text = .ok e) :
    ∃ inner, Lexed text.toList (inner ++ [.finish]) ∧ Reader.Encloses inner e := by
  obtain ⟨first, others, s', cut, ran⟩ := Expr.read_eq_ok.mp read
  obtain ⟨front, last, same, isFinish, proper⟩ := (segments_of_tokens cut).ends
  have tokensSame : (first :: others).map (·.token) = front.map (·.token) ++ [.finish] := by
    rw [same, List.map_append, List.map_singleton, isFinish]
  have long : others.length = (front.map (·.token)).length := by
    simpa using congrArg List.length tokensSame
  have goes : Reader.Goes (Reader.whole 0 (Reader.stepsFor (front.map (·.token)).length))
      (front.map (·.token) ++ [.finish]) e s'.tokens :=
    ⟨⟨first, others, 0⟩, s', tokensSame, long ▸ ran, rfl⟩
  refine ⟨front.map (·.token), tokensSame ▸ Lexed.of_tokensFrom cut, goes.encloses ?_⟩
  simpa using proper

/-- The tokens of a text in parentheses are its own between two marks. -/
theorem Lexed.enclosed {text behind : List Char} {inner all : List Token}
    (lexed : Lexed text (inner ++ [.finish])) (after : Lexed behind all) :
    Lexed ('(' :: (text ++ ')' :: behind)) (.openParen :: (inner ++ .closeParen :: all)) := by
  have closing : Lexed (')' :: behind) (.closeParen :: all) := .token rfl rfl after
  exact .token rfl rfl (lexed.append (.paren _) closing)

/-- Two texts in parentheses with a token between them. -/
theorem Lexed.joined {first second between : List Char} {inner₁ inner₂ : List Token} {t : Token}
    (lexed₁ : Lexed first (inner₁ ++ [.finish])) (lexed₂ : Lexed second (inner₂ ++ [.finish]))
    (alone : Lexed between [t, .finish]) :
    Lexed ('(' :: (first ++ ')' :: ' ' :: (between ++ ' ' :: '(' :: (second ++ [')']))))
      (.openParen :: (inner₁ ++ .closeParen :: t :: .openParen ::
        (inner₂ ++ [.closeParen, .finish]))) :=
  lexed₁.enclosed (.blank rfl (alone.append_one (.space _)
    (.blank rfl (lexed₂.enclosed .nil))))

/-- What the tokens of a text are read as is what the text is read as. -/
theorem Lexed.read {text : String} {written : List Char} {read : List Token} {e : Expr String}
    (lexed : Lexed written read) (spelled : text.toList = written)
    (reads : Reader.Reads (Reader.whole 0 (Reader.stepsFor (read.length - 1))) read e [.finish]) :
    Expr.read 0 text = .ok e := by
  obtain ⟨spanned, cut, same⟩ := lexed.lexes .start
  rw [← spelled] at cut
  exact Expr.read_of_reads cut same reads

/-- Expressions in parentheses are read as they are alone. -/
theorem read_enclosed {text₁ text₂ : String} {e₁ e₂ : Expr String}
    (read₁ : Expr.read 0 text₁ = .ok e₁) (read₂ : Expr.read 0 text₂ = .ok e₂) :
    Expr.read 0 ("(" ++ text₁ ++ ") and (" ++ text₂ ++ ")") = .ok (.and e₁ e₂) ∧
    Expr.read 0 ("(" ++ text₁ ++ ") or (" ++ text₂ ++ ")") = .ok (.or e₁ e₂) ∧
    (∀ e, e₁ = .not e → Expr.read 0 ("not (" ++ text₁ ++ ")") = .ok e) ∧
    ((∀ e, e₁ ≠ .not e) → Expr.read 0 ("not (" ++ text₁ ++ ")") = .ok (.not e₁)) := by
  obtain ⟨inner₁, lexed₁, encloses₁⟩ := exists_encloses_of_read read₁
  obtain ⟨inner₂, lexed₂, encloses₂⟩ := exists_encloses_of_read read₂
  have andWord : Lexed ['a', 'n', 'd'] [.word "and", .finish] := .token rfl rfl .nil
  have orWord : Lexed ['o', 'r'] [.word "or", .finish] := .token rfl rfl .nil
  have negation : Expr.read 0 ("not (" ++ text₁ ++ ")") = .ok (Reader.negated e₁) := by
    refine (Lexed.not_word.append_one (.space _)
      (.blank rfl (lexed₁.enclosed .nil))).read (by simp) (Reader.reads_not encloses₁ ?_)
    simp only [Reader.stepsFor, List.length_append, List.length_cons, List.length_nil]
    omega
  refine ⟨?_, ?_, ?_, ?_⟩
  · refine (lexed₁.joined lexed₂ andWord).read (by simp) (Reader.reads_and encloses₁ encloses₂ ?_)
    simp only [Reader.stepsFor, List.length_append, List.length_cons, List.length_nil]
    omega
  · refine (lexed₁.joined lexed₂ orWord).read (by simp) (Reader.reads_or encloses₁ encloses₂ ?_)
    simp only [Reader.stepsFor, List.length_append, List.length_cons, List.length_nil]
    omega
  · rintro e rfl
    exact negation
  · intro single
    have same : Reader.negated e₁ = .not e₁ := by
      cases e₁ with
      | not e => exact absurd rfl (single e)
      | test | and | or | quantified => rfl
    rw [negation, same]

/-- A negation in parentheses, and a quantified expression whose braces hold an `or`. -/
theorem read_enclosed_negation : ∃ e₁ e₂,
    Expr.read 0 "not a.b == 1" = .ok (.not e₁) ∧
    Expr.read 0 "any xs as x \x7b x == \")\" or x is empty \x7d" = .ok e₂ ∧
    Expr.read 0 "(not a.b == 1) and (any xs as x \x7b x == \")\" or x is empty \x7d)" =
      .ok (.and (.not e₁) e₂) ∧
    Expr.read 0 "not (not a.b == 1)" = .ok e₁ ∧
    Expr.read 0 "not (any xs as x \x7b x == \")\" or x is empty \x7d)" = .ok (.not e₂) := by
  obtain ⟨e₁, read₁⟩ : ∃ e₁, Expr.read 0 "not a.b == 1" = .ok (.not e₁) := ⟨_, by cbv⟩
  obtain ⟨selector, binding, body, read₂⟩ : ∃ selector binding body,
      Expr.read 0 "any xs as x \x7b x == \")\" or x is empty \x7d" =
        .ok (.quantified .any selector binding body) := ⟨_, _, _, by cbv⟩
  obtain ⟨both, -, double, -⟩ := read_enclosed read₁ read₂
  obtain ⟨-, -, -, single⟩ := read_enclosed read₂ read₁
  exact ⟨e₁, _, read₁, read₂, both, double e₁ rfl, single fun _ same => by cases same⟩

end Sift
