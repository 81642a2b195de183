import Mathlib
import Sift.Proofs.Grammar.Counting
import Sift.Proofs.Grammar.Enclosed

/-!
# Membership from either side

A membership test can start with its literal (`1 in a.b`) or with its selector (`a.b contains 1`). What
stands on a side is read by two readers, then: in front of the operator as an operand that is not known
to be a literal or a selector yet, behind it as the one or the other. Each of them makes the same of a
side as the other does, and so both forms are the same test, or neither is one (`memberships_alike`).

Words are keywords only where the grammar asks for them, so a side can be any of them but `not` in front:
`any` and `all` do not open a quantifier before the word of an operator or in the middle of a path.
-/

namespace Sift

namespace Reader

/-! ## Sides -/

/-- What can stand on a side of a membership test. -/
inductive Side where
  | path (first : String) (others : List PathStep)
  | string (s : String)
  | raw (s : String)
  | number (s : String)
deriving DecidableEq, Repr

namespace Side

/-- The tokens of a side. -/
def tokens : Side → List Token
  | path first others => .word first :: others.flatMap PathStep.tokens
  | string s => [.string s]
  | raw s => [.raw s]
  | number s => [.number s]

/-- What a side is in front of an operator. -/
def operand : Side → Operand
  | path first others => .path (first :: others.map PathStep.segment)
  | string s => .string s
  | raw s => .raw s
  | number s => .number s

/-- A text is cut into the tokens of a side. -/
def IsWritten (side : Side) (text : String) : Prop :=
  ∃ spanned, Sift.tokens text = .ok spanned ∧ spanned.map (·.token) = side.tokens ++ [.finish]

/-- The side does not start with the word that negates. -/
def Free (side : Side) : Prop := side.tokens.head? ≠ some (.word "not")

instance (side : Side) : Decidable side.Free := inferInstanceAs (Decidable (_ ≠ _))

theorem length_others_lt {first : String} {others : List PathStep} {steps : Nat}
    (enough : (path first others).tokens.length ≤ steps) : others.length < steps := by
  have short : others.length ≤ (others.flatMap PathStep.tokens).length := by
    rw [List.length_flatMap]
    refine le_trans ?_ (List.length_le_sum_of_one_le _ ?_)
    · rw [List.length_map]
    · intro n inside
      obtain ⟨step, -, rfl⟩ := List.mem_map.mp inside
      cases step <;> simp [PathStep.tokens]
  simp only [tokens, List.length_cons] at enough
  omega

end Side

variable {side value chosen : Side} {next : Token} {rest behind : List Token} {steps limit : Nat}
  {e : Expr String} {s : Selector}

/-! ## Reading a side -/

/-- Each reader of a side goes through a path in the same way. -/
theorem reads_path_side {α : Type} {f : List String → Reader α} {a : α} {first : String}
    {others : List PathStep} (ends : EndsPath next)
    (enough : (Side.path first others).tokens.length ≤ steps)
    (made : Reads (f (first :: others.map PathStep.segment)) (next :: rest) a behind) :
    Reads (Reader.advance >>= fun _ => pathRest steps [first] >>= f)
      ((Side.path first others).tokens ++ next :: rest) a behind :=
  (Reads.pass (by simp)).bind
    ((reads_steps ends others [first] (Side.length_others_lt enough)).bind made)

theorem reads_operand_side (ends : EndsPath next) (enough : side.tokens.length ≤ steps) :
    Reads (operand steps) (side.tokens ++ next :: rest) side.operand (next :: rest) := by
  cases side with
  | path first others =>
    exact Reads.token.bind (reads_path_side ends enough (.pure _))
  | string s | raw s | number s => exact Reads.token.bind (Reads.advance.bind (.pure _))

/-- Where a literal is asked for, a side is the literal that its operand would be. -/
theorem reads_literal_side (ends : EndsPath next) (enough : side.tokens.length ≤ steps) :
    Reads (literal steps) (side.tokens ++ next :: rest) side.operand.literal (next :: rest) := by
  cases side with
  | path first others =>
    exact Reads.token.bind (reads_path_side ends enough (.pure _))
  | string s | raw s | number s => exact Reads.token.bind (Reads.advance.bind (.pure _))

/-- Where a selector is asked for, a side is the selector that its operand would be. -/
theorem reads_selector_side (selects : side.operand.selector? = some s) (ends : EndsPath next)
    (enough : side.tokens.length ≤ steps) :
    Reads (selector steps) (side.tokens ++ next :: rest) s (next :: rest) := by
  cases side with
  | path first others =>
    cases selects
    exact Reads.token.bind (reads_path_side ends enough (.pure _))
  | string text =>
    obtain ⟨path, decoded, rfl⟩ := Option.map_eq_some_iff.mp selects
    refine Reads.token.bind ?_
    simp only [decoded]
    exact Reads.advance.bind (.pure _)
  | raw | number => cases selects

/-- A side that would be no selector in front of an operator is none behind it, either. -/
theorem not_goes_selector_side (none : side.operand.selector? = none) :
    ¬ Goes (selector steps) (side.tokens ++ next :: rest) s behind := by
  intro goes
  cases side with
  | path => cases none
  | string text =>
    have looked := goes.of_token
    simp only [Option.map_eq_none_iff.mp none] at looked
    exact fails_malformed _ _ _ _ looked
  | raw | number => exact fails_malformed _ _ _ _ goes.of_token

theorem of_goes_steps {path whole : List String} {others : List PathStep} (ends : EndsPath next)
    (goes : Goes (pathRest steps path) (others.flatMap PathStep.tokens ++ next :: rest) whole behind) :
    whole = path ++ others.map PathStep.segment ∧ behind = next :: rest := by
  induction others generalizing path steps with
  | nil =>
    rw [List.map_nil, List.append_nil]
    exact of_goes_pathRest ends goes
  | cons step others ih =>
    cases steps with
    | zero => exact absurd goes (fails_unexpected _ _ _ _)
    | succ steps =>
      rw [List.map_cons, List.append_cons]
      cases step with
      | word s =>
        have looked := (goes.of_token.of_step (List.cons_ne_nil _ _)).of_token
        exact ih (looked.of_step (by simp))
      | string s | raw s =>
        have looked := (goes.of_token.of_step (List.cons_ne_nil _ _)).of_token
        have closed := (looked.of_step (List.cons_ne_nil _ _)).of_token
        rw [if_pos rfl] at closed
        exact ih (closed.of_step (by simp))

theorem of_goes_operand_side {op : Operand} (ends : EndsPath next)
    (goes : Goes (operand steps) (side.tokens ++ next :: rest) op behind) :
    op = side.operand ∧ behind = next :: rest := by
  cases side with
  | path first others =>
    obtain ⟨whole, middle, path, same⟩ := (goes.of_token.of_step (by simp)).of_bind
    obtain ⟨rfl, rfl⟩ := of_goes_steps ends path
    exact same.of_pure
  | string s | raw s | number s => exact (goes.of_token.of_step (List.cons_ne_nil _ _)).of_pure

/-! ## Memberships -/

/-- The operator of a membership test, or of its negation. -/
def membership (negated : Bool) : Operator := if negated then .notIn else .isIn

/-- The word that negates a membership, if it is negated. -/
def negation? (negated : Bool) : List Token := if negated then [.word "not"] else []

/-- The tokens of a membership test that starts with its literal. -/
def literalFirstTokens (negated : Bool) (value chosen : Side) (behind : List Token) : List Token :=
  value.tokens ++ (negation? negated ++ .word "in" :: (chosen.tokens ++ behind))

/-- The tokens of a membership test that starts with its selector. -/
def selectorFirstTokens (negated : Bool) (value chosen : Side) (behind : List Token) : List Token :=
  chosen.tokens ++ (negation? negated ++ .word "contains" :: (value.tokens ++ behind))

theorem reads_test_literalFirst (selects : chosen.operand.selector? = some s)
    (ends : EndsPath next) (negated : Bool) (valueEnough : value.tokens.length ≤ steps)
    (chosenEnough : chosen.tokens.length ≤ steps) :
    Reads (test 0 steps) (literalFirstTokens negated value chosen (next :: rest))
      (.test s (membership negated) (some value.operand.literal)) (next :: rest) := by
  have selector (operator : Operator) : Reads (literalFirst steps value.operand operator)
      (.word "in" :: (chosen.tokens ++ next :: rest))
      (.test s operator (some value.operand.literal)) (next :: rest) :=
    (Reads.pass (by simp)).bind ((reads_selector_side selects ends chosenEnough).bind (.pure _))
  rw [test_unlimited]
  refine Reads.bind (Reads.modified fun _ => rfl) ?_
  cases negated with
  | false =>
    refine (reads_operand_side (by decide) valueEnough).bind (Reads.token.bind ?_)
    exact selector .isIn
  | true =>
    refine (reads_operand_side (by decide) valueEnough).bind (Reads.token.bind ?_)
    exact Reads.advance.bind (Reads.token.bind (selector .notIn))

theorem reads_test_selectorFirst (selects : chosen.operand.selector? = some s)
    (ends : EndsPath next) (negated : Bool) (valueEnough : value.tokens.length ≤ steps)
    (chosenEnough : chosen.tokens.length ≤ steps) :
    Reads (test 0 steps) (selectorFirstTokens negated value chosen (next :: rest))
      (.test s (membership negated) (some value.operand.literal)) (next :: rest) := by
  have literal (operator : Operator) : Reads (selectorFirst steps chosen.operand operator)
      (.word "contains" :: (value.tokens ++ next :: rest))
      (.test s operator (some value.operand.literal)) (next :: rest) := by
    unfold selectorFirst
    simp only [selects]
    exact (Reads.pass (by simp)).bind ((reads_literal_side ends valueEnough).bind (.pure _))
  rw [test_unlimited]
  refine Reads.bind (Reads.modified fun _ => rfl) ?_
  cases negated with
  | false =>
    refine (reads_operand_side (by decide) chosenEnough).bind (Reads.token.bind ?_)
    exact literal .isIn
  | true =>
    refine (reads_operand_side (by decide) chosenEnough).bind (Reads.token.bind ?_)
    exact Reads.advance.bind (Reads.token.bind (literal .notIn))

/-- Neither a negation nor a quantifier nor a group starts here. -/
def OpensTest (tokens : List Token) : Prop :=
  ∃ t rest, tokens = t :: rest ∧ t ≠ .openParen ∧ t ≠ .word "not" ∧ quantifierAt t rest = none

/-- A side with the word of an operator behind it opens a test, whatever its words are elsewhere. -/
theorem opensTest_side (free : side.Free) {w : String} (isOperator : isOperatorWord w = true)
    (behind : List Token) : OpensTest (side.tokens ++ .word w :: behind) := by
  cases side with
  | string | raw | number => exact ⟨_, _, rfl, nofun, nofun, rfl⟩
  | path first others =>
    refine ⟨_, _, rfl, nofun, fun same => free (congrArg some same), quantifierAt_eq_none ?_⟩
    rcases others with - | ⟨step, others⟩
    · simpa [followsQuantifier] using isOperator
    · cases step <;> rfl

theorem opensTest_negation? (free : side.Free) (negated : Bool) {w : String}
    (isOperator : isOperatorWord w = true) (behind : List Token) :
    OpensTest (side.tokens ++ (negation? negated ++ .word w :: behind)) := by
  cases negated with
  | false => exact opensTest_side free isOperator behind
  | true => exact opensTest_side free (by decide) (.word w :: behind)

/-- A test that takes up all tokens is a whole expression. -/
theorem OpensTest.reads_whole {tokens : List Token} (opens : OpensTest tokens)
    (tested : Reads (test 0 steps) tokens e [.finish]) :
    Reads (whole 0 (steps + 4)) tokens e [.finish] := by
  obtain ⟨t, rest, rfl, noParen, notNot, none⟩ := opens
  refine (Reads.disjunction ?_ (by omega)).whole
  rw [conjunction]
  exact (reads_negation_of_test notNot none noParen tested).bind
    (reads_conjunctionRest_done (finish_ne_word "and") (by omega))

/-- Where a test opens, an expression is read only if a test is. -/
theorem OpensTest.exists_goes {tokens : List Token} (opens : OpensTest tokens)
    (goes : Goes (disjunction limit steps) tokens e behind) :
    ∃ steps e behind, Goes (test limit steps) tokens e behind := by
  obtain ⟨t, rest, rfl, noParen, notNot, none⟩ := opens
  obtain ⟨_, first, middle, goesFirst, -⟩ := of_goes_disjunction goes
  obtain ⟨steps, -, tight⟩ := of_goes_negation notNot goesFirst
  have goesOn := tight none
  cases steps with
  | zero => exact absurd goesOn (fails_unexpected _ _ _ _)
  | succ steps =>
    rw [primary] at goesOn
    have looked := goesOn.of_token
    rw [if_neg noParen] at looked
    exact ⟨steps, first, middle, looked⟩

/-! ## Sides that are no selector -/

/-- Behind its first operand a test goes on with what stands there, or it has been one too many. -/
theorem of_goes_test_side (ends : EndsPath next)
    (goes : Goes (test limit steps) (side.tokens ++ next :: rest) e behind) :
    (next = .word "in" → Goes (literalFirst steps side.operand .isIn) (next :: rest) e behind) ∧
      (next = .word "contains" →
        Goes (selectorFirst steps side.operand .isIn) (next :: rest) e behind) ∧
      (next = .word "not" → Goes (negatedTest steps side.operand) (next :: rest) e behind) := by
  obtain ⟨s, counted⟩ := goes.of_counted.of_state
  dsimp only at counted
  split at counted
  · exact absurd counted ((fails_malformed _).bind _ _ _)
  · obtain ⟨op, _, read, goesOn⟩ := counted.of_bind
    obtain ⟨rfl, rfl⟩ := of_goes_operand_side ends read
    have looked := goesOn.of_token
    refine ⟨?_, ?_, ?_⟩
    all_goals
      rintro rfl
      exact looked

theorem not_goes_literalFirst (none : chosen.operand.selector? = none) {op : Operand}
    {operator : Operator} {t : Token} :
    ¬ Goes (literalFirst steps op operator) (t :: (chosen.tokens ++ next :: rest)) e behind := by
  intro goes
  obtain ⟨s, _, selects, -⟩ := (goes.of_step (by simp)).of_bind
  exact not_goes_selector_side none selects

theorem fails_selectorFirst {op : Operand} (none : op.selector? = none) (operator : Operator) :
    Fails (selectorFirst steps op operator) := by
  unfold selectorFirst
  simp only [none]
  exact fails_unexpected _

theorem not_goes_test_literalFirst (none : chosen.operand.selector? = none) (negated : Bool) :
    ¬ Goes (test limit steps) (literalFirstTokens negated value chosen (next :: rest)) e behind := by
  intro goes
  cases negated with
  | false => exact not_goes_literalFirst none ((of_goes_test_side (by decide) goes).1 rfl)
  | true =>
    have goesOn := (of_goes_test_side (by decide) goes).2.2 rfl
    exact not_goes_literalFirst none (goesOn.of_step (List.cons_ne_nil _ _)).of_token

theorem not_goes_test_selectorFirst (none : chosen.operand.selector? = none) (negated : Bool) :
    ¬ Goes (test limit steps) (selectorFirstTokens negated value chosen (next :: rest)) e behind := by
  intro goes
  cases negated with
  | false =>
    exact fails_selectorFirst none _ _ _ _ ((of_goes_test_side (by decide) goes).2.1 rfl)
  | true =>
    have goesOn := (of_goes_test_side (by decide) goes).2.2 rfl
    exact fails_selectorFirst none _ _ _ _ (goesOn.of_step (List.cons_ne_nil _ _)).of_token

end Reader

/-! ## Texts -/

/-- A text has one list of tokens. -/
theorem Lexed.unique {text : List Char} {read read' : List Token} (lexed : Lexed text read)
    (lexed' : Lexed text read') : read = read' := by
  obtain ⟨spanned, cut, rfl⟩ := lexed.lexes .start
  obtain ⟨spanned', cut', rfl⟩ := lexed'.lexes .start
  cases cut.symm.trans cut'
  rfl

/-- Words between two texts, with blanks around them. -/
theorem Lexed.between {first words second : List Char} {inner middle all : List Token}
    (lexed : Lexed first (inner ++ [.finish])) (spelled : Lexed words (middle ++ [.finish]))
    (lexed' : Lexed second all) :
    Lexed (first ++ ' ' :: (words ++ ' ' :: second)) (inner ++ (middle ++ all)) :=
  lexed.append (.space _) (.blank rfl (spelled.append (.space _) (.blank rfl lexed')))

open Reader

/-- A text that opens a test is read as nothing else than the test that its tokens make. -/
theorem read_eq_ok_of_test {text : String} {read : List Token} (lexed : Lexed text.toList read)
    (opens : OpensTest read) {made : Option (Expr String)}
    (reads : ∀ e, made = some e → e.testCount = 1 ∧
      ∀ steps, read.length ≤ steps → Reads (test 0 steps) read e [.finish])
    (fails : made = none → ∀ limit steps e behind, ¬ Goes (test limit steps) read e behind)
    {limit : Nat} {e : Expr String} : Expr.read limit text = .ok e ↔ made = some e := by
  cases made with
  | some e' =>
    obtain ⟨single, tested⟩ := reads e' rfl
    have filled : 0 < read.length := by
      obtain ⟨t, rest, rfl, -⟩ := opens
      exact Nat.succ_pos _
    have whole : Reads (whole 0 (stepsFor (read.length - 1))) read e' [.finish] := by
      have enough : stepsFor (read.length - 1) = stepsFor (read.length - 1) - 4 + 4 := by
        unfold stepsFor
        omega
      rw [enough]
      exact opens.reads_whole (tested _ (by unfold stepsFor; omega))
    have unlimited : Expr.read 0 text = .ok e' := lexed.read rfl whole
    have result : Expr.read limit text = .ok e' := Expr.read_limited.mpr ⟨unlimited, by omega⟩
    rw [result, Except.ok.injEq, Option.some.injEq]
  | none =>
    refine ⟨fun result => ?_, nofun⟩
    obtain ⟨read', steps, rest, lexed', goes⟩ := goes_of_read result
    cases lexed.unique lexed'
    obtain ⟨_, _, _, tested⟩ := opens.exists_goes goes
    exact absurd tested (fails rfl _ _ _ _)

section

variable {value chosen : Side} {valueText chosenText : String} {limit : Nat} {e : Expr String}

/-- The membership test of a literal and a selector, if the side that has to be a selector is one. -/
def Reader.Side.membership? (negated : Bool) (value chosen : Side) : Option (Expr String) :=
  chosen.operand.selector?.map fun s => .test s (membership negated) (some value.operand.literal)

theorem Reader.Side.IsWritten.lexed {side : Side} {text : String} (written : side.IsWritten text) :
    Lexed text.toList (side.tokens ++ [.finish]) := by
  obtain ⟨spanned, cut, same⟩ := written
  exact same ▸ Lexed.of_tokensFrom cut

/-- The words of a membership are cut into their tokens. -/
theorem lexed_words (negated : Bool) {w : String} (alone : Lexed w.toList [.word w, .finish]) :
    Lexed ((if negated then "not " else "") ++ w).toList
      (negation? negated ++ [.word w] ++ [.finish]) := by
  cases negated with
  | false => simpa [negation?] using alone
  | true =>
    have spelled : ("not " ++ w).toList = ['n', 'o', 't'] ++ ' ' :: w.toList := by simp
    simpa [negation?, spelled] using Lexed.not_word.append_one (.space _) (.blank rfl alone)

theorem read_literalFirst (valueWritten : value.IsWritten valueText)
    (chosenWritten : chosen.IsWritten chosenText) (free : value.Free) (negated : Bool) :
    Expr.read limit (valueText ++ (if negated then " not in " else " in ") ++ chosenText) = .ok e ↔
      Side.membership? negated value chosen = some e := by
  have lexed : Lexed (valueText ++ (if negated then " not in " else " in ") ++ chosenText).toList
      (literalFirstTokens negated value chosen [.finish]) := by
    have words := lexed_words negated (w := "in") (.token rfl rfl .nil)
    have joined := valueWritten.lexed.between words chosenWritten.lexed
    cases negated <;> simpa [literalFirstTokens, negation?] using joined
  refine read_eq_ok_of_test lexed (opensTest_negation? free negated rfl _) ?_ ?_
  · intro e made
    obtain ⟨s, selects, rfl⟩ := Option.map_eq_some_iff.mp made
    refine ⟨rfl, fun steps enough => ?_⟩
    simp only [literalFirstTokens, List.length_append, List.length_cons] at enough
    exact reads_test_literalFirst selects (by decide) negated (by omega) (by omega)
  · intro none limit steps e behind
    exact not_goes_test_literalFirst (Option.map_eq_none_iff.mp none) negated

theorem read_selectorFirst (valueWritten : value.IsWritten valueText)
    (chosenWritten : chosen.IsWritten chosenText) (free : chosen.Free) (negated : Bool) :
    Expr.read limit
        (chosenText ++ (if negated then " not contains " else " contains ") ++ valueText) = .ok e ↔
      Side.membership? negated value chosen = some e := by
  have lexed :
      Lexed (chosenText ++ (if negated then " not contains " else " contains ") ++ valueText).toList
        (selectorFirstTokens negated value chosen [.finish]) := by
    have words := lexed_words negated (w := "contains") (.token rfl rfl .nil)
    have joined := chosenWritten.lexed.between words valueWritten.lexed
    cases negated <;> simpa [selectorFirstTokens, negation?] using joined
  refine read_eq_ok_of_test lexed (opensTest_negation? free negated rfl _) ?_ ?_
  · intro e made
    obtain ⟨s, selects, rfl⟩ := Option.map_eq_some_iff.mp made
    refine ⟨rfl, fun steps enough => ?_⟩
    simp only [selectorFirstTokens, List.length_append, List.length_cons] at enough
    exact reads_test_selectorFirst selects (by decide) negated (by omega) (by omega)
  · intro none limit steps e behind
    exact not_goes_test_selectorFirst (Option.map_eq_none_iff.mp none) negated

/-- A membership test is read alike from either side, with any limit on tests: its literal in front of
`in` or behind `contains`, and its selector on the other side. If what stands for the selector is one,
both forms are the same test; otherwise neither is read. -/
theorem memberships_alike (valueWritten : value.IsWritten valueText)
    (chosenWritten : chosen.IsWritten chosenText) (valueFree : value.Free) (chosenFree : chosen.Free)
    (limit : Nat) :
    (∀ e, Expr.read limit (valueText ++ " in " ++ chosenText) = .ok e ↔
        Expr.read limit (chosenText ++ " contains " ++ valueText) = .ok e) ∧
      (∀ e, Expr.read limit (valueText ++ " not in " ++ chosenText) = .ok e ↔
        Expr.read limit (chosenText ++ " not contains " ++ valueText) = .ok e) ∧
      ∀ s, chosen.operand.selector? = some s →
        Expr.read limit (valueText ++ " in " ++ chosenText) =
            .ok (.test s .isIn (some value.operand.literal)) ∧
          Expr.read limit (valueText ++ " not in " ++ chosenText) =
            .ok (.test s .notIn (some value.operand.literal)) := by
  have literalFirst (negated : Bool) (e : Expr String) :=
    @read_literalFirst value chosen _ _ limit e valueWritten chosenWritten valueFree negated
  have selectorFirst (negated : Bool) (e : Expr String) :=
    @read_selectorFirst value chosen _ _ limit e valueWritten chosenWritten chosenFree negated
  refine ⟨fun e => (literalFirst false e).trans (selectorFirst false e).symm,
    fun e => (literalFirst true e).trans (selectorFirst true e).symm, fun s selects => ?_⟩
  have made (negated : Bool) : Side.membership? negated value chosen =
      some (.test s (membership negated) (some value.operand.literal)) := by
    rw [Side.membership?, selects, Option.map_some]
  exact ⟨(literalFirst false _).mpr (made false), (literalFirst true _).mpr (made true)⟩

end

/-- Sides made of words that are keywords elsewhere, with segments written in all three ways. -/
theorem memberships_alike_keywords :
    Expr.read 1 "any.in[`x y`] not in all[\"or\"]" =
        .ok (.test ⟨.words, ["all", "or"]⟩ .notIn (some "any.in.x y")) ∧
      Expr.read 1 "all[\"or\"] not contains any.in[`x y`]" =
        .ok (.test ⟨.words, ["all", "or"]⟩ .notIn (some "any.in.x y")) := by
  have value : (Side.path "any" [.word "in", .raw "x y"]).IsWritten "any.in[`x y`]" :=
    ⟨_, by cbv, by cbv⟩
  have chosen : (Side.path "all" [.string "or"]).IsWritten "all[\"or\"]" := ⟨_, by cbv, by cbv⟩
  obtain ⟨-, alike, reads⟩ := memberships_alike value chosen (by decide) (by decide) 1
  have literal : (Side.path "any" [.word "in", .raw "x y"]).operand.literal = "any.in.x y" := by cbv
  have read := (reads ⟨.words, ["all", "or"]⟩ rfl).2
  rw [literal] at read
  exact ⟨read, (alike _).mp read⟩

-- The word that negates is not free: behind an operator it is a path like any other.
example : (Expr.read 0 "a contains not").toBool = true ∧ (Expr.read 0 "not in a").toBool = false :=
  ⟨by cbv, by cbv⟩

end Sift
