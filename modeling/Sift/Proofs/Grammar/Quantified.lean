import Sift.Proofs.Grammar.Joined
import Sift.Proofs.Grammar.SideBySide

/-!
# Texts of quantified expressions

Put together from the texts of a selector, a binding and a body, the text of a quantified expression
(`Quantifier.over`) has their tokens between its own (`Lexed.of_over`). The body may be any text: if the
whole is read, what stands between the braces is an expression, and with parentheses around it the same
one (`Reader.of_goes_both`). For this the whole has to be read as a quantified expression at all: before
the word of an operator `any` and `all` are fields, but what is read then ends in front of the names of
the binding, and nothing goes on with those (`followsQuantifier_of_goes`). `read_dual` says what comes
of two such texts.
-/

namespace Sift

namespace Reader

/-- A reader takes up a whole text. -/
def ReadsAll {α : Type} (r : Reader α) (text : String) (a : α) : Prop :=
  ∃ spanned, tokens text = .ok spanned ∧ Goes r (spanned.map (·.token)) a [.finish]

variable {limit steps : Nat} {tokens behind rest : List Token} {t : Token} {e : Expr String}

/-! ## Parts of an expression -/

/-- No operand can be read from these tokens. -/
def NoOperand (tokens : List Token) : Prop :=
  ∀ limit steps e behind, ¬ Goes (negation limit steps) tokens e behind

/-- Nothing is joined to what has been read if no operand stands behind. -/
theorem of_goes_conjunctionRest {left : Expr String}
    (alone : t = .word "and" → rest ≠ [] ∧ NoOperand rest)
    (goes : Goes (conjunctionRest limit steps left) (t :: rest) e behind) :
    e = left ∧ behind = t :: rest := by
  cases steps with
  | zero => exact absurd goes (fails_unexpected _ _ _ _)
  | succ steps =>
    rw [conjunctionRest] at goes
    have looked := goes.of_atWord
    split at looked
    next isAnd =>
      obtain ⟨filled, none⟩ := alone (of_decide_eq_true isAnd)
      obtain ⟨_, _, operand, -⟩ := (looked.of_step filled).of_bind
      exact absurd operand (none _ _ _ _)
    next => exact looked.of_pure

theorem not_goes_conjunction (none : NoOperand tokens) :
    ¬ Goes (conjunction limit steps) tokens e behind := by
  intro goes
  cases steps with
  | zero => exact fails_unexpected _ _ _ _ goes
  | succ steps =>
    rw [conjunction] at goes
    obtain ⟨_, _, operand, -⟩ := goes.of_bind
    exact none _ _ _ _ operand

theorem of_goes_disjunctionRest {left : Expr String}
    (alone : t = .word "or" → rest ≠ [] ∧ NoOperand rest)
    (goes : Goes (disjunctionRest limit steps left) (t :: rest) e behind) :
    e = left ∧ behind = t :: rest := by
  cases steps with
  | zero => exact absurd goes (fails_unexpected _ _ _ _)
  | succ steps =>
    rw [disjunctionRest] at goes
    have looked := goes.of_atWord
    split at looked
    next isOr =>
      obtain ⟨filled, none⟩ := alone (of_decide_eq_true isOr)
      obtain ⟨_, _, operand, -⟩ := (looked.of_step filled).of_bind
      exact absurd operand (not_goes_conjunction none)
    next => exact looked.of_pure

/-- An expression is its first operand, unless a word behind it goes on with another one. -/
theorem of_goes_disjunction (goes : Goes (disjunction limit steps) tokens e behind) :
    ∃ steps first middle, Goes (negation limit steps) tokens first middle ∧
      ∀ t rest, middle = t :: rest →
        (t = .word "and" ∨ t = .word "or" → rest ≠ [] ∧ NoOperand rest) →
          e = first ∧ behind = middle := by
  cases steps with
  | zero => exact absurd goes (fails_unexpected _ _ _ _)
  | succ steps =>
    rw [disjunction] at goes
    obtain ⟨left, afterLeft, leftGoes, restGoes⟩ := goes.of_bind
    cases steps with
    | zero => exact absurd leftGoes (fails_unexpected _ _ _ _)
    | succ steps =>
      rw [conjunction] at leftGoes
      obtain ⟨first, middle, firstGoes, leftRest⟩ := leftGoes.of_bind
      refine ⟨steps, first, middle, firstGoes, ?_⟩
      rintro t rest rfl alone
      obtain ⟨rfl, rfl⟩ := of_goes_conjunctionRest (fun same => alone (.inl same)) leftRest
      exact of_goes_disjunctionRest (fun same => alone (.inr same)) restGoes

/-- Behind the word `not`, the negation of what is read there. -/
theorem of_goes_not (goes : Goes (negation limit steps) (.word "not" :: t :: tokens) e behind) :
    ∃ steps operand, Goes (negation limit steps) (t :: tokens) operand behind ∧
      e = negated operand := by
  cases steps with
  | zero => exact absurd goes (fails_unexpected _ _ _ _)
  | succ steps =>
    rw [negation] at goes
    have looked := (goes.of_atWord.of_step (List.cons_ne_nil _ _)).of_token
    split at looked
    · obtain ⟨operand, middle, read, same⟩ := looked.of_bind
      obtain ⟨rfl, rfl⟩ := same.of_pure
      exact ⟨steps, operand, read, rfl⟩
    · exact absurd looked (fails_unexpected _ _ _ _)

/-- What does not start with `not` goes on as a quantifier or as what binds more tightly. -/
theorem of_goes_negation (other : t ≠ .word "not")
    (goes : Goes (negation limit steps) (t :: tokens) e behind) :
    ∃ steps, (∀ quantifier, quantifierAt t tokens = some quantifier →
        Goes (quantified limit steps quantifier) (t :: tokens) e behind) ∧
      (quantifierAt t tokens = none → Goes (primary limit steps) (t :: tokens) e behind) := by
  cases steps with
  | zero => exact absurd goes (fails_unexpected _ _ _ _)
  | succ steps =>
    rw [negation] at goes
    have looked := goes.of_atWord
    rw [decide_eq_false other, if_neg Bool.false_ne_true] at looked
    have found := looked.of_quantifier?
    refine ⟨steps, fun quantifier isFound => ?_, fun isNone => ?_⟩
    · rw [isFound] at found
      exact found
    · rw [isNone] at found
      exact found

/-- A group is what stands between its parentheses. -/
theorem of_goes_group (goes : Goes (negation limit steps) (.openParen :: t :: tokens) e behind) :
    ∃ steps inner closed, Goes (disjunction limit steps) (t :: tokens) inner (.closeParen :: closed) ∧
      (closed ≠ [] → e = inner ∧ behind = closed) := by
  obtain ⟨steps, -, tight⟩ := of_goes_negation (by decide) goes
  have grouped := tight rfl
  cases steps with
  | zero => exact absurd grouped (fails_unexpected _ _ _ _)
  | succ steps =>
    rw [primary] at grouped
    have opened := grouped.of_token.of_step (List.cons_ne_nil _ _)
    obtain ⟨inner, middle, read, closes⟩ := opened.of_bind
    obtain ⟨last, closed, rfl⟩ := read.exists_cons
    have looked := closes.of_token
    split at looked
    · refine ⟨steps, inner, closed, read, fun filled => ?_⟩
      exact (looked.of_step filled).of_pure
    · exact absurd looked (fails_malformed _ _ _ _)
    · exact absurd looked (fails_unexpected _ _ _ _)

/-- What stands behind a selector in front of the word `as`, and behind a binding in front of a brace,
is not taken by them. -/
theorem of_goes_quantified {quantifier : Quantifier} {path names : List Token} {s : Selector}
    {b : Binding} {k : Nat} (selects : Goes (selector k) (path ++ [.finish]) s [.finish])
    (binds : Goes binding (names ++ [.finish]) b [.finish]) (filled : rest ≠ [])
    (goes : Goes (quantified limit steps quantifier)
      (t :: (path ++ .word "as" :: (names ++ .openBrace :: rest))) e behind) :
    ∃ steps body closed, Goes (disjunction limit steps) rest body (.closeBrace :: closed) ∧
      (closed ≠ [] → e = .quantified quantifier s b body ∧ behind = closed) := by
  cases steps with
  | zero => exact absurd goes (fails_unexpected _ _ _ _)
  | succ steps =>
    rw [quantified] at goes
    obtain ⟨s', behindPath, selects', goes⟩ := (goes.of_step (by simp)).of_bind
    have named : Tails.Closed ⟨.finish, [], .word "as", names ++ .openBrace :: rest⟩ :=
      ⟨.finish, (by decide : EndsPath (.word "as"))⟩
    obtain ⟨rfl, left, ends, rfl⟩ := agree_selector named k steps path _ _ _ _ selects selects'
    obtain rfl : left = [] := by simpa using ends
    obtain ⟨b', behindNames, binds', goes⟩ := (goes.of_expect (by simp)).2.of_bind
    have opened : Tails.Closed ⟨.finish, [], .openBrace, rest⟩ :=
      ⟨.finish, (by decide : EndsPath .openBrace)⟩
    obtain ⟨rfl, left, ends, rfl⟩ := agree_binding opened (by decide : Token.openBrace ≠ .comma) names _ _ _ _ binds binds'
    obtain rfl : left = [] := by simpa using ends
    obtain ⟨body, middle, read, closes⟩ := (goes.of_expect filled).2.of_bind
    obtain ⟨last, closed, rfl⟩ := read.exists_cons
    have looked := closes.of_token
    split at looked
    · refine ⟨steps, body, closed, read, fun filled => ?_⟩
      exact (looked.of_step filled).of_pure
    · exact absurd looked (fails_malformed _ _ _ _)
    · exact absurd looked (fails_unexpected _ _ _ _)

/-! ## What opens a quantifier -/

/-- A path ends where it does not go on. -/
theorem of_goes_pathRest {path whole : List String} (ends : EndsPath t)
    (goes : Goes (pathRest steps path) (t :: tokens) whole behind) :
    whole = path ∧ behind = t :: tokens := by
  cases steps with
  | zero => exact absurd goes (fails_unexpected _ _ _ _)
  | succ steps =>
    have looked := goes.of_token
    split at looked
    · exact absurd rfl ends.1
    · exact absurd rfl ends.2
    · exact looked.of_pure

/-- A path of one word is the word. -/
theorem of_goes_lone_word {α : Type} {w : String} {f : List String → α} {a : α} (ends : EndsPath t)
    (goes : Goes (do
      advance
      return f (← pathRest steps [w])) (.word w :: t :: tokens) a behind) :
    a = f [w] ∧ behind = t :: tokens := by
  obtain ⟨whole, middle, path, same⟩ := (goes.of_step (List.cons_ne_nil _ _)).of_bind
  obtain ⟨rfl, rfl⟩ := of_goes_pathRest ends path
  exact same.of_pure

/-- Nothing that stands inside or behind a binding starts an operand. -/
theorem noOperand_of_mark (mark : t = .comma ∨ t = .openBrace) : NoOperand (t :: rest) := by
  intro limit steps e behind goes
  have other : t ≠ .word "not" := by rcases mark with rfl | rfl <;> decide
  obtain ⟨steps, -, tight⟩ := of_goes_negation other goes
  have goes := tight (by rcases mark with rfl | rfl <;> rfl)
  cases steps with
  | zero => exact fails_unexpected _ _ _ _ goes
  | succ steps =>
    rw [primary] at goes
    have looked := goes.of_token
    rw [if_neg (by rcases mark with rfl | rfl <;> decide)] at looked
    obtain ⟨s, counted⟩ := looked.of_counted.of_state
    dsimp only at counted
    split at counted
    · exact (fails_malformed _).bind _ _ _ counted
    · obtain ⟨op, _, operand, -⟩ := counted.of_bind
      have first := operand.of_token
      rcases mark with rfl | rfl <;> exact fails_unexpected _ _ _ _ first

/-- A binding starts with a name or an underscore, and nothing behind that can be an operand. -/
theorem of_goes_binding (rest : List Token) {names : List Token} {b : Binding}
    (binds : Goes binding (names ++ [.finish]) b [.finish]) :
    ∃ first others, names = first :: others ∧ EndsPath first ∧ first ≠ .finish ∧
      NoOperand (others ++ .openBrace :: rest) := by
  cases names with
  | nil => exact absurd binds.of_token (fails_unexpected _ _ _ _)
  | cons first others =>
    have looked := binds.of_token
    have marks (second : others = [] ∨ ∃ more, others = .comma :: more) :
        NoOperand (others ++ .openBrace :: rest) := by
      rcases second with rfl | ⟨more, rfl⟩
      · exact noOperand_of_mark (.inr rfl)
      · exact noOperand_of_mark (.inl rfl)
    refine ⟨first, others, rfl, ?_⟩
    split at looked
    next name =>
      refine ⟨⟨nofun, nofun⟩, nofun, marks ?_⟩
      have behindName := looked.of_step (by simp)
      cases others with
      | nil => exact .inl rfl
      | cons second more =>
        by_cases comma : second = .comma
        · exact .inr ⟨more, by rw [comma]⟩
        · have ended := behindName.of_token
          rw [if_neg comma] at ended
          have tooMany := congrArg List.length ended.of_pure.2
          simp at tooMany
    next =>
      refine ⟨⟨nofun, nofun⟩, nofun, marks ?_⟩
      have behindMark := looked.of_step (by simp)
      cases others with
      | nil => exact absurd behindMark.eq_of_expect nofun
      | cons second more => exact .inr ⟨more, by rw [behindMark.eq_of_expect]⟩
    next => exact absurd looked (fails_unexpected _ _ _ _)

/-- What stands behind an operator word that a selector starts with: nothing of the selector, or a
mark that cannot stand behind an operator. -/
inductive BehindOperator (names : List Token) : List Token → Prop
  | word : BehindOperator names (.word "as" :: names)
  | mark {t : Token} {rest : List Token} : t = .dot ∨ t = .openBracket →
    BehindOperator names (t :: rest)

section

variable {names : List Token} {q w : String}

theorem BehindOperator.ne_nil (after : BehindOperator names tokens) : tokens ≠ [] := by
  cases after <;> exact List.cons_ne_nil _ _

/-- No word of a test but `as` stands there, and that is none. -/
theorem BehindOperator.ne_word {v : String} (after : BehindOperator names (t :: rest))
    (other : v ≠ "as") : t ≠ .word v := by
  rintro rfl
  cases after with
  | word => exact other rfl
  | mark goesOn => rcases goesOn with same | same <;> cases same

theorem of_goes_selector_behind {s : Selector}
    (starts : ∃ first others, names = first :: others ∧ EndsPath first)
    (after : BehindOperator names tokens) (goes : Goes (selector steps) tokens s behind) :
    behind = names := by
  cases after with
  | word =>
    obtain ⟨first, others, rfl, ends⟩ := starts
    exact (of_goes_lone_word ends goes.of_token).2
  | mark goesOn =>
    have looked := goes.of_token
    rcases goesOn with rfl | rfl <;> exact absurd looked (fails_malformed _ _ _ _)

theorem of_goes_literal_behind {value : String}
    (starts : ∃ first others, names = first :: others ∧ EndsPath first)
    (after : BehindOperator names tokens) (goes : Goes (literal steps) tokens value behind) :
    behind = names := by
  cases after with
  | word =>
    obtain ⟨first, others, rfl, ends⟩ := starts
    exact (of_goes_lone_word ends goes.of_token).2
  | mark goesOn =>
    have looked := goes.of_token
    rcases goesOn with rfl | rfl <;> exact absurd looked (fails_unexpected _ _ _ _)

/-- The word `any` or `all` in front of an operator is read as a field, and the selector behind it ends
in front of the binding. -/
theorem of_goes_test_operator (isOperator : isOperatorWord w = true)
    (starts : ∃ first others, names = first :: others ∧ EndsPath first)
    (after : BehindOperator names tokens)
    (goes : Goes (test limit steps) (.word q :: .word w :: tokens) e behind) : behind = names := by
  obtain ⟨s, counted⟩ := goes.of_counted.of_state
  dsimp only at counted
  split at counted
  · exact absurd counted ((fails_malformed _).bind _ _ _)
  obtain ⟨op, _, operand, goes⟩ := counted.of_bind
  have ends : EndsPath (.word w) := ⟨nofun, nofun⟩
  obtain ⟨rfl, rfl⟩ := of_goes_lone_word ends operand.of_token
  have membership {operator : Operator}
      (goes : Goes (literalFirst steps (.path [q]) operator) (.word w :: tokens) e behind) :
      behind = names := by
    obtain ⟨selector, middle, selects, same⟩ := (goes.of_step after.ne_nil).of_bind
    obtain ⟨-, rfl⟩ := same.of_pure
    exact of_goes_selector_behind starts after selects
  have comparison {operator : Operator}
      (goes : Goes (selectorFirst steps (.path [q]) operator) (.word w :: tokens) e behind) :
      behind = names := by
    obtain ⟨value, middle, reads, same⟩ := (goes.of_step after.ne_nil).of_bind
    obtain ⟨-, rfl⟩ := same.of_pure
    exact of_goes_literal_behind starts after reads
  obtain ⟨t, rest, rfl⟩ := List.exists_cons_of_ne_nil after.ne_nil
  have looked := goes.of_token
  have listed : w = "in" ∨ w = "not" ∨ w = "contains" ∨ w = "is" ∨ w = "matches" := by
    simpa [isOperatorWord] using isOperator
  rcases listed with rfl | rfl | rfl | rfl | rfl
  · exact membership looked
  · have next := (looked.of_step after.ne_nil).of_token
    split at next
    · exact absurd rfl (after.ne_word (by decide))
    · exact absurd rfl (after.ne_word (by decide))
    · exact absurd rfl (after.ne_word (by decide))
    · exact absurd next (fails_unexpected _ _ _ _)
  · exact comparison looked
  · have next := (looked.of_step after.ne_nil).of_atWord
    rw [decide_eq_false (after.ne_word (by decide))] at next
    exact absurd next.eq_of_expect (after.ne_word (by decide))
  · exact comparison looked

end

/-! ## Whole texts -/

section

variable {k : Nat} {path names : List Token} {s : Selector} {b : Binding} {quantifier : Quantifier}

theorem quantifierAt_of_follows (quantifier : Quantifier)
    (follows : followsQuantifier tokens = true) :
    quantifierAt (.word quantifier.written) tokens = some quantifier := by
  unfold quantifierAt
  rw [follows]
  cases quantifier <;> rfl

theorem quantifierAt_of_not_follows (follows : followsQuantifier tokens = false) :
    quantifierAt t tokens = none := by
  unfold quantifierAt
  rw [follows]
  split <;> first | rfl | contradiction

/-- What follows a quantifier does so whatever stands behind. -/
theorem followsQuantifier_append (follows : followsQuantifier tokens = true) (more : List Token) :
    followsQuantifier (tokens ++ more) = true := by
  cases tokens with
  | nil => cases follows
  | cons t tokens => cases t <;> exact follows

/-- A selector that no quantifier can stand in front of starts with the word of an operator. -/
theorem of_not_follows (selects : Goes (selector k) (path ++ [.finish]) s [.finish])
    (follows : followsQuantifier path = false) (names : List Token) :
    ∃ w others, path = .word w :: others ∧ isOperatorWord w = true ∧
      ∀ rest, BehindOperator (names ++ rest) (others ++ .word "as" :: (names ++ rest)) := by
  cases path with
  | nil => exact absurd selects.of_token (fails_malformed _ _ _ _)
  | cons first others =>
    cases first with
    | word w =>
      refine ⟨w, others, rfl, by simpa [followsQuantifier] using follows, fun rest => ?_⟩
      obtain ⟨whole, middle, goesOn, same⟩ := (selects.of_token.of_step (by simp)).of_bind
      obtain ⟨-, rfl⟩ := same.of_pure
      cases others with
      | nil => exact .word
      | cons t others =>
        by_cases ends : EndsPath t
        · have tooMany := congrArg List.length (of_goes_pathRest ends goesOn).2
          simp at tooMany
        · exact .mark (Decidable.or_iff_not_not_and_not.mpr ends)
    | string => cases follows
    | _ => exact absurd selects.of_token (fails_malformed _ _ _ _)

/-- If a text of the form of a quantified expression is read at all, it starts with a quantifier: the
names of a binding are no operand of anything. -/
theorem followsQuantifier_of_goes (selects : Goes (selector k) (path ++ [.finish]) s [.finish])
    (binds : Goes binding (names ++ [.finish]) b [.finish])
    (goes : Goes (disjunction limit steps) (.word quantifier.written ::
      (path ++ .word "as" :: (names ++ .openBrace :: rest))) e (.finish :: behind)) :
    followsQuantifier path = true := by
  refine eq_true_of_ne_false fun follows => ?_
  obtain ⟨w, others, rfl, isOperator, after⟩ := of_not_follows selects follows names
  obtain ⟨name, more, rfl, ends, solid, none⟩ := of_goes_binding rest binds
  obtain ⟨steps, first, middle, negated, alone⟩ := of_goes_disjunction goes
  obtain ⟨steps, -, tight⟩ := of_goes_negation (by cases quantifier <;> decide) negated
  have tested := tight (quantifierAt_of_not_follows (congrArg not isOperator))
  cases steps with
  | zero => exact fails_unexpected _ _ _ _ tested
  | succ steps =>
    rw [primary] at tested
    have looked := tested.of_token
    rw [if_neg (by simp)] at looked
    obtain rfl := of_goes_test_operator isOperator ⟨name, _, rfl, ends⟩ (after _) looked
    have stops := (alone name _ rfl fun _ => ⟨by simp, none⟩).2
    exact solid (List.cons_eq_cons.mp stops).1.symm

theorem of_goes_whole (goes : Goes (whole limit steps) tokens e behind) :
    ∃ rest, Goes (disjunction limit steps) tokens e (.finish :: rest) := by
  obtain ⟨e', middle, read, last⟩ := goes.of_bind
  obtain ⟨t, rest, rfl⟩ := read.exists_cons
  have looked := last.of_token
  split at looked
  next isLast =>
    obtain ⟨rfl, -⟩ := looked.of_pure
    exact ⟨rest, isLast ▸ read⟩
  next => exact absurd looked (fails_unexpected _ _ _ _)

/-- Where a quantifier stands, the quantified expression is read, its braces around tokens of their
own. -/
theorem of_goes_over (selects : Goes (selector k) (path ++ [.finish]) s [.finish])
    (binds : Goes binding (names ++ [.finish]) b [.finish])
    (follows : followsQuantifier path = true) (filled : rest ≠ [])
    (goes : Goes (negation limit steps) (.word quantifier.written ::
      (path ++ .word "as" :: (names ++ .openBrace :: rest))) e behind) :
    ∃ steps body closed, Goes (disjunction limit steps) rest body (.closeBrace :: closed) ∧
      (closed ≠ [] → e = .quantified quantifier s b body ∧ behind = closed) := by
  obtain ⟨steps, quantified, -⟩ := of_goes_negation (by cases quantifier <;> decide) goes
  exact of_goes_quantified selects binds filled
    (quantified quantifier (quantifierAt_of_follows quantifier (followsQuantifier_append follows _)))

/-- A body between braces is the same one in a negated group between braces. -/
theorem of_goes_negated_group {limit' steps' : Nat} {body : List Token} {inner e' : Expr String}
    {closed closed' : List Token}
    (goes : Goes (disjunction limit steps) (body ++ [.closeBrace, .finish]) inner
      (.closeBrace :: closed))
    (goes' : Goes (disjunction limit' steps')
      (.word "not" :: .openParen :: (body ++ [.closeParen, .closeBrace, .finish])) e'
      (.closeBrace :: closed')) :
    closed = [.finish] ∧ closed' = [.finish] ∧ e' = negated inner := by
  obtain ⟨_, first, middle, negation, alone⟩ := of_goes_disjunction goes'
  obtain ⟨_, operand, group, rfl⟩ := of_goes_not negation
  obtain ⟨first, others, here⟩ :=
    List.exists_cons_of_ne_nil (l := body ++ [.closeParen, .closeBrace, .finish]) (by simp)
  rw [here] at group
  obtain ⟨_, inner', ended, read, isGroup⟩ := of_goes_group group
  rw [← here] at read
  obtain ⟨rfl, rfl, rfl⟩ := agree_disjunction goes read
  obtain ⟨rfl, rfl⟩ := isGroup (List.cons_ne_nil _ _)
  obtain ⟨rfl, same⟩ := alone .closeBrace [.finish] rfl nofun
  exact ⟨rfl, (List.cons_eq_cons.mp same).2, rfl⟩

/-- The same body, read behind a quantifier and, negated as a group, behind a negated one. -/
theorem of_goes_both {limit' steps' : Nat} {quantifier quantifier' : Quantifier} {body : List Token}
    {e' : Expr String} {behind' : List Token}
    (selects : Goes (selector k) (path ++ [.finish]) s [.finish])
    (binds : Goes binding (names ++ [.finish]) b [.finish])
    (goes : Goes (disjunction limit steps) (.word quantifier.written ::
      (path ++ .word "as" :: (names ++ .openBrace :: (body ++ [.closeBrace, .finish])))) e
      (.finish :: behind))
    (goes' : Goes (disjunction limit' steps') (.word "not" :: .word quantifier'.written ::
      (path ++ .word "as" :: (names ++ .openBrace :: .word "not" :: .openParen ::
        (body ++ [.closeParen, .closeBrace, .finish])))) e' (.finish :: behind')) :
    ∃ inner, e = .quantified quantifier s b inner ∧
      e' = .not (.quantified quantifier' s b (negated inner)) := by
  have follows := followsQuantifier_of_goes selects binds goes
  obtain ⟨_, first, middle, quantified, alone⟩ := of_goes_disjunction goes
  obtain ⟨_, inner, closed, read, isQuantified⟩ :=
    of_goes_over selects binds follows (by simp) quantified
  obtain ⟨_, first', middle', negation, alone'⟩ := of_goes_disjunction goes'
  obtain ⟨_, operand, quantified', rfl⟩ := of_goes_not negation
  obtain ⟨_, inner', closed', read', isQuantified'⟩ :=
    of_goes_over selects binds follows (by simp) quantified'
  obtain ⟨rfl, rfl, rfl⟩ := of_goes_negated_group read read'
  obtain ⟨rfl, rfl⟩ := isQuantified (List.cons_ne_nil _ _)
  obtain ⟨rfl, rfl⟩ := isQuantified' (List.cons_ne_nil _ _)
  exact ⟨inner, (alone .finish [] rfl nofun).1, (alone' .finish [] rfl nofun).1⟩

end

end Reader

/-! ## Whole texts -/

/-- The text of a quantified expression, put together from those of its parts. -/
def Quantifier.over (quantifier : Quantifier) (selector binding body : String) : String :=
  quantifier.written ++ " " ++ selector ++ " as " ++ binding ++ " \x7b " ++ body ++ " \x7d"

namespace Lexed

variable {text behind : List Char} {front all : List Token}

/-- What stands in front of a blank is cut as it is alone. -/
theorem split_space (lexed : Lexed text (front ++ [.finish]))
    (whole : Lexed (text ++ ' ' :: behind) all) :
    ∃ others, Lexed behind others ∧ all = front ++ others := by
  obtain ⟨others, spaced, rfl⟩ := lexed.split (.space behind) whole
  exact ⟨others, spaced.of_blank rfl, rfl⟩

/-- A word or a mark in front of a blank is one token. -/
theorem split_one {t : Token} (lexed : Lexed text [t, .finish])
    (whole : Lexed (text ++ ' ' :: behind) all) :
    ∃ others, Lexed behind others ∧ all = t :: others :=
  @split_space text behind [t] all lexed whole

theorem eq_of_finish {t : Token} {c : Char} (solid : Scan.isBlank c = false)
    (scanned : scan c [] = .token t 0) (lexed : Lexed [c] all) : all = [t, .finish] := by
  obtain ⟨others, rfl, last⟩ := lexed.of_token solid scanned
  cases last
  rfl

theorem written (quantifier : Quantifier) :
    Lexed quantifier.written.toList [.word quantifier.written, .finish] := by
  cases quantifier <;> exact .token rfl rfl .nil

theorem as_word : Lexed ['a', 's'] [.word "as", .finish] := .token rfl rfl .nil

theorem not_word : Lexed ['n', 'o', 't'] [.word "not", .finish] := .token rfl rfl .nil

theorem openBrace : Lexed ['\x7b'] [.openBrace, .finish] := .token rfl rfl .nil

/-- The tokens of a quantified expression are those of its parts. -/
theorem of_over {quantifier : Quantifier} {selector binding body : String}
    {path names : List Token} (selected : Lexed selector.toList (path ++ [.finish]))
    (bound : Lexed binding.toList (names ++ [.finish]))
    (whole : Lexed (quantifier.over selector binding body).toList all) :
    ∃ inner, Lexed body.toList (inner ++ [.finish]) ∧ all = .word quantifier.written ::
      (path ++ .word "as" :: (names ++ .openBrace :: (inner ++ [.closeBrace, .finish]))) := by
  have spelled : (quantifier.over selector binding body).toList = quantifier.written.toList ++
      ' ' :: (selector.toList ++ ' ' :: (['a', 's'] ++ ' ' :: (binding.toList ++
        ' ' :: (['\x7b'] ++ ' ' :: (body.toList ++ [' ', '\x7d']))))) := by
    simp [Quantifier.over]
  rw [spelled] at whole
  obtain ⟨_, fromSelector, rfl⟩ := (written quantifier).split_one whole
  obtain ⟨_, fromAs, rfl⟩ := selected.split_space fromSelector
  obtain ⟨_, fromBinding, rfl⟩ := as_word.split_one fromAs
  obtain ⟨_, fromBrace, rfl⟩ := bound.split_space fromBinding
  obtain ⟨_, fromBody, rfl⟩ := openBrace.split_one fromBrace
  obtain ⟨inner, alone⟩ := fromBody.of_append (.space _) (by simp)
  obtain ⟨_, last, rfl⟩ := alone.split_space fromBody
  obtain rfl := eq_of_finish rfl rfl last
  exact ⟨inner, alone, rfl⟩

/-- The tokens of a negated group are those of what stands in its parentheses. -/
theorem of_negated_group {body : String} {inner : List Token}
    (lexed : Lexed body.toList (inner ++ [.finish]))
    (whole : Lexed ("not (" ++ body ++ ")").toList all) :
    all = .word "not" :: .openParen :: (inner ++ [.closeParen, .finish]) := by
  have spelled : ("not (" ++ body ++ ")").toList =
      ['n', 'o', 't'] ++ ' ' :: '(' :: (body.toList ++ [')']) := by
    simp
  rw [spelled] at whole
  obtain ⟨_, fromGroup, rfl⟩ := not_word.split_one whole
  obtain ⟨_, rfl, fromBody⟩ := fromGroup.of_token rfl rfl
  obtain ⟨_, last, rfl⟩ := lexed.split (.paren _) fromBody
  obtain rfl := eq_of_finish rfl rfl last
  rfl

end Lexed

theorem Reader.ReadsAll.exists_tokens {α : Type} {r : Reader α} {text : String} {a : α}
    (reads : ReadsAll r text a) :
    ∃ front, Lexed text.toList (front ++ [.finish]) ∧ Goes r (front ++ [.finish]) a [.finish] := by
  obtain ⟨spanned, cut, goes⟩ := reads
  have lexed := Lexed.of_tokensFrom cut
  obtain ⟨front, same⟩ := lexed.exists_front
  rw [same] at lexed goes
  exact ⟨front, lexed, goes⟩

/-- A text that is read as an expression is one up to its last token. -/
theorem goes_of_read {limit : Nat} {text : String} {e : Expr String}
    (read : Expr.read limit text = .ok e) :
    ∃ tokens steps rest, Lexed text.toList tokens ∧
      Reader.Goes (Reader.disjunction limit steps) tokens e (.finish :: rest) := by
  obtain ⟨first, others, s', cut, ran⟩ := Expr.read_eq_ok.mp read
  have lexed := Lexed.of_tokensFrom cut
  have goes : Reader.Goes (Reader.whole limit (Reader.stepsFor others.length))
      ((first :: others).map (·.token)) e s'.tokens := ⟨_, s', rfl, ran, rfl⟩
  obtain ⟨rest, goesOn⟩ := Reader.of_goes_whole goes
  exact ⟨_, _, rest, lexed, goesOn⟩

/-- The texts of a quantified expression and of the negation of one with a negated body: if both are
read, they are about the same collection, names and body. -/
theorem read_dual {limit limit' k : Nat} {quantifier quantifier' : Quantifier}
    {selectorText bindingText body : String} {s : Selector} {b : Binding} {e e' : Expr String}
    (selects : (Reader.selector k).ReadsAll selectorText s)
    (binds : Reader.binding.ReadsAll bindingText b)
    (read : Expr.read limit (quantifier.over selectorText bindingText body) = .ok e)
    (read' : Expr.read limit'
      ("not " ++ quantifier'.over selectorText bindingText ("not (" ++ body ++ ")")) = .ok e') :
    ∃ inner, e = .quantified quantifier s b inner ∧
      e' = .not (.quantified quantifier' s b (Reader.negated inner)) := by
  obtain ⟨path, selected, goesPath⟩ := selects.exists_tokens
  obtain ⟨names, bound, goesNames⟩ := binds.exists_tokens
  obtain ⟨tokens, _, _, lexed, goes⟩ := goes_of_read read
  obtain ⟨tokens', _, _, lexed', goes'⟩ := goes_of_read read'
  obtain ⟨inner, alone, rfl⟩ := Lexed.of_over selected bound lexed
  have spelled : ("not " ++ quantifier'.over selectorText bindingText ("not (" ++ body ++ ")")).toList
      = ['n', 'o', 't'] ++ ' ' ::
        (quantifier'.over selectorText bindingText ("not (" ++ body ++ ")")).toList := by
    simp
  rw [spelled] at lexed'
  obtain ⟨_, operand, rfl⟩ := Lexed.not_word.split_one lexed'
  obtain ⟨inner', alone', rfl⟩ := Lexed.of_over selected bound operand
  have same := Lexed.of_negated_group alone alone'
  obtain rfl : inner' = .word "not" :: .openParen :: (inner ++ [.closeParen]) :=
    List.append_cancel_right (by simpa using same)
  simp only [List.cons_append, List.nil_append, List.append_assoc] at goes'
  exact Reader.of_goes_both goesPath goesNames goes goes'

end Sift
