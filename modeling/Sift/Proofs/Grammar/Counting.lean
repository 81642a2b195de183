import Sift.Proofs.Grammar.Forward

/-!
# Counting tests while reading

The reader counts a test when it starts on one, and by the end it has counted the tests of what it
built: `Counts` follows the count through every part of the reader. A limit is looked at where the
count grows and nowhere else, so a limited reader builds what an unlimited one builds as long as the
count stays within the limit, and nothing otherwise. `Limited` runs the two side by side.
-/

namespace Sift.Reader

/-! ## The count -/

/-- What the reader builds is worth `holds`, and to what was held before it adds as many as it
counts. -/
def Counts {α : Type} (held : Nat) (r : Reader α) (holds : α → Nat) : Prop :=
  ∀ s a s', r.run s = .ok a s' → s.counted ≤ s'.counted ∧ s'.counted + held = s.counted + holds a

namespace Counts

variable {α β : Type} {held : Nat} {holds : α → Nat} {worth : β → Nat}

theorem pure {a : α} (same : holds a = held) : Counts held (Pure.pure a) holds := by
  intro s a' s' run
  cases run
  exact ⟨Nat.le_refl _, by rw [same]⟩

theorem malformed (fault : Fault) : Counts held (Reader.malformed fault) holds :=
  fun _ _ _ run => nomatch run

theorem unexpected (expected : Expected) : Counts held (Reader.unexpected expected) holds :=
  fun _ _ _ run => nomatch run

theorem bind {r : Reader α} {f : α → Reader β} (first : Counts held r holds)
    (second : ∀ a, Counts (holds a) (f a) worth) : Counts held (r >>= f) worth := by
  intro s b s'' run
  simp only [EStateM.run_bind] at run
  split at run
  next a s' ran =>
    have here := first s a s' ran
    have behind := second a s' b s'' run
    omega
  next => cases run

/-- What is held besides changes nothing. -/
theorem besides {r : Reader α} (counts : Counts held r holds) (more : Nat) :
    Counts (more + held) r fun a => more + holds a := by
  intro s a s' run
  obtain ⟨grows, same⟩ := counts s a s' run
  exact ⟨grows, by rw [Nat.add_left_comm, same, Nat.add_left_comm]⟩

theorem token : Counts held Reader.token fun _ => held := by
  intro s t s' run
  cases run
  exact ⟨Nat.le_refl _, rfl⟩

theorem advance : Counts held Reader.advance fun _ => held := by
  rintro ⟨current, rest, counted⟩ a s' run
  cases rest with
  | nil =>
    cases run
    exact ⟨Nat.le_refl _, rfl⟩
  | cons next rest =>
    cases run
    exact ⟨Nat.le_refl _, rfl⟩

theorem atWord (w : String) : Counts held (Reader.atWord w) fun _ => held :=
  token.bind fun _ => pure rfl

theorem expect (t : Token) (expected : Expected) :
    Counts held (Reader.expect t expected) fun _ => held := by
  refine token.bind fun _ => ?_
  split
  · exact advance
  · exact unexpected expected

end Counts

/-! ## Parts that hold no test -/

section

variable {held : Nat}

theorem counts_pathRest (steps : Nat) (path : List String) :
    Counts held (pathRest steps path) fun _ => held := by
  induction steps generalizing path with
  | zero => exact .unexpected _
  | succ steps ih =>
    refine Counts.token.bind fun _ => ?_
    split
    · refine Counts.advance.bind fun _ => Counts.token.bind fun _ => ?_
      split
      · exact Counts.advance.bind fun _ => ih _
      · exact .unexpected _
    · have bracketed (key : String) : Counts held (do
          advance
          if (← Reader.token) = .closeBracket then
            advance
            pathRest steps (path ++ [key])
          else malformed .unclosedIndex : Reader (List String)) fun _ => held := by
        refine Counts.advance.bind fun _ => Counts.token.bind fun _ => ?_
        split
        · exact Counts.advance.bind fun _ => ih _
        · exact .malformed _
      refine Counts.advance.bind fun _ => Counts.token.bind fun _ => ?_
      split
      · exact bracketed _
      · exact bracketed _
      · exact .malformed _
    · exact .pure rfl

theorem counts_operand (steps : Nat) : Counts held (operand steps) fun _ => held := by
  refine Counts.token.bind fun _ => ?_
  split
  · exact Counts.advance.bind fun _ => (counts_pathRest _ _).bind fun _ => .pure rfl
  · exact Counts.advance.bind fun _ => .pure rfl
  · exact Counts.advance.bind fun _ => .pure rfl
  · exact Counts.advance.bind fun _ => .pure rfl
  · exact .unexpected _

theorem counts_literal (steps : Nat) : Counts held (literal steps) fun _ => held := by
  refine Counts.token.bind fun _ => ?_
  split
  · exact Counts.advance.bind fun _ => (counts_pathRest _ _).bind fun _ => .pure rfl
  · exact Counts.advance.bind fun _ => .pure rfl
  · exact Counts.advance.bind fun _ => .pure rfl
  · exact Counts.advance.bind fun _ => .pure rfl
  · exact .unexpected _

theorem counts_selector (steps : Nat) : Counts held (selector steps) fun _ => held := by
  refine Counts.token.bind fun _ => ?_
  split
  · exact Counts.advance.bind fun _ => (counts_pathRest _ _).bind fun _ => .pure rfl
  · split
    · exact Counts.advance.bind fun _ => .pure rfl
    · exact .malformed _
  · exact .malformed _

theorem counts_binding : Counts held binding fun _ => held := by
  refine Counts.token.bind fun _ => ?_
  split
  · refine Counts.advance.bind fun _ => Counts.token.bind fun _ => ?_
    split
    · refine Counts.advance.bind fun _ => Counts.token.bind fun _ => ?_
      split
      · exact Counts.advance.bind fun _ => .pure rfl
      · split
        · exact .malformed _
        · exact Counts.advance.bind fun _ => .pure rfl
      · exact .unexpected _
    · exact .pure rfl
  · refine Counts.advance.bind fun _ => (Counts.expect _ _).bind fun _ => ?_
    refine Counts.token.bind fun _ => ?_
    split
    · exact Counts.advance.bind fun _ => .pure rfl
    · exact .unexpected _
  · exact .unexpected _

theorem counts_quantifier? : Counts held quantifier? fun _ => held := by
  intro s found s' run
  rw [run_quantifier?] at run
  cases run
  exact ⟨Nat.le_refl _, rfl⟩

end

/-! ## Tests -/

section

variable {worth : Expr String → Nat}
  (ofTest : ∀ selector operator literal, worth (.test selector operator literal) = 1)

include ofTest

theorem counts_selectorFirst (steps : Nat) (op : Operand) (operator : Operator) :
    Counts 1 (selectorFirst steps op operator) worth := by
  unfold selectorFirst
  split
  · exact .unexpected _
  · exact Counts.advance.bind fun _ => (counts_literal steps).bind fun _ => .pure (ofTest ..)

theorem counts_literalFirst (steps : Nat) (op : Operand) (operator : Operator) :
    Counts 1 (literalFirst steps op operator) worth :=
  Counts.advance.bind fun _ => (counts_selector steps).bind fun _ => .pure (ofTest ..)

theorem counts_emptiness (op : Operand) : Counts 1 (emptiness op) worth := by
  unfold emptiness
  split
  · exact .unexpected _
  · refine Counts.advance.bind fun _ => (Counts.atWord _).bind fun negated => ?_
    dsimp only
    split
    · exact Counts.advance.bind fun _ => (Counts.expect _ _).bind fun _ => .pure (ofTest ..)
    · exact (Counts.expect _ _).bind fun _ => .pure (ofTest ..)

theorem counts_negatedTest (steps : Nat) (op : Operand) :
    Counts 1 (negatedTest steps op) worth := by
  refine Counts.advance.bind fun _ => Counts.token.bind fun _ => ?_
  split
  · exact counts_literalFirst ofTest steps op _
  · exact counts_selectorFirst ofTest steps op _
  · exact counts_selectorFirst ofTest steps op _
  · exact .unexpected _

/-- A test is counted once, before anything of it is read. -/
theorem counts_test (limit steps : Nat) : Counts 0 (test limit steps) worth := by
  have counted : Counts 0 (modify fun s : State => { s with counted := s.counted + 1 })
      fun _ => 1 := by
    intro s a s' run
    cases run
    exact ⟨Nat.le_succ _, rfl⟩
  have looked : Counts 1 (get : Reader State) fun _ => 1 := by
    intro s a s' run
    cases run
    exact ⟨Nat.le_refl _, rfl⟩
  refine counted.bind fun _ => looked.bind fun s => ?_
  dsimp only
  split
  · exact fun _ _ _ run => nomatch run
  · refine (counts_operand steps).bind fun op => Counts.token.bind fun _ => ?_
    split
    case h_7 => exact counts_literalFirst ofTest steps op _
    case h_10 => exact counts_emptiness ofTest op
    case h_11 => exact counts_negatedTest ofTest steps op
    case h_12 => exact .unexpected _
    all_goals exact counts_selectorFirst ofTest steps op _

end

/-! ## Limits -/

/-- The tests met so far are no more than the limit, zero meaning none. -/
def State.Within (limit : Nat) (s : State) : Prop := limit = 0 ∨ s.counted ≤ limit

/-- The limited reader succeeds where the unlimited one does and the count stays within the limit,
and builds the same. -/
structure Limited {α : Type} (limit held : Nat) (limited free : Reader α) (holds : α → Nat) :
    Prop where
  counts : Counts held free holds
  stops (s : State) (a : α) (s' : State) : s.Within limit →
    (limited.run s = .ok a s' ↔ free.run s = .ok a s' ∧ s'.Within limit)

theorem State.Within.of_le {limit : Nat} {s s' : State} (within : s'.Within limit)
    (grows : s.counted ≤ s'.counted) : s.Within limit :=
  within.imp_right (Nat.le_trans grows)

/-- A reader that looks at no limit and holds no test. -/
theorem Counts.limited {α : Type} {limit held : Nat} {r : Reader α}
    (counts : Counts held r fun _ => held) : Limited limit held r r fun _ => held where
  counts := counts
  stops s a s' within := by
    refine ⟨fun run => ⟨run, ?_⟩, And.left⟩
    rw [State.Within, Nat.add_right_cancel (counts s a s' run).2]
    exact within

namespace Limited

variable {α β : Type} {limit held : Nat} {holds : α → Nat} {worth : β → Nat}

theorem pure {a : α} (same : holds a = held) :
    Limited limit held (Pure.pure a) (Pure.pure a) holds where
  counts := .pure same
  stops s a' s' within := by
    refine ⟨fun run => ⟨run, ?_⟩, And.left⟩
    cases run
    exact within

theorem unexpected (expected : Expected) :
    Limited limit held (Reader.unexpected expected) (Reader.unexpected expected) holds where
  counts := .unexpected expected
  stops _ _ _ _ := ⟨nofun, nofun⟩

theorem malformed (fault : Fault) :
    Limited limit held (Reader.malformed fault) (Reader.malformed fault) holds where
  counts := .malformed fault
  stops _ _ _ _ := ⟨nofun, nofun⟩

theorem bind {r free : Reader α} {f g : α → Reader β} (first : Limited limit held r free holds)
    (second : ∀ a, Limited limit (holds a) (f a) (g a) worth) :
    Limited limit held (r >>= f) (free >>= g) worth where
  counts := first.counts.bind fun a => (second a).counts
  stops s b s'' within := by
    simp only [EStateM.run_bind]
    constructor
    · intro run
      split at run
      next a s' ran =>
        obtain ⟨freely, within'⟩ := (first.stops s a s' within).mp ran
        rw [freely]
        exact ((second a).stops s' b s'' within').mp run
      next => cases run
    · rintro ⟨run, within''⟩
      split at run
      next a s' ran =>
        -- The count never shrinks, so it was within the limit half-way, too.
        have within' := within''.of_le ((second a).counts s' b s'' run).1
        rw [(first.stops s a s' within).mpr ⟨ran, within'⟩]
        exact ((second a).stops s' b s'' within').mpr ⟨run, within''⟩
      next => cases run

theorem besides {r free : Reader α} (both : Limited limit held r free holds) (more : Nat) :
    Limited limit (more + held) r free fun a => more + holds a where
  counts := both.counts.besides more
  stops := both.stops

end Limited

/-- A test is read as without a limit, unless it is one too many. -/
theorem run_test (limit steps : Nat) (s : State) :
    (test limit steps).run s =
      if 0 < limit ∧ limit < s.counted + 1 then
        .error (.malformed ⟨s.current.start, .tooManyTests⟩) { s with counted := s.counted + 1 }
      else (test 0 steps).run s := by
  by_cases beyond : 0 < limit ∧ limit < s.counted + 1
  · rw [if_pos beyond]
    simp only [test, EStateM.run_bind, EStateM.run_modify, EStateM.run_get, if_pos beyond]
    rfl
  · rw [if_neg beyond]
    have fine : ¬(0 < 0 ∧ 0 < s.counted + 1) := fun both => Nat.lt_irrefl 0 both.1
    simp only [test, EStateM.run_bind, EStateM.run_modify, EStateM.run_get, if_neg beyond,
      if_neg fine]

theorem limited_test (limit steps : Nat) :
    Limited limit 0 (test limit steps) (test 0 steps) Expr.testCount where
  counts := counts_test (fun _ _ _ => rfl) 0 steps
  stops s e s' within := by
    have one : Counts 0 (test 0 steps) fun _ => 1 := counts_test (fun _ _ _ => rfl) 0 steps
    have once (ran : (test 0 steps).run s = .ok e s') : s'.counted = s.counted + 1 :=
      (one s e s' ran).2
    rw [run_test]
    split
    next beyond =>
      refine ⟨nofun, fun ⟨ran, within'⟩ => ?_⟩
      rw [State.Within, once ran] at within'
      omega
    next fine =>
      refine ⟨fun ran => ⟨ran, ?_⟩, And.left⟩
      rw [State.Within, once ran]
      omega

/-! ## Expressions -/

theorem testCount_negated (e : Expr String) : (negated e).testCount = e.testCount := by
  cases e <;> rfl

/-- With a number of steps, every part of the reader counts the tests of what it builds and stops at
a limit only. -/
structure LimitedWell (limit steps : Nat) : Prop where
  disjunction :
    Limited limit 0 (disjunction limit steps) (disjunction 0 steps) Expr.testCount
  disjunctionRest (left : Expr String) : Limited limit left.testCount
    (disjunctionRest limit steps left) (disjunctionRest 0 steps left) Expr.testCount
  conjunction :
    Limited limit 0 (conjunction limit steps) (conjunction 0 steps) Expr.testCount
  conjunctionRest (left : Expr String) : Limited limit left.testCount
    (conjunctionRest limit steps left) (conjunctionRest 0 steps left) Expr.testCount
  negation : Limited limit 0 (negation limit steps) (negation 0 steps) Expr.testCount
  quantified (quantifier : Quantifier) : Limited limit 0 (quantified limit steps quantifier)
    (quantified 0 steps quantifier) Expr.testCount
  primary : Limited limit 0 (primary limit steps) (primary 0 steps) Expr.testCount

namespace LimitedWell

variable {limit steps : Nat}

theorem disjunction_succ (ih : LimitedWell limit steps) :
    Limited limit 0 (Reader.disjunction limit (steps + 1)) (Reader.disjunction 0 (steps + 1))
      Expr.testCount := by
  rw [Reader.disjunction, Reader.disjunction]
  exact ih.conjunction.bind ih.disjunctionRest

theorem disjunctionRest_succ (ih : LimitedWell limit steps) (left : Expr String) :
    Limited limit left.testCount (Reader.disjunctionRest limit (steps + 1) left)
      (Reader.disjunctionRest 0 (steps + 1) left) Expr.testCount := by
  rw [Reader.disjunctionRest, Reader.disjunctionRest]
  refine (Counts.atWord "or").limited.bind fun more => ?_
  cases more with
  | true =>
    refine Counts.advance.limited.bind fun _ => ?_
    refine (ih.conjunction.besides left.testCount).bind fun right => ?_
    exact ih.disjunctionRest (.or left right)
  | false => exact .pure rfl

theorem conjunction_succ (ih : LimitedWell limit steps) :
    Limited limit 0 (Reader.conjunction limit (steps + 1)) (Reader.conjunction 0 (steps + 1))
      Expr.testCount := by
  rw [Reader.conjunction, Reader.conjunction]
  exact ih.negation.bind ih.conjunctionRest

theorem conjunctionRest_succ (ih : LimitedWell limit steps) (left : Expr String) :
    Limited limit left.testCount (Reader.conjunctionRest limit (steps + 1) left)
      (Reader.conjunctionRest 0 (steps + 1) left) Expr.testCount := by
  rw [Reader.conjunctionRest, Reader.conjunctionRest]
  refine (Counts.atWord "and").limited.bind fun more => ?_
  cases more with
  | true =>
    refine Counts.advance.limited.bind fun _ => ?_
    refine (ih.negation.besides left.testCount).bind fun right => ?_
    exact ih.conjunctionRest (.and left right)
  | false => exact .pure rfl

theorem negation_succ (ih : LimitedWell limit steps) :
    Limited limit 0 (Reader.negation limit (steps + 1)) (Reader.negation 0 (steps + 1))
      Expr.testCount := by
  rw [Reader.negation, Reader.negation]
  refine (Counts.atWord "not").limited.bind fun denied => ?_
  cases denied with
  | true =>
    refine Counts.advance.limited.bind fun _ => Counts.token.limited.bind fun t => ?_
    cases startsOperand t with
    | true => exact ih.negation.bind fun operand => .pure (testCount_negated operand)
    | false => exact .unexpected _
  | false =>
    refine counts_quantifier?.limited.bind fun found => ?_
    cases found with
    | some quantifier => exact ih.quantified quantifier
    | none => exact ih.primary

theorem quantified_succ (ih : LimitedWell limit steps) (quantifier : Quantifier) :
    Limited limit 0 (Reader.quantified limit (steps + 1) quantifier)
      (Reader.quantified 0 (steps + 1) quantifier) Expr.testCount := by
  rw [Reader.quantified, Reader.quantified]
  refine Counts.advance.limited.bind fun _ => ?_
  refine (counts_selector steps).limited.bind fun selector => ?_
  refine (Counts.expect _ _).limited.bind fun _ => counts_binding.limited.bind fun binding => ?_
  refine (Counts.expect _ _).limited.bind fun _ => ih.disjunction.bind fun body => ?_
  refine Counts.token.limited.bind fun t => ?_
  split
  · exact Counts.advance.limited.bind fun _ => .pure rfl
  · exact .malformed _
  · exact .unexpected _

theorem primary_succ (ih : LimitedWell limit steps) :
    Limited limit 0 (Reader.primary limit (steps + 1)) (Reader.primary 0 (steps + 1))
      Expr.testCount := by
  rw [Reader.primary, Reader.primary]
  refine Counts.token.limited.bind fun t => ?_
  by_cases opens : t = .openParen
  · simp only [if_pos opens]
    refine Counts.advance.limited.bind fun _ => ih.disjunction.bind fun inner => ?_
    refine Counts.token.limited.bind fun t => ?_
    split
    · exact Counts.advance.limited.bind fun _ => .pure rfl
    · exact .malformed _
    · exact .unexpected _
  · simp only [if_neg opens]
    exact limited_test limit steps

end LimitedWell

theorem limitedWell (limit steps : Nat) : LimitedWell limit steps := by
  induction steps with
  | zero =>
    exact {
      disjunction := .unexpected _
      disjunctionRest := fun _ => .unexpected _
      conjunction := .unexpected _
      conjunctionRest := fun _ => .unexpected _
      negation := .unexpected _
      quantified := fun _ => .unexpected _
      primary := .unexpected _ }
  | succ steps ih =>
    exact {
      disjunction := ih.disjunction_succ
      disjunctionRest := ih.disjunctionRest_succ
      conjunction := ih.conjunction_succ
      conjunctionRest := ih.conjunctionRest_succ
      negation := ih.negation_succ
      quantified := ih.quantified_succ
      primary := ih.primary_succ }

theorem limited_whole (limit steps : Nat) :
    Limited limit 0 (whole limit steps) (whole 0 steps) Expr.testCount := by
  refine (limitedWell limit steps).disjunction.bind fun e => Counts.token.limited.bind fun t => ?_
  split
  · exact .pure rfl
  · exact .unexpected _

end Sift.Reader

namespace Sift.Expr

/-! ## Whole texts -/

/-- A text that is read has as many tests as the reader has met. -/
theorem readCounted_eq_ok_iff {limit : Nat} {text : String} {e : Expr String} {tests : Nat} :
    readCounted limit text = .ok (e, tests) ↔ read limit text = .ok e ∧ tests = e.testCount := by
  rw [readCounted_eq_ok, read_eq_ok]
  have met {first : SpannedToken} {rest : List SpannedToken} {s : Reader.State}
      (run : (Reader.whole limit (Reader.stepsFor rest.length)).run ⟨first, rest, 0⟩ = .ok e s) :
      s.counted = e.testCount := by
    have whole := Reader.limited_whole limit (Reader.stepsFor rest.length)
    obtain ⟨free, -⟩ := (whole.stops _ e s (.inr (Nat.zero_le limit))).mp run
    simpa using (whole.counts _ e s free).2
  constructor
  · rintro ⟨first, rest, s, lexed, run, rfl⟩
    exact ⟨⟨first, rest, s, lexed, run⟩, met run⟩
  · rintro ⟨⟨first, rest, s, lexed, run⟩, rfl⟩
    exact ⟨first, rest, s, lexed, run, met run⟩

/-- A limit refuses the expressions with more tests and changes nothing else. -/
theorem read_limited {limit : Nat} {text : String} {e : Expr String} :
    read limit text = .ok e ↔ read 0 text = .ok e ∧ (limit = 0 ∨ e.testCount ≤ limit) := by
  have started (first : SpannedToken) (rest : List SpannedToken) (s : Reader.State) :
      (Reader.whole limit (Reader.stepsFor rest.length)).run ⟨first, rest, 0⟩ = .ok e s ↔
        (Reader.whole 0 (Reader.stepsFor rest.length)).run ⟨first, rest, 0⟩ = .ok e s ∧
          (limit = 0 ∨ e.testCount ≤ limit) := by
    have whole := Reader.limited_whole limit (Reader.stepsFor rest.length)
    rw [whole.stops ⟨first, rest, 0⟩ e s (.inr (Nat.zero_le limit))]
    refine and_congr_right fun run => ?_
    have counted : s.counted = e.testCount := by simpa using (whole.counts _ e s run).2
    rw [Reader.State.Within, counted]
  simp only [read_eq_ok, started]
  constructor
  · rintro ⟨first, rest, s, lexed, ran, few⟩
    exact ⟨⟨first, rest, s, lexed, ran⟩, few⟩
  · rintro ⟨⟨first, rest, s, lexed, ran⟩, few⟩
    exact ⟨first, rest, s, lexed, ran, few⟩

end Sift.Expr
