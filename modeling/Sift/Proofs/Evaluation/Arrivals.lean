import Mathlib.Data.List.Forall2
import Sift.Proofs.Evaluation.Judges
import Sift.Proofs.Evaluation.Literals

/-!
# What a selector meets

An error names the selector that was evaluated, so two expressions that mean the same under different
names fail with different errors. `Traced.Alike` compares outcomes without them: the same data were
shown to the hook, and both fail or both give related results.

What an evaluation takes from a selector is then no more than what it meets: `Settings.meet` follows the
segments from the datum that the path starts at and applies the policy for absent data, and of a judge
it keeps the segments that are left to it. Tests and quantifiers whose selectors meet the same are alike
(`test_alike`, `quantified_alike`).
-/

namespace Sift

/-! ## Outcomes without their errors -/

namespace Traced

variable {ν ε δ α α' β β' : Type} {r : α → α' → Prop} {q : β → β' → Prop}

/-- The notes are the same, and either both outcomes are failures or they are related. -/
structure Alike (r : α → α' → Prop) (x : Traced ν ε α) (x' : Traced ν δ α') : Prop where
  notes : x.notes = x'.notes
  results : Option.Rel r x.result? x'.result?

theorem Alike.fail (e : ε) (e' : δ) : Alike r (fail e : Traced ν ε α) (fail e' : Traced ν δ α') :=
  ⟨rfl, .none⟩

theorem Alike.ofExcept {x : Except ε α} {x' : Except δ α} (same : x.toOption = x'.toOption) :
    Alike Eq (ofExcept x : Traced ν ε α) (ofExcept x' : Traced ν δ α) := by
  refine ⟨rfl, ?_⟩
  rw [result?_ofExcept, result?_ofExcept, same]
  cases x'.toOption with
  | none => exact .none
  | some a => exact .some rfl

/-- Related results have to go on alike. -/
theorem Alike.bind {x : Traced ν ε α} {x' : Traced ν δ α'} {next : α → Traced ν ε β}
    {next' : α' → Traced ν δ β'} (first : Alike r x x')
    (onwards : ∀ a a', r a a' → Alike q (next a) (next' a')) : Alike q (x >>= next) (x' >>= next') := by
  obtain ⟨notes, outcome⟩ := x
  obtain ⟨notes', outcome'⟩ := x'
  obtain ⟨rfl, results⟩ := first
  cases outcome with
  | error e =>
    cases outcome' with
    | error e' => exact ⟨rfl, .none⟩
    | ok a' => cases results
  | ok a =>
    cases outcome' with
    | error e' => cases results
    | ok a' =>
      cases results with
      | some related =>
        obtain ⟨same, resultsBehind⟩ := onwards a a' related
        refine ⟨?_, resultsBehind⟩
        rw [bind_of_ok, bind_of_ok, same]

theorem Alike.result_eq {x : Traced ν ε α} {x' : Traced ν δ α} (alike : Alike Eq x x') :
    x.result? = x'.result? := by
  have results := alike.results
  generalize x.result? = result, x'.result? = result' at results
  cases results with
  | none => rfl
  | some same => rw [same]

/-- Notes and result say all there is to say without errors. -/
theorem Alike.of_eq {x : Traced ν ε α} {x' : Traced ν δ α} (notes : x.notes = x'.notes)
    (result : x.result? = x'.result?) : Alike Eq x x' := by
  refine ⟨notes, ?_⟩
  rw [result]
  cases x'.result? with
  | none => exact .none
  | some a => exact .some rfl

theorem Alike.refl (x : Traced ν ε α) : Alike Eq x x := .of_eq rfl rfl

theorem map_mk (f : α → β) (notes : List ν) (outcome : Except ε α) :
    f <$> (⟨notes, outcome⟩ : Traced ν ε α) = ⟨notes, outcome.map f⟩ := by
  cases outcome with
  | error e => rfl
  | ok a => exact congrArg (mk · _) (List.append_nil notes)

theorem outcome_map (f : α → β) (x : Traced ν ε α) : (f <$> x).outcome = x.outcome.map f := by
  obtain ⟨notes, outcome⟩ := x
  rw [map_mk]

theorem mapError_bind (f : ε → δ) (x : Traced ν ε α) (next : α → Traced ν ε β) :
    (x >>= next).mapError f = x.mapError f >>= fun a => (next a).mapError f := by
  obtain ⟨notes, outcome⟩ := x
  cases outcome <;> rfl

theorem mapError_mapError {ζ : Type} (f : ε → δ) (g : δ → ζ) (x : Traced ν ε α) :
    (x.mapError f).mapError g = x.mapError (g ∘ f) := by
  obtain ⟨notes, outcome⟩ := x
  cases outcome <;> rfl

theorem mapError_id (x : Traced ν ε α) : x.mapError id = x := by
  obtain ⟨notes, outcome⟩ := x
  cases outcome <;> rfl

end Traced

/-! ## Where paths arrive -/

/-- What a path leads to; a judge is left the segments behind it. -/
inductive Arrival where
  | datum (d : Datum)
  | judge (j : Judge) (left : List String)

/-- What has been reached on a path, with what is left of the path. -/
def Reached.arrival (path : List String) : Reached → Arrival
  | .datum d => .datum d
  | .judge j rest => .judge j (path.drop rest)

namespace Datum

variable {tag : String} {hook : Option Hook}

/-- Follows segments from a datum, wherever on a path they stand. -/
def arrive (tag : String) (hook : Option Hook) :
    Datum → List String → Traced Datum PathFault Arrival
  | .judge j, segments => pure (.judge j segments)
  | d, [] => pure (.datum d)
  | d, segment :: rest => do
    let found ← .ofExcept (d.part? tag segment)
    let next ← Hook.show hook found
    next.arrive tag hook rest
termination_by structural _ segments => segments

theorem arrive_judge (j : Judge) (segments : List String) :
    (judge j).arrive tag hook segments = pure (.judge j segments) := by
  cases segments <;> rfl

theorem follow_judge (j : Judge) (part : Nat) (segments : List String) :
    (judge j).follow tag hook part segments = pure (.judge j part) := by
  cases segments <;> rfl

theorem arrive_nil {d : Datum} (other : d.kind ≠ .judge) :
    d.arrive tag hook [] = pure (.datum d) := by
  cases d with
  | judge j => exact absurd rfl other
  | _ => rfl

theorem arrive_cons {d : Datum} (other : d.kind ≠ .judge) (segment : String) (rest : List String) :
    d.arrive tag hook (segment :: rest) = (do
      let found ← .ofExcept (d.part? tag segment)
      let next ← Hook.show hook found
      next.arrive tag hook rest) := by
  cases d with
  | judge j => exact absurd rfl other
  | _ => rfl

theorem judge_or_other (d : Datum) : (∃ j, d = .judge j) ∨ d.kind ≠ .judge := by
  cases d with
  | judge j => exact .inl ⟨j, rfl⟩
  | _ => exact .inr nofun

/-- Resolving a path arrives where its segments lead, the numbers of segments aside. -/
theorem arrive_eq_follow {d : Datum} {path segments : List String} {part : Nat}
    (left : path.drop part = segments) :
    d.arrive tag hook segments =
      Reached.arrival path <$> (d.follow tag hook part segments).mapError Prod.snd := by
  have judges (j : Judge) {part : Nat} {segments : List String} (left : path.drop part = segments) :
      (judge j).arrive tag hook segments =
        Reached.arrival path <$> ((judge j).follow tag hook part segments).mapError Prod.snd := by
    rw [arrive_judge, follow_judge, ← left]
    rfl
  induction segments generalizing d part with
  | nil =>
    obtain ⟨j, rfl⟩ | other := d.judge_or_other
    · exact judges j left
    · rw [arrive_nil other, follow_nil other]
      rfl
  | cons segment rest ih =>
    obtain ⟨j, rfl⟩ | other := d.judge_or_other
    · exact judges j left
    · have leftBehind : path.drop (part + 1) = rest := by
        rw [← List.drop_drop, left]
        rfl
      have numbered {ε α : Type} (x : Traced Datum ε α) :
          (x.mapError fun e => (part, e)).mapError Prod.snd = x :=
        (Traced.mapError_mapError _ _ x).trans (Traced.mapError_id x)
      simp only [arrive_cons other, follow_cons other, Traced.mapError_bind, numbered, map_bind,
        ih leftBehind]

/-- A whole path, too, leads to where the segments behind its start do. -/
theorem arrive_eq_resolve (d : Datum) (path : List String) (start : Nat) :
    d.arrive tag hook (path.drop start) =
      Reached.arrival path <$> (d.resolve tag hook path start).mapError PathError.fault := by
  have left : path.drop (min start path.length) = path.drop start := by
    rcases Nat.le_total start path.length with within | beyond
    · rw [Nat.min_eq_left within]
    · rw [Nat.min_eq_right beyond, List.drop_eq_nil_of_le beyond,
        List.drop_eq_nil_of_le (Nat.le_refl _)]
  rw [arrive_eq_follow left, resolve, Traced.mapError_mapError]
  rfl

/-- Without a hook, segments behind a datum that others lead to are followed from there. -/
theorem arrive_append {d next : Datum} {path : List String}
    (arrived : (d.arrive tag none path).outcome = .ok (.datum next)) (more : List String) :
    d.arrive tag none (path ++ more) = next.arrive tag none more := by
  induction path generalizing d with
  | nil =>
    obtain ⟨j, rfl⟩ | other := d.judge_or_other
    · cases arrived
    · rw [arrive_nil other] at arrived
      cases arrived
      rfl
  | cons segment rest ih =>
    obtain ⟨j, rfl⟩ | other := d.judge_or_other
    · cases arrived
    · rw [List.cons_append, arrive_cons other]
      simp only [arrive_cons other, Hook.show, pure_bind, Traced.outcome_bind,
        Traced.outcome_ofExcept] at arrived ⊢
      obtain ⟨found, step, behind⟩ := bind_eq_ok.mp arrived
      rw [step, ← ih behind]
      rfl

/-- A bound scalar has nothing behind it. -/
theorem arrive_scalar {d : Datum} (isScalar : d.isScalar = true) (segment : String)
    (rest : List String) :
    d.arrive tag hook (segment :: rest) = .fail (.invalidKind d.kind) := by
  obtain ⟨j, rfl⟩ | other := d.judge_or_other
  · cases isScalar
  rw [arrive_cons other, part?_scalar isScalar]
  rfl

end Datum

/-! ## Meeting what a path leads to -/

/-- What is met where nothing is. -/
def AbsencePolicy.meets : AbsencePolicy → Except Unit (Option Arrival)
  | byOperator => .ok none
  | substitute datum => .ok (some (.datum datum))
  | refuse => .error ()

namespace Settings

variable {s : Settings} {env env' : Env}

/-- What a path leads to under the policy for absent data; nothing means that the operator
decides. -/
def meet (s : Settings) (path : List String) (env : Env) : Traced Datum Unit (Option Arrival) :=
  let found := (env.base path).1.arrive s.tag s.hook (path.drop (env.base path).2)
  let settled := match found.outcome with
    | .ok (.datum .null) => s.policy.meets
    | .ok arrival => .ok (some arrival)
    | .error fault => if fault.isNotFound then s.policy.meets else .error ()
  ⟨found.notes, settled⟩

/-- Paths that start at one datum and go on alike meet the same. -/
theorem meet_eq_of_base {path path' : List String} (start : (env.base path).1 = (env'.base path').1)
    (left : path.drop (env.base path).2 = path'.drop (env'.base path').2) :
    s.meet path env = s.meet path' env' := by
  unfold meet
  rw [start, left]

/-- What is found where nothing is, is met there. -/
theorem settle_alike (policy : AbsencePolicy) (error : EvalError) (path : List String) :
    Option.Rel (fun found met => found.map (Reached.arrival path) = met)
      (policy.settle error).toOption policy.meets.toOption := by
  cases policy with
  | byOperator => exact .some rfl
  | substitute d => exact .some rfl
  | refuse => exact .none

/-- A target is what the path meets, errors aside. -/
theorem target_alike (s : Settings) (selector : Selector) (env : Env) :
    Traced.Alike (fun found met => found.map (Reached.arrival selector.path) = met)
      (s.target selector env) (s.meet selector.path env) := by
  unfold target meet
  obtain same | ⟨name, kind, segment, rest, goesOn, isScalar, blocked⟩ := resolve_cases s selector env
  · simp only [same, Datum.arrive_eq_resolve]
    obtain ⟨notes, outcome⟩ := (env.base selector.path).1.resolve s.tag s.hook selector.path
      (env.base selector.path).2
    simp only [Traced.mapError, Traced.map_mk]
    refine ⟨rfl, ?_⟩
    cases outcome with
    | error failed =>
      simp only [mapError_error, Traced.result?]
      dsimp only [Except.map]
      cases failed.fault.isNotFound with
      | true => exact settle_alike _ _ _
      | false => exact .none
    | ok reached =>
      cases reached with
      | judge j rest => exact .some rfl
      | datum d =>
        cases d with
        | null => exact settle_alike _ _ _
        | _ => exact .some rfl
  · rw [blocked, goesOn, Datum.arrive_scalar isScalar]
    exact ⟨rfl, .none⟩

/-- Selectors that meet the same have the same targets, a judge being left the same segments. -/
theorem targets_alike {selector selector' : Selector}
    (same : s.meet selector.path env = s.meet selector'.path env') :
    Traced.Alike (fun found found' =>
        found.map (Reached.arrival selector.path) = found'.map (Reached.arrival selector'.path))
      (s.target selector env) (s.target selector' env') := by
  have here := target_alike s selector env
  have there := target_alike s selector' env'
  rw [same] at here
  refine ⟨here.notes.trans there.notes.symm, ?_⟩
  have results := here.results
  have results' := there.results
  generalize (s.target selector env).result? = found, (s.target selector' env').result? = found',
    (s.meet selector'.path env').result? = met at results results' ⊢
  cases results with
  | none =>
    cases results'
    exact .none
  | some meets =>
    cases results' with
    | some meets' => exact .some (meets.trans meets'.symm)

/-! ## Expressions -/

/-- Tests differ by nothing but what their selectors meet. -/
theorem test_alike {selector selector' : Selector}
    (same : s.meet selector.path env = s.meet selector'.path env') (operator : Operator)
    (literal : Option CheckedLiteral) :
    Traced.Alike Eq (s.evaluate (.test selector operator literal) env)
      (s.evaluate (.test selector' operator literal) env') := by
  refine (targets_alike same).bind ?_
  intro found found' related
  rcases found with - | (d | ⟨j, rest⟩) <;> rcases found' with - | (d' | ⟨j', rest'⟩)
  case none.none => exact .refl _
  case some.datum.some.datum =>
    cases related
    refine .ofExcept ?_
    exact (Test.toOption_run_select ⟨selector', operator, literal⟩ selector d)
  case some.judge.some.judge =>
    obtain ⟨rfl, left⟩ := Arrival.judge.inj (Option.some.inj related)
    refine .ofExcept ?_
    dsimp only
    rw [left]
    cases j.decide (selector'.path.drop rest') operator _ <;> rfl
  all_goals cases related

/-- A quantifier over frames that are visited alike. -/
theorem quantify_alike (quantifier : Quantifier) {visit visit' : Frame → Traced Datum EvalError Bool}
    {frames frames' : List Frame}
    (visits : List.Forall₂ (fun frame frame' => Traced.Alike Eq (visit frame) (visit' frame')) frames
      frames') :
    Traced.Alike Eq (quantify quantifier visit frames) (quantify quantifier visit' frames') := by
  induction visits with
  | nil => exact .refl _
  | cons first _ ih =>
    refine first.bind ?_
    rintro answer _ rfl
    split
    · exact ih
    · exact .refl _

/-- Quantifiers differ by nothing but what their selectors meet and what their bodies say of the
frames. -/
theorem quantified_alike {selector selector' : Selector} {binding binding' : Binding}
    {body body' : CheckedExpr} (same : s.meet selector.path env = s.meet selector'.path env')
    (bodies : ∀ d, Option.Rel (List.Forall₂ fun frame frame' =>
        Traced.Alike Eq (s.evaluate body (env.push frame)) (s.evaluate body' (env'.push frame')))
      (binding.frames? d) (binding'.frames? d)) (quantifier : Quantifier) :
    Traced.Alike Eq (s.evaluate (.quantified quantifier selector binding body) env)
      (s.evaluate (.quantified quantifier selector' binding' body') env') := by
  refine (targets_alike same).bind ?_
  intro found found' related
  rcases found with - | (d | ⟨j, rest⟩) <;> rcases found' with - | (d' | ⟨j', rest'⟩)
  case none.none => exact .refl _
  case some.datum.some.datum =>
    cases related
    dsimp only
    have visits := bodies d
    generalize binding.frames? d = frames, binding'.frames? d = frames' at visits ⊢
    cases visits with
    | none => exact .fail _ _
    | some visits => exact quantify_alike quantifier visits
  case some.judge.some.judge => exact .fail _ _
  all_goals cases related

theorem not_alike {operand operand' : CheckedExpr}
    (operands : Traced.Alike Eq (s.evaluate operand env) (s.evaluate operand' env')) :
    Traced.Alike Eq (s.evaluate (.not operand) env) (s.evaluate (.not operand') env') := by
  refine operands.bind ?_
  rintro answer _ rfl
  exact .refl _

theorem and_alike {left left' right right' : CheckedExpr}
    (lefts : Traced.Alike Eq (s.evaluate left env) (s.evaluate left' env'))
    (rights : Traced.Alike Eq (s.evaluate right env) (s.evaluate right' env')) :
    Traced.Alike Eq (s.evaluate (.and left right) env) (s.evaluate (.and left' right') env') := by
  refine lefts.bind ?_
  rintro answer _ rfl
  cases answer with
  | true => exact rights
  | false => exact .refl _

theorem or_alike {left left' right right' : CheckedExpr}
    (lefts : Traced.Alike Eq (s.evaluate left env) (s.evaluate left' env'))
    (rights : Traced.Alike Eq (s.evaluate right env) (s.evaluate right' env')) :
    Traced.Alike Eq (s.evaluate (.or left right) env) (s.evaluate (.or left' right') env') := by
  refine lefts.bind ?_
  rintro answer _ rfl
  cases answer with
  | true => exact .refl _
  | false => exact rights

end Settings

end Sift
