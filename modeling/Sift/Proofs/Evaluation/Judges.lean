import Sift.Proofs.Evaluation.Targets

/-!
# Evaluation that meets no judge

A judge sees the operator and the literal of a test, so whatever rewrites an expression shows where
a judge decides. Data without judges stay without them all through an evaluation, with any hook that
makes none and any policy that binds none: a selector then leads to a datum, and the frames of a
quantifier bind data without judges (`Settings.JudgeFree.target`). Two statements follow on how
answers carry over from one expression to another, one for tests (`test_map`) and one for
quantifiers (`quantified_map`). The answer may be carried by any function that loses nothing, since a
quantifier has to stop at the same element.
-/

namespace Sift

/-! ## Hooks and policies -/

/-- What the hook puts in the place of data without judges has none. -/
def Hook.JudgeFree (hook : Hook) : Prop :=
  ∀ d other, d.JudgeFree → hook d = .replace other → other.JudgeFree

/-- No judge is bound by a quantifier over the datum. -/
def Datum.BindsNoJudge (d : Datum) : Prop :=
  ∀ (binding : Binding) (frames : List Frame), binding.frames? d = some frames →
    ∀ frame ∈ frames, ∀ p ∈ frame, p.2.JudgeFree

/-- What takes the place of absent data may be a judge, but a quantifier binds none of it. -/
def AbsencePolicy.JudgeFree (policy : AbsencePolicy) : Prop :=
  ∀ d, policy = .substitute d → d.BindsNoJudge

/-- No judge comes up where there is none. -/
structure Settings.JudgeFree (s : Settings) : Prop where
  hook (hook : Hook) : s.hook = some hook → hook.JudgeFree
  policy : s.policy.JudgeFree

theorem Settings.JudgeFree.ofTag (patterns : PatternEngine) (tag : String) :
    (Settings.ofTag patterns tag).JudgeFree where
  hook _ none := nomatch none
  policy _ substitute := nomatch substitute

/-- A frame binds the place of an element, the element, or both. -/
theorem judgeFree_frame (binding : Binding) {keyed : Bool} {place element : Datum}
    (placeFree : place.JudgeFree) (elementFree : element.JudgeFree) :
    ∀ p ∈ binding.frame keyed place element, p.2.JudgeFree := by
  cases binding with
  | each name =>
    refine List.forall_mem_singleton.mpr ?_
    cases keyed with
    | true => exact placeFree
    | false => exact elementFree
  | index name => exact List.forall_mem_singleton.mpr placeFree
  | value name => exact List.forall_mem_singleton.mpr elementFree
  | both i v =>
    exact List.forall_mem_cons.mpr ⟨placeFree, List.forall_mem_singleton.mpr elementFree⟩

namespace Datum

variable {tag : String} {hook : Option Hook}

theorem JudgeFree.bindsNoJudge {d : Datum} (free : d.JudgeFree) : d.BindsNoJudge := by
  intro binding frames visited frame inside
  cases free with
  | list items =>
    cases visited
    obtain ⟨⟨item, i⟩, there, rfl⟩ := List.mem_map.mp inside
    have itemFree := items item (List.fst_mem_of_mem_zipIdx there)
    exact judgeFree_frame binding (.scalar rfl) itemFree
  | map values =>
    cases visited
    obtain ⟨entry, there, rfl⟩ := List.mem_map.mp inside
    exact judgeFree_frame binding (.scalar rfl) (values entry there)
  | pairs keys values =>
    cases visited
    obtain ⟨entry, there, rfl⟩ := List.mem_map.mp inside
    exact judgeFree_frame binding (keys entry there) (values entry there)
  | scalar isScalar =>
    cases d with
    | list | map | pairs => cases isScalar
    | _ => cases visited
  | null | record => cases visited

/-! ## Paths with a hook -/

theorem follow_nil {d : Datum} (other : d.kind ≠ .judge) (part : Nat) :
    d.follow tag hook part [] = pure (.datum d) := by
  cases d with
  | judge j => exact absurd rfl other
  | _ => rfl

theorem follow_cons {d : Datum} (other : d.kind ≠ .judge) (segment : String) (rest : List String)
    (part : Nat) :
    d.follow tag hook part (segment :: rest) = (do
      let found ← (Traced.ofExcept (d.part? tag segment)).mapError (part, ·)
      let next ← (Hook.show hook found).mapError (part, ·)
      next.follow tag hook (part + 1) rest) := by
  cases d with
  | judge j => exact absurd rfl other
  | _ => rfl

theorem JudgeFree.shown {found next : Datum} (free : found.JudgeFree)
    (hooks : ∀ h, hook = some h → h.JudgeFree)
    (goesOn : (Hook.show hook found).outcome = .ok next) : next.JudgeFree := by
  cases hook with
  | none =>
    cases goesOn
    exact free
  | some h =>
    simp only [Hook.show] at goesOn
    split at goesOn
    · cases goesOn
      exact free
    next other replaced =>
      cases goesOn
      exact hooks h rfl found next free replaced
    · cases goesOn

/-- Segment by segment, what is reached is a datum without judges. -/
theorem JudgeFree.follow {d : Datum} {path : List String} {part : Nat} {reached : Reached}
    (free : d.JudgeFree) (hooks : ∀ h, hook = some h → h.JudgeFree)
    (followed : (d.follow tag hook part path).outcome = .ok reached) :
    ∃ found, reached = .datum found ∧ found.JudgeFree := by
  induction path generalizing d part with
  | nil =>
    rw [follow_nil free.kind_ne] at followed
    cases followed
    exact ⟨d, rfl, free⟩
  | cons segment rest ih =>
    simp only [follow_cons free.kind_ne, Traced.outcome_bind, Traced.outcome_mapError,
      Traced.outcome_ofExcept] at followed
    obtain ⟨found, step, followed⟩ := bind_eq_ok.mp followed
    obtain ⟨next, shown, behind⟩ := bind_eq_ok.mp followed
    have foundFree := free.part (mapError_eq_ok.mp step)
    exact ih (foundFree.shown hooks (mapError_eq_ok.mp shown)) behind

end Datum

/-! ## Targets -/

namespace Settings

variable {s : Settings} {env : Env}

theorem JudgeFree.resolve (free : s.JudgeFree) (envFree : env.JudgeFree) {selector : Selector}
    {reached : Reached} (resolved : (s.resolve selector env).outcome = .ok reached) :
    ∃ found, reached = .datum found ∧ found.JudgeFree := by
  obtain ⟨form, path⟩ := selector
  have onwards {d : Datum} (dFree : d.JudgeFree) {start : Nat}
      (followed : ((d.resolve s.tag s.hook path start).mapError EvalError.unresolved).outcome =
        .ok reached) : ∃ found, reached = .datum found ∧ found.JudgeFree := by
    simp only [Datum.resolve, Traced.outcome_mapError] at followed
    exact dFree.follow free.hook (mapError_eq_ok.mp (mapError_eq_ok.mp followed))
  unfold Settings.resolve at resolved
  cases path with
  | nil => exact onwards envFree.root resolved
  | cons first rest =>
    cases binds : env.lookup first with
    | none =>
      simp only [binds] at resolved
      exact onwards envFree.root resolved
    | some bound =>
      simp only [binds] at resolved
      split at resolved
      · cases resolved
      · exact onwards (envFree.bound _ (mem_of_lookup binds)) resolved

/-- A selector leads to nothing or to a datum of which no judge is bound. -/
theorem JudgeFree.target (free : s.JudgeFree) (envFree : env.JudgeFree) {selector : Selector}
    {found : Option Reached} (targeted : (s.target selector env).outcome = .ok found) :
    found = none ∨ ∃ d, found = some (.datum d) ∧ d.BindsNoJudge := by
  have settled {error : EvalError} (absent : s.policy.settle error = .ok found) :
      found = none ∨ ∃ d, found = some (.datum d) ∧ d.BindsNoJudge := by
    cases policy : s.policy with
    | byOperator =>
      rw [policy] at absent
      cases absent
      exact .inl rfl
    | substitute d =>
      rw [policy] at absent
      cases absent
      exact .inr ⟨d, rfl, free.policy d policy⟩
    | refuse =>
      rw [policy] at absent
      cases absent
  unfold Settings.target at targeted
  dsimp only at targeted
  split at targeted
  next => exact settled targeted
  next reached _ resolved =>
    cases targeted
    obtain ⟨d, rfl, dFree⟩ := free.resolve envFree resolved
    exact .inr ⟨d, rfl, dFree.bindsNoJudge⟩
  next =>
    split at targeted
    · exact settled targeted
    · cases targeted
  next => cases targeted

/-! ## Answers carried over -/

variable {carry : Bool → Bool}

/-- Where no judge is met, a test says no more than its operator does of what is absent and what it
says itself of a datum. -/
theorem test_map (free : s.JudgeFree) (envFree : env.JudgeFree) {t t' : Test}
    (selector : t'.selector = t.selector)
    (absent : t'.operator.ifAbsent = carry t.operator.ifAbsent)
    (run : ∀ d, t'.run s.patterns d = (t.run s.patterns d).map carry) :
    s.test t' env = carry <$> s.test t env := by
  rw [Settings.test, Settings.test, selector, map_bind]
  refine Traced.bind_congr_of_ok fun found targeted => ?_
  rcases free.target envFree targeted with rfl | ⟨d, rfl, -⟩
  · simp only [map_pure, absent]
  · simp only [run, Traced.map_ofExcept]

theorem quantify_map (lossless : Function.Injective carry) {quantifier quantifier' : Quantifier}
    (ifNone : quantifier'.ifNone = carry quantifier.ifNone)
    {visit visit' : Frame → Traced Datum EvalError Bool} {frames : List Frame}
    (visits : ∀ frame ∈ frames, visit' frame = carry <$> visit frame) :
    quantify quantifier' visit' frames = carry <$> quantify quantifier visit frames := by
  induction frames with
  | nil => rw [quantify, quantify, map_pure, ifNone]
  | cons frame rest ih =>
    rw [List.forall_mem_cons] at visits
    rw [quantify, quantify, visits.1, map_bind, bind_map_left]
    refine bind_congr fun answer => ?_
    rw [ifNone]
    by_cases stays : answer = quantifier.ifNone
    · rw [if_pos stays, if_pos (congrArg carry stays), ih visits.2]
    · rw [if_neg stays, if_neg (lossless.ne stays), map_pure]

/-- A quantifier visits the same frames, and stops at the same one. -/
theorem quantified_map_of_frames (lossless : Function.Injective carry)
    {quantifier quantifier' : Quantifier} (ifNone : quantifier'.ifNone = carry quantifier.ifNone)
    {body body' : CheckedExpr} {selector : Selector} {binding : Binding}
    (bodies : ∀ d frames, (s.target selector env).outcome = .ok (some (.datum d)) →
      binding.frames? d = some frames → ∀ frame ∈ frames,
        s.evaluate body' (env.push frame) = carry <$> s.evaluate body (env.push frame)) :
    s.evaluate (.quantified quantifier' selector binding body') env =
      carry <$> s.evaluate (.quantified quantifier selector binding body) env := by
  rw [evaluate, evaluate, map_bind]
  refine Traced.bind_congr_of_ok fun found targeted => ?_
  rcases found with - | (d | _)
  · simp only [map_pure, ifNone]
  · dsimp only
    cases visited : binding.frames? d with
    | none => rfl
    | some frames => exact quantify_map lossless ifNone (bodies d frames targeted visited)
  · rfl

/-- Where no judge is met, the bodies only have to agree where none is. -/
theorem quantified_map (free : s.JudgeFree) (envFree : env.JudgeFree)
    (lossless : Function.Injective carry) {quantifier quantifier' : Quantifier}
    (ifNone : quantifier'.ifNone = carry quantifier.ifNone) {body body' : CheckedExpr}
    (bodies : ∀ inner : Env, inner.JudgeFree →
      s.evaluate body' inner = carry <$> s.evaluate body inner)
    (selector : Selector) (binding : Binding) :
    s.evaluate (.quantified quantifier' selector binding body') env =
      carry <$> s.evaluate (.quantified quantifier selector binding body) env := by
  refine quantified_map_of_frames lossless ifNone fun d frames targeted visited frame inside => ?_
  rcases free.target envFree targeted with none | ⟨d', same, bindsNone⟩
  · cases none
  · cases same
    exact bodies (env.push frame) (envFree.push (bindsNone binding frames visited frame inside))

end Settings

end Sift
