import Sift.Proofs.Evaluation.Judges
import Sift.Proofs.Flattening

/-!
# Judges inside data

Without a hook, a selector leads to no other judges than those inside the data that it starts from: the
root and what names are bound to (`Settings.judge_of_target`). A judge in the place of absent data is
taken for a datum; but those inside such a datum come to be bound to names, where a list is passed
through (`Settings.judgesAre_elements_of_target`).
-/

namespace Sift

variable {P : Judge → Prop} {tag : String}

/-! ## All judges in a datum -/

namespace Datum

/-- Every judge in a datum has a property. -/
def JudgesAre (P : Judge → Prop) (d : Datum) : Prop := ∀ j, Inside (.judge j) d → P j

theorem JudgesAre.of_inside {d e : Datum} (judges : d.JudgesAre P) (inside : Inside e d) :
    e.JudgesAre P :=
  fun j here => judges j (here.trans inside)

theorem JudgesAre.judge {j : Judge} (here : P j) : (Datum.judge j).JudgesAre P := by
  intro j' inside
  cases inside
  exact here

theorem JudgeFree.judgesAre {d : Datum} (free : d.JudgeFree) : d.JudgesAre P :=
  fun _ here => absurd rfl (free.of_inside here).kind_ne

end Datum

/-- The judge that was reached, or every one in the datum that was reached, has a property. -/
def Reached.JudgesAre (P : Judge → Prop) : Reached → Prop
  | datum d => d.JudgesAre P
  | judge j _ => P j

/-- A path leads from a datum to what is inside of it. -/
theorem Datum.JudgesAre.follow {d : Datum} {path : List String} {part : Nat} {reached : Reached}
    (judges : d.JudgesAre P) (followed : (d.follow tag none part path).outcome = .ok reached) :
    reached.JudgesAre P := by
  induction path generalizing d part with
  | nil =>
    cases d with
    | judge j =>
      cases followed
      exact judges j .whole
    | _ =>
      cases followed
      exact judges
  | cons segment rest ih =>
    by_cases judge : d.kind = .judge
    · cases d with
      | judge j =>
        cases followed
        exact judges j .whole
      | _ => cases judge
    · simp only [follow_cons judge, Traced.outcome_bind, Traced.outcome_mapError,
        Traced.outcome_ofExcept] at followed
      obtain ⟨found, step, followed⟩ := bind_eq_ok.mp followed
      obtain ⟨next, shown, behind⟩ := bind_eq_ok.mp followed
      cases shown
      exact ih (judges.of_inside (inside_of_part? (mapError_eq_ok.mp step))) behind

/-! ## Targets -/

/-- Every judge in what selectors are resolved against has a property. -/
structure Env.JudgesAre (P : Judge → Prop) (env : Env) : Prop where
  root : env.root.JudgesAre P
  bound : ∀ entry ∈ env.frames.flatten, entry.2.JudgesAre P

namespace Env

variable {env : Env}

theorem JudgeFree.judgesAre (free : env.JudgeFree) : env.JudgesAre P where
  root := free.root.judgesAre
  bound entry here := (free.bound entry here).judgesAre

theorem JudgesAre.push (judges : env.JudgesAre P) {frame : Frame}
    (added : ∀ entry ∈ frame, entry.2.JudgesAre P) : (env.push frame).JudgesAre P where
  root := judges.root
  bound := List.forall_mem_append.mpr ⟨added, judges.bound⟩

theorem JudgesAre.base (judges : env.JudgesAre P) (path : List String) :
    (env.base path).1.JudgesAre P := by
  rcases env.base_cases path with same | ⟨entry, inside, same⟩
  · rw [same]
    exact judges.root
  · rw [same]
    exact judges.bound entry inside

end Env

namespace Settings

variable {s : Settings} {env : Env} {selector : Selector} {reached : Reached}

theorem judgesAre_resolve (noHook : s.hook = none) (judges : env.JudgesAre P)
    (resolved : (s.resolve selector env).outcome = .ok reached) : reached.JudgesAre P := by
  rcases resolve_cases s selector env with same | ⟨_, _, _, _, -, -, same⟩
  · simp only [same, Datum.resolve, Traced.outcome_mapError, noHook] at resolved
    exact (judges.base selector.path).follow (mapError_eq_ok.mp (mapError_eq_ok.mp resolved))
  · rw [same] at resolved
    cases resolved

/-- What a selector leads to has been resolved, or it takes the place of what has not been found. -/
theorem of_target (targeted : (s.target selector env).outcome = .ok (some reached)) :
    (s.resolve selector env).outcome = .ok reached ∨
      ∃ d, s.policy = .substitute d ∧ reached = .datum d := by
  have settled {error : EvalError} (absent : s.policy.settle error = .ok (some reached)) :
      ∃ d, s.policy = .substitute d ∧ reached = .datum d := by
    cases policy : s.policy with
    | substitute d =>
      rw [policy] at absent
      cases absent
      exact ⟨d, rfl, rfl⟩
    | byOperator | refuse =>
      rw [policy] at absent
      cases absent
  unfold target at targeted
  dsimp only at targeted
  split at targeted
  next => exact .inr (settled targeted)
  next resolved =>
    cases targeted
    exact .inl resolved
  next =>
    split at targeted
    · exact .inr (settled targeted)
    · cases targeted
  next => cases targeted

/-- A judge that a selector leads to has been resolved. One that takes the place of absent data is a
datum like any other. -/
theorem judge_of_target (noHook : s.hook = none) (judges : env.JudgesAre P) {j : Judge} {rest : Nat}
    (targeted : (s.target selector env).outcome = .ok (some (.judge j rest))) : P j := by
  rcases of_target targeted with resolved | ⟨d, -, same⟩
  · have here : Reached.JudgesAre P (.judge j rest) := judgesAre_resolve noHook judges resolved
    exact here
  · cases same

/-- Where there is no judge, none is reached. -/
theorem target_ne_judge (noHook : s.hook = none) (free : env.JudgeFree) (j : Judge) (rest : Nat) :
    (s.target selector env).outcome ≠ .ok (some (.judge j rest)) := by
  intro targeted
  have none : env.JudgesAre fun _ => False := free.judgesAre
  exact judge_of_target noHook none targeted

/-- The judges in the elements of a collection that a selector leads to are judges of the data that it
starts from, or in the elements of what takes the place of absent data. -/
theorem judgesAre_elements_of_target (noHook : s.hook = none)
    (substitute : ∀ d, s.policy = .substitute d →
      ∀ elements ∈ d.elements?, ∀ element ∈ elements, element.JudgesAre P)
    (judges : env.JudgesAre P) {d : Datum}
    (targeted : (s.target selector env).outcome = .ok (some (.datum d))) :
    ∀ elements ∈ d.elements?, ∀ element ∈ elements, element.JudgesAre P := by
  rcases of_target targeted with resolved | ⟨d', policy, same⟩
  · have whole : Reached.JudgesAre P (.datum d) := judgesAre_resolve noHook judges resolved
    intro elements known element here
    have inside : Datum.Inside element d := Datum.inside_of_elements? known here
    exact Datum.JudgesAre.of_inside whole inside
  · cases same
    exact substitute d policy

end Settings

end Sift
