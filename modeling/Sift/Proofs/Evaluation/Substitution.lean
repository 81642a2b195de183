import Sift.Proofs.Evaluation.Arrivals
import Sift.Proofs.Names

/-!
# Substitution

Evaluation takes from an environment the root and what the first segments of selectors are bound to
(`evaluate_congr`). So a path may stand in the place of a name (`evaluate_substitute`), once the
environment that goes with it leads the path to where the other one leads the name, whatever segments
follow: `Env.Replaces` is that condition, and the frames of a quantifier keep it as long as they bind
neither the name nor the first segment of the path.
-/

namespace Sift

/-! ## Environments -/

namespace Env

variable {env : Env} {frame : Frame} {name : String}

/-- A name means what the frame binds it to, or what it meant around it. -/
theorem lookup_push : (env.push frame).lookup name = (frame.lookup name).or (env.lookup name) := by
  rw [lookup, lookup, push, List.flatten_cons, List.lookup_append]

theorem lookup_push_other (free : frame.lookup name = none) :
    (env.push frame).lookup name = env.lookup name := by
  rw [lookup_push, free, Option.none_or]

/-- A path starts at the same datum where its first segment means the same. -/
theorem base_congr {env env' : Env} {path : List String} (root : env'.root = env.root)
    (same : ∀ name ∈ path.take 1, env'.lookup name = env.lookup name) :
    env'.base path = env.base path := by
  cases path with
  | nil => exact congrArg (·, 0) root
  | cons first rest =>
    have lookups : env'.lookup first = env.lookup first := same first List.mem_cons_self
    rw [base, base, lookups, root]

/-- The environment `env'` leads a path to where `env` leads a name, and no other name means anything
else in it. -/
structure Replaces (s : Settings) (x : String) (path names : List String) (env env' : Env) :
    Prop where
  root : env'.root = env.root
  others {name : String} : name ∈ names → name ≠ x → env'.lookup name = env.lookup name
  replaced (rest : List String) : s.meet (path ++ rest) env' = s.meet (x :: rest) env

namespace Replaces

variable {s : Settings} {x first : String} {path names more : List String} {env env' : Env}

theorem mono (replaces : Replaces s x path names env env') (fewer : more ⊆ names) :
    Replaces s x path more env env' :=
  { replaces with others := fun inside => replaces.others (fewer inside) }

/-- Every selector meets the same. -/
theorem meet {segments : List String} (replaces : Replaces s x path names env env')
    (heads : segments.take 1 ⊆ names) :
    s.meet (substitutePath x path segments) env' = s.meet segments env := by
  cases segments with
  | nil => exact Settings.meet_eq_of_base replaces.root rfl
  | cons head rest =>
    by_cases here : head = x
    · subst here
      rw [substitutePath, if_pos rfl]
      exact replaces.replaced rest
    · have base : env'.base (head :: rest) = env.base (head :: rest) := by
        refine base_congr replaces.root fun name inside => ?_
        obtain rfl := List.mem_singleton.mp inside
        exact replaces.others (heads List.mem_cons_self) here
      rw [substitutePath_of_ne here]
      refine Settings.meet_eq_of_base ?_ ?_ <;> rw [base]

/-- A frame that binds neither the name nor the first segment of the path changes nothing. -/
theorem push (replaces : Replaces s x (first :: path) names env env') {frame : Frame}
    (notName : frame.lookup x = none) (notFirst : frame.lookup first = none) :
    Replaces s x (first :: path) names (env.push frame) (env'.push frame) where
  root := replaces.root
  others inside other := by rw [lookup_push, lookup_push, replaces.others inside other]
  replaced rest := by
    have start (env : Env) {name : String} (free : frame.lookup name = none)
        (rest : List String) : (env.push frame).base (name :: rest) = env.base (name :: rest) := by
      refine base_congr rfl fun other inside => ?_
      obtain rfl := List.mem_singleton.mp inside
      exact lookup_push_other free
    calc s.meet (first :: path ++ rest) (env'.push frame)
        = s.meet (first :: path ++ rest) env' := by
          refine Settings.meet_eq_of_base ?_ ?_ <;> rw [List.cons_append, start env' notFirst]
      _ = s.meet (x :: rest) env := replaces.replaced rest
      _ = s.meet (x :: rest) (env.push frame) := by
          refine Settings.meet_eq_of_base ?_ ?_ <;> rw [start env notName]

end Replaces

end Env

/-! ## Evaluation -/

namespace Settings

variable {s : Settings} {env env' : Env}

theorem target_congr {selector : Selector} (root : env'.root = env.root)
    (same : ∀ name ∈ selector.path.take 1, env'.lookup name = env.lookup name) :
    s.target selector env' = s.target selector env := by
  have resolved : s.resolve selector env' = s.resolve selector env := by
    obtain ⟨form, path⟩ := selector
    cases path with
    | nil => simp only [resolve, root]
    | cons first rest =>
      have lookups : env'.lookup first = env.lookup first := same first List.mem_cons_self
      simp only [resolve, root, lookups]
  rw [target, target, resolved]

/-- An expression is evaluated alike wherever the first segments of its selectors mean the same. -/
theorem evaluate_congr {e : CheckedExpr} (root : env'.root = env.root)
    (same : ∀ name ∈ e.heads, env'.lookup name = env.lookup name) :
    s.evaluate e env' = s.evaluate e env := by
  induction e generalizing env env' with
  | test selector operator literal =>
    simp only [evaluate, test, target_congr root same]
  | not operand ih => simp only [evaluate, ih root same]
  | and left right ihLeft ihRight | or left right ihLeft ihRight =>
    obtain ⟨sameLeft, sameRight⟩ := List.forall_mem_append.mp same
    simp only [evaluate, ihLeft root sameLeft, ihRight root sameRight]
  | quantified quantifier selector binding body ih =>
    obtain ⟨sameSelector, sameBody⟩ := List.forall_mem_append.mp same
    have bodies (frame : Frame) :
        s.evaluate body (env'.push frame) = s.evaluate body (env.push frame) := by
      refine ih root fun name inside => ?_
      rw [Env.lookup_push, Env.lookup_push, sameBody name inside]
    simp only [evaluate, target_congr root sameSelector, bodies]

/-- A name has no meaning of its own where every frame binds it. -/
theorem evaluate_push_congr {e : CheckedExpr} {frame : Frame} (root : env'.root = env.root)
    (same : ∀ name ∈ e.heads, name ∉ frame.map Prod.fst → env'.lookup name = env.lookup name) :
    s.evaluate e (env'.push frame) = s.evaluate e (env.push frame) := by
  refine evaluate_congr root fun name inside => ?_
  rw [Env.lookup_push, Env.lookup_push]
  cases bound : frame.lookup name with
  | some d => rfl
  | none => rw [same name inside (lookup_eq_none_iff_not_mem.mp bound)]

/-- The substitution lemma: an expression with a path in the place of a name is evaluated like the
expression itself, where the path leads to what the name is bound to. No quantifier inside may
capture the first segment of the path. -/
theorem evaluate_substitute {x first : String} {path : List String} {e : CheckedExpr}
    (free : first ∉ e.bound) (replaces : Env.Replaces s x (first :: path) e.heads env env') :
    Traced.Alike Eq (s.evaluate e env) (s.evaluate (e.substitute x (first :: path)) env') := by
  induction e generalizing env env' with
  | test selector operator literal =>
    exact test_alike (replaces.meet fun _ inside => inside).symm operator literal
  | not operand ih => exact not_alike (ih free replaces)
  | and left right ihLeft ihRight =>
    obtain ⟨freeLeft, freeRight⟩ := not_or.mp (mt List.mem_append.mpr free)
    exact and_alike (ihLeft freeLeft (replaces.mono (List.subset_append_left _ _)))
      (ihRight freeRight (replaces.mono (List.subset_append_right _ _)))
  | or left right ihLeft ihRight =>
    obtain ⟨freeLeft, freeRight⟩ := not_or.mp (mt List.mem_append.mpr free)
    exact or_alike (ihLeft freeLeft (replaces.mono (List.subset_append_left _ _)))
      (ihRight freeRight (replaces.mono (List.subset_append_right _ _)))
  | quantified quantifier selector binding body ih =>
    obtain ⟨notBound, freeBody⟩ := not_or.mp (mt List.mem_append.mpr free)
    have inBody := replaces.mono (List.subset_append_right _ _)
    have met : s.meet (substitutePath x (first :: path) selector.path) env' =
        s.meet selector.path env := replaces.meet (List.subset_append_left _ _)
    refine quantified_alike met.symm (fun d => ?_) quantifier
    cases visited : binding.frames? d with
    | none => exact .none
    | some frames =>
      refine .some (List.forall₂_same.mpr fun frame inside => ?_)
      have names := Binding.names_of_frames? visited inside
      by_cases again : x ∈ binding.names
      · -- Bound again, the name is left alone in the body, which then takes it from the frame.
        rw [if_pos again, evaluate_push_congr replaces.root fun name used unbound =>
          inBody.others used fun same => unbound (names ▸ same ▸ again)]
        exact .refl _
      · rw [if_neg again]
        refine ih freeBody (inBody.push ?_ ?_)
        · exact lookup_eq_none_iff_not_mem.mpr (names ▸ again)
        · exact lookup_eq_none_iff_not_mem.mpr (names ▸ notBound)

end Settings

end Sift
