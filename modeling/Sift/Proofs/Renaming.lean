import Sift.Pattern.Search
import Sift.Proofs.Evaluation.Substitution

/-!
# Other names for what is bound

What a quantifier binds may be called by any name that does not occur in its body: the same data are
shown to the hook, and the answer is the same, wherever the expression is evaluated
(`evaluate_renamed`). The new name may well mean something around the quantifier, or be a key of the
root; the frames of the quantifier are in front of both. Only an error can tell the two expressions
apart, since it names the selector that was evaluated.
-/

namespace Sift

/-- With the frame under other names, the new name leads to where the old one did. -/
theorem Env.Replaces.renamed {s : Settings} {x y : String} {names : List String} {frame : Frame}
    (bound : x ∈ frame.map Prod.fst) (fresh : y ∉ frame.map Prod.fst) (unused : y ∉ names)
    (env : Env) :
    Replaces s x [y] names (env.push frame)
      (env.push (frame.map (Prod.map (replaceName x y) id))) where
  root := rfl
  others inside other := by
    have notNew := ne_of_mem_of_not_mem inside unused
    rw [lookup_push, lookup_push, lookup_replaced_other other notNew]
  replaced rest := by
    obtain ⟨d, binds⟩ := exists_lookup_of_mem bound
    have before : (env.push frame).lookup x = some d := by
      rw [lookup_push, binds, Option.some_or]
    have behind : (env.push (frame.map (Prod.map (replaceName x y) id))).lookup y = some d := by
      rw [lookup_push, lookup_replaced_new fresh, binds, Option.some_or]
    refine Settings.meet_eq_of_base ?_ ?_
    · rw [List.cons_append, base_bound before, base_bound behind]
    · rw [List.cons_append, base_bound before, base_bound behind]
      rfl

namespace Settings

variable {s : Settings} {x y : String} {e e' : CheckedExpr}

theorem alike_renamed (renames : Expr.Renames x y e e') (env : Env) :
    Traced.Alike Eq (s.evaluate e env) (s.evaluate e' env) := by
  induction renames generalizing env with
  | here quantifier selector bound fresh unused =>
    obtain ⟨unusedHead, unusedBound⟩ := not_or.mp (mt List.mem_append.mpr unused)
    refine quantified_alike rfl (fun d => ?_) quantifier
    rw [Binding.rename, Binding.frames?_map]
    cases visited : Binding.frames? _ d with
    | none => exact .none
    | some frames =>
      refine .some (List.forall₂_map_right_iff.mpr (List.forall₂_same.mpr fun frame inside => ?_))
      have names := Binding.names_of_frames? visited inside
      rw [← names] at bound fresh
      exact evaluate_substitute unusedBound (.renamed bound fresh unusedHead env)
  | not _ ih => exact not_alike (ih env)
  | andLeft right _ ih => exact and_alike (ih env) (.refl _)
  | andRight left _ ih => exact and_alike (.refl _) (ih env)
  | orLeft right _ ih => exact or_alike (ih env) (.refl _)
  | orRight left _ ih => exact or_alike (.refl _) (ih env)
  | inside quantifier selector binding _ ih =>
    refine quantified_alike rfl (fun d => ?_) quantifier
    cases binding.frames? d with
    | none => exact .none
    | some frames => exact .some (List.forall₂_same.mpr fun frame _ => ih (env.push frame))

/-- Replacing a name that a quantifier binds by one that does not occur there changes neither the
data shown to the hook nor the answer, whatever the settings and the environment. -/
theorem evaluate_renamed (renames : Expr.Renames x y e e') (s : Settings) (env : Env) :
    (s.evaluate e' env).notes = (s.evaluate e env).notes ∧
      (s.evaluate e' env).result? = (s.evaluate e env).result? := by
  have alike := alike_renamed (s := s) renames env
  exact ⟨alike.notes.symm, alike.result_eq.symm⟩

end Settings

/-- Some item costs 3 and has no tag `a`; the tags are called what the items are. -/
def Expr.sampleItem : CheckedExpr :=
  .quantified .any ⟨.words, ["items"]⟩ (.value passedName)
    (.and (.test ⟨.words, [passedName, "price"]⟩ .equal (some ⟨"3", none⟩))
      (.quantified .all ⟨.words, [passedName, "tags"]⟩ (.each passedName)
        (.test ⟨.words, [passedName]⟩ .notEqual (some ⟨"a", none⟩))))

/-- An order without a root: its items are bound. -/
def Env.sampleOrder : Env :=
  ⟨.null, [[("items", .list [.map [("price", .int 3), ("tags", .list [.string "b"])]])]]⟩

/-- The items take the name of the list, which is bound around them, and their tags keep theirs. -/
theorem evaluate_renamed_order :
    ∃ renamed, Expr.Renames passedName "items" Expr.sampleItem renamed ∧
      (Settings.evaluate ⟨Pattern.engine, "", some fun _ => .keep, .refuse⟩ Expr.sampleItem
        Env.sampleOrder).result? = some true ∧
      (Settings.evaluate ⟨Pattern.engine, "", some fun _ => .keep, .refuse⟩ renamed
          Env.sampleOrder).result? =
        (Settings.evaluate ⟨Pattern.engine, "", some fun _ => .keep, .refuse⟩ Expr.sampleItem
          Env.sampleOrder).result? := by
  have renames : Expr.Renames passedName "items" Expr.sampleItem _ :=
    .here .any ⟨.words, ["items"]⟩ (by decide) (by decide) (by decide)
  exact ⟨_, renames, rfl, (Settings.evaluate_renamed renames _ _).2⟩

end Sift
