import Sift.Proofs.Evaluation.Arrivals

/-!
# Paths one behind the other

A path behind another one is followed from where the first one leads. That is the law of `Datum.follow`
(`follow_append`), and it holds with the notes, since a hook is shown the same data. Segments are
numbered along the whole path, so behind another path they have greater numbers, and nothing else about
the walk changes (`follow_add`). For whole paths it follows that an error is about the first segment
that leads nowhere, and that what is left to a judge is a part of the path (`resolve_composes`).
-/

namespace Sift

theorem Traced.mapError_map {ν ε δ α β : Type} (f : ε → δ) (g : α → β) (x : Traced ν ε α) :
    (g <$> x).mapError f = g <$> x.mapError f := by
  obtain ⟨notes, outcome⟩ := x
  cases outcome <;> rfl

/-! ## Segments under other numbers -/

/-- What has been reached, on a path that stands behind a number of segments. -/
def Reached.behind (segments : Nat) : Reached → Reached
  | .datum d => .datum d
  | .judge j rest => .judge j (segments + rest)

namespace PathError

/-- The error, on a path that stands behind another one. -/
def behind (path : List String) (e : PathError) : PathError :=
  ⟨path ++ e.path, path.length + e.part, e.fault⟩

/-- The error, on a path that goes on. -/
def before (more : List String) (e : PathError) : PathError := { e with path := e.path ++ more }

end PathError

namespace Datum

variable {tag : String} {hook : Option Hook}

/-- It makes no other difference which number the first segment has. -/
theorem follow_add (d : Datum) (segments part : Nat) (path : List String) :
    d.follow tag hook (segments + part) path = Reached.behind segments <$>
      (d.follow tag hook part path).mapError (Prod.map (segments + ·) id) := by
  have numbered {α : Type} (part : Nat) (x : Traced Datum PathFault α) :
      (x.mapError (part, ·)).mapError (Prod.map (segments + ·) id) =
        x.mapError (segments + part, ·) := Traced.mapError_mapError _ _ x
  induction path generalizing d part with
  | nil =>
    obtain ⟨j, rfl⟩ | other := d.judge_or_other
    · rfl
    · rw [follow_nil other, follow_nil other]
      rfl
  | cons segment rest ih =>
    obtain ⟨j, rfl⟩ | other := d.judge_or_other
    · rfl
    · simp only [follow_cons other, Traced.mapError_bind, numbered, map_bind, Nat.add_assoc, ih]

/-- Segments behind a path are followed from the datum that the path leads to. Where it fails, or a
judge has ended it, nothing follows. -/
theorem follow_append (d : Datum) (part : Nat) (path more : List String) :
    d.follow tag hook part (path ++ more) = d.follow tag hook part path >>= fun reached =>
      match reached with
      | .datum next => next.follow tag hook (part + path.length) more
      | .judge j rest => pure (.judge j rest) := by
  induction path generalizing d part with
  | nil =>
    obtain ⟨j, rfl⟩ | other := d.judge_or_other
    · rw [follow_judge, follow_judge]
      rfl
    · rw [follow_nil other]
      rfl
  | cons segment rest ih =>
    obtain ⟨j, rfl⟩ | other := d.judge_or_other
    · rfl
    · -- Both sides take the same first step; the number of the next segment is counted in two ways.
      have numbers : part + (rest.length + 1) = part + 1 + rest.length := by omega
      simp only [List.cons_append, follow_cons other, bind_assoc, ih, List.length_cons, numbers]

/-- A judge that ends a walk stands in front of one of its segments, or behind the last one. -/
theorem rest_le_of_follow {d : Datum} {part rest : Nat} {path : List String} {j : Judge}
    (reached : (d.follow tag hook part path).outcome = .ok (.judge j rest)) :
    rest ≤ part + path.length := by
  induction path generalizing d part with
  | nil =>
    obtain ⟨j', rfl⟩ | other := d.judge_or_other
    · cases reached
      exact Nat.le_refl _
    · rw [follow_nil other] at reached
      cases reached
  | cons segment others ih =>
    obtain ⟨j', rfl⟩ | other := d.judge_or_other
    · cases reached
      exact Nat.le_add_right _ _
    · rw [follow_cons other] at reached
      obtain ⟨found, -, reached⟩ := Traced.outcome_bind_eq_ok.mp reached
      obtain ⟨next, -, reached⟩ := Traced.outcome_bind_eq_ok.mp reached
      have within := ih reached
      rw [List.length_cons]
      omega

/-- A walk fails at one of its segments. -/
theorem failsWith_follow (d : Datum) (part : Nat) (path : List String) :
    FailsWith (fun error => error.1 < part + path.length) (d.follow tag hook part path).outcome := by
  induction path generalizing d part with
  | nil =>
    obtain ⟨j, rfl⟩ | other := d.judge_or_other
    · exact .ok _
    · rw [follow_nil other]
      exact .ok _
  | cons segment rest ih =>
    obtain ⟨j, rfl⟩ | other := d.judge_or_other
    · exact .ok _
    · have here {α : Type} (x : Except PathFault α) :
          FailsWith (fun error => error.1 < part + (rest.length + 1)) (x.mapError (part, ·)) :=
        .mapError fun _ _ => by omega
      rw [follow_cons other, List.length_cons]
      refine Traced.failsWith_bind (here _) fun found _ => ?_
      refine Traced.failsWith_bind (here _) fun next _ => ?_
      exact (ih next (part + 1)).mono fun _ within => by omega

/-! ## Whole paths -/

/-- A whole path is followed from its first segment. -/
theorem resolve_zero (d : Datum) (path : List String) :
    d.resolve tag hook path 0 =
      (d.follow tag hook 0 path).mapError fun (part, fault) => ⟨path, part, fault⟩ := by
  rw [resolve, Nat.zero_min, List.drop_zero]

theorem path_of_resolve_error {d : Datum} {path : List String} {error : PathError}
    (failed : (d.resolve tag hook path 0).outcome = .error error) :
    error.path = path ∧ error.part < path.length := by
  rw [resolve_zero] at failed
  have fails : FailsWith (fun error => error.1 < 0 + path.length)
      (d.follow tag hook 0 path).outcome := failsWith_follow d 0 path
  rw [Nat.zero_add] at fails
  exact FailsWith.mapError (R := fun error => error.path = path ∧ error.part < path.length)
    (fails.mono fun _ within => ⟨rfl, within⟩) error failed

theorem rest_le_of_resolve {d : Datum} {path : List String} {j : Judge} {rest : Nat}
    (reached : (d.resolve tag hook path 0).outcome = .ok (.judge j rest)) :
    rest ≤ path.length := by
  rw [resolve_zero, Traced.outcome_mapError, mapError_eq_ok] at reached
  have within := rest_le_of_follow reached
  omega

/-- A whole path that goes on behind another one. -/
theorem resolve_append (d : Datum) (path more : List String) :
    d.resolve tag hook (path ++ more) 0 =
      (d.resolve tag hook path 0).mapError (PathError.before more) >>= fun reached =>
        match reached with
        | .datum next => Reached.behind path.length <$>
          (next.resolve tag hook more 0).mapError (PathError.behind path)
        | .judge j rest => pure (.judge j rest) := by
  simp only [resolve_zero, follow_append, Traced.mapError_bind, Traced.mapError_mapError]
  refine bind_congr fun reached => ?_
  cases reached with
  | judge j rest => rfl
  | datum next =>
    have numbers : 0 + path.length = path.length + 0 := by omega
    dsimp only
    rw [numbers, follow_add, Traced.mapError_map, Traced.mapError_mapError]
    rfl

/-- A path that fails behind some of its segments fails there because these lead to a datum behind
which the others fail, or because these fail alike. -/
theorem resolve_error_append {d : Datum} {path more : List String} {error : PathError}
    (failed : (d.resolve tag hook (path ++ more) 0).outcome = .error error) :
    (∃ next, (d.resolve tag hook path 0).outcome = .ok (.datum next) ∧
        path.length ≤ error.part) ∨
      (d.resolve tag hook path 0).outcome = .error ⟨path, error.part, error.fault⟩ := by
  rw [resolve_append, Traced.outcome_bind, Traced.outcome_mapError] at failed
  cases first : (d.resolve tag hook path 0).outcome with
  | error e =>
    rw [first] at failed
    cases failed
    obtain ⟨rfl, -⟩ := path_of_resolve_error first
    exact .inr rfl
  | ok reached =>
    rw [first] at failed
    cases reached with
    | judge j rest => cases failed
    | datum next =>
      refine .inl ⟨next, rfl, ?_⟩
      simp only [mapError_ok, ok_bind, Traced.outcome_map, Traced.outcome_mapError] at failed
      cases behind : (next.resolve tag hook more 0).outcome with
      | ok reached =>
        rw [behind] at failed
        cases failed
      | error e =>
        rw [behind] at failed
        cases failed
        exact Nat.le_add_right _ _

/-- The part that an error names is the first one that leads nowhere: what stands in front of it leads
to a datum, and with it the path fails, however far it goes on. -/
theorem resolve_take_of_error {d : Datum} {path : List String} {error : PathError}
    (failed : (d.resolve tag hook path 0).outcome = .error error) (n : Nat) :
    (n ≤ error.part → ∃ next, (d.resolve tag hook (path.take n) 0).outcome = .ok (.datum next)) ∧
      (error.part < n → (d.resolve tag hook (path.take n) 0).outcome =
        .error ⟨path.take n, error.part, error.fault⟩) := by
  have within := (path_of_resolve_error failed).2
  rw [← List.take_append_drop n path] at failed
  have length := path.length_take (i := n)
  rcases resolve_error_append failed with ⟨next, reached, front⟩ | same
  · refine ⟨fun _ => ⟨next, reached⟩, fun behind => ?_⟩
    omega
  · have short := (path_of_resolve_error same).2
    refine ⟨fun front => ?_, fun _ => same⟩
    dsimp only at short
    omega

end Datum

/-- A path that is resolved behind another one goes on from the datum that the first one leads to, with
judges and errors numbered along the whole path; a judge on the way, or a failure, stays what it is.
So a judge is left segments of the path, and an error names the first segment that leads nowhere: the
segments in front of it lead to a datum, and with it the path fails in the same way. -/
theorem resolve_composes (tag : String) (hook : Option Hook) (d : Datum) (path more : List String) :
    d.resolve tag hook (path ++ more) 0 =
        ((d.resolve tag hook path 0).mapError (PathError.before more) >>= fun reached =>
          match reached with
          | .datum next => Reached.behind path.length <$>
            (next.resolve tag hook more 0).mapError (PathError.behind path)
          | .judge j rest => pure (.judge j rest)) ∧
      (∀ j rest, (d.resolve tag hook path 0).outcome = .ok (.judge j rest) → rest ≤ path.length) ∧
      ∀ error, (d.resolve tag hook path 0).outcome = .error error →
        error.path = path ∧ error.part < path.length ∧
          (∃ next, (d.resolve tag hook (path.take error.part) 0).outcome = .ok (.datum next)) ∧
          (d.resolve tag hook (path.take (error.part + 1)) 0).outcome =
            .error ⟨path.take (error.part + 1), error.part, error.fault⟩ := by
  refine ⟨d.resolve_append path more, fun _ _ => Datum.rest_le_of_resolve, ?_⟩
  intro error failed
  obtain ⟨same, within⟩ := Datum.path_of_resolve_error failed
  exact ⟨same, within, (Datum.resolve_take_of_error failed error.part).1 (Nat.le_refl _),
    (Datum.resolve_take_of_error failed (error.part + 1)).2 (Nat.lt_succ_self _)⟩

end Sift
