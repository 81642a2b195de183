/-!
# Outcomes with notes

Several activities produce an outcome and note things on the way to it: what was logged, which
data were shown to a hook. `Traced ν ε α` holds both. Notes come in order, and those made before
a failure are kept.
-/

namespace Sift

/-- An outcome, or a failure, together with what was noted on the way to it. -/
structure Traced (ν ε α : Type) where
  notes : List ν
  outcome : Except ε α

namespace Traced

variable {ν ε α β : Type}

/-- An outcome reached without a note. -/
def ofExcept (outcome : Except ε α) : Traced ν ε α := ⟨[], outcome⟩

/-- Success without a note. -/
protected def pure (a : α) : Traced ν ε α := ofExcept (.ok a)

/-- Failure without a note. -/
def fail (e : ε) : Traced ν ε α := ofExcept (.error e)

/-- A single note. -/
def note (n : ν) : Traced ν ε Unit := ⟨[n], .ok ()⟩

/-- Goes on from a success; a failure ends it. -/
protected def bind (x : Traced ν ε α) (next : α → Traced ν ε β) : Traced ν ε β :=
  match x.outcome with
  | .error e => ⟨x.notes, .error e⟩
  | .ok a => ⟨x.notes ++ (next a).notes, (next a).outcome⟩

instance : Monad (Traced ν ε) where
  pure := Traced.pure
  bind := Traced.bind

/-- The same outcome with the failure reworded. -/
def mapError {δ : Type} (f : ε → δ) (x : Traced ν ε α) : Traced ν δ α :=
  ⟨x.notes, x.outcome.mapError f⟩

@[simp] theorem outcome_pure (a : α) : (pure a : Traced ν ε α).outcome = .ok a := rfl

@[simp] theorem notes_pure (a : α) : (pure a : Traced ν ε α).notes = [] := rfl

@[simp] theorem outcome_fail (e : ε) : (fail e : Traced ν ε α).outcome = .error e := rfl

@[simp] theorem notes_fail (e : ε) : (fail e : Traced ν ε α).notes = [] := rfl

@[simp] theorem outcome_ofExcept (outcome : Except ε α) :
    (ofExcept outcome : Traced ν ε α).outcome = outcome := rfl

@[simp] theorem outcome_note (n : ν) : (note n : Traced ν ε Unit).outcome = .ok () := rfl

@[simp] theorem outcome_mapError {δ : Type} (f : ε → δ) (x : Traced ν ε α) :
    (x.mapError f).outcome = x.outcome.mapError f := rfl

/-- Notes never decide an outcome, so outcomes are chained like plain results. -/
@[simp] theorem outcome_bind (x : Traced ν ε α) (next : α → Traced ν ε β) :
    (x >>= next).outcome = x.outcome >>= fun a => (next a).outcome := by
  show (Traced.bind x next).outcome = _
  unfold Traced.bind
  cases x.outcome <;> rfl

end Traced

end Sift
