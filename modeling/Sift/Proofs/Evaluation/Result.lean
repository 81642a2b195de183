import Sift.Evaluation.Basic

/-!
# Results

Two evaluations agree if they give the same boolean or if both fail; which error it is that they
fail with is another question, since errors name the selector that was evaluated. `Traced.result?`
forgets notes and errors, and these lemmas carry it through everything that an evaluation is
made of.
-/

namespace Sift

/-! ## Plain outcomes -/

section

variable {ε α β : Type}

@[simp] theorem ok_bind (a : α) (next : α → Except ε β) : (Except.ok a >>= next) = next a := rfl

@[simp] theorem error_bind (e : ε) (next : α → Except ε β) :
    ((Except.error e : Except ε α) >>= next) = .error e := rfl

@[simp] theorem toOption_ok (a : α) : (Except.ok a : Except ε α).toOption = some a := rfl

@[simp] theorem toOption_error (e : ε) : (Except.error e : Except ε α).toOption = none := rfl

theorem bind_eq_ok {x : Except ε α} {next : α → Except ε β} {b : β} :
    (x >>= next) = .ok b ↔ ∃ a, x = .ok a ∧ next a = .ok b := by
  cases x with
  | ok a => exact ⟨fun goesOn => ⟨a, rfl, goesOn⟩, fun ⟨_, rfl, goesOn⟩ => goesOn⟩
  | error e => exact ⟨nofun, fun ⟨_, failed, _⟩ => nomatch failed⟩

@[simp] theorem mapError_ok {δ : Type} (f : ε → δ) (a : α) :
    (Except.ok a : Except ε α).mapError f = .ok a := rfl

@[simp] theorem mapError_error {δ : Type} (f : ε → δ) (e : ε) :
    (Except.error e : Except ε α).mapError f = .error (f e) := rfl

theorem mapError_eq_ok {δ : Type} {f : ε → δ} {x : Except ε α} {a : α} :
    x.mapError f = .ok a ↔ x = .ok a := by
  cases x with
  | ok b => exact ⟨fun same => by cases same; rfl, fun same => by cases same; rfl⟩
  | error e => exact ⟨nofun, nofun⟩

theorem toOption_eq_some {x : Except ε α} {a : α} : x.toOption = some a ↔ x = .ok a := by
  cases x with
  | ok b => exact ⟨fun same => congrArg _ (Option.some.inj same), fun same => by rw [same]; rfl⟩
  | error e => exact ⟨nofun, nofun⟩

/-- Chained outcomes succeed if both do. -/
theorem toOption_bind (x : Except ε α) (next : α → Except ε β) :
    (x >>= next).toOption = x.toOption >>= fun a => (next a).toOption := by
  cases x <;> rfl

/-- Whatever an outcome fails with has a property. -/
def FailsWith (P : ε → Prop) (outcome : Except ε α) : Prop := ∀ error, outcome = .error error → P error

namespace FailsWith

variable {P Q : ε → Prop}

theorem ok (a : α) : FailsWith P (.ok a) := nofun

theorem error {error : ε} (here : P error) : FailsWith P (.error error : Except ε α) := by
  intro error' failed
  cases failed
  exact here

theorem mono {x : Except ε α} (fails : FailsWith P x) (weaker : ∀ error, P error → Q error) :
    FailsWith Q x :=
  fun error failed => weaker error (fails error failed)

/-- A chain fails as one of its parts does. -/
theorem bind {x : Except ε α} {next : α → Except ε β} (first : FailsWith P x)
    (second : ∀ a, x = .ok a → FailsWith P (next a)) : FailsWith P (x >>= next) := by
  cases x with
  | ok a => exact second a rfl
  | error e => exact .error (first e rfl)

theorem mapError {δ : Type} {R : δ → Prop} {f : ε → δ} {x : Except ε α}
    (fails : FailsWith (fun error => R (f error)) x) : FailsWith R (x.mapError f) := by
  cases x with
  | ok a => exact .ok a
  | error e => exact .error (fails e rfl)

end FailsWith

end

/-! ## Outcomes with notes -/

namespace Traced

variable {ν ε α β : Type}

/-- A chain succeeds if both of its parts do. -/
theorem outcome_bind_eq_ok {x : Traced ν ε α} {next : α → Traced ν ε β} {b : β} :
    (x >>= next).outcome = .ok b ↔ ∃ a, x.outcome = .ok a ∧ (next a).outcome = .ok b := by
  rw [outcome_bind, bind_eq_ok]

theorem failsWith_bind {P : ε → Prop} {x : Traced ν ε α} {next : α → Traced ν ε β}
    (first : FailsWith P x.outcome)
    (second : ∀ a, x.outcome = .ok a → FailsWith P (next a).outcome) :
    FailsWith P (x >>= next).outcome := by
  rw [outcome_bind]
  exact first.bind second

/-- What a success gives; nothing stands for every failure. -/
def result? (x : Traced ν ε α) : Option α := x.outcome.toOption

@[simp] theorem result?_pure (a : α) : (pure a : Traced ν ε α).result? = some a := rfl

@[simp] theorem result?_fail (e : ε) : (fail e : Traced ν ε α).result? = none := rfl

@[simp] theorem result?_ofExcept (outcome : Except ε α) :
    (ofExcept outcome : Traced ν ε α).result? = outcome.toOption := rfl

@[simp] theorem result?_mapError {δ : Type} (f : ε → δ) (x : Traced ν ε α) :
    (x.mapError f).result? = x.result? := by
  simp only [result?, outcome_mapError]
  cases x.outcome <;> rfl

@[simp] theorem result?_bind (x : Traced ν ε α) (next : α → Traced ν ε β) :
    (x >>= next).result? = x.result? >>= fun a => (next a).result? := by
  simp only [result?, outcome_bind]
  cases x.outcome <;> rfl

/-- What goes on from a success keeps the notes made before. -/
theorem bind_of_ok (notes : List ν) (a : α) (next : α → Traced ν ε β) :
    (⟨notes, .ok a⟩ >>= next) = ⟨notes ++ (next a).notes, (next a).outcome⟩ := rfl

instance : LawfulMonad (Traced ν ε) := by
  refine LawfulMonad.mk' (Traced ν ε) ?_ ?_ ?_
  · rintro α ⟨notes, outcome⟩
    cases outcome with
    | ok a => exact congrArg (mk · (.ok a)) (List.append_nil notes)
    | error e => rfl
  · intro α β a next
    rfl
  · rintro α β γ ⟨notes, outcome⟩ next last
    cases outcome with
    | error e => rfl
    | ok a =>
      simp only [bind_of_ok]
      rcases next a with ⟨more, _ | b⟩
      · rfl
      · exact congrArg (mk · _) (List.append_assoc _ _ _)

/-- Only what follows a success matters. -/
theorem bind_congr_of_ok {x : Traced ν ε α} {next next' : α → Traced ν ε β}
    (same : ∀ a, x.outcome = .ok a → next a = next' a) : (x >>= next) = (x >>= next') := by
  obtain ⟨notes, outcome⟩ := x
  cases outcome with
  | error e => rfl
  | ok a => rw [bind_of_ok, bind_of_ok, same a rfl]

theorem map_ofExcept (f : α → β) (outcome : Except ε α) :
    (f <$> ofExcept outcome : Traced ν ε β) = ofExcept (outcome.map f) := by
  cases outcome <;> rfl

theorem result?_eq_some {x : Traced ν ε α} {a : α} : x.result? = some a ↔ x.outcome = .ok a :=
  toOption_eq_some

end Traced

/-! ## Expressions -/

namespace Settings

variable {s : Settings}

/-- What a checked expression evaluates to; nothing stands for every failure. -/
def answer? (s : Settings) (e : CheckedExpr) (env : Env) : Option Bool := (s.evaluate e env).result?

/-- The quantifier as it looks at one answer after the other. -/
def quantify? (quantifier : Quantifier) (visit : Frame → Option Bool) : List Frame → Option Bool
  | [] => some quantifier.ifNone
  | frame :: rest => do
    let answer ← visit frame
    if answer = quantifier.ifNone then quantify? quantifier visit rest else some answer

theorem result?_quantify (quantifier : Quantifier) (visit : Frame → Traced Datum EvalError Bool)
    (frames : List Frame) :
    (quantify quantifier visit frames).result? =
      quantify? quantifier (fun frame => (visit frame).result?) frames := by
  induction frames with
  | nil => rfl
  | cons frame rest ih =>
    simp only [quantify, quantify?, Traced.result?_bind]
    refine bind_congr fun answer => ?_
    split
    · exact ih
    · rfl

theorem answer?_not (operand : CheckedExpr) (env : Env) :
    s.answer? (.not operand) env = (s.answer? operand env).map not := by
  simp only [answer?, evaluate, Traced.result?_bind, Traced.result?_pure]
  cases (s.evaluate operand env).result? <;> rfl

theorem answer?_and (left right : CheckedExpr) (env : Env) :
    s.answer? (.and left right) env =
      s.answer? left env >>= fun holds => if holds then s.answer? right env else some false := by
  simp only [answer?, evaluate, Traced.result?_bind]
  refine bind_congr fun answer => ?_
  cases answer <;> rfl

theorem answer?_or (left right : CheckedExpr) (env : Env) :
    s.answer? (.or left right) env =
      s.answer? left env >>= fun holds => if holds then some true else s.answer? right env := by
  simp only [answer?, evaluate, Traced.result?_bind]
  refine bind_congr fun answer => ?_
  cases answer <;> rfl

/-- A quantified expression asks for the elements of its target. -/
theorem answer?_quantified (quantifier : Quantifier) (selector : Selector) (binding : Binding)
    (body : CheckedExpr) (env : Env) :
    s.answer? (.quantified quantifier selector binding body) env =
      (s.target selector env).result? >>= fun found => match found with
        | none => some quantifier.ifNone
        | some (.judge ..) => none
        | some (.datum d) => binding.frames? d >>=
          quantify? quantifier fun frame => s.answer? body (env.push frame) := by
  simp only [answer?, evaluate, Traced.result?_bind]
  refine bind_congr fun found => ?_
  rcases found with - | (d | _)
  · rfl
  · dsimp only
    cases binding.frames? d with
    | none => rfl
    | some frames => exact result?_quantify _ _ _
  · rfl

end Settings

end Sift
