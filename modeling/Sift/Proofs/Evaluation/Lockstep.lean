import Mathlib
import Sift.Proofs.Evaluation.Result

/-!
# Evaluations in lockstep

Two evaluations of one expression go on alike as long as what they find cannot be told apart. A test
looks at the outline of a datum only: at scalars, at how much a collection holds, at the scalars among
its elements and keys (`Test.run_outline`). So a relation on data under which outlines are the same is
enough for the answers of a test, and together with related frames for those of a quantifier; outcomes
agree to the error (`Traced.Agrees`).
-/

namespace Sift

/-! ## Outcomes with the same errors -/

namespace Traced

variable {ν ε δ α α' β β' : Type} {r : α → α' → Prop} {q : β → β' → Prop}

/-- The same notes and the same error, or the same notes and related results. -/
inductive Agrees (r : α → α' → Prop) : Traced ν ε α → Traced ν ε α' → Prop
  | error (notes : List ν) (e : ε) : Agrees r ⟨notes, .error e⟩ ⟨notes, .error e⟩
  | ok (notes : List ν) {a : α} {a' : α'} : r a a' → Agrees r ⟨notes, .ok a⟩ ⟨notes, .ok a'⟩

theorem Agrees.refl (x : Traced ν ε α) : Agrees Eq x x := by
  obtain ⟨notes, outcome⟩ := x
  cases outcome with
  | error e => exact .error notes e
  | ok a => exact .ok notes rfl

theorem Agrees.eq {x x' : Traced ν ε α} (agrees : Agrees Eq x x') : x = x' := by
  cases agrees with
  | error notes e => rfl
  | ok notes same => rw [same]

theorem Agrees.mono {r' : α → α' → Prop} {x : Traced ν ε α} {x' : Traced ν ε α'}
    (agrees : Agrees r x x') (weaker : ∀ a a', r a a' → r' a a') : Agrees r' x x' := by
  cases agrees with
  | error notes e => exact .error notes e
  | ok notes related => exact .ok notes (weaker _ _ related)

theorem Agrees.mapError {x : Traced ν ε α} {x' : Traced ν ε α'} (agrees : Agrees r x x')
    (f : ε → δ) : Agrees r (x.mapError f) (x'.mapError f) := by
  cases agrees with
  | error notes e => exact .error notes (f e)
  | ok notes related => exact .ok notes related

theorem Agrees.bind {x : Traced ν ε α} {x' : Traced ν ε α'} {next : α → Traced ν ε β}
    {next' : α' → Traced ν ε β'} (first : Agrees r x x')
    (onwards : ∀ a a', r a a' → Agrees q (next a) (next' a')) :
    Agrees q (x >>= next) (x' >>= next') := by
  cases first with
  | error notes e => exact .error notes e
  | @ok notes a a' related =>
    have behind := onwards a a' related
    rw [bind_of_ok, bind_of_ok]
    generalize next a = y, next' a' = y' at behind ⊢
    cases behind with
    | error more e => exact .error (notes ++ more) e
    | ok more relatedBehind => exact .ok (notes ++ more) relatedBehind

end Traced

/-! ## What a test can see -/

namespace Datum

/-- What can be seen of an element or a key: a scalar as it is, and anything else as none. -/
def face (d : Datum) : Datum := if d.isScalar then d else .null

/-- What a test can see of a datum. -/
def outline : Datum → Datum
  | list items => .list (items.map face)
  | map entries => .map (entries.map fun (key, _) => (key, .null))
  | pairs entries => .pairs (entries.map fun (key, _) => (key.face, .null))
  | record .. => .record "" []
  | d => d

theorem equalsLiteral_face (d : Datum) (l : CheckedLiteral) :
    d.face.equalsLiteral l = d.equalsLiteral l := by
  have other (d : Datum) (noKind : ∀ literal : Literal, literal.kind ≠ d.kind)
      (unread : d.readLiteral? l.raw = none) : d.equalsLiteral l = false := by
    have unknown : l.for? d = none := by
      unfold CheckedLiteral.for?
      cases l.converted with
      | none => exact unread
      | some literal =>
        dsimp only
        rw [if_neg (noKind literal), unread]
    rw [equalsLiteral, unknown]
  have absent : (Datum.null).equalsLiteral l = false :=
    other .null (fun literal => by cases literal <;> nofun) rfl
  cases d with
  | null | bool | int | uint | float32 | float64 | string => rfl
  | list | map | pairs | record | judge =>
    exact absent.trans (other _ (fun literal => by cases literal <;> nofun) rfl).symm

theorem kind_outline (d : Datum) : d.outline.kind = d.kind := by
  cases d <;> rfl

theorem isScalar_outline (d : Datum) : d.outline.isScalar = d.isScalar := by
  cases d <;> rfl

theorem outline_eq_null {d : Datum} : d.outline = .null ↔ d = .null := by
  cases d <;> simp [outline]

theorem readLiteral?_outline (d : Datum) (raw : String) :
    d.outline.readLiteral? raw = d.readLiteral? raw := by
  cases d <;> rfl

theorem for?_outline (d : Datum) (l : CheckedLiteral) : l.for? d.outline = l.for? d := by
  unfold CheckedLiteral.for?
  rw [kind_outline, readLiteral?_outline]

theorem order_outline (d : Datum) (l : Literal) : d.outline.order l = d.order l := by
  cases d <;> rfl

end Datum

namespace Test

theorem compared_outline (t : Test) (d : Datum) : t.compared d.outline = t.compared d := by
  unfold compared
  simp only [Datum.for?_outline, Datum.kind_outline, Datum.order_outline]

theorem contained_outline (t : Test) (d : Datum) : t.contained d.outline = t.contained d := by
  unfold contained
  refine bind_congr fun literal => ?_
  cases d with
  | list items =>
    simp only [Datum.outline, List.any_map, Function.comp_def, Datum.equalsLiteral_face]
  | map entries => simp only [Datum.outline, List.any_map, Function.comp_def]
  | pairs entries =>
    simp only [Datum.outline, List.any_map, Function.comp_def, Datum.equalsLiteral_face]
  | _ => rfl

theorem emptied_outline (t : Test) (d : Datum) : t.emptied d.outline = t.emptied d := by
  have size : d.outline.size? = d.size? := by
    cases d with
    | list | map | pairs => exact congrArg some (List.length_map _)
    | _ => rfl
  unfold emptied Datum.isEmpty?
  rw [size, Datum.kind_outline]

theorem matched_outline (t : Test) (patterns : PatternEngine) (d : Datum) :
    t.matched patterns d.outline = t.matched patterns d := by
  cases d <;> rfl

theorem ordered_outline (t : Test) (d : Datum) (holds : Ordering → Bool) :
    t.ordered d.outline holds = t.ordered d holds := by
  unfold ordered
  rw [Datum.isScalar_outline, Datum.kind_outline, compared_outline]

/-- A test sees no more of a datum than its outline. -/
theorem run_outline (t : Test) (patterns : PatternEngine) (d : Datum) :
    t.run patterns d.outline = t.run patterns d := by
  unfold run
  cases t.operator with
  | equal | notEqual => simp only [compared_outline]
  | isIn | notIn => simp only [contained_outline]
  | isEmpty | isNotEmpty => simp only [emptied_outline]
  | isMatch | notMatch => simp only [matched_outline]
  | less | lessEqual | greater | greaterEqual => simp only [ordered_outline]

end Test

/-! ## Related data -/

/-- What has been reached is related; a judge is the same. -/
inductive Reached.Rel (r : Datum → Datum → Prop) : Reached → Reached → Prop
  | datum {d d' : Datum} : r d d' → Rel r (.datum d) (.datum d')
  | judge (j : Judge) (rest : Nat) : Rel r (.judge j rest) (.judge j rest)

/-- A test cannot tell related data apart. -/
structure Datum.Indistinct (r : Datum → Datum → Prop) : Prop where
  refl (d : Datum) : r d d
  outline {d d' : Datum} : r d d' → d'.outline = d.outline

namespace Settings

variable {s : Settings} {env env' : Env} {r : Datum → Datum → Prop} {q : Frame → Frame → Prop}

/-- What takes the place of absent data is the same. -/
theorem settle_agrees (refl : ∀ d, r d d) (policy : AbsencePolicy) (error : EvalError)
    (notes : List Datum) :
    Traced.Agrees (Option.Rel (Reached.Rel r))
      (⟨notes, policy.settle error⟩ : Traced Datum EvalError (Option Reached))
      ⟨notes, policy.settle error⟩ := by
  cases policy with
  | byOperator => exact .ok notes .none
  | substitute d => exact .ok notes (.some (.datum (refl d)))
  | refuse => exact .error notes error

theorem target_of_resolve_null {selector : Selector} {notes : List Datum}
    (resolved : s.resolve selector env = ⟨notes, .ok (.datum .null)⟩) :
    s.target selector env = ⟨notes, s.policy.settle (.missing selector)⟩ := by
  unfold target
  rw [resolved]

theorem target_of_resolve_datum {selector : Selector} {notes : List Datum} {d : Datum}
    (resolved : s.resolve selector env = ⟨notes, .ok (.datum d)⟩) (there : d ≠ .null) :
    s.target selector env = ⟨notes, .ok (some (.datum d))⟩ := by
  unfold target
  rw [resolved]
  cases d with
  | null => exact absurd rfl there
  | _ => rfl

/-- A selector that resolves to related data has related data for a target, whatever is done about
absent ones. -/
theorem target_agrees_of_resolve (indistinct : Datum.Indistinct r) {selector : Selector}
    (resolved : Traced.Agrees (Reached.Rel r) (s.resolve selector env) (s.resolve selector env')) :
    Traced.Agrees (Option.Rel (Reached.Rel r)) (s.target selector env)
      (s.target selector env') := by
  generalize here : s.resolve selector env = x, here' : s.resolve selector env' = x' at resolved
  cases resolved with
  | error notes e =>
    unfold target
    rw [here, here']
    cases e with
    | unresolved error =>
      dsimp only
      split
      · exact settle_agrees indistinct.refl _ _ _
      · exact .error notes _
    | _ => exact .error notes _
  | ok notes reached =>
    cases reached with
    | judge j rest =>
      unfold target
      rw [here, here']
      exact .ok notes (.some (.judge j rest))
    | @datum d d' related =>
      have both : d' = .null ↔ d = .null := by
        rw [← Datum.outline_eq_null, indistinct.outline related, Datum.outline_eq_null]
      by_cases null : d = .null
      · obtain rfl := both.mpr null
        subst null
        rw [target_of_resolve_null here, target_of_resolve_null here']
        exact settle_agrees indistinct.refl _ _ _
      · rw [target_of_resolve_datum here null, target_of_resolve_datum here' (mt both.mp null)]
        exact .ok notes (.some (.datum related))

theorem test_eq_of_target (indistinct : Datum.Indistinct r) {t : Test}
    (found : Traced.Agrees (Option.Rel (Reached.Rel r)) (s.target t.selector env)
      (s.target t.selector env')) : s.test t env = s.test t env' := by
  refine (found.bind fun found found' related => ?_).eq
  cases related with
  | none => exact .refl _
  | some there =>
    cases there with
    | judge j rest => exact .refl _
    | @datum d d' related =>
      dsimp only
      rw [← Test.run_outline t s.patterns d, ← Test.run_outline t s.patterns d',
        indistinct.outline related]
      exact .refl _

theorem quantify_congr (quantifier : Quantifier)
    {visit visit' : Frame → Traced Datum EvalError Bool}
    {frames frames' : List Frame}
    (visits : List.Forall₂ (fun frame frame' => visit frame = visit' frame') frames frames') :
    quantify quantifier visit frames = quantify quantifier visit' frames' := by
  induction visits with
  | nil => rfl
  | cons first _ ih => rw [quantify, quantify, first, ih]

/-- A quantifier answers alike over related data if its body does in related frames. -/
theorem quantified_eq_of_target {quantifier : Quantifier} {selector : Selector} {binding : Binding}
    {body : CheckedExpr}
    (found : Traced.Agrees (Option.Rel (Reached.Rel r)) (s.target selector env)
      (s.target selector env'))
    (frames : ∀ d d', r d d' →
      Option.Rel (List.Forall₂ q) (binding.frames? d) (binding.frames? d'))
    (bodies : ∀ frame frame', q frame frame' →
      s.evaluate body (env.push frame) = s.evaluate body (env'.push frame')) :
    s.evaluate (.quantified quantifier selector binding body) env =
      s.evaluate (.quantified quantifier selector binding body) env' := by
  refine (found.bind fun found found' related => ?_).eq
  cases related with
  | none => exact .refl _
  | some there =>
    cases there with
    | judge j rest => exact .refl _
    | @datum d d' related =>
      have visited := frames d d' related
      dsimp only
      generalize binding.frames? d = frames, binding.frames? d' = frames' at visited ⊢
      cases visited with
      | none => exact .refl _
      | some visited =>
        dsimp only
        rw [quantify_congr quantifier (visited.imp bodies)]
        exact .refl _

end Settings

end Sift
