import Mathlib
import Sift.Proofs.Checking
import Sift.Proofs.Evaluation.Arrivals
import Sift.Proofs.Evaluation.Lockstep
import Sift.Query.Standard

/-!
# Hidden fields

A private field of a record, and one that the tag excludes, cannot be reached by any expression.
`Datum.SameView` relates data that differ in the values of such fields only, wherever records stand
in them: in lists and maps, among the keys of maps, in the fields of other records. Without a hook
an evaluation cannot tell such data apart: it has the same outcome in both, down to the error
(`answer_sees_no_hidden_field`). A hook is shown whole records, so it may tell them apart.
-/

namespace Sift

/-! ## Data that look the same -/

/-- No expression can reach the field under a tag: it is private, or the tag says exactly `-`. -/
def Member.Concealed (tag : String) (m : Member) : Prop :=
  m.isPrivate = true ∨ m.directive? tag = some "-"

namespace Datum

mutual

/-- The data are the same but for the values of concealed fields and the names of record types. -/
inductive SameView (tag : String) : Datum → Datum → Prop
  | refl (d : Datum) : SameView tag d d
  | list {items items' : List Datum} : List.Forall₂ (SameView tag) items items' →
    SameView tag (.list items) (.list items')
  | map {entries entries' : List (String × Datum)} :
    List.Forall₂ (SameEntry tag) entries entries' → SameView tag (.map entries) (.map entries')
  | pairs {entries entries' : List (Datum × Datum)} :
    List.Forall₂ (SamePair tag) entries entries' → SameView tag (.pairs entries) (.pairs entries')
  | record (name name' : String) {fields fields' : List (Member × Datum)} :
    List.Forall₂ (SameField tag) fields fields' →
    SameView tag (.record name fields) (.record name' fields')

/-- Entries under one text. -/
inductive SameEntry (tag : String) : String × Datum → String × Datum → Prop
  | mk (key : String) {value value' : Datum} : SameView tag value value' →
    SameEntry tag (key, value) (key, value')

/-- Entries under keys that look the same. -/
inductive SamePair (tag : String) : Datum × Datum → Datum × Datum → Prop
  | mk {key key' value value' : Datum} : SameView tag key key' → SameView tag value value' →
    SamePair tag (key, value) (key', value')

/-- Fields that are declared alike; if they are concealed, their values may be anything. -/
inductive SameField (tag : String) : Member × Datum → Member × Datum → Prop
  | seen (m : Member) {value value' : Datum} : SameView tag value value' →
    SameField tag (m, value) (m, value')
  | concealed {m : Member} (value value' : Datum) : m.Concealed tag →
    SameField tag (m, value) (m, value')

end

end Datum

/-- What has been reached looks the same; a judge is the same. -/
abbrev Reached.SameView (tag : String) : Reached → Reached → Prop := Reached.Rel (Datum.SameView tag)

/-- The same names are bound to data that look the same. -/
abbrev Frame.SameView (tag : String) : Frame → Frame → Prop := List.Forall₂ (Datum.SameEntry tag)

/-- The roots look the same, and so do the frames around. -/
structure Env.SameView (tag : String) (env env' : Env) : Prop where
  root : env.root.SameView tag env'.root
  frames : List.Forall₂ (Frame.SameView tag) env.frames env'.frames

/-! ## Parts -/

namespace Datum

variable {tag : String} {d d' : Datum}

namespace SameView

theorem kind_eq (same : d.SameView tag d') : d'.kind = d.kind := by
  cases same <;> rfl

theorem isScalar_eq (same : d.SameView tag d') : d'.isScalar = d.isScalar := by
  cases same <;> rfl

/-- A scalar is the same, and nothing else becomes the text of a key. -/
theorem keyText?_eq (same : d.SameView tag d') : d'.keyText? = d.keyText? := by
  cases same <;> rfl

end SameView

theorem getElem?_sameView {items items' : List Datum}
    (same : List.Forall₂ (SameView tag) items items') (i : Nat) :
    Option.Rel (SameView tag) items[i]? items'[i]? := by
  induction same generalizing i with
  | nil => exact .none
  | cons first _ ih =>
    cases i with
    | zero => exact .some first
    | succ i => exact ih i

/-- Under one text there are data that look the same. -/
theorem lookup_sameView {entries entries' : List (String × Datum)}
    (same : List.Forall₂ (SameEntry tag) entries entries') (key : String) :
    Option.Rel (SameView tag) (entries.lookup key) (entries'.lookup key) := by
  induction same with
  | nil => exact .none
  | cons first _ ih =>
    obtain ⟨other, value⟩ := first
    rw [lookup_cons_if, lookup_cons_if]
    split
    · exact .some value
    · exact ih

theorem find?_sameView {entries entries' : List (Datum × Datum)}
    (same : List.Forall₂ (SamePair tag) entries entries') (segment : String) :
    Option.Rel (SamePair tag) (entries.find? fun (key, _) => key.keyText? == some segment)
      (entries'.find? fun (key, _) => key.keyText? == some segment) := by
  induction same with
  | nil => exact .none
  | cons first _ ih =>
    obtain ⟨keys, values⟩ := first
    simp only [List.find?_cons, keys.keyText?_eq]
    split
    · exact .some (.mk keys values)
    · exact ih

/-- No name leads to a concealed field. -/
theorem exposure_of_concealed {m : Member} (concealed : m.Concealed tag) :
    m.exposure tag = .hidden ∨ m.exposure tag = .ignored := by
  unfold Member.exposure
  by_cases isPrivate : m.isPrivate = true
  · exact .inl (if_pos isPrivate)
  · rcases concealed with isPrivate' | directive
    · exact absurd isPrivate' isPrivate
    · rw [if_neg isPrivate, directive]
      exact .inr rfl

theorem field?_agrees {fields fields' : List (Member × Datum)}
    (same : List.Forall₂ (SameField tag) fields fields') (segment : String) :
    Traced.Agrees (SameView tag)
      (.ofExcept (field? tag segment fields) : Traced Datum PathFault Datum)
      (.ofExcept (field? tag segment fields')) := by
  induction same with
  | nil => exact .error [] _
  | cons first _ ih =>
    cases first with
    | seen m values =>
      simp only [field?]
      split
      · exact ih
      · split
        · exact .error [] _
        · exact ih
      · split
        · exact .ok [] values
        · exact ih
    | concealed value value' concealed =>
      rcases exposure_of_concealed concealed with exposure | exposure
      · simp only [field?, exposure]
        exact ih
      · simp only [field?, exposure]
        split
        · exact .error [] _
        · exact ih

/-- A segment leads to parts that look the same, or fails alike. -/
theorem part?_agrees (same : d.SameView tag d') (segment : String) :
    Traced.Agrees (SameView tag)
      (.ofExcept (d.part? tag segment) : Traced Datum PathFault Datum)
      (.ofExcept (d'.part? tag segment)) := by
  cases same with
  | refl => exact (Traced.Agrees.refl _).mono fun _ _ same => same ▸ .refl _
  | @list items items' same =>
    simp only [part?, same.length_eq]
    cases natural64? segment with
    | none => exact .error [] _
    | some index =>
      have found := getElem?_sameView same index
      dsimp only
      generalize items[index]? = item, items'[index]? = item' at found ⊢
      cases found with
      | none => exact .error [] _
      | some there => exact .ok [] there
  | @map entries entries' same =>
    have found := lookup_sameView same segment
    simp only [part?]
    generalize entries.lookup segment = value, entries'.lookup segment = value' at found ⊢
    cases found with
    | none => exact .error [] _
    | some there => exact .ok [] there
  | @pairs entries entries' same =>
    have found := find?_sameView same segment
    simp only [part?]
    generalize entries.find? _ = entry, entries'.find? _ = entry' at found ⊢
    cases found with
    | none => exact .error [] _
    | some there =>
      obtain ⟨-, values⟩ := there
      exact .ok [] values
  | record name name' same => exact field?_agrees same segment

/-! ## Paths -/

/-- A path leads to what looks the same, or fails alike. -/
theorem follow_agrees (same : d.SameView tag d') (part : Nat) (path : List String) :
    Traced.Agrees (Reached.SameView tag) (d.follow tag none part path)
      (d'.follow tag none part path) := by
  have judges (j : Judge) {d' : Datum} (part : Nat) (path : List String)
      (same : (judge j).SameView tag d') :
      Traced.Agrees (Reached.SameView tag) ((judge j).follow tag none part path)
        (d'.follow tag none part path) := by
    cases same
    rw [follow_judge]
    exact .ok [] (.judge j part)
  induction path generalizing d d' part with
  | nil =>
    obtain ⟨j, rfl⟩ | other := d.judge_or_other
    · exact judges j part [] same
    · rw [follow_nil other, follow_nil (same.kind_eq ▸ other)]
      exact .ok [] (.datum same)
  | cons segment rest ih =>
    obtain ⟨j, rfl⟩ | other := d.judge_or_other
    · exact judges j part _ same
    · rw [follow_cons other, follow_cons (same.kind_eq ▸ other)]
      exact ((part?_agrees same segment).mapError _).bind fun _ _ there => ih there (part + 1)

/-! ## Tests -/

theorem face_eq (same : d.SameView tag d') : d'.face = d.face := by
  cases same <;> rfl

theorem faces_eq {items items' : List Datum} (same : List.Forall₂ (SameView tag) items items') :
    items'.map face = items.map face := by
  induction same with
  | nil => rfl
  | cons first _ ih => rw [List.map_cons, List.map_cons, ih, face_eq first]

theorem keys_eq {entries entries' : List (String × Datum)}
    (same : List.Forall₂ (SameEntry tag) entries entries') :
    (entries'.map fun (key, _) => (key, null)) = entries.map fun (key, _) => (key, null) := by
  induction same with
  | nil => rfl
  | cons first _ ih =>
    obtain ⟨key, -⟩ := first
    rw [List.map_cons, List.map_cons, ih]

theorem keyFaces_eq {entries entries' : List (Datum × Datum)}
    (same : List.Forall₂ (SamePair tag) entries entries') :
    (entries'.map fun (key, _) => (key.face, null)) =
      entries.map fun (key, _) => (key.face, null) := by
  induction same with
  | nil => rfl
  | cons first _ ih =>
    obtain ⟨keys, -⟩ := first
    simp only [List.map_cons, ih, face_eq keys]

/-- A test cannot tell data apart that look the same. -/
theorem indistinct_sameView (tag : String) : Indistinct (SameView tag) where
  refl := .refl
  outline same := by
    cases same with
    | refl => rfl
    | list same => exact congrArg list (faces_eq same)
    | map same => exact congrArg map (keys_eq same)
    | pairs same => exact congrArg pairs (keyFaces_eq same)
    | record => rfl

end Datum

/-! ## Frames -/

section

variable {tag : String}

theorem frame_sameView (binding : Binding) (keyed : Bool) {place place' element element' : Datum}
    (places : place.SameView tag place') (elements : element.SameView tag element') :
    Frame.SameView tag (binding.frame keyed place element)
      (binding.frame keyed place' element') := by
  cases binding with
  | each name =>
    cases keyed with
    | true => exact .cons (.mk name places) .nil
    | false => exact .cons (.mk name elements) .nil
  | index name => exact .cons (.mk name places) .nil
  | value name => exact .cons (.mk name elements) .nil
  | both i v => exact .cons (.mk i places) (.cons (.mk v elements) .nil)

theorem frames_zipIdx_sameView (binding : Binding) {items items' : List Datum}
    (same : List.Forall₂ (Datum.SameView tag) items items') (start : Nat) :
    List.Forall₂ (Frame.SameView tag)
      ((items.zipIdx start).map fun (item, i) => binding.frame false (.int (Int64.ofNat i)) item)
      ((items'.zipIdx start).map fun (item, i) =>
        binding.frame false (.int (Int64.ofNat i)) item) := by
  induction same generalizing start with
  | nil => exact .nil
  | cons first _ ih => exact .cons (frame_sameView binding false (.refl _) first) (ih (start + 1))

/-- Collections that look the same have frames that do. -/
theorem frames?_sameView {d d' : Datum} (same : d.SameView tag d') (binding : Binding) :
    Option.Rel (List.Forall₂ (Frame.SameView tag)) (binding.frames? d) (binding.frames? d') := by
  cases same with
  | refl =>
    cases binding.frames? d with
    | none => exact .none
    | some frames =>
      refine .some (List.forall₂_same.mpr fun frame _ => List.forall₂_same.mpr fun entry _ => ?_)
      exact .mk entry.1 (.refl entry.2)
  | list same => exact .some (frames_zipIdx_sameView binding same 0)
  | map same =>
    refine .some (List.forall₂_map_right_iff.mpr (List.forall₂_map_left_iff.mpr (same.imp ?_)))
    rintro _ _ ⟨key, values⟩
    exact frame_sameView binding true (.refl _) values
  | pairs same =>
    refine .some (List.forall₂_map_right_iff.mpr (List.forall₂_map_left_iff.mpr (same.imp ?_)))
    rintro _ _ ⟨keys, values⟩
    exact frame_sameView binding true keys values
  | record => exact .none

namespace Env.SameView

variable {env env' : Env}

theorem lookup (same : env.SameView tag env') (name : String) :
    Option.Rel (Datum.SameView tag) (env.lookup name) (env'.lookup name) :=
  Datum.lookup_sameView (List.rel_flatten same.frames) name

theorem push (same : env.SameView tag env') {frame frame' : Frame}
    (frames : frame.SameView tag frame') : (env.push frame).SameView tag (env'.push frame') :=
  ⟨same.root, .cons frames same.frames⟩

end Env.SameView

end

/-! ## Evaluation -/

namespace Settings

variable {s : Settings} {env env' : Env}

/-- Without a hook, a selector resolves to what looks the same, or fails alike. -/
theorem resolve_agrees (plain : s.hook = none) (same : env.SameView s.tag env')
    (selector : Selector) :
    Traced.Agrees (Reached.SameView s.tag) (s.resolve selector env) (s.resolve selector env') := by
  have follow {d d' : Datum} (same : d.SameView s.tag d') (start : Nat) :
      Traced.Agrees (Reached.SameView s.tag)
        ((d.resolve s.tag s.hook selector.path start).mapError EvalError.unresolved)
        ((d'.resolve s.tag s.hook selector.path start).mapError EvalError.unresolved) := by
    rw [plain]
    exact ((Datum.follow_agrees same _ _).mapError _).mapError _
  unfold resolve
  split
  next => exact follow same.root 0
  next first rest path =>
    have bound := same.lookup first
    generalize env.lookup first = d, env'.lookup first = d' at bound ⊢
    cases bound with
    | none => exact follow same.root 0
    | some bound =>
      dsimp only
      rw [bound.isScalar_eq, bound.kind_eq]
      split
      · exact .error [] _
      · exact follow bound 1

/-- Without a hook, a selector has a target that looks the same. -/
theorem target_agrees (plain : s.hook = none) (same : env.SameView s.tag env')
    (selector : Selector) :
    Traced.Agrees (Option.Rel (Reached.SameView s.tag)) (s.target selector env)
      (s.target selector env') :=
  target_agrees_of_resolve (Datum.indistinct_sameView s.tag) (resolve_agrees plain same selector)

/-- Without a hook, an expression evaluates alike where everything looks the same. -/
theorem evaluate_eq_of_sameView (plain : s.hook = none) (e : CheckedExpr)
    (same : env.SameView s.tag env') : s.evaluate e env = s.evaluate e env' := by
  induction e generalizing env env' with
  | test selector operator literal =>
    exact test_eq_of_target (Datum.indistinct_sameView s.tag) (target_agrees plain same selector)
  | not operand ih => rw [evaluate, evaluate, ih same]
  | and left right ihLeft ihRight => rw [evaluate, evaluate, ihLeft same, ihRight same]
  | or left right ihLeft ihRight => rw [evaluate, evaluate, ihLeft same, ihRight same]
  | quantified quantifier selector binding body ih =>
    exact quantified_eq_of_target (target_agrees plain same selector)
      (fun d d' there => frames?_sameView there binding) fun _ _ frames => ih (same.push frames)

end Settings

/-- Whatever a query was compiled with, as long as it has no hook, it evaluates alike wherever
everything but the values of private and excluded fields is the same: with the same answer or the
same error. -/
theorem answer_sees_no_hidden_field {options : Options} (hook : options.hook = none)
    {schema : Option Schema} {typeName : Option String} {source : String} {q : Query}
    (compiled : (Query.compile options schema typeName source).outcome = .ok q) {env env' : Env}
    (same : env.SameView options.tag env') : q.evaluateIn env = q.evaluateIn env' := by
  obtain ⟨policy, -, -, -, settings⟩ := of_compile compiled
  have plain : q.settings.hook = none := by rw [settings, hook]
  have tag : q.settings.tag = options.tag := by rw [settings]
  exact Settings.evaluate_eq_of_sameView plain q.checked (tag ▸ same)

/-- A user with a private field and an excluded one. -/
def Datum.sampleUser (pin token : Datum) : Datum :=
  .record "User" [({ name := "name" }, .string "bob"), ({ name := "pin", isPrivate := true }, pin),
    ({ name := "token", tags := [("bexpr", "-")] }, token)]

/-- Both fields are selected: nothing is found at the private one, and the excluded one is an error.
-/
theorem answer_sees_no_hidden_field_users :
    ∃ q, (Query.compile .standard none none
        "any users as u \x7b u.pin is empty and u.token == 1 \x7d").outcome = .ok q ∧
      (q.evaluateIn ⟨.null, [[("users", .list [.sampleUser .null .null])]]⟩).outcome =
        .error (.unresolved ⟨["u", "token"], 1, .fieldIgnored "token"⟩) ∧
      q.evaluateIn ⟨.null, [[("users", .list [.sampleUser .null .null])]]⟩ =
        q.evaluateIn ⟨.null, [[("users", .list [.sampleUser (.string "1234") (.int 1)])]]⟩ := by
  obtain ⟨q, compiled, failed⟩ : ∃ q, (Query.compile .standard none none
      "any users as u \x7b u.pin is empty and u.token == 1 \x7d").outcome = .ok q ∧
      (q.evaluateIn ⟨.null, [[("users", .list [.sampleUser .null .null])]]⟩).outcome =
        .error (.unresolved ⟨["u", "token"], 1, .fieldIgnored "token"⟩) :=
    ⟨_, by cbv, rfl⟩
  have fields : (Datum.sampleUser .null .null).SameView "bexpr"
      (.sampleUser (.string "1234") (.int 1)) :=
    .record _ _ (.cons (.seen _ (.refl _)) (.cons (.concealed _ _ (.inl rfl))
      (.cons (.concealed _ _ (.inr rfl)) .nil)))
  have same : Env.SameView "bexpr" ⟨.null, [[("users", .list [.sampleUser .null .null])]]⟩
      ⟨.null, [[("users", .list [.sampleUser (.string "1234") (.int 1)])]]⟩ :=
    ⟨.refl _, .cons (.cons (.mk _ (.list (.cons fields .nil))) .nil) .nil⟩
  exact ⟨q, compiled, failed, answer_sees_no_hidden_field rfl compiled same⟩

end Sift
