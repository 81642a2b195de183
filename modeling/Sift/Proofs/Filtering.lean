import Mathlib
import Sift.Command.Basic
import Sift.Proofs.DocumentReader
import Sift.Proofs.Evaluation.Result

/-!
# Filtering documents

Filtering a document is evaluating the query for each of its parts: the items of an array, the values
of an object. It succeeds if every evaluation does and keeps the parts with the answer true, each of
them as it was; otherwise its error is that of the first part that fails (`FiltersTo`). Nothing but
arrays and objects is filtered, and this is all that the command for it does with what it reads
(`filtered_document`).
-/

namespace Sift

/-! ## Selecting -/

section

variable {ν ε α β : Type} {holds : α → Traced ν ε Bool} {items : List α}

/-- The first element is tested, and kept in front of the others if the test says so. -/
theorem outcome_select_cons (a : α) (rest : List α) :
    (select holds (a :: rest)).outcome = (holds a).outcome >>= fun isKept =>
      (select holds rest).outcome.map fun kept => if isKept then a :: kept else kept := by
  simp only [select, Traced.outcome_bind]
  refine bind_congr fun isKept => ?_
  cases (select holds rest).outcome <;> rfl

/-- Selecting succeeds exactly if every test does, and keeps what the tests say. -/
theorem outcome_select_eq_ok {kept : List α} :
    (select holds items).outcome = .ok kept ↔
      (∀ a ∈ items, ∃ b, (holds a).outcome = .ok b) ∧
        kept = items.filter fun a => (holds a).result? = some true := by
  induction items generalizing kept with
  | nil =>
    constructor
    · intro done
      cases done
      exact ⟨List.forall_mem_nil _, rfl⟩
    · rintro ⟨-, rfl⟩
      rfl
  | cons a rest ih =>
    rw [outcome_select_cons, List.forall_mem_cons, List.filter_cons, Traced.result?]
    cases tested : (holds a).outcome with
    | error e =>
      constructor
      · intro failed
        cases failed
      · rintro ⟨⟨⟨b, succeeds⟩, -⟩, -⟩
        cases succeeds
    | ok b =>
      cases selected : (select holds rest).outcome with
      | error e =>
        constructor
        · intro failed
          cases failed
        · rintro ⟨⟨-, all⟩, -⟩
          cases selected.symm.trans (ih.mpr ⟨all, rfl⟩)
      | ok others =>
        obtain ⟨all, same⟩ := ih.mp selected
        have kept' : (if b = true then a :: others else others) =
            if decide ((Except.ok b : Except ε Bool).toOption = some true) = true then
              a :: rest.filter fun a => (holds a).result? = some true
            else rest.filter fun a => (holds a).result? = some true := by
          rw [same]
          cases b <;> rfl
        rw [← kept']
        constructor
        · intro done
          cases done
          exact ⟨⟨⟨b, rfl⟩, all⟩, rfl⟩
        · rintro ⟨-, rfl⟩
          rfl

/-- Selecting fails as the first test does that fails. -/
theorem outcome_select_eq_error {error : ε} :
    (select holds items).outcome = .error error ↔
      ∃ before a behind, items = before ++ a :: behind ∧
        (∀ other ∈ before, ∃ b, (holds other).outcome = .ok b) ∧
        (holds a).outcome = .error error := by
  induction items with
  | nil =>
    refine ⟨nofun, ?_⟩
    rintro ⟨before, a, behind, split, -⟩
    cases before <;> cases split
  | cons first rest ih =>
    rw [outcome_select_cons]
    cases tested : (holds first).outcome with
    | error e =>
      constructor
      · intro failed
        cases failed
        exact ⟨[], first, rest, rfl, nofun, tested⟩
      · rintro ⟨before, a, behind, split, succeed, fails⟩
        rcases List.cons_eq_append_iff.mp split with ⟨rfl, same⟩ | ⟨more, rfl, same⟩
        · cases same
          cases tested.symm.trans fails
          rfl
        · obtain ⟨b, succeeds⟩ := succeed first List.mem_cons_self
          cases tested.symm.trans succeeds
    | ok b =>
      have onwards : ((Except.ok b : Except ε Bool) >>= fun isKept =>
          (select holds rest).outcome.map fun kept => if isKept then first :: kept else kept) =
          .error error ↔ (select holds rest).outcome = .error error := by
        cases (select holds rest).outcome with
        | error e => exact Iff.rfl
        | ok others => exact ⟨nofun, nofun⟩
      rw [onwards, ih]
      constructor
      · rintro ⟨before, a, behind, rfl, succeed, fails⟩
        exact ⟨first :: before, a, behind, rfl, List.forall_mem_cons.mpr ⟨⟨b, tested⟩, succeed⟩, fails⟩
      · rintro ⟨before, a, behind, split, succeed, fails⟩
        rcases List.cons_eq_append_iff.mp split with ⟨rfl, same⟩ | ⟨more, rfl, same⟩
        · cases same
          cases tested.symm.trans fails
        · exact ⟨more, a, behind, same, (List.forall_mem_cons.mp succeed).2, fails⟩

/-- Selecting among images is selecting what they are images of. -/
theorem select_map (f : β → α) (items : List β) :
    select holds (items.map f) = List.map f <$> select (fun b => holds (f b)) items := by
  induction items with
  | nil => rfl
  | cons b rest ih =>
    rw [List.map_cons, select, select, ih, map_bind]
    refine bind_congr fun isKept => ?_
    rw [map_bind, bind_map_left]
    refine bind_congr fun kept => ?_
    cases isKept <;> rfl

end

/-! ## Answers for the parts -/

/-- What is left of a whole after its parts have been asked one after the other, or the error. -/
structure FiltersTo {α β : Type} (answer : α → Traced Datum EvalError Bool) (parts : List α)
    (whole : List α → β) (outcome : Except EvalError β) : Prop where
  /-- Every part is answered, and those that are answered with true make up what is left. -/
  succeeds : ∀ left, outcome = .ok left ↔
    (∀ part ∈ parts, ∃ b, (answer part).outcome = .ok b) ∧
      left = whole (parts.filter fun part => (answer part).result? = some true)
  /-- The first part that is not answered decides. -/
  fails : ∀ error, outcome = .error error ↔
    ∃ before part behind, parts = before ++ part :: behind ∧
      (∀ other ∈ before, ∃ b, (answer other).outcome = .ok b) ∧
      (answer part).outcome = .error error

/-- What is selected is put together again. -/
theorem filtersTo_select {α β : Type} (answer : α → Traced Datum EvalError Bool) (parts : List α)
    (whole : List α → β) :
    FiltersTo answer parts whole ((select answer parts).outcome.map whole) where
  succeeds left := by
    cases selected : (select answer parts).outcome with
    | ok kept =>
      obtain ⟨all, same⟩ := outcome_select_eq_ok.mp selected
      rw [← same]
      exact ⟨fun done => ⟨all, (Except.ok.inj done).symm⟩, fun ⟨_, made⟩ => made ▸ rfl⟩
    | error e =>
      refine ⟨nofun, fun ⟨all, _⟩ => ?_⟩
      cases selected.symm.trans (outcome_select_eq_ok.mpr ⟨all, rfl⟩)
  fails error := by
    rw [← outcome_select_eq_error]
    cases (select answer parts).outcome with
    | ok kept => exact ⟨nofun, nofun⟩
    | error e => exact ⟨fun failed => by cases failed; rfl, fun failed => by cases failed; rfl⟩

/-! ## Documents -/

namespace Query

variable {q : Query}

/-- The answer of the query for a document. -/
def evaluateJson (q : Query) (document : Json) : Traced Datum EvalError Bool :=
  q.evaluateDatum (.ofJson document)

/-- What the query leaves of a document. -/
def filterJson (q : Query) (document : Json) : Traced Datum EvalError Json :=
  return (← q.filterDatum (.ofJson document)).toJson

theorem outcome_filterJson_array {items : List Json} (wf : (Json.array items).WellFormed) :
    (q.filterJson (.array items)).outcome = (select q.evaluateJson items).outcome.map .array := by
  have selected : select q.evaluateDatum (Datum.ofItems items) =
      List.map Datum.ofJson <$> select q.evaluateJson items := by
    rw [Datum.ofItems_eq_map, select_map]
    rfl
  simp only [filterJson, filterDatum, Datum.ofJson, selected, map_eq_pure_bind, bind_assoc,
    pure_bind, Traced.outcome_bind, Traced.outcome_pure]
  cases success : (select q.evaluateJson items).outcome with
  | error e => rfl
  | ok kept =>
    -- What is left is a well-formed document, which comes back from its datum.
    have left : (Json.array kept).WellFormed := by
      obtain ⟨-, rfl⟩ := outcome_select_eq_ok.mp success
      cases wf with
      | array each => exact .array fun item inside => each item (List.mem_filter.mp inside).1
    have same := Datum.toJson_ofJson left
    rw [Datum.ofJson, Datum.ofItems_eq_map] at same
    exact congrArg Except.ok same

theorem outcome_filterJson_object {members : List (String × Json)}
    (wf : (Json.object members).WellFormed) :
    (q.filterJson (.object members)).outcome =
      (select (fun member => q.evaluateJson member.2) members).outcome.map .object := by
  have selected : select (fun entry => q.evaluateDatum entry.2) (Datum.ofMembers members) =
      List.map (fun member => (member.1, Datum.ofJson member.2)) <$>
        select (fun member => q.evaluateJson member.2) members := by
    rw [Datum.ofMembers_eq_map, select_map]
    rfl
  simp only [filterJson, filterDatum, Datum.ofJson, selected, map_eq_pure_bind, bind_assoc,
    pure_bind, Traced.outcome_bind, Traced.outcome_pure]
  cases success : (select (fun member => q.evaluateJson member.2) members).outcome with
  | error e => rfl
  | ok kept =>
    have left : (Json.object kept).WellFormed := by
      obtain ⟨-, rfl⟩ := outcome_select_eq_ok.mp success
      cases wf with
      | object sorted each =>
        exact .object (sorted.sublist List.filter_sublist) fun member inside =>
          each member (List.mem_filter.mp inside).1
    have same := Datum.toJson_ofJson left
    rw [Datum.ofJson, Datum.ofMembers_eq_map] at same
    exact congrArg Except.ok same

/-- Neither an array nor an object is filtered. -/
theorem outcome_filterJson_scalar {document : Json} (noArray : ∀ items, document ≠ .array items)
    (noObject : ∀ members, document ≠ .object members) :
    (q.filterJson document).outcome =
      .error (.notFilterable (Datum.ofJson document).kind) := by
  cases document with
  | array items => exact absurd rfl (noArray items)
  | object members => exact absurd rfl (noObject members)
  | null | bool | int | uint | float | string => rfl

end Query

namespace Run

/-- A run goes on from its query and its input. -/
theorem outcome_complete {run : Run} {q : Query} {text : String} {document : Json} {α : Type}
    (compiles : run.query.outcome = .ok q) (given : run.input = some text)
    (reads : Json.read? text = some document) (next : Query → Datum → Traced Datum EvalError α) :
    (run.complete next).outcome = (next q (.ofJson document)).outcome.mapError .evaluate := by
  have datum : run.datum = .ok (.ofJson document) := by
    simp only [Run.datum, given, reads]
  simp only [complete, Traced.outcome_bind, compiles, ok_bind, Traced.outcome_ofExcept, datum]

end Run

/-- To filter a document is to evaluate the query for each of its parts. An array keeps the items
that are answered with true, unchanged and in order, and an object keeps the members whose values
are, under their keys; the first part that fails ends it. The commands do just this with the document
that they read, which is always a well-formed one. -/
theorem filtered_document (q : Query) :
    (∀ document : Json, document.WellFormed →
      (∀ items, document = .array items →
        FiltersTo q.evaluateJson items .array (q.filterJson document).outcome) ∧
      (∀ members, document = .object members →
        FiltersTo (fun member => q.evaluateJson member.2) members .object
          (q.filterJson document).outcome) ∧
      ((∀ items, document ≠ .array items) → (∀ members, document ≠ .object members) →
        (q.filterJson document).outcome =
          .error (.notFilterable (Datum.ofJson document).kind))) ∧
    ∀ (run : Run) (text : String) (document : Json), run.query.outcome = .ok q →
      run.input = some text → Json.read? text = some document →
      document.WellFormed ∧
        run.evaluate.outcome = (q.evaluateJson document).outcome.mapError .evaluate ∧
        run.filter.outcome = (q.filterJson document).outcome.mapError .evaluate := by
  refine ⟨fun document wf => ⟨?_, ?_, Query.outcome_filterJson_scalar⟩, ?_⟩
  · rintro items rfl
    rw [Query.outcome_filterJson_array wf]
    exact filtersTo_select _ _ _
  · rintro members rfl
    rw [Query.outcome_filterJson_object wf]
    exact filtersTo_select _ _ _
  · intro run text document compiles given reads
    refine ⟨Json.wellFormed_of_read reads, Run.outcome_complete compiles given reads _, ?_⟩
    simp only [Run.filter, Query.filterJson, Traced.outcome_bind,
      Run.outcome_complete compiles given reads]
    cases (q.filterDatum (.ofJson document)).outcome <;> rfl

/-- Two members, the first without tags and the second with one that is null. -/
def Json.sampleTagged : List (String × Json) :=
  [("a", .object [("tags", .array [])]), ("b", .object [("tags", .array [.null])])]

/-- A text for them, which has the second one first. -/
def Json.sampleTaggedText : String :=
  "\x7b\"b\": \x7b\"tags\": [null]\x7d, \"a\": \x7b\"tags\": []\x7d\x7d"

/-- Asks for the members with a tag. -/
def Run.sampleTagged : Run :=
  { expression := "tags is not empty", input := some Json.sampleTaggedText }

/-- The member with a tag is what is left. -/
theorem filtered_document_tagged :
    (Json.object Json.sampleTagged).WellFormed ∧
      Run.sampleTagged.filter.outcome = .ok (.object [("b", .object [("tags", .array [.null])])]) := by
  obtain ⟨q, compiled, first, second⟩ : ∃ q, Run.sampleTagged.query.outcome = .ok q ∧
      (q.evaluateJson (.object [("tags", .array [])])).outcome = .ok false ∧
      (q.evaluateJson (.object [("tags", .array [.null])])).outcome = .ok true :=
    ⟨_, by cbv, rfl, rfl⟩
  have read : Json.read? Json.sampleTaggedText = some (.object Json.sampleTagged) := rfl
  obtain ⟨wf, -, filters⟩ := (filtered_document q).2 Run.sampleTagged _ _ compiled rfl read
  have left : (q.filterJson (.object Json.sampleTagged)).outcome =
      .ok (.object [("b", .object [("tags", .array [.null])])]) := by
    refine ((((filtered_document q).1 _ wf).2.1 _ rfl).succeeds _).mpr ⟨?_, ?_⟩
    · exact List.forall_mem_cons.mpr ⟨⟨_, first⟩, List.forall_mem_singleton.mpr ⟨_, second⟩⟩
    · simp only [Json.sampleTagged, List.filter_cons, List.filter_nil, Traced.result?, first, second,
        toOption_ok]
      rfl
  exact ⟨wf, filters.trans (congrArg (Except.mapError _) left)⟩

end Sift
