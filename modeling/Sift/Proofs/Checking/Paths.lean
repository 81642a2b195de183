import Sift.Proofs.Checking.Erasure
import Sift.Proofs.Walks

/-!
# The paths that check

Outside quantifiers a selector leads down from the entries at the top. At each level it takes the entry
of its segment, or else the wildcard, so it stands for a path of names (`Schema.namesOf`), and it leads
somewhere if and only if a walk shows that path (`Schema.route_iff_holds`). `walk_lists_what_checks`
states that with what the check says of all other selectors: it names the shortest part of them that
stands for no path of the schema.
-/

namespace Sift

/-! ## Names of segments -/

namespace Schema

/-- The name that a segment stands for at a level. -/
def nameOf (schema : Schema) (segment : String) : FieldName :=
  if (schema.get? (.named segment)).isSome then .named segment else .wildcard

/-- The names that the segments of a path stand for, each at the level that the ones before it lead to;
where they lead nowhere, that is a level without entries. -/
def namesOf : Schema → List String → List FieldName
  | _, [] => []
  | schema, segment :: rest =>
    schema.nameOf segment ::
      namesOf (((schema.get? (schema.nameOf segment)).map Field.fields).getD []) rest

variable {schema : Schema} {name : FieldName} {names : List FieldName} {field target : Field}

theorem get?_nameOf (schema : Schema) (segment : String) :
    schema.get? (schema.nameOf segment) = schema.field? segment := by
  cases found : schema.get? (.named segment) <;> simp [nameOf, field?, found]

theorem holds_cons_iff : schema.Holds (name :: names) target ↔
    ∃ field, (name, field) ∈ schema ∧
      (names = [] ∧ field = target ∨ Holds field.fields names target) := by
  constructor
  · intro holds
    cases holds with
    | entry inside => exact ⟨target, inside, .inl ⟨rfl, rfl⟩⟩
    | through inside holds => exact ⟨_, inside, .inr holds⟩
  · rintro ⟨field, inside, ⟨rfl, rfl⟩ | holds⟩
    · exact .entry inside
    · exact .through inside holds

/-- The names of some segments lead to where the segments lead, level by level. -/
theorem holds_namesOf (keyed : schema.Keyed) (segment : String) (rest : List String) :
    schema.Holds (schema.namesOf (segment :: rest)) target ↔
      ∃ field, schema.field? segment = some field ∧ field.below? rest = some target := by
  induction rest generalizing schema segment with
  | nil =>
    simp only [namesOf, holds_cons_iff, ← keyed.get?_eq_some_iff, get?_nameOf]
    refine exists_congr fun field => and_congr_right fun _ => ?_
    constructor
    · rintro (⟨-, rfl⟩ | holds)
      · rfl
      · obtain ⟨_, _, _, _, more⟩ := holds.first
        cases more
    · intro here
      cases here
      exact .inl ⟨trivial, rfl⟩
  | cons second rest ih =>
    rw [namesOf, holds_cons_iff]
    simp only [← keyed.get?_eq_some_iff, get?_nameOf]
    refine exists_congr fun field => and_congr_right fun found => ?_
    have below : field.below? (second :: rest) =
        (Schema.field? field.fields second).bind fun next => next.below? rest := rfl
    have inside : (schema.nameOf segment, field) ∈ schema := by
      rw [← keyed.get?_eq_some_iff, get?_nameOf, found]
    rw [found, Option.map_some, Option.getD_some, ih (keyed.fields inside), below,
      Option.bind_eq_some_iff]
    exact or_iff_right fun none => by cases none.1

end Schema

/-! ## Routes -/

/-- Segments that lead to a field are followed to it. -/
theorem follow_of_below? {field target : Field} {path : List String}
    (leads : field.below? path = some target) :
    ∃ route, field.follow path = .ok route ∧ route.field = target := by
  induction path generalizing field with
  | nil =>
    cases leads
    exact ⟨_, rfl, rfl⟩
  | cons segment rest ih =>
    obtain ⟨next, step, leads⟩ := Option.bind_eq_some_iff.mp leads
    obtain ⟨route, followed, rfl⟩ := ih leads
    simp only [Field.follow, step, followed]
    split <;> exact ⟨_, rfl, rfl⟩

/-- Segments are followed in vain up to the first that leads nowhere. -/
theorem of_follow_error {field : Field} {path : List String} {failed : Nat}
    (fails : field.follow path = .error failed) :
    0 < failed ∧ failed ≤ path.length ∧ field.below? (path.take failed) = none ∧
      ∀ m < failed, (field.below? (path.take m)).isSome = true := by
  induction path generalizing field failed with
  | nil => cases fails
  | cons segment rest ih =>
    simp only [Field.follow] at fails
    cases step : Schema.field? field.fields segment with
    | none =>
      simp only [step] at fails
      cases fails
      refine ⟨Nat.one_pos, Nat.succ_le_succ (Nat.zero_le _), ?_, ?_⟩
      · simp [Field.below?, step]
      · intro m less
        obtain rfl : m = 0 := by omega
        rfl
    | some next =>
      have later (count : Nat) : field.below? ((segment :: rest).take (count + 1)) =
          next.below? (rest.take count) := by
        rw [List.take_succ_cons, Field.below?_of_step step]
      simp only [step] at fails
      cases behind : next.follow rest with
      | ok route =>
        simp only [behind] at fails
        split at fails <;> cases fails
      | error before =>
        simp only [behind] at fails
        cases fails
        obtain ⟨-, enough, nowhere, somewhere⟩ := ih behind
        refine ⟨Nat.succ_pos _, Nat.succ_le_succ enough, (later before).trans nowhere, ?_⟩
        intro m less
        cases m with
        | zero => rfl
        | succ m =>
          rw [later]
          exact somewhere m (Nat.lt_of_succ_lt_succ less)

namespace Schema

/-- The first `n` segments of a path, and there are some, do not stand for a path that a walk shows. -/
def LeadsNowhere (schema : Schema) (path : List String) (n : Nat) : Prop :=
  0 < n ∧ ∀ field, (schema.namesOf (path.take n), field) ∉ schema.paths

variable {schema : Schema} {selector : Selector} {field : Field}

/-- Outside quantifiers the names of a selector decide where it leads. -/
theorem route_iff_holds (keyed : schema.Keyed) (nonempty : selector.path ≠ []) :
    (∃ route, schema.route [] selector = .ok route ∧ route.field = field) ↔
      schema.Holds (schema.namesOf selector.path) field := by
  obtain ⟨segment, rest, path⟩ := List.exists_cons_of_ne_nil nonempty
  rw [path, holds_namesOf keyed]
  constructor
  · rintro ⟨route, routed, rfl⟩
    obtain ⟨first, behind, start, below, same, starts, followed, rfl⟩ := of_route routed
    cases path.symm.trans same
    have leads := below?_of_follow followed
    exact ⟨start, starts, leads⟩
  · rintro ⟨start, starts, leads⟩
    obtain ⟨below, followed, rfl⟩ := follow_of_below? leads
    have starts : schema.start? [] segment = some start := starts
    refine ⟨⟨below.field, segment :: below.first, below.others⟩, ?_, rfl⟩
    simp only [route, path, starts, followed]

/-- A selector that leads nowhere is cut behind its first segment that does not lead on. -/
theorem of_route_error (keyed : schema.Keyed) (nonempty : selector.path ≠ []) {error : CheckError}
    (fails : schema.route [] selector = .error error) :
    ∃ n ≤ selector.path.length, schema.LeadsNowhere selector.path n ∧
      (∀ m < n, ¬ schema.LeadsNowhere selector.path m) ∧
      error = .invalidSelector (selector.take n) := by
  obtain ⟨segment, rest, path⟩ := List.exists_cons_of_ne_nil nonempty
  have nowhere_iff (m : Nat) : schema.LeadsNowhere selector.path (m + 1) ↔
      ∀ start, schema.field? segment = some start → start.below? (rest.take m) = none := by
    simp only [LeadsNowhere, path, List.take_succ_cons, mem_paths_iff, holds_namesOf keyed,
      Nat.succ_pos, true_and, not_exists, not_and, Option.eq_none_iff_forall_ne_some]
    exact ⟨fun never start found field => never field start found,
      fun never field start found => never start found field⟩
  cases start : schema.field? segment with
  | none =>
    have starts : schema.start? [] segment = none := start
    simp only [route, path, starts] at fails
    cases fails
    refine ⟨1, ?_, (nowhere_iff 0).mpr ?_, ?_, rfl⟩
    · rw [path]
      exact Nat.succ_le_succ (Nat.zero_le _)
    · intro next found
      cases start.symm.trans found
    · intro m less leadsNowhere
      exact absurd leadsNowhere.1 (by omega)
  | some next =>
    have starts : schema.start? [] segment = some next := start
    simp only [route, path, starts] at fails
    cases followed : next.follow rest with
    | ok below =>
      simp only [followed] at fails
      cases fails
    | error failed =>
      simp only [followed] at fails
      cases fails
      obtain ⟨-, enough, nowhere, somewhere⟩ := of_follow_error followed
      refine ⟨failed + 1, ?_, (nowhere_iff failed).mpr ?_, ?_, rfl⟩
      · rw [path]
        exact Nat.succ_le_succ enough
      · intro _ found
        cases start.symm.trans found
        exact nowhere
      · intro m less leadsNowhere
        cases m with
        | zero => exact absurd leadsNowhere.1 (Nat.lt_irrefl 0)
        | succ m =>
          have leads := somewhere m (Nat.lt_of_succ_lt_succ less)
          rw [(nowhere_iff m).mp leadsNowhere next start] at leads
          cases leads

end Schema

/-! ## Checks -/

/-- What fails under a schema with fields fails for the whole expression. -/
theorem outcome_check_error {patterns : PatternEngine} {limits : Limits} {schema : Schema}
    (filled : schema ≠ []) {e : Expr String} {error : CheckError}
    (fails : (checkedIn patterns limits (some schema) [] e).outcome = .error error) :
    (check patterns limits (some schema) e).outcome = .error error := by
  rw [check_eq, filter_filled filled, Traced.outcome_bind, fails]
  rfl

/-- A walk lists what checks. It shows each path of names that leads down from entry to entry, once and
behind what it goes through, and ends where its visitor wants no more. Outside quantifiers a selector
leads to a field if and only if the walk shows that field under the names of its segments, each by the
entry of exactly this name or else by the wildcard. If it leads to none, the error names the shortest
part of it whose names the walk does not show, and whatever selects by it fails to check with that
error, if nothing is wrong with its form. -/
theorem walk_lists_what_checks {schema : Schema} (keyed : schema.Keyed) (filled : schema ≠ []) :
    schema.Walks schema.paths ∧
    ∀ selector : Selector, selector.path ≠ [] →
      (∀ field, (∃ route, schema.route [] selector = .ok route ∧ route.field = field) ↔
        (schema.namesOf selector.path, field) ∈ schema.paths) ∧
      ∀ error, schema.route [] selector = .error error →
        (∃ n ≤ selector.path.length, schema.LeadsNowhere selector.path n ∧
          (∀ m < n, ¬ schema.LeadsNowhere selector.path m) ∧
          error = .invalidSelector (selector.take n)) ∧
        ∀ (patterns : PatternEngine) (limits : Limits),
          (∀ operator literal, checkForm limits selector operator literal = .ok () →
            (check patterns limits (some schema) (.test selector operator literal)).outcome =
              .error error) ∧
          ∀ quantifier binding body,
            (check patterns limits (some schema) (.quantified quantifier selector binding
              body)).outcome = .error error := by
  refine ⟨Schema.walks_paths keyed, fun selector nonempty => ⟨fun field => ?_, ?_⟩⟩
  · rw [Schema.mem_paths_iff]
    exact Schema.route_iff_holds keyed nonempty
  · intro error fails
    refine ⟨Schema.of_route_error keyed nonempty fails, fun patterns limits => ⟨?_, ?_⟩⟩
    · intro operator literal formed
      refine outcome_check_error filled ?_
      simp only [checkedIn_test, Schema.checkTest, Traced.outcome_bind, Traced.outcome_ofExcept,
        formed, fails]
      rfl
    · intro quantifier binding body
      refine outcome_check_error filled ?_
      simp only [checkedIn_quantified, Traced.outcome_bind, Traced.outcome_ofExcept, fails]
      rfl

/-- A schema with a name and a wildcard at the top, and something else below each of them. -/
def Schema.sampleShadow : Schema :=
  [(.named "a", { fields := [(.wildcard, { operators := [.equal] })] }),
    (.wildcard, { fields := [(.named "b", { operators := [.isEmpty] })] })]

/-- The name hides the wildcard: what is below the one is not below the other. -/
theorem walk_lists_what_checks_shadow :
    Schema.sampleShadow.Keyed ∧ Schema.sampleShadow ≠ [] ∧
      (∃ route, Schema.sampleShadow.route [] ⟨.words, ["c", "b"]⟩ = .ok route ∧
        route.field = { operators := [.isEmpty] }) ∧
      (check Pattern.engine {} (some .sampleShadow)
        (.test ⟨.words, ["a", "b", "c"]⟩ .isEmpty none)).outcome =
        .error (.invalidSelector ⟨.words, ["a", "b", "c"]⟩) ∧
      (check Pattern.engine {} (some .sampleShadow)
        (.test ⟨.words, ["c", "d", "e"]⟩ .isEmpty none)).outcome =
        .error (.invalidSelector ⟨.words, ["c", "d"]⟩) := by
  have leaf (operators : List Operator) : Schema.Keyed (Field.fields { operators }) := .nil
  have keyed : Schema.sampleShadow.Keyed :=
    .cons (by decide) (.cons (by decide) (leaf _) .nil)
      (.cons (by decide) (.cons (by decide) (leaf _) .nil) .nil)
  have filled : Schema.sampleShadow ≠ [] := List.cons_ne_nil _ _
  obtain ⟨-, selectors⟩ := walk_lists_what_checks keyed filled
  refine ⟨keyed, filled, ?_, ?_, ?_⟩
  · refine ((selectors ⟨.words, ["c", "b"]⟩ (List.cons_ne_nil _ _)).1 _).mpr ?_
    exact .tail _ (.tail _ (.tail _ (.head _)))
  · exact (((selectors _ (List.cons_ne_nil _ _)).2 _ rfl).2 _ {}).1 _ _ rfl
  · exact (((selectors _ (List.cons_ne_nil _ _)).2 _ rfl).2 _ {}).1 _ _ rfl

end Sift
