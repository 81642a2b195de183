import Sift.Proofs.Checking
import Sift.Proofs.Evaluation.Targets
import Sift.Query.Standard

/-!
# Tests through lists

A selector that passes through lists stands for some element of each of them. `Settings.holds?`
says so in terms of positions on the path: those before the last one at which the schema knows a
list (`Schema.crossed`). The check says the same by nested quantifiers that all bind one name, and
`checked_test_flattens` states that the two agree in every scope and environment. In between stand
the pieces of the path: `Field.follow` cuts it behind every crossed position (`pieces_of_route`),
each quantifier takes one piece, and so does each step of `holds?`.
-/

namespace Sift

/-! ## Crossed positions -/

namespace Datum

/-- The elements of a list or the values of a map, in order. -/
def elements? : Datum → Option (List Datum)
  | list items => some items
  | map entries => some (entries.map (·.2))
  | pairs entries => some (entries.map (·.2))
  | _ => none

theorem inside_of_elements? {d element : Datum} {elements : List Datum}
    (known : d.elements? = some elements) (here : element ∈ elements) : Inside element d := by
  cases d with
  | list items =>
    cases known
    exact .item here .whole
  | map entries =>
    cases known
    obtain ⟨entry, there, rfl⟩ := List.mem_map.mp here
    exact .value there .whole
  | pairs entries =>
    cases known
    obtain ⟨entry, there, rfl⟩ := List.mem_map.mp here
    exact .pairValue there .whole
  | _ => cases known

theorem JudgeFree.elements {d : Datum} (free : d.JudgeFree) {elements : List Datum}
    (known : d.elements? = some elements) : ∀ element ∈ elements, element.JudgeFree :=
  fun _ here => free.of_inside (inside_of_elements? known here)

end Datum

/-- The field that some segments below a field lead to. -/
def Field.below? (field : Field) (path : List String) : Option Field :=
  path.foldlM (fun field segment => Schema.field? field.fields segment) field

theorem Field.below?_of_step {field next : Field} {segment : String}
    (step : Schema.field? field.fields segment = some next) (rest : List String) :
    field.below? (segment :: rest) = next.below? rest := by
  rw [below?, List.foldlM_cons, step]
  rfl

namespace Schema

/-- The field that the segments of a path up to a position lead to. -/
def node? (schema : Schema) (scope : Scope) : List String → Nat → Option Field
  | [], _ => none
  | first :: rest, position =>
    (schema.start? scope first).bind fun field => field.below? (rest.take position)

/-- The positions before the last one at which there is a list. -/
def crossed (schema : Schema) (scope : Scope) (path : List String) : List Nat :=
  (List.range (path.length - 1)).filter fun position =>
    (schema.node? scope path position).bind Field.collection = some .list

end Schema

namespace Settings

/-- The answer of a test from the datum before position `start` of its path: an element of the
list at every one of the given positions has to be found in turn. -/
def holds? (s : Settings) (t : Test) (v : Datum) (start : Nat) : List Nat → Option Bool
  | [] => (s.test (t.select ⟨t.selector.form, t.selector.path.drop start⟩) ⟨v, []⟩).result?
  | position :: others => do
    let piece := (t.selector.path.drop start).take (position + 1 - start)
    match ← (s.target ⟨t.selector.form, piece⟩ ⟨v, []⟩).result? with
    | none => some false
    | some (.judge ..) => none
    | some (.datum d) =>
      (← d.elements?).anyM fun element => holds? s t element (position + 1) others

end Settings

/-! ## Pieces of a path -/

/-- A path from a position on, cut behind each of some later positions. -/
def pieces (path : List String) (start : Nat) : List Nat → List String × List (List String)
  | [] => (path.drop start, [])
  | position :: others =>
    ((path.drop start).take (position + 1 - start),
      (pieces path (position + 1) others).1 :: (pieces path (position + 1) others).2)

/-- A segment in front moves all positions by one. -/
theorem pieces_cons (segment : String) (rest : List String) (start : Nat) (positions : List Nat) :
    pieces (segment :: rest) (start + 1) (positions.map (· + 1)) = pieces rest start positions := by
  induction positions generalizing start with
  | nil => rfl
  | cons position others ih =>
    simp only [List.map_cons, pieces, ih, List.drop_succ_cons]
    rw [Nat.add_sub_add_right]

/-- The first piece from the start of a path begins with its first segment. -/
theorem pieces_zero (segment : String) (rest : List String) (positions : List Nat) :
    pieces (segment :: rest) 0 positions =
      (segment :: (pieces (segment :: rest) 1 positions).1,
        (pieces (segment :: rest) 1 positions).2) := by
  cases positions with
  | nil => rfl
  | cons position others => simp [pieces]

namespace Field

/-- The numbers of segments below a field after which there is a list, but not the end. -/
def listsAbove (field : Field) (path : List String) : List Nat :=
  (List.range path.length).filter fun count =>
    (field.below? (path.take count)).bind Field.collection = some .list

theorem listsAbove_cons {field next : Field} {segment : String}
    (step : Schema.field? field.fields segment = some next) (rest : List String) :
    field.listsAbove (segment :: rest) =
      (if field.collection = some .list then [0] else []) ++
        (next.listsAbove rest).map (· + 1) := by
  have later (count : Nat) : field.below? ((segment :: rest).take (count + 1)) =
      next.below? (rest.take count) := by
    rw [List.take_succ_cons, below?_of_step step]
  have here : field.below? ((segment :: rest).take 0) = some field := rfl
  simp only [listsAbove, List.length_cons, List.range_succ_eq_map, List.filter_cons, here,
    List.filter_map, Function.comp_def, later, Option.bind_some]
  by_cases isList : field.collection = some .list <;> simp [isList]

/-- The route below a field has the pieces of its path. The segment in front stands for the field
itself, which is the first that can be a list. -/
theorem pieces_of_follow {field : Field} {path : List String} {route : Route}
    (followed : field.follow path = .ok route) (segment : String) :
    pieces (segment :: path) 1 (field.listsAbove path) = (route.first, route.others) := by
  induction path generalizing field route segment with
  | nil =>
    cases followed
    rfl
  | cons second rest ih =>
    obtain ⟨next, below, step, behind, cut⟩ := of_follow_cons followed
    have pieced : pieces (segment :: second :: rest) 1 ((next.listsAbove rest).map (· + 1)) =
        (second :: below.first, below.others) := by
      rw [pieces_cons, pieces_zero, ih behind second]
    rw [listsAbove_cons step]
    rcases cut with ⟨isList, rfl⟩ | ⟨other, rfl⟩
    · simp only [isList, if_true, List.singleton_append, pieces, pieced]
      rfl
    · simp only [other, if_false, List.nil_append, pieced]

end Field

/-- The route of a selector has the pieces of its path, cut behind every crossed position. -/
theorem pieces_of_route {schema : Schema} {scope : Scope} {selector : Selector} {route : Route}
    (routed : schema.route scope selector = .ok route) :
    pieces selector.path 0 (schema.crossed scope selector.path) = (route.first, route.others) := by
  obtain ⟨first, rest, field, below, path, start, followed, rfl⟩ := of_route routed
  have crossed : schema.crossed scope (first :: rest) = field.listsAbove rest := by
    simp only [Schema.crossed, Schema.node?, start, Option.bind_some, List.length_cons,
      Nat.add_sub_cancel, Field.listsAbove]
  rw [path, pieces_zero, crossed, Field.pieces_of_follow followed]

/-! ## Piece by piece -/

namespace Settings

variable {patterns : PatternEngine} {tag : String}

/-- A binding that leaves out the positions of a list has a frame for each of the elements. -/
theorem frames?_list {binding : Binding} {frameOf : Datum → Frame}
    (alone : ∀ place item, binding.frame false place item = frameOf item) (items : List Datum) :
    binding.frames? (.list items) = some (items.map frameOf) := by
  simp only [Binding.frames?, alone]
  refine congrArg some ?_
  calc items.zipIdx.map (fun entry => frameOf entry.1)
      = (items.zipIdx.map Prod.fst).map frameOf := List.map_map.symm
    _ = items.map frameOf := by rw [List.zipIdx_map_fst]

/-- The frames of a value binding name the elements one by one. -/
theorem frames?_value (name : String) (d : Datum) :
    (Binding.value name).frames? d =
      d.elements?.map fun elements => elements.map fun element => [(name, element)] := by
  cases d with
  | list items => exact frames?_list (fun _ _ => rfl) items
  | map entries => simp [Binding.frames?, Binding.frame, Datum.elements?]
  | pairs entries => simp [Binding.frames?, Binding.frame, Datum.elements?]
  | _ => rfl

/-- Some element answers with a yes before any fails. -/
theorem quantify?_any {α : Type} (visit : Frame → Option Bool) (frame : α → Frame) (items : List α) :
    quantify? .any visit (items.map frame) = items.anyM fun item => visit (frame item) := by
  induction items with
  | nil => rfl
  | cons item rest ih =>
    simp only [List.map_cons, quantify?, List.anyM, ih]
    refine bind_congr fun answer => ?_
    cases answer <;> rfl

theorem anyM_congr {α : Type} {visit visit' : α → Option Bool} {items : List α}
    (same : ∀ item ∈ items, visit item = visit' item) : items.anyM visit = items.anyM visit' := by
  induction items with
  | nil => rfl
  | cons item rest ih =>
    rw [List.forall_mem_cons] at same
    simp only [List.anyM, same.1, ih same.2]

/-- The answer of a test from a datum on, piece by piece. -/
def holdsThrough? (patterns : PatternEngine) (tag : String) (t : Test) (v : Datum)
    (first : List String) : List (List String) → Option Bool
  | [] => v.find? tag first >>= verdict? patterns t
  | next :: others =>
    v.find? tag first >>= fun found => match found with
      | none => some false
      | some d => d.elements? >>= fun elements =>
        elements.anyM fun element => holdsThrough? patterns tag t element next others

/-- A verdict is the same under every selector. -/
theorem verdict?_select (t : Test) (selector : Selector) (found : Option Datum) :
    verdict? patterns (t.select selector) found = verdict? patterns t found := by
  cases found with
  | none => rfl
  | some d => exact Test.toOption_run_select t selector d

/-- A verdict is the same for a literal that was converted from its own text. -/
theorem verdict?_plain {t : Test} (faithful : t.Faithful) (found : Option Datum) :
    verdict? patterns t.plain found = verdict? patterns t found := by
  cases found with
  | none => rfl
  | some d => exact congrArg Except.toOption (Test.run_plain faithful d)

/-- The quantifiers around a test take the pieces one by one, each starting at the element that the
one around it has bound. -/
theorem answer?_passThrough {t : Test} (faithful : t.Faithful) (form : SelectorForm)
    (others : List (List String)) (first : List String) {env : Env} (free : env.JudgeFree) :
    (ofTag patterns tag).answer? (passThrough form (.test · t.operator t.literal) first others)
        env =
      holdsThrough? patterns tag t.plain (env.base first).1 (first.drop (env.base first).2) others := by
  induction others generalizing first env with
  | nil =>
    rw [passThrough, answer?_test (free.clear first)]
    refine bind_congr fun found => ?_
    rw [verdict?_plain faithful]
    exact verdict?_select t ⟨form, first⟩ found
  | cons next others ih =>
    rw [passThrough, answer?_quantified_of_clear (free.clear first), holdsThrough?, ← Env.find?]
    cases walked : env.find? tag first with
    | none => rfl
    | some found =>
      cases found with
      | none => rfl
      | some d =>
        have dFree : d.JudgeFree := (free.base _).walk (Datum.walk_of_find? walked)
        simp only [quantified?, frames?_value, Option.bind_eq_bind, Option.bind_some,
          Option.bind_map]
        refine Option.bind_congr fun elements inside => ?_
        simp only [Function.comp_apply, quantify?_any]
        refine anyM_congr fun element here => ?_
        have pushed : (env.push [(passedName, element)]).JudgeFree := by
          refine free.push fun p bound => ?_
          obtain rfl := List.mem_singleton.mp bound
          exact dFree.elements inside element here
        rw [ih (passedName :: next) pushed, Env.base_bound (Env.lookup_push_self _ _)]
        rfl

/-- Going from position to position is going from piece to piece. -/
theorem holds?_eq_holdsThrough? (t : Test) {v : Datum} (free : v.JudgeFree) (start : Nat)
    (positions : List Nat) :
    (ofTag patterns tag).holds? t v start positions =
      holdsThrough? patterns tag t v (pieces t.selector.path start positions).1
        (pieces t.selector.path start positions).2 := by
  have alone {v : Datum} (free : v.JudgeFree) : (⟨v, []⟩ : Env).JudgeFree := ⟨free, nofun⟩
  induction positions generalizing v start with
  | nil =>
    have clear : (⟨v, []⟩ : Env).Clear tag
        (t.select ⟨t.selector.form, t.selector.path.drop start⟩).selector.path := (alone free).clear _
    refine (answer?_test clear t.operator t.literal).trans ?_
    rw [Env.find?_root]
    exact bind_congr fun found => verdict?_select t _ found
  | cons position others ih =>
    simp only [holds?, pieces, holdsThrough?]
    rw [result?_target ((alone free).clear _), Env.find?_root]
    cases walked : v.find? tag ((t.selector.path.drop start).take (position + 1 - start)) with
    | none => rfl
    | some found =>
      cases found with
      | none => rfl
      | some d =>
        have dFree := free.walk (Datum.walk_of_find? walked)
        change d.elements?.bind _ = d.elements?.bind _
        refine Option.bind_congr fun elements inside => ?_
        exact anyM_congr fun element here => ih (dFree.elements inside element here) _

end Settings

/-! ## Checked tests -/

variable {patterns : PatternEngine}

theorem faithful_of_checkLiteral {field : Field} {selector : Selector} {operator : Operator}
    {raw : String} {l : CheckedLiteral}
    (checks : checkLiteral patterns field selector operator raw = .ok l) : l.Faithful := by
  obtain ⟨rfl, typed, untyped, -⟩ := of_checkLiteral checks
  intro literal converted
  cases known : field.literalType with
  | none =>
    rw [untyped known] at converted
    cases converted
  | some type =>
    obtain ⟨literal', read, converted'⟩ := typed type known
    rw [converted'] at converted
    cases converted
    exact ⟨type, read⟩

/-- The test as it was read, its literal not converted. -/
def Test.asRead (selector : Selector) (operator : Operator) (literal : Option String) : Test :=
  ⟨selector, operator, literal.map fun raw => ⟨raw, none⟩⟩

/-- The literal of a test that checks was converted from what was read, if at all. -/
theorem plain_of_mapM_checkLiteral {field : Field} {selector : Selector} {operator : Operator}
    {literal : Option String} {checkedLiteral : Option CheckedLiteral}
    (checks : literal.mapM (checkLiteral patterns field selector operator) = .ok checkedLiteral)
    (other : Selector) :
    Test.plain ⟨other, operator, checkedLiteral⟩ = .asRead other operator literal ∧
      Test.Faithful ⟨other, operator, checkedLiteral⟩ := by
  rcases of_mapM_checkLiteral checks with ⟨rfl, rfl⟩ | ⟨raw, l, rfl, rfl, one⟩
  · exact ⟨rfl, nofun⟩
  · obtain ⟨rfl, -⟩ := of_checkLiteral one
    refine ⟨rfl, ?_⟩
    rintro l' same
    cases same
    exact faithful_of_checkLiteral one

/-- A test that checks asks, in whatever scope it checked and in whatever environment it is
evaluated, for an element of the list at every crossed position of its path: from the datum that
the first segment is bound to, or from the root. Both sides fail together. -/
theorem checked_test_flattens {limits : Limits} {schema : Schema} {scope : Scope}
    {selector : Selector} {operator : Operator} {literal : Option String} {checked : CheckedExpr}
    {tests tests' : Nat}
    (checks : (checkIn patterns limits (some schema) scope (.test selector operator literal)
      tests).outcome = .ok (checked, tests')) {env : Env} (free : env.JudgeFree) (tag : String) :
    (Settings.ofTag patterns tag).answer? checked env =
      (Settings.ofTag patterns tag).holds? (.asRead selector operator literal)
        (env.base selector.path).1 (env.base selector.path).2
        (schema.crossed scope selector.path) := by
  obtain ⟨route, checkedLiteral, routed, -, literals, rfl⟩ :=
    of_checkTest (of_checkedIn_test (checkIn_eq_ok.mp checks).1)
  obtain ⟨plain, faithful⟩ := plain_of_mapM_checkLiteral literals selector
  refine (Settings.answer?_passThrough faithful selector.form route.others route.first free).trans ?_
  rw [plain, Settings.holds?_eq_holdsThrough? _ (free.base _)]
  have pieced := pieces_of_route routed
  obtain ⟨form, path⟩ := selector
  cases path with
  | nil => cases routed
  | cons segment rest =>
    have start := pieces_zero segment rest (schema.crossed scope (segment :: rest))
    rw [pieced] at start
    obtain ⟨first, others⟩ := Prod.mk.inj start
    cases binds : env.lookup segment with
    | none =>
      rw [first, Env.base_unbound binds, Env.base_unbound binds, ← first]
      simp only [Test.asRead, pieced, List.drop_zero]
    | some bound =>
      rw [first, Env.base_bound binds, Env.base_bound binds, others]
      rfl

/-- The level of an order: a list of items with prices. -/
def Schema.sampleOrder : Schema :=
  [(.named "items", { collection := some .list, fields := [(.named "price",
    { literalType := some (.int .w64), operators := LiteralType.comparisons })] })]

/-- The list below a name that a quantifier has bound to an order. -/
theorem checked_test_flattens_order :
    ∃ checked, (checkIn Pattern.engine {} (some Schema.sampleOrder)
        [("order", { fields := Schema.sampleOrder })]
        (.test ⟨.words, ["order", "items", "price"]⟩ .equal (some "3")) 0).outcome =
          .ok (checked, 1) ∧
      (Settings.ofTag Pattern.engine "").answer? checked
          ⟨.null, [[("order", .map [("items", .list [.map [("price", .int 3)]])])]]⟩ =
        (Settings.ofTag Pattern.engine "").holds?
          (.asRead ⟨.words, ["order", "items", "price"]⟩ .equal (some "3"))
          (.map [("items", .list [.map [("price", .int 3)]])]) 1 [1] := by
  obtain ⟨checked, checks⟩ : ∃ checked, (checkIn Pattern.engine {} (some Schema.sampleOrder)
      [("order", { fields := Schema.sampleOrder })]
      (.test ⟨.words, ["order", "items", "price"]⟩ .equal (some "3")) 0).outcome =
        .ok (checked, 1) := ⟨_, rfl⟩
  have free : (⟨.null, [[("order", .map [("items", .list [.map [("price", .int 3)]])])]]⟩ :
      Env).JudgeFree := by
    refine ⟨.null, List.forall_mem_singleton.mpr (.map (List.forall_mem_singleton.mpr (.list ?_)))⟩
    exact List.forall_mem_singleton.mpr (.map (List.forall_mem_singleton.mpr (.scalar rfl)))
  have agree := checked_test_flattens checks free ""
  exact ⟨checked, checks, agree⟩

end Sift
