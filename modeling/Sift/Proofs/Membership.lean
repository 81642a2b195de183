import Mathlib
import Sift.Proofs.Evaluation.Judges
import Sift.Proofs.Flattening
import Sift.Proofs.Grammar.RoundTrip
import Sift.Proofs.Limits
import Sift.Query.Standard

/-!
# Membership and equality

That a literal is in a collection, and that some element of the collection equals it, are decided in
two ways. The one looks at the elements as they are and passes over those that the literal cannot be
read for; the other binds each element to a name, resolves the name, and fails where the two do not
compare. A null among the elements is unreadable for the one and absent for the other. So whatever the
quantifier answers, membership answers, too (`membership_of_equal_element`), also where the quantifier
has stopped before an element that does not compare.
-/

namespace Sift

/-! ## One element -/

/-- No literal is read for null. -/
theorem equalsLiteral_null (l : CheckedLiteral) : (Datum.null).equalsLiteral l = false := by
  obtain ⟨raw, - | literal⟩ := l
  · rfl
  · cases literal <;> rfl

namespace Settings

/-- What has been compared with a literal equals it, or does not, as an element does. -/
theorem equalsLiteral_of_verdict? {patterns : PatternEngine} {selector : Selector}
    {l : CheckedLiteral} {d : Datum} {b : Bool}
    (answers : verdict? patterns ⟨selector, .equal, some l⟩ (some d) = some b) :
    d.equalsLiteral l = b := by
  simp only [verdict?, Test.run, Test.compared, Test.literal!, ok_bind] at answers
  unfold Datum.equalsLiteral
  split at answers
  next => cases answers
  next => cases answers
  next literal read =>
    rw [read]
    exact Option.some.inj answers

variable {patterns : PatternEngine} {tag x : String} {l : CheckedLiteral} {env : Env}

/-- An element that answers under a name answers as an element. -/
theorem equalsLiteral_of_answer? {d : Datum} (free : d.JudgeFree) (envFree : env.JudgeFree)
    {b : Bool} (answers : (ofTag patterns tag).answer? (.test ⟨.words, [x]⟩ .equal (some l))
      (env.push [(x, d)]) = some b) : d.equalsLiteral l = b := by
  have clear : (env.push [(x, d)]).Clear tag [x] :=
    (envFree.push (List.forall_mem_singleton.mpr free)).clear [x]
  rw [answer?_test clear, Env.find?_bound (env.lookup_push_self x d)] at answers
  cases d with
  | null =>
    -- Under a name null is absent, and what is absent equals nothing.
    cases answers
    exact equalsLiteral_null l
  | _ => exact equalsLiteral_of_verdict? answers

end Settings

/-! ## Collections -/

/-- A key that is a text equals the literal as it is written. -/
theorem equalsLiteral_string (s raw : String) :
    (Datum.string s).equalsLiteral ⟨raw, none⟩ = (s == raw) := by
  show (some (compare s raw) == some .eq) = (s == raw)
  rw [Bool.eq_iff_iff, beq_iff_eq, beq_iff_eq, Option.some_inj, Std.compare_eq_iff_eq]

namespace Datum

/-- What a collection has for members: the elements of a list, the keys of a map. -/
def members? : Datum → Option (List Datum)
  | list items => some items
  | map entries => some (entries.map fun (key, _) => string key)
  | pairs entries => some (entries.map Prod.fst)
  | _ => none

variable {d : Datum}

/-- A single name is bound to the members, one after the other. -/
theorem frames?_each (x : String) (d : Datum) :
    (Binding.each x).frames? d = d.members?.map fun members =>
      members.map fun member => [(x, member)] := by
  cases d with
  | list items => exact Settings.frames?_list (fun _ _ => rfl) items
  | map entries => simp [Binding.frames?, Binding.frame, members?]
  | pairs entries => simp [Binding.frames?, Binding.frame, members?]
  | _ => rfl

theorem JudgeFree.members {members : List Datum} (free : d.JudgeFree)
    (has : d.members? = some members) :
    ∀ member ∈ members, member.JudgeFree := by
  cases free with
  | list items =>
    cases has
    exact items
  | map =>
    cases has
    exact List.forall_mem_map.mpr fun _ _ => .scalar rfl
  | pairs keys =>
    cases has
    exact List.forall_mem_map.mpr keys
  | scalar isScalar =>
    cases d with
    | list | map | pairs => cases isScalar
    | _ => cases has
  | null | record => cases has

/-- A collection contains a literal as it is written if a member equals it. -/
theorem contained_of_members? {selector : Selector} {operator : Operator} {raw : String}
    {members : List Datum} (has : d.members? = some members) :
    (⟨selector, operator, some ⟨raw, none⟩⟩ : Test).contained d =
      .ok (members.any fun member => member.equalsLiteral ⟨raw, none⟩) := by
  cases d with
  | list items =>
    cases has
    rfl
  | map entries =>
    cases has
    simp only [List.any_map, Function.comp_def, equalsLiteral_string]
    rfl
  | pairs entries =>
    cases has
    rw [List.any_map]
    rfl
  | _ => cases has

end Datum

/-- A search that looks at one answer after the other finds what is there to be found. -/
theorem any_of_anyM {α : Type} {visit : α → Option Bool} {holds : α → Bool} {items : List α}
    (agree : ∀ a ∈ items, ∀ b, visit a = some b → holds a = b) {b : Bool}
    (answers : items.anyM visit = some b) : items.any holds = b := by
  induction items with
  | nil =>
    cases answers
    rfl
  | cons item rest ih =>
    obtain ⟨here, behind⟩ := List.forall_mem_cons.mp agree
    rw [List.anyM] at answers
    obtain ⟨answer, visited, answers⟩ := Option.bind_eq_some_iff.mp answers
    rw [List.any_cons, here answer visited]
    cases answer with
    | true =>
      cases answers
      rfl
    | false => exact ih behind answers

namespace Settings

variable {patterns : PatternEngine} {tag x raw : String} {env : Env} {selector : Selector}

/-- What the quantified equality answers, membership answers. -/
theorem answer?_isIn_of_any (envFree : env.JudgeFree) {b : Bool}
    (answers : (ofTag patterns tag).answer? (.quantified .any selector (.each x)
      (.test ⟨.words, [x]⟩ .equal (some ⟨raw, none⟩))) env = some b) :
    (ofTag patterns tag).answer? (.test selector .isIn (some ⟨raw, none⟩)) env = some b := by
  have clear : env.Clear tag selector.path := envFree.clear selector.path
  rw [answer?_quantified_of_clear clear] at answers
  rw [answer?_test clear]
  obtain ⟨found, walked, answers⟩ := Option.bind_eq_some_iff.mp answers
  rw [walked]
  cases found with
  | none => exact answers
  | some d =>
    have free : d.JudgeFree := (envFree.base _).walk (Datum.walk_of_find? walked)
    rw [quantified?, Datum.frames?_each] at answers
    obtain ⟨frames, visited, answers⟩ := Option.bind_eq_some_iff.mp answers
    obtain ⟨members, has, rfl⟩ := Option.map_eq_some_iff.mp visited
    rw [quantify?_any] at answers
    -- The search may have ended before it met a member that does not compare.
    have found := any_of_anyM (fun member inside answer =>
      equalsLiteral_of_answer? (free.members has member inside) envFree) answers
    have contained : (⟨selector, .isIn, some ⟨raw, none⟩⟩ : Test).contained d = .ok _ :=
      Datum.contained_of_members? has
    rw [found] at contained
    exact congrArg Except.toOption contained

end Settings

/-! ## Queries -/

/-- A query for some element that equals a literal can be asked for membership of the literal. -/
theorem exists_membership_query {options : Options} {typeName : Option String} {source : String}
    {q : Query} (compiled : (Query.compile options none typeName source).outcome = .ok q)
    {selector : Selector} {x raw : String}
    (parsed : q.parsed =
      .quantified .any selector (.each x) (.test ⟨.words, [x]⟩ .equal (some raw))) :
    ∃ source' q', (Query.compile options none typeName source').outcome = .ok q' ∧
      q'.parsed = .test selector .isIn (some raw) := by
  obtain ⟨policy, hasPolicy, read, checks, -⟩ := of_compile compiled
  rw [parsed] at read checks
  have wellFormed : (Expr.test selector .isIn (some raw)).WellFormed :=
    ⟨(wellFormed_of_read read).1, rfl, nofun⟩
  have few := (Expr.read_limited.mp read).2
  have readBack := Expr.read_limited.mpr ⟨read_written_of_wellFormed wellFormed, few⟩
  have fits := ((check_limited few).mp checks).2
  have checked : (check options.patterns {} none (Expr.test selector .isIn (some raw))).outcome =
      .ok (.test selector .isIn (some ⟨raw, none⟩), 1) := rfl
  have checksBack := (check_limited (e := .test selector .isIn (some raw)) few).mpr ⟨checked, fits⟩
  exact ⟨_, _, compile_eq_ok.mpr ⟨policy, _, _, _, hasPolicy, readBack, checksBack, rfl⟩, rfl⟩

/-- Whenever a query without a schema answers whether some member of a collection equals a literal, the
query for membership of the literal answers the same: there is one, and each does so in every
environment without judges, whether the selector leads to nothing, to a list of anything or to a map
under keys of any kinds. -/
theorem membership_of_equal_element {options : Options} (hook : options.hook = none)
    (unknown : options.unknown = none) (refuse : options.refuseMissing = false)
    {typeName : Option String} {source : String} {q : Query}
    (compiled : (Query.compile options none typeName source).outcome = .ok q)
    {selector : Selector} {x raw : String}
    (parsed : q.parsed =
      .quantified .any selector (.each x) (.test ⟨.words, [x]⟩ .equal (some raw))) :
    (∃ source' q', (Query.compile options none typeName source').outcome = .ok q' ∧
        q'.parsed = .test selector .isIn (some raw)) ∧
      ∀ source' q', (Query.compile options none typeName source').outcome = .ok q' →
        q'.parsed = .test selector .isIn (some raw) →
        ∀ env : Env, env.JudgeFree → ∀ b, (q.evaluateIn env).outcome = .ok b →
          (q'.evaluateIn env).outcome = .ok b := by
  refine ⟨exists_membership_query compiled parsed, ?_⟩
  intro source' q' compiled' parsed' env envFree b answers
  have settings := settings_of_compile hook unknown refuse compiled
  have settings' := settings_of_compile hook unknown refuse compiled'
  obtain ⟨-, -, -, checks, -⟩ := of_compile compiled
  obtain ⟨-, -, -, checks', -⟩ := of_compile compiled'
  rw [parsed] at checks
  rw [parsed'] at checks'
  rw [Query.evaluateIn, of_checkedIn_none (of_check checks).1, settings] at answers
  rw [Query.evaluateIn, of_checkedIn_none (of_check checks').1, settings']
  have answer := Traced.result?_eq_some.mpr answers
  exact Traced.result?_eq_some.mp (Settings.answer?_isIn_of_any envFree answer)

/-- Tags of several kinds. -/
def Env.sampleMixed : Env :=
  ⟨.map [("tags", .list [.null, .string "3", .uint 3, .list []])], []⟩

theorem Env.sampleMixed_judgeFree : Env.sampleMixed.JudgeFree := by
  refine ⟨.map (List.forall_mem_singleton.mpr (.list ?_)), nofun⟩
  simp only [List.forall_mem_cons, List.not_mem_nil, false_implies, implies_true, and_true]
  exact ⟨.null, .scalar rfl, .scalar rfl, .list (List.forall_mem_nil _)⟩

/-- Null and a text are not the number; the quantifier stops in front of the list, which does not
compare with it. -/
theorem membership_of_equal_element_mixed :
    ∃ q q', (Query.compile .standard none none
        "any tags as t \x7b t == \"0x3\" \x7d").outcome = .ok q ∧
      (Query.compile .standard none none "\"0x3\" in tags").outcome = .ok q' ∧
      (q.evaluateIn Env.sampleMixed).outcome = .ok true ∧
      (q'.evaluateIn Env.sampleMixed).outcome = .ok true := by
  obtain ⟨q, compiled, parsed, answers⟩ : ∃ q,
      (Query.compile .standard none none "any tags as t \x7b t == \"0x3\" \x7d").outcome = .ok q ∧
        q.parsed = .quantified .any ⟨.words, ["tags"]⟩ (.each "t")
          (.test ⟨.words, ["t"]⟩ .equal (some "0x3")) ∧
        (q.evaluateIn Env.sampleMixed).outcome = .ok true :=
    ⟨_, by cbv, rfl, by decide +kernel⟩
  obtain ⟨q', compiled', parsed'⟩ : ∃ q',
      (Query.compile .standard none none "\"0x3\" in tags").outcome = .ok q' ∧
        q'.parsed = .test ⟨.words, ["tags"]⟩ .isIn (some "0x3") :=
    ⟨_, by cbv, rfl⟩
  have member := (membership_of_equal_element rfl rfl rfl compiled parsed).2 _ q' compiled' parsed'
    Env.sampleMixed Env.sampleMixed_judgeFree true answers
  exact ⟨q, q', compiled, compiled', answers, member⟩

end Sift
