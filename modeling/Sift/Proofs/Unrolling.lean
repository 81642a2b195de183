import Mathlib
import Sift.Proofs.Checking
import Sift.Proofs.Evaluation.Substitution
import Sift.Proofs.Grammar.Image
import Sift.Proofs.Number.Numerals
import Sift.Query.Standard

/-!
# Quantifiers as instances of their bodies

A quantifier that binds the elements of a list asks of them, one after the other, what its body says
of the element. An element is also what the path of the list leads to with the position behind it, so
the body may name it that way, and the quantifier is the `or`, for `all` the `and`, of the instances
of its body (`compiled_quantifier_unrolls`). That needs no more than that no quantifier inside the body
captures the first segment of the path: the body may bind the name of the element again, elements may
be null or judges, and every policy for absent data is met alike.
-/

namespace Sift

/-! ## Positions -/

/-- A row of digits is read as the number it denotes. -/
theorem natural64?_ofList {row : List Char} (filled : row ≠ [])
    (digits : ∀ c ∈ row, c.isDigit = true) (small : rowValue 10 row < 2 ^ 64) :
    natural64? (String.ofList row) = some (rowValue 10 row) := by
  have fine : row ≠ [] ∧ row.all Char.isDigit ∧ rowValue 10 row < 1 <<< 64 :=
    ⟨filled, List.all_eq_true.mpr digits, small⟩
  unfold natural64?
  rw [String.toList_ofList]
  split
  next => cases digits '+' List.mem_cons_self
  next =>
    simp only
    exact if_pos fine

/-- A position of 64 bits is read back from its decimal text. -/
theorem natural64?_toString {i : Nat} (small : i < 2 ^ 64) : natural64? (toString i) = some i := by
  have digits : ∀ c ∈ Nat.toDigits 10 i, c.isDigit = true := fun c inside =>
    Nat.isDigit_of_mem_toDigits (by decide) (Nat.le_refl 10) inside
  have value := rowValue_toDigits i
  rw [Nat.toString_eq_ofList_toDigits,
    natural64?_ofList Nat.toDigits_ne_nil digits (by omega), value]

/-- The position of an element leads to it. -/
theorem Datum.arrive_item {tag : String} {items : List Datum} {i : Nat} {item : Datum}
    (here : items[i]? = some item) (small : i < 2 ^ 64) (rest : List String) :
    (list items).arrive tag none (toString i :: rest) = item.arrive tag none rest := by
  have step : (list items).part? tag (toString i) = .ok item := by
    simp only [part?, natural64?_toString small, here]
  have other : (list items).kind ≠ .judge := by
    intro same
    cases same
  rw [arrive_cons other, step]
  rfl

namespace Settings

variable {s : Settings} {env : Env} {selector : Selector} {items : List Datum}

/-- What is resolved is where the path arrives. -/
theorem outcome_arrive_of_resolve {reached : Reached}
    (resolved : (s.resolve selector env).outcome = .ok reached) :
    ((env.base selector.path).1.arrive s.tag s.hook
      (selector.path.drop (env.base selector.path).2)).outcome =
      .ok (reached.arrival selector.path) := by
  rcases resolve_cases s selector env with same | ⟨_, _, _, _, -, -, blocked⟩
  · rw [same, Traced.outcome_mapError] at resolved
    rw [Datum.arrive_eq_resolve, Traced.outcome_map, Traced.outcome_mapError,
      mapError_eq_ok.mp resolved]
    rfl
  · rw [blocked] at resolved
    cases resolved

/-- The path of a list with a position behind it leads to where the name of the element does. -/
theorem replaces_item {x : String} {i : Nat} {item : Datum} (plain : s.hook = none)
    (filled : selector.path ≠ [])
    (resolved : (s.resolve selector env).outcome = .ok (.datum (.list items)))
    (here : items[i]? = some item) (small : i < 2 ^ 64) (names : List String) :
    Env.Replaces s x (selector.path ++ [toString i]) names (env.push [(x, item)]) env where
  root := rfl
  others _ other := by
    rw [Env.lookup_push_other]
    rw [lookup_cons_if, if_neg other]
    rfl
  replaced rest := by
    have arrived := outcome_arrive_of_resolve resolved
    obtain ⟨first, others, path⟩ := List.exists_cons_of_ne_nil filled
    have start : env.base (selector.path ++ [toString i] ++ rest) = env.base selector.path := by
      rw [path]
      rfl
    unfold meet
    rw [start, Env.base_bound (Env.lookup_push_self x item), plain, List.append_assoc,
      List.drop_append_of_le_length (env.base_le selector.path),
      Datum.arrive_append (plain ▸ arrived)]
    rw [List.cons_append, List.nil_append, Datum.arrive_item here small]
    rfl

end Settings

/-! ## Instances -/

/-- Two expressions of which one, or both, have to be true. -/
def Quantifier.join {ν : Type} : Quantifier → Expr ν → Expr ν → Expr ν
  | any => .or
  | all => .and

/-- Expressions of which one, or all, have to be true, from left to right. -/
def Quantifier.joined {ν : Type} (quantifier : Quantifier) : Expr ν → List (Expr ν) → Expr ν
  | e, [] => e
  | e, next :: rest => quantifier.join e (quantifier.joined next rest)

namespace Settings

variable {s : Settings} {env : Env}

/-- The answer of joined expressions; if there is none of them, that of the quantifier over nothing. -/
def joined? (s : Settings) (quantifier : Quantifier) (env : Env) : List CheckedExpr → Option Bool
  | [] => some quantifier.ifNone
  | first :: rest => s.answer? (quantifier.joined first rest) env

/-- The second one is looked at if the first one does not decide. -/
theorem answer?_join (quantifier : Quantifier) (left right : CheckedExpr) :
    s.answer? (quantifier.join left right) env = s.answer? left env >>= fun answer =>
      if answer = quantifier.ifNone then s.answer? right env else some answer := by
  cases quantifier with
  | any =>
    rw [Quantifier.join, answer?_or]
    refine bind_congr fun answer => ?_
    cases answer <;> rfl
  | all =>
    rw [Quantifier.join, answer?_and]
    refine bind_congr fun answer => ?_
    cases answer <;> rfl

/-- A quantifier looks at its frames as joined expressions look at their parts. -/
theorem quantify?_eq_joined? (quantifier : Quantifier) {visit : Frame → Option Bool}
    {frames : List Frame} {instances : List CheckedExpr}
    (same : List.Forall₂ (fun frame e => visit frame = s.answer? e env) frames instances) :
    quantify? quantifier visit frames = s.joined? quantifier env instances := by
  induction same with
  | nil => rfl
  | @cons frame e frames instances first others ih =>
    rw [quantify?, ih, first]
    cases instances with
    | nil =>
      have alone (answer : Bool) :
          (if answer = quantifier.ifNone then some quantifier.ifNone else some answer) =
            some answer := by
        split
        next same => rw [same]
        next => rfl
      simp only [joined?, Quantifier.joined, alone]
      exact bind_pure _
    | cons next rest => exact (answer?_join quantifier e _).symm

/-- What resolves to a list is a target. -/
theorem result?_target_of_resolve {selector : Selector} {items : List Datum}
    (resolved : (s.resolve selector env).outcome = .ok (.datum (.list items))) :
    (s.target selector env).result? = some (some (.datum (.list items))) := by
  unfold target Traced.result?
  simp only [resolved]
  rfl

/-- Over a list that a path leads to, a quantifier asks for the instances of its body. -/
theorem answer?_quantified_each (plain : s.hook = none) {selector : Selector}
    (filled : selector.path ≠ []) {items : List Datum}
    (resolved : (s.resolve selector env).outcome = .ok (.datum (.list items)))
    (counted : items.length ≤ 2 ^ 64) {body : CheckedExpr}
    (free : ∀ first ∈ selector.path.head?, first ∉ body.bound) (quantifier : Quantifier)
    (x : String) :
    s.answer? (.quantified quantifier selector (.each x) body) env =
      s.joined? quantifier env ((List.range items.length).map fun i =>
        body.substitute x (selector.path ++ [toString i])) := by
  have positions : List.range items.length = items.zipIdx.map Prod.snd := by
    rw [List.zipIdx_map_snd, List.range_eq_range']
  rw [answer?_quantified, result?_target_of_resolve resolved, positions, List.map_map]
  refine quantify?_eq_joined? quantifier ?_
  rw [List.forall₂_map_left_iff, List.forall₂_map_right_iff, List.forall₂_same]
  rintro ⟨item, i⟩ inside
  have here : items[i]? = some item := List.mk_mem_zipIdx_iff_getElem?.mp inside
  have small : i < 2 ^ 64 := by
    have within := (List.getElem?_eq_some_iff.mp here).1
    omega
  obtain ⟨first, others, path⟩ := List.exists_cons_of_ne_nil filled
  have replaces := replaces_item (x := x) plain filled resolved here small body.heads
  rw [path] at free replaces ⊢
  exact (evaluate_substitute (free first rfl) replaces).result_eq

end Settings

/-! ## Compiled queries -/

namespace Expr

variable {ν : Type}

/-- A part of an expression, at any depth. -/
inductive Part (part : Expr ν) : Expr ν → Prop
  | whole : Part part part
  | not {operand : Expr ν} : Part part operand → Part part (.not operand)
  | andLeft {left : Expr ν} (right : Expr ν) : Part part left → Part part (.and left right)
  | andRight (left : Expr ν) {right : Expr ν} : Part part right → Part part (.and left right)
  | orLeft {left : Expr ν} (right : Expr ν) : Part part left → Part part (.or left right)
  | orRight (left : Expr ν) {right : Expr ν} : Part part right → Part part (.or left right)
  | body (quantifier : Quantifier) (selector : Selector) (binding : Binding) {body : Expr ν} :
    Part part body → Part part (.quantified quantifier selector binding body)

/-- No quantifier that a text writes has an empty path. -/
theorem path_ne_nil_of_part {e : Expr String} (wellFormed : e.WellFormed)
    {quantifier : Quantifier} {selector : Selector} {binding : Binding} {body : CheckedExpr}
    (part : Part (.quantified quantifier selector binding body) e.asRead) :
    selector.path ≠ [] := by
  induction e with
  | test => nomatch part
  | not operand ih =>
    cases part with
    | not inner => exact ih wellFormed.1 inner
  | and left right ihLeft ihRight =>
    cases part with
    | andLeft _ inner => exact ihLeft wellFormed.1 inner
    | andRight _ inner => exact ihRight wellFormed.2 inner
  | or left right ihLeft ihRight =>
    cases part with
    | orLeft _ inner => exact ihLeft wellFormed.1 inner
    | orRight _ inner => exact ihRight wellFormed.2 inner
  | quantified _ outer _ inner ih =>
    cases part with
    | whole => exact path_ne_nil wellFormed.1
    | body _ _ _ within => exact ih wellFormed.2.2.2 within

end Expr

/-- In a query without a schema and without a hook, a quantifier that binds the elements of a list is
the `or`, for `all` the `and`, from left to right, of the instances of its body that name the
elements by the path of the list with their positions behind it. They have the same answer, or both
fail. Positions are numbers of 64 bits, so there are no more elements than those can count. -/
theorem compiled_quantifier_unrolls {options : Options} (hook : options.hook = none)
    {typeName : Option String} {source : String} {q : Query}
    (compiled : (Query.compile options none typeName source).outcome = .ok q)
    {quantifier : Quantifier} {selector : Selector} {x : String} {body : CheckedExpr}
    (part : Expr.Part (.quantified quantifier selector (.each x) body) q.checked)
    (free : ∀ first ∈ selector.path.head?, first ∉ body.bound) {env : Env} {items : List Datum}
    (resolved : (q.settings.resolve selector env).outcome = .ok (.datum (.list items)))
    (counted : items.length ≤ 2 ^ 64) :
    q.settings.answer? (.quantified quantifier selector (.each x) body) env =
      q.settings.joined? quantifier env ((List.range items.length).map fun i =>
        body.substitute x (selector.path ++ [toString i])) := by
  obtain ⟨policy, -, read, checks, settings⟩ := of_compile compiled
  have plain : q.settings.hook = none := by rw [settings, hook]
  rw [of_checkedIn_none (of_check checks).1] at part
  have filled := Expr.path_ne_nil_of_part (wellFormed_of_read read) part
  exact Settings.answer?_quantified_each plain filled resolved counted free quantifier x

/-- Some tag of an item; it is called what the item is. -/
def Expr.sampleTags : CheckedExpr :=
  .quantified .any ⟨.words, ["x", "tags"]⟩ (.each "x")
    (.test ⟨.words, ["x"]⟩ .equal (some ⟨"a", none⟩))

/-- An item that is null and one that has a tag. -/
def Env.sampleTags : Env :=
  ⟨.map [("items", .list [.null, .map [("tags", .list [.string "a"])]])], []⟩

/-- The name is bound again in the body, and the policy decides about the tags of null. -/
theorem compiled_quantifier_unrolls_tags :
    ∃ q, (Query.compile { Options.standard with unknown := some (.list []) } none none
        "any items as x \x7b any x.tags as x \x7b x == a \x7d \x7d").outcome = .ok q ∧
      q.checked = .quantified .any ⟨.words, ["items"]⟩ (.each "x") Expr.sampleTags ∧
      q.settings.answer? q.checked Env.sampleTags = some true ∧
      q.settings.answer? q.checked Env.sampleTags =
        q.settings.joined? .any Env.sampleTags
          [Expr.sampleTags.substitute "x" ["items", "0"],
            Expr.sampleTags.substitute "x" ["items", "1"]] := by
  have compiles : ∃ q, (Query.compile { Options.standard with unknown := some (.list []) } none none
        "any items as x \x7b any x.tags as x \x7b x == a \x7d \x7d").outcome = .ok q ∧
      q.checked = .quantified .any ⟨.words, ["items"]⟩ (.each "x") Expr.sampleTags ∧
      q.settings.answer? q.checked Env.sampleTags = some true ∧
      (q.settings.resolve ⟨.words, ["items"]⟩ Env.sampleTags).outcome =
        .ok (.datum (.list [.null, .map [("tags", .list [.string "a"])]])) :=
    ⟨_, by cbv, rfl, rfl, rfl⟩
  obtain ⟨q, compiled, checked, answer, resolved⟩ := compiles
  have part : Expr.Part (.quantified .any ⟨.words, ["items"]⟩ (.each "x") Expr.sampleTags)
      q.checked := checked ▸ .whole
  have unrolls := compiled_quantifier_unrolls rfl compiled part (by decide) resolved (by decide)
  refine ⟨q, compiled, checked, answer, ?_⟩
  rw [checked]
  exact unrolls

end Sift
