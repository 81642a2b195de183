import Mathlib.Tactic.Tauto
import Sift.Evaluation.Basic
import Sift.Proofs.Lookup

/-!
# Names in expressions

The first segment of a selector is a name wherever a quantifier around it binds that name.
`Expr.substitute` puts a path in the place of a name, as far as the name is not bound again, and
`Expr.Renames` states that one expression is another one in which a name that one of the quantifiers
binds has been replaced, there and in the body below, by a name that does not occur there. What a
binding makes is a list under the names it binds, so other names change nothing else in it.
-/

namespace Sift

/-! ## Entries under other names -/

/-- A name, or another one in the place of one of them. -/
def replaceName (x y name : String) : String := if name = x then y else name

section

variable {α : Type} {x y name : String} {entries : List (String × α)}

/-- What stood under the old name is found under the new one. -/
theorem lookup_replaced_new (fresh : y ∉ entries.map Prod.fst) :
    (entries.map (Prod.map (replaceName x y) id)).lookup y = entries.lookup x := by
  induction entries with
  | nil => rfl
  | cons entry rest ih =>
    obtain ⟨key, a⟩ := entry
    obtain ⟨different, freshRest⟩ := not_or.mp (mt List.mem_cons.mpr fresh)
    rw [List.map_cons, Prod.map_apply, lookup_cons_if, lookup_cons_if, ih freshRest, replaceName]
    by_cases here : key = x
    · rw [if_pos here, if_pos rfl, if_pos here.symm]
      rfl
    · rw [if_neg here, if_neg different, if_neg (Ne.symm here)]

/-- Under any third name nothing has changed. -/
theorem lookup_replaced_other (notOld : name ≠ x) (notNew : name ≠ y) :
    (entries.map (Prod.map (replaceName x y) id)).lookup name = entries.lookup name := by
  induction entries with
  | nil => rfl
  | cons entry rest ih =>
    obtain ⟨key, a⟩ := entry
    rw [List.map_cons, Prod.map_apply, lookup_cons_if, lookup_cons_if, ih, replaceName]
    by_cases here : key = x
    · rw [if_pos here, if_neg notNew, if_neg (here ▸ notOld)]
    · rw [if_neg here]
      rfl

/-- Nothing is left under the old name. -/
theorem lookup_replaced_old (different : x ≠ y) :
    (entries.map (Prod.map (replaceName x y) id)).lookup x = none := by
  induction entries with
  | nil => rfl
  | cons entry rest ih =>
    obtain ⟨key, a⟩ := entry
    rw [List.map_cons, Prod.map_apply, lookup_cons_if, ih, replaceName]
    by_cases here : key = x
    · rw [if_pos here, if_neg different]
    · rw [if_neg here, if_neg (Ne.symm here)]

theorem lookup_eq_none_iff_not_mem :
    entries.lookup name = none ↔ name ∉ entries.map Prod.fst := by
  simp only [List.lookup_eq_none_iff, bne_iff_ne, List.mem_map, not_exists, not_and]
  exact ⟨fun absent entry inside same => absent entry inside same.symm,
    fun absent entry inside same => absent entry inside same.symm⟩

/-- What has an entry is found. -/
theorem exists_lookup_of_mem (inside : name ∈ entries.map Prod.fst) :
    ∃ a, entries.lookup name = some a :=
  Option.ne_none_iff_exists'.mp (mt lookup_eq_none_iff_not_mem.mp (not_not_intro inside))

end

/-! ## Bindings -/

namespace Binding

/-- The names that are bound. -/
def names : Binding → List String
  | each name => [name]
  | index name => [name]
  | value name => [name]
  | both i v => [i, v]

/-- The binding with other names. -/
def map (f : String → String) : Binding → Binding
  | each name => each (f name)
  | index name => index (f name)
  | value name => value (f name)
  | both i v => both (f i) (f v)

/-- The binding with one name replaced. -/
def rename (x y : String) (binding : Binding) : Binding := binding.map (replaceName x y)

variable {binding : Binding}

theorem frame_map (f : String → String) (keyed : Bool) (place element : Datum) :
    (binding.map f).frame keyed place element =
      (binding.frame keyed place element).map (Prod.map f id) := by
  cases binding <;> rfl

/-- Other names visit the same data. -/
theorem frames?_map (f : String → String) (d : Datum) :
    (binding.map f).frames? d =
      (binding.frames? d).map fun frames => frames.map fun frame => frame.map (Prod.map f id) := by
  cases d with
  | list | map | pairs => simp [frames?, frame_map]
  | _ => rfl

theorem names_frame (keyed : Bool) (place element : Datum) :
    (binding.frame keyed place element).map Prod.fst = binding.names := by
  cases binding <;> rfl

/-- Every frame binds all names. -/
theorem names_of_frames? {d : Datum} {frames : List Frame} (visited : binding.frames? d = some frames)
    {frame : Frame} (inside : frame ∈ frames) : frame.map Prod.fst = binding.names := by
  cases d with
  | list | map | pairs =>
    cases visited
    obtain ⟨entry, -, rfl⟩ := List.mem_map.mp inside
    exact names_frame ..
  | _ => cases visited

end Binding

/-! ## Paths in the place of names -/

/-- A path with another one in the place of its first segment, if that is the given name. -/
def substitutePath (x : String) (path : List String) : List String → List String
  | [] => []
  | first :: rest => if first = x then path ++ rest else first :: rest

/-- The selector with a path in the place of a name. -/
def Selector.substitute (x : String) (path : List String) (s : Selector) : Selector :=
  ⟨s.form, substitutePath x path s.path⟩

theorem substitutePath_of_ne {x first : String} (different : first ≠ x) (path rest : List String) :
    substitutePath x path (first :: rest) = first :: rest := if_neg different

theorem substitutePath_self (x : String) (path : List String) : substitutePath x [x] path = path := by
  cases path with
  | nil => rfl
  | cons first rest =>
    rw [substitutePath]
    split
    next here => rw [here, List.singleton_append]
    next => rfl

namespace Expr

variable {ν : Type} {x y : String} {path : List String}

/-- The expression with a path in the place of a name, wherever the name is not bound again. -/
def substitute (x : String) (path : List String) : Expr ν → Expr ν
  | test selector operator literal => .test (selector.substitute x path) operator literal
  | not operand => .not (operand.substitute x path)
  | and left right => .and (left.substitute x path) (right.substitute x path)
  | or left right => .or (left.substitute x path) (right.substitute x path)
  | quantified quantifier selector binding body =>
    .quantified quantifier (selector.substitute x path) binding
      (if x ∈ binding.names then body else body.substitute x path)

/-- The first segments of all selectors. -/
def heads : Expr ν → List String
  | test selector _ _ => selector.path.take 1
  | not operand => operand.heads
  | and left right => left.heads ++ right.heads
  | or left right => left.heads ++ right.heads
  | quantified _ selector _ body => selector.path.take 1 ++ body.heads

/-- The names that quantifiers bind. -/
def bound : Expr ν → List String
  | test .. => []
  | not operand => operand.bound
  | and left right => left.bound ++ right.bound
  | or left right => left.bound ++ right.bound
  | quantified _ _ binding body => binding.names ++ body.bound

/-- All names of an expression: those that selectors start with and those that are bound. -/
def names (e : Expr ν) : List String := e.heads ++ e.bound

section

variable {left right body : Expr ν} {name : String}

theorem mem_names_test {selector : Selector} {operator : Operator} {literal : Option ν} :
    name ∈ (test selector operator literal).names ↔ name ∈ selector.path.take 1 := by
  rw [names, heads, bound, List.append_nil]

theorem mem_names_and : name ∈ (and left right).names ↔ name ∈ left.names ∨ name ∈ right.names := by
  simp only [names, heads, bound, List.mem_append]
  tauto

theorem mem_names_or : name ∈ (or left right).names ↔ name ∈ left.names ∨ name ∈ right.names := by
  simp only [names, heads, bound, List.mem_append]
  tauto

theorem mem_names_quantified {quantifier : Quantifier} {selector : Selector} {binding : Binding} :
    name ∈ (quantified quantifier selector binding body).names ↔
      name ∈ selector.path.take 1 ∨ name ∈ binding.names ∨ name ∈ body.names := by
  simp only [names, heads, bound, List.mem_append]
  tauto

end

theorem testCount_substitute (e : Expr ν) : (e.substitute x path).testCount = e.testCount := by
  induction e with
  | test => rfl
  | not operand ih => exact ih
  | and left right ihLeft ihRight | or left right ihLeft ihRight =>
    simp only [substitute, testCount, ihLeft, ihRight]
  | quantified quantifier selector binding body ih =>
    simp only [substitute, testCount]
    split
    · rfl
    · exact ih

/-- A name in its own place changes nothing. -/
theorem substitute_self (x : String) (e : Expr ν) : e.substitute x [x] = e := by
  induction e with
  | test => simp only [substitute, Selector.substitute, substitutePath_self]
  | not operand ih => rw [substitute, ih]
  | and left right ihLeft ihRight | or left right ihLeft ihRight =>
    rw [substitute, ihLeft, ihRight]
  | quantified quantifier selector binding body ih =>
    simp only [substitute, Selector.substitute, substitutePath_self, ih, ite_self]

/-- In the body of a quantifier that binds the name again, the name is replaced by itself. -/
theorem substitute_unless_bound {bound : List String} (e : Expr ν) :
    (if x ∈ bound then e else e.substitute x [y]) =
      e.substitute x [if x ∈ bound then x else y] := by
  split
  · exact (substitute_self x e).symm
  · rfl

/-! ## Other names for what is bound -/

/-- One expression is another one with a name `x` that one of its quantifiers binds replaced by `y`,
in the binding and as far as the body means it. The new name does not occur there. -/
inductive Renames (x y : String) : Expr ν → Expr ν → Prop
  | here (quantifier : Quantifier) (selector : Selector) {binding : Binding} {body : Expr ν} :
    x ∈ binding.names → y ∉ binding.names → y ∉ body.names →
    Renames x y (.quantified quantifier selector binding body)
      (.quantified quantifier selector (binding.rename x y) (body.substitute x [y]))
  | not {operand operand' : Expr ν} : Renames x y operand operand' →
    Renames x y (.not operand) (.not operand')
  | andLeft {left left' : Expr ν} (right : Expr ν) : Renames x y left left' →
    Renames x y (.and left right) (.and left' right)
  | andRight (left : Expr ν) {right right' : Expr ν} : Renames x y right right' →
    Renames x y (.and left right) (.and left right')
  | orLeft {left left' : Expr ν} (right : Expr ν) : Renames x y left left' →
    Renames x y (.or left right) (.or left' right)
  | orRight (left : Expr ν) {right right' : Expr ν} : Renames x y right right' →
    Renames x y (.or left right) (.or left right')
  | inside (quantifier : Quantifier) (selector : Selector) (binding : Binding) {body body' : Expr ν} :
    Renames x y body body' →
    Renames x y (.quantified quantifier selector binding body)
      (.quantified quantifier selector binding body')

theorem Renames.testCount_eq {e e' : Expr ν} (renames : Renames x y e e') :
    e'.testCount = e.testCount := by
  induction renames with
  | here => exact testCount_substitute _
  | not _ ih | inside _ _ _ _ ih => exact ih
  | andLeft right _ ih | orLeft right _ ih => exact congrArg (· + right.testCount) ih
  | andRight left _ ih | orRight left _ ih => exact congrArg (left.testCount + ·) ih

end Expr

end Sift
