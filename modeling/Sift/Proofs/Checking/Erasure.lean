import Sift.Proofs.Flattening
import Sift.Proofs.Names

/-!
# Taking a check back

The check wraps what selects through lists into quantifiers and reads literals. Nothing gets lost by
that: `Expr.erase` finds the expression that was checked from the result alone, as long as no
quantifier of the expression itself binds the name that the check makes use of (`erase_of_check`).
`Expands` states what the check has made of each part: a chain of quantifiers, one for every list
that is passed through, over the pieces of the path (`Chain`, `Cuts`).
-/

namespace Sift

/-! ## Erasing -/

namespace Expr

/-- A selector in the place of the name that another one starts with, where an expression is one that
selects. -/
def select (outer : Selector) : Expr String → Expr String
  | test inner operator literal => test ⟨outer.form, outer.path ++ inner.path.tail⟩ operator literal
  | quantified quantifier inner binding body =>
    quantified quantifier ⟨outer.form, outer.path ++ inner.path.tail⟩ binding body
  | other => other

/-- An expression without the quantifiers that the check has put in, its literals as written. -/
def erase : CheckedExpr → Expr String
  | test selector operator literal => test selector operator (literal.map CheckedLiteral.raw)
  | not operand => not operand.erase
  | and left right => and left.erase right.erase
  | or left right => or left.erase right.erase
  | quantified quantifier selector binding body =>
    if quantifier = .any ∧ binding = .value passedName then body.erase.select selector
    else quantified quantifier selector binding body.erase

end Expr

/-! ## Chains -/

/-- A node that selects inside quantifiers that the check has put in, each of which selects from the
element that the one around it binds: all that the pieces of the path decide. -/
inductive Chain (form : SelectorForm) (node : Selector → CheckedExpr) :
    List String → List (List String) → CheckedExpr → Prop
  | last (first : List String) : Chain form node first [] (node ⟨form, first⟩)
  | through (first next : List String) (others : List (List String)) {inner : CheckedExpr} :
    Chain form node (passedName :: next) others inner →
    Chain form node first (next :: others)
      (.quantified .any ⟨form, first⟩ (.value passedName) inner)

section

variable {form : SelectorForm} {node : Selector → CheckedExpr} {first : List String}
  {others : List (List String)} {v : CheckedExpr}

theorem chain_passThrough (form : SelectorForm) (node : Selector → CheckedExpr)
    (first : List String) (others : List (List String)) :
    Chain form node first others (passThrough form node first others) := by
  induction others generalizing first with
  | nil => exact .last first
  | cons next rest ih => exact .through first next rest (ih (passedName :: next))

/-- The pieces are put together again, if the node takes the selectors in. -/
theorem Chain.erase_eq (chain : Chain form node first others v) (plain : Selector → Expr String)
    (erases : ∀ selector, (node selector).erase = plain selector)
    (selects : ∀ outer inner : Selector,
      (plain inner).select outer = plain ⟨outer.form, outer.path ++ inner.path.tail⟩) :
    v.erase = plain ⟨form, first ++ others.flatten⟩ := by
  induction chain with
  | last first => rw [erases, List.flatten_nil, List.append_nil]
  | through first next others _ ih =>
    rw [Expr.erase, if_pos ⟨rfl, rfl⟩, ih, selects, List.cons_append, List.tail_cons,
      List.flatten_cons]

end

/-! ## Pieces -/

/-- The pieces of a path: none of them is empty, together they are the path, and behind each but the
last there is a list before the end of the path. -/
structure Cuts (known : Option Schema) (scope : Scope) (path first : List String)
    (others : List (List String)) : Prop where
  joined : first ++ others.flatten = path
  filled : path ≠ [] → [] ∉ first :: others
  counted : others.length = (known.elim [] fun schema => schema.crossed scope path).length

section

variable {schema : Schema} {scope : Scope} {selector : Selector}

/-- Below a field a piece may only be empty in front, where the field itself is a list or the end. -/
theorem cuts_of_follow {field : Field} {path : List String} {route : Route}
    (followed : field.follow path = .ok route) :
    route.first ++ route.others.flatten = path ∧ [] ∉ route.others := by
  induction path generalizing field route with
  | nil =>
    cases followed
    exact ⟨rfl, List.not_mem_nil⟩
  | cons segment rest ih =>
    obtain ⟨next, below, -, behind, cut⟩ := of_follow_cons followed
    obtain ⟨joined, filled⟩ := ih behind
    rcases cut with ⟨-, rfl⟩ | ⟨-, rfl⟩
    · refine ⟨congrArg (segment :: ·) joined, ?_⟩
      exact fun inside => (List.mem_cons.mp inside).elim nofun filled
    · exact ⟨congrArg (segment :: ·) joined, filled⟩

/-- There is a piece more than there are positions to cut at. -/
theorem length_pieces (path : List String) (start : Nat) (positions : List Nat) :
    (pieces path start positions).2.length = positions.length := by
  induction positions generalizing start with
  | nil => rfl
  | cons position others ih => exact congrArg (· + 1) (ih (position + 1))

/-- A route cuts the path of its selector. -/
theorem cuts_of_route {route : Route} (routed : schema.route scope selector = .ok route) :
    Cuts (some schema) scope selector.path route.first route.others where
  joined := by
    obtain ⟨first, rest, field, below, path, -, followed, rfl⟩ := of_route routed
    rw [path]
    exact congrArg (first :: ·) (cuts_of_follow followed).1
  filled _ := by
    obtain ⟨first, rest, field, below, -, -, followed, rfl⟩ := of_route routed
    exact fun inside => (List.mem_cons.mp inside).elim nofun (cuts_of_follow followed).2
  counted := by
    have pieced := congrArg (·.2.length) (pieces_of_route routed)
    exact pieced.symm.trans (length_pieces _ _ _)

/-- Without a schema a path stays in one piece. -/
theorem cuts_whole (scope : Scope) (path : List String) : Cuts none scope path path [] where
  joined := List.append_nil path
  filled nonempty inside := nonempty (List.mem_singleton.mp inside).symm
  counted := rfl

/-- What follows a path goes to the field below. -/
theorem below?_of_follow {field : Field} {path : List String} {route : Route}
    (followed : field.follow path = .ok route) : field.below? path = some route.field := by
  induction path generalizing field route with
  | nil =>
    cases followed
    rfl
  | cons segment rest ih =>
    obtain ⟨next, below, step, behind, cut⟩ := of_follow_cons followed
    have same : route.field = below.field := by rcases cut with ⟨-, rfl⟩ | ⟨-, rfl⟩ <;> rfl
    rw [same, Field.below?_of_step step]
    exact ih behind

/-- A route leads to the field at the end of the path. -/
theorem node?_of_route {route : Route} (routed : schema.route scope selector = .ok route) :
    schema.node? scope selector.path (selector.path.length - 1) = some route.field := by
  obtain ⟨first, rest, field, further, path, start, followed, rfl⟩ := of_route routed
  rw [path, Schema.node?, start, List.length_cons, Nat.add_sub_cancel, List.take_length]
  exact @below?_of_follow _ _ further followed

end

/-! ## Expressions -/

/-- The scope of the body of a quantifier: what is known of the names that it binds comes first. -/
def Scope.inside (known : Option Schema) (scope : Scope) (selector : Selector) (binding : Binding) :
    Scope :=
  known.elim [] (fun schema =>
    ((schema.node? scope selector.path (selector.path.length - 1)).map binding.fields).getD []) ++
    scope

/-- What the check makes of an expression, part by part. -/
inductive Expands (known : Option Schema) : Scope → Expr String → CheckedExpr → Prop
  | test {scope : Scope} {selector : Selector} (operator : Operator) {literal : Option String}
      {checked : Option CheckedLiteral} {first : List String} {others : List (List String)}
      {v : CheckedExpr} :
    Cuts known scope selector.path first others →
    checked.map CheckedLiteral.raw = literal →
    Chain selector.form (.test · operator checked) first others v →
    Expands known scope (.test selector operator literal) v
  | not {scope : Scope} {operand : Expr String} {v : CheckedExpr} :
    Expands known scope operand v → Expands known scope (.not operand) (.not v)
  | and {scope : Scope} {left right : Expr String} {v w : CheckedExpr} :
    Expands known scope left v → Expands known scope right w →
    Expands known scope (.and left right) (.and v w)
  | or {scope : Scope} {left right : Expr String} {v w : CheckedExpr} :
    Expands known scope left v → Expands known scope right w →
    Expands known scope (.or left right) (.or v w)
  | quantified {scope : Scope} (quantifier : Quantifier) {selector : Selector} {binding : Binding}
      {body : Expr String} {inner : CheckedExpr} {first : List String}
      {others : List (List String)} {v : CheckedExpr} :
    Cuts known scope selector.path first others →
    Expands known (scope.inside known selector binding) body inner →
    Chain selector.form (.quantified quantifier · binding inner) first others v →
    Expands known scope (.quantified quantifier selector binding body) v

/-- The literal of a checked test as it was written. -/
theorem raw_of_mapM_checkLiteral {patterns : PatternEngine} {field : Field} {selector : Selector}
    {operator : Operator} {literal : Option String} {checkedLiteral : Option CheckedLiteral}
    (checks : literal.mapM (checkLiteral patterns field selector operator) = .ok checkedLiteral) :
    checkedLiteral.map CheckedLiteral.raw = literal := by
  rcases of_mapM_checkLiteral checks with ⟨rfl, rfl⟩ | ⟨raw, l, rfl, rfl, one⟩
  · rfl
  · exact congrArg some (of_checkLiteral one).1

/-- What checks is expanded. -/
theorem expands_of_checkedIn {patterns : PatternEngine} {limits : Limits} {known : Option Schema}
    {scope : Scope} {e : Expr String} {v : CheckedExpr}
    (checks : (checkedIn patterns limits known scope e).outcome = .ok v) :
    Expands known scope e v := by
  induction e generalizing scope v with
  | test selector operator literal =>
    cases known with
    | none =>
      obtain rfl := of_checkedIn_none checks
      refine .test operator (cuts_whole scope selector.path) ?_ (.last selector.path)
      cases literal <;> rfl
    | some schema =>
      obtain ⟨route, checkedLiteral, routed, -, literals, rfl⟩ :=
        of_checkTest (of_checkedIn_test checks)
      exact .test operator (cuts_of_route routed) (raw_of_mapM_checkLiteral literals)
        (chain_passThrough ..)
  | not operand ih =>
    obtain ⟨inner, innerChecks, rfl⟩ := of_checkedIn_not checks
    exact .not (ih innerChecks)
  | and left right ihLeft ihRight =>
    obtain ⟨left', right', leftChecks, rightChecks, rfl⟩ := of_checkedIn_and checks
    exact .and (ihLeft leftChecks) (ihRight rightChecks)
  | or left right ihLeft ihRight =>
    obtain ⟨left', right', leftChecks, rightChecks, rfl⟩ := of_checkedIn_or checks
    exact .or (ihLeft leftChecks) (ihRight rightChecks)
  | quantified quantifier selector binding body ih =>
    cases known with
    | none =>
      obtain ⟨inner, innerChecks, rfl⟩ := of_checkedIn_quantified_none checks
      exact .quantified quantifier (cuts_whole scope selector.path) (ih innerChecks)
        (.last selector.path)
    | some schema =>
      obtain ⟨route, inner, routed, -, innerChecks, rfl⟩ := of_checkedIn_quantified checks
      have inside : Scope.inside (some schema) scope selector binding =
          binding.fields route.field ++ scope := by
        simp only [Scope.inside, Option.elim, node?_of_route routed, Option.map_some,
          Option.getD_some]
      exact .quantified quantifier (cuts_of_route routed) (inside ▸ ih innerChecks)
        (chain_passThrough ..)

/-- What has been expanded is found again, if it does not bind the name of the chains itself. -/
theorem Expands.erase_eq {known : Option Schema} {scope : Scope} {e : Expr String} {v : CheckedExpr}
    (expands : Expands known scope e v) (unused : passedName ∉ e.bound) : v.erase = e := by
  induction expands with
  | @test scope selector operator literal checked first others v cuts raw chain =>
    have erases (piece : Selector) :
        (Expr.test piece operator checked).erase = .test piece operator literal := by
      rw [Expr.erase, raw]
    rw [chain.erase_eq (.test · operator literal) erases fun _ _ => rfl, cuts.joined]
  | not _ ih => rw [Expr.erase, ih unused]
  | and _ _ ihLeft ihRight | or _ _ ihLeft ihRight =>
    rw [Expr.bound, List.mem_append, not_or] at unused
    rw [Expr.erase, ihLeft unused.1, ihRight unused.2]
  | @quantified scope quantifier selector binding body inner first others v cuts _ chain ih =>
    rw [Expr.bound, List.mem_append, not_or] at unused
    have ours : ¬(quantifier = .any ∧ binding = .value passedName) := by
      rintro ⟨-, rfl⟩
      exact unused.1 List.mem_cons_self
    have erases (piece : Selector) :
        (Expr.quantified quantifier piece binding inner).erase =
          .quantified quantifier piece binding body := by
      rw [Expr.erase, if_neg ours, ih unused.2]
    rw [chain.erase_eq (.quantified quantifier · binding body) erases fun _ _ => rfl, cuts.joined]

/-- Checking loses nothing. The expression is found again from what it was checked to, if none of its
quantifiers binds the name that the check makes use of; and the pieces of each path, cut behind every
list that is passed through and none of them empty, make up the path. -/
theorem erase_of_check {patterns : PatternEngine} {limits : Limits} {known : Option Schema}
    {e : Expr String} {v : CheckedExpr} {tests : Nat} (unused : passedName ∉ e.bound)
    (checks : (check patterns limits known e).outcome = .ok (v, tests)) :
    v.erase = e ∧ Expands (known.filter fun schema => !schema.isEmpty) [] e v :=
  have expands := expands_of_checkedIn (of_check checks).1
  ⟨expands.erase_eq unused, expands⟩

/-- The level of a shelf: a list of boxes with lists of items with lists of tags. -/
def Schema.sampleShelf : Schema :=
  let tags : Field := { collection := some .list, value := some { operators := [.equal] } }
  let items : Field := { collection := some .list, fields := [(.named "tags", tags)] }
  [(.named "boxes", { collection := some .list, fields := [(.named "items", items)] })]

/-- All tags of some item of some box, which is what the check makes of the tags of the shelf. -/
theorem erase_of_check_shelf :
    let e : Expr String := .quantified .all ⟨.pointer, ["boxes", "items", "tags"]⟩ (.each "tag")
      (.test ⟨.words, ["tag"]⟩ .equal (some "a"))
    let v : CheckedExpr := .quantified .any ⟨.pointer, ["boxes"]⟩ (.value passedName)
      (.quantified .any ⟨.pointer, [passedName, "items"]⟩ (.value passedName)
        (.quantified .all ⟨.pointer, [passedName, "tags"]⟩ (.each "tag")
          (.test ⟨.words, ["tag"]⟩ .equal (some ⟨"a", none⟩))))
    passedName ∉ e.bound ∧
      (check Pattern.engine {} (some .sampleShelf) e).outcome = .ok (v, 1) ∧ v.erase = e ∧
      Expands (some .sampleShelf) [] e v := by
  intro e v
  have unused : passedName ∉ e.bound := by decide
  have checks : (check Pattern.engine {} (some .sampleShelf) e).outcome = .ok (v, 1) := rfl
  exact ⟨unused, checks, erase_of_check unused checks⟩

end Sift
