import Mathlib
import Sift.Pattern.Search
import Sift.Proofs.Checking
import Sift.Proofs.Grammar.Image
import Sift.Proofs.Names
import Sift.Proofs.Typing.Scopes

/-!
# Checking under other names

The check looks a name up in the scope, and at the top of the schema if the scope does not have it. A
scope has the names of which something is known, so a name that is bound to parts of which nothing is
known is taken for what it means further out (`bound_name_borrows_field`). In an expression that is
`Lexical` in a name this does not happen, and the name may be replaced by another one wherever a
quantifier binds it: the expression checks as before, and what comes out differs by the same name only
(`check_renamed`).
-/

namespace Sift

/-! ## Scopes -/

section

variable {name : String} {names more : List (String × Option Field)} {schema : Schema}

theorem Binding.names_known (binding : Binding) (collection : Field) :
    (binding.known collection).map Prod.fst = binding.names := by
  cases binding <;> rfl

theorem Binding.known_map (f : String → String) (binding : Binding) (collection : Field) :
    (binding.map f).known collection = (binding.known collection).map (Prod.map f id) := by
  cases binding <;> rfl

namespace Scope

/-- What is known does not depend on the names. -/
theorem ofKnown_map (f : String → String) :
    ofKnown (names.map (Prod.map f id)) = (ofKnown names).map (Prod.map f id) := by
  rw [ofKnown, ofKnown, List.filterMap_map, List.map_filterMap]
  congr 1
  funext ⟨name, known⟩
  cases known <;> rfl

/-- The scope has no other names. -/
theorem lookup_ofKnown_eq_none (absent : name ∉ names.map Prod.fst) :
    (ofKnown names).lookup name = none := by
  have unbound := lookup_eq_none_iff_not_mem.mpr absent
  have known : names.lookup name ≠ some none := by
    rw [unbound]
    exact (Option.some_ne_none none).symm
  rw [lookup_ofKnown known, unbound]
  rfl

theorem lookup_ofKnown_append_eq_none :
    (ofKnown (names ++ more)).lookup name = none ↔
      (ofKnown names).lookup name = none ∧ (ofKnown more).lookup name = none := by
  rw [ofKnown_append, List.lookup_append, Option.or_eq_none_iff]

end Scope

theorem Schema.start?_append :
    schema.start? (.ofKnown (names ++ more)) name =
      ((Scope.ofKnown names).lookup name).or (schema.start? (.ofKnown more) name) := by
  rw [start?, start?, Scope.ofKnown_append, List.lookup_append, Option.or_assoc]

end

/-! ## Lexical expressions -/

/-- A selector that starts with a name of which nothing is known where it is bound starts with one of
which nothing is known further out. -/
def Selector.Lexical (schema : Schema) (x : String) (names : List (String × Option Field))
    (selector : Selector) : Prop :=
  selector.path.head? = some x → names.lookup x = some none →
    (Scope.ofKnown names).lookup x = none ∧ schema.get? (.named x) = none

/-- No selector of an expression takes what is bound to a name for what the name means further
out. -/
def Expr.Lexical (schema : Schema) (x : String) : List (String × Option Field) → Expr String → Prop
  | names, .test selector _ _ => selector.Lexical schema x names
  | names, .not operand => Lexical schema x names operand
  | names, .and left right => Lexical schema x names left ∧ Lexical schema x names right
  | names, .or left right => Lexical schema x names left ∧ Lexical schema x names right
  | names, .quantified _ selector binding body =>
    selector.Lexical schema x names ∧
      ∀ route, schema.route (.ofKnown names) selector = .ok route →
        Lexical schema x (binding.known route.field ++ names) body

/-! ## Names in the place of others -/

/-- Among `names'`, the name `y` stands for what `x` is bound to among `names`, and no other name
means anything else. -/
structure Scope.Replaces (schema : Schema) (x y : String) (heads : List String)
    (names names' : List (String × Option Field)) : Prop where
  others {name : String} : name ∈ heads → name ≠ x →
    schema.start? (.ofKnown names') name = schema.start? (.ofKnown names) name
  bound : names.lookup x ≠ none
  same : names'.lookup y = names.lookup x
  unknown : (Scope.ofKnown names).lookup x = none → (Scope.ofKnown names').lookup y = none
  outer : (Scope.ofKnown names).lookup x = none → (Scope.ofKnown names').lookup x = none
  fresh : y = x ∨ schema.get? (.named y) = none

namespace Scope.Replaces

variable {schema : Schema} {x y : String} {heads more : List String}
  {names names' known : List (String × Option Field)}

theorem mono (replaces : Replaces schema x y heads names names') (fewer : more ⊆ heads) :
    Replaces schema x y more names names' :=
  { replaces with others := fun inside => replaces.others (fewer inside) }

/-- A lexical selector starts at the same field. -/
theorem start (replaces : Replaces schema x y heads names names')
    (lexical : names.lookup x = some none →
      (Scope.ofKnown names).lookup x = none ∧ schema.get? (.named x) = none) :
    schema.start? (.ofKnown names') y = schema.start? (.ofKnown names) x := by
  rw [Schema.start?, Schema.start?]
  cases binds : names.lookup x with
  | none => exact absurd binds replaces.bound
  | some known =>
    have binds' : names'.lookup y = some known := replaces.same.trans binds
    cases known with
    | none =>
      obtain ⟨unknown, free⟩ := lexical binds
      rw [unknown, replaces.unknown unknown, Option.none_or, Option.none_or, Schema.field?,
        Schema.field?, free]
      rcases replaces.fresh with rfl | fresh
      · rw [free]
      · rw [fresh]
    | some field =>
      have found {z : String} {names : List (String × Option Field)}
          (binds : names.lookup z = some (some field)) : (ofKnown names).lookup z = some field := by
        have known : names.lookup z ≠ some none := by
          rw [binds]
          intro same
          cases same
        rw [lookup_ofKnown known, binds]
        rfl
      rw [found binds, found binds', Option.some_or, Option.some_or]

/-- Inside a quantifier that binds neither name, nothing has changed. -/
theorem push (replaces : Replaces schema x y heads names names')
    (notOld : x ∉ known.map Prod.fst) (notNew : y ∉ known.map Prod.fst) :
    Replaces schema x y heads (known ++ names) (known ++ names') where
  others inside other := by
    rw [Schema.start?_append, Schema.start?_append, replaces.others inside other]
  bound := by
    rw [List.lookup_append, lookup_eq_none_iff_not_mem.mpr notOld, Option.none_or]
    exact replaces.bound
  same := by
    rw [List.lookup_append, List.lookup_append, lookup_eq_none_iff_not_mem.mpr notOld,
      lookup_eq_none_iff_not_mem.mpr notNew, Option.none_or, Option.none_or, replaces.same]
  unknown absent := by
    rw [lookup_ofKnown_append_eq_none] at absent ⊢
    exact ⟨lookup_ofKnown_eq_none notNew, replaces.unknown absent.2⟩
  outer absent := by
    rw [lookup_ofKnown_append_eq_none] at absent ⊢
    exact ⟨absent.1, replaces.outer absent.2⟩
  fresh := replaces.fresh

/-- Inside a quantifier that binds the name again, it stands for itself. -/
theorem again (replaces : Replaces schema x y heads names names')
    (binds : x ∈ known.map Prod.fst) :
    Replaces schema x x heads (known ++ names) (known ++ names') where
  others inside other := by
    rw [Schema.start?_append, Schema.start?_append, replaces.others inside other]
  bound := by
    obtain ⟨field, found⟩ := exists_lookup_of_mem binds
    rw [List.lookup_append, found, Option.some_or]
    exact Option.some_ne_none field
  same := by
    obtain ⟨field, found⟩ := exists_lookup_of_mem binds
    rw [List.lookup_append, List.lookup_append, found, Option.some_or, Option.some_or]
  unknown absent := by
    rw [lookup_ofKnown_append_eq_none] at absent ⊢
    exact ⟨absent.1, replaces.outer absent.2⟩
  outer absent := by
    rw [lookup_ofKnown_append_eq_none] at absent ⊢
    exact ⟨absent.1, replaces.outer absent.2⟩
  fresh := .inl rfl

/-- Inside a quantifier that does not bind the new name, the name stands for itself if it is bound
again, and for what it stood for if it is not. -/
theorem enter (replaces : Replaces schema x y heads names names')
    (apart : y = x ∨ y ∉ known.map Prod.fst) :
    Replaces schema x (if x ∈ known.map Prod.fst then x else y) heads (known ++ names)
      (known ++ names') := by
  split
  next binds => exact replaces.again binds
  next notOld =>
    rcases apart with rfl | notNew
    · exact replaces.push notOld notOld
    · exact replaces.push notOld notNew

/-- A quantifier that binds the new name instead of the old one. -/
theorem renamed (binds : x ∈ known.map Prod.fst) (fresh : y ∉ known.map Prod.fst)
    (unused : y ∉ heads) (unbound : (Scope.ofKnown names).lookup y = none)
    (free : schema.get? (.named y) = none) :
    Replaces schema x y heads (known ++ names)
      (known.map (Prod.map (replaceName x y) id) ++ names) where
  others inside other := by
    have notNew := ne_of_mem_of_not_mem inside unused
    rw [Schema.start?_append, Schema.start?_append, ofKnown_map,
      lookup_replaced_other other notNew]
  bound := by
    obtain ⟨field, found⟩ := exists_lookup_of_mem binds
    rw [List.lookup_append, found, Option.some_or]
    exact Option.some_ne_none field
  same := by
    obtain ⟨field, found⟩ := exists_lookup_of_mem binds
    rw [List.lookup_append, List.lookup_append, lookup_replaced_new fresh, found, Option.some_or,
      Option.some_or]
  unknown absent := by
    have freshKnown := lookup_eq_none_iff_not_mem.mp (lookup_ofKnown_eq_none fresh)
    rw [lookup_ofKnown_append_eq_none] at absent ⊢
    rw [ofKnown_map, lookup_replaced_new freshKnown]
    exact ⟨absent.1, unbound⟩
  outer absent := by
    rw [lookup_ofKnown_append_eq_none] at absent ⊢
    rw [ofKnown_map, lookup_replaced_old (ne_of_mem_of_not_mem binds fresh)]
    exact ⟨rfl, absent.2⟩
  fresh := .inr free

end Scope.Replaces

/-! ## Results of checks -/

section

variable {α α' β β' γ γ' : Type} {r : α → α' → Prop} {q : β → β' → Prop} {p : γ → γ' → Prop}

theorem rel_self (a : Option α) : Option.Rel Eq a a := by
  cases a with
  | none => exact .none
  | some a => exact .some rfl

theorem rel_bind {a : Option α} {a' : Option α'} {next : α → Option β} {next' : α' → Option β'}
    (related : Option.Rel r a a') (onwards : ∀ a a', r a a' → Option.Rel q (next a) (next' a')) :
    Option.Rel q (a.bind next) (a'.bind next') := by
  cases related with
  | none => exact .none
  | some related => exact onwards _ _ related

theorem rel_map {a : Option α} {a' : Option α'} {f : α → β} {f' : α' → β'}
    (related : Option.Rel r a a') (maps : ∀ a a', r a a' → q (f a) (f' a')) :
    Option.Rel q (a.map f) (a'.map f') := by
  cases related with
  | none => exact .none
  | some related => exact .some (maps _ _ related)

theorem rel_map₂ {a : Option α} {a' : Option α'} {b : Option β} {b' : Option β'}
    {f : α → β → γ} {f' : α' → β' → γ'} (left : Option.Rel r a a') (right : Option.Rel q b b')
    (maps : ∀ a a' b b', r a a' → q b b' → p (f a b) (f' a' b')) :
    Option.Rel p (Option.map₂ f a b) (Option.map₂ f' a' b') :=
  rel_bind left fun _ _ left => rel_map right fun _ _ right => maps _ _ _ _ left right

end

/-- Two checks one after the other, of which both results are kept. -/
theorem Traced.result?_pair {ν ε α β γ : Type} (left : Traced ν ε α) (right : Traced ν ε β)
    (f : α → β → γ) :
    (left >>= fun a => right >>= fun b => pure (f a b)).result? =
      Option.map₂ f left.result? right.result? := by
  rw [result?_bind]
  refine bind_congr fun a => ?_
  rw [result?_bind]
  exact Option.map_eq_bind.symm

/-- The route with a path in the place of a name. -/
def Route.substitute (x : String) (path : List String) (route : Route) : Route :=
  { route with first := substitutePath x path route.first }

/-- A route goes on from the field that the first segment stands for. -/
theorem Schema.toOption_route {schema : Schema} {scope : Scope} {form : SelectorForm}
    {first : String} {rest : List String} :
    (schema.route scope ⟨form, first :: rest⟩).toOption =
      (schema.start? scope first).bind fun field =>
        (field.follow rest).toOption.map fun route => { route with first := first :: route.first } := by
  cases start : schema.start? scope first with
  | none =>
    simp only [route, start]
    rfl
  | some field =>
    simp only [route, start, Option.bind_some]
    cases Field.follow field rest <;> rfl

theorem Scope.Replaces.route {schema : Schema} {x y : String} {heads : List String}
    {names names' : List (String × Option Field)} (replaces : Replaces schema x y heads names names')
    {selector : Selector} (inside : selector.path.take 1 ⊆ heads)
    (lexical : selector.Lexical schema x names) :
    (schema.route (.ofKnown names') (selector.substitute x [y])).toOption =
      (schema.route (.ofKnown names) selector).toOption.map (Route.substitute x [y]) := by
  obtain ⟨form, path⟩ := selector
  cases path with
  | nil => rfl
  | cons first rest =>
    have start : schema.start? (.ofKnown names') (if first = x then y else first) =
        schema.start? (.ofKnown names) first := by
      by_cases here : first = x
      · subst here
        rw [if_pos rfl]
        exact replaces.start (lexical rfl)
      · rw [if_neg here]
        exact replaces.others (inside List.mem_cons_self) here
    have path : substitutePath x [y] (first :: rest) = (if first = x then y else first) :: rest := by
      rw [substitutePath]
      split <;> rfl
    rw [Selector.substitute, path, Schema.toOption_route, Schema.toOption_route, start]
    cases schema.start? (.ofKnown names) first with
    | none => rfl
    | some field =>
      simp only [Option.bind_some, Option.map_map]
      congr 1
      funext route
      show _ = (⟨route.field, substitutePath x [y] (first :: route.first), route.others⟩ : Route)
      rw [substitutePath]
      split <;> rfl

/-- The form of a test does not depend on its selector. -/
theorem toOption_checkForm_select (limits : Limits) (selector other : Selector)
    (operator : Operator) (literal : Option String) :
    (checkForm limits selector operator literal).toOption =
      (checkForm limits other operator literal).toOption := by
  cases literal with
  | none => rfl
  | some raw =>
    unfold checkForm
    dsimp only
    split
    next => rfl
    next => rfl

/-- Neither does its literal. -/
theorem toOption_checkLiteral_select {patterns : PatternEngine} (field : Field) (selector other : Selector)
    (operator : Operator) (raw : String) :
    (checkLiteral patterns field selector operator raw).toOption =
      (checkLiteral patterns field other operator raw).toOption := by
  unfold checkLiteral
  cases field.literalType with
  | none =>
    simp only [pure_bind]
    split
    next => split <;> rfl
    next => rfl
  | some type =>
    dsimp only
    cases type.read raw with
    | error cause => rfl
    | ok literal =>
      simp only [pure_bind]
      split
      next =>
        cases literal with
        | string s =>
          dsimp only
          split <;> rfl
        | _ => rfl
      next => rfl

theorem toOption_mapM_checkLiteral_select {patterns : PatternEngine} (field : Field)
    (selector other : Selector) (operator : Operator) (literal : Option String) :
    (literal.mapM (checkLiteral patterns field selector operator)).toOption =
      (literal.mapM (checkLiteral patterns field other operator)).toOption := by
  cases literal with
  | none => rfl
  | some raw =>
    rw [Option.mapM_some, Option.mapM_some, map_eq_pure_bind, map_eq_pure_bind, toOption_bind,
      toOption_bind, toOption_checkLiteral_select field selector other]

section

variable {patterns : PatternEngine} {limits : Limits} {known : Option Schema} {schema : Schema}
  {scope : Scope} {selector : Selector}

/-- What a test checks to. -/
theorem result?_checkedIn_test (operator : Operator) (literal : Option String) :
    (checkedIn patterns limits (some schema) scope (.test selector operator literal)).result? =
      (checkForm limits selector operator literal).toOption.bind fun _ =>
        (schema.route scope selector).toOption.bind fun route =>
          if route.field.supports operator then
            (literal.mapM (checkLiteral patterns route.field selector operator)).toOption.map
              fun checked =>
                passThrough selector.form (.test · operator checked) route.first route.others
          else none := by
  simp only [checkedIn_test, Schema.checkTest, Traced.result?_bind, Traced.result?_ofExcept]
  refine bind_congr fun _ => bind_congr fun route => ?_
  cases supported : route.field.supports operator with
  | true =>
    simp only [Bool.not_true, if_neg Bool.false_ne_true, if_true, Traced.result?_bind,
      Traced.result?_ofExcept, Option.map_eq_bind]
    refine bind_congr fun checked => ?_
    split <;> rfl
  | false => rfl

theorem result?_checkedIn_not (operand : Expr String) :
    (checkedIn patterns limits known scope (.not operand)).result? =
      (checkedIn patterns limits known scope operand).result?.map .not := by
  rw [checkedIn_not, map_eq_pure_bind, Traced.result?_bind]
  exact Option.map_eq_bind.symm

theorem result?_checkedIn_and (left right : Expr String) :
    (checkedIn patterns limits known scope (.and left right)).result? =
      Option.map₂ .and (checkedIn patterns limits known scope left).result?
        (checkedIn patterns limits known scope right).result? := by
  rw [checkedIn_and]
  exact Traced.result?_pair _ _ _

theorem result?_checkedIn_or (left right : Expr String) :
    (checkedIn patterns limits known scope (.or left right)).result? =
      Option.map₂ .or (checkedIn patterns limits known scope left).result?
        (checkedIn patterns limits known scope right).result? := by
  rw [checkedIn_or]
  exact Traced.result?_pair _ _ _

theorem result?_checkedIn_quantified (quantifier : Quantifier) (binding : Binding)
    (body : Expr String) :
    (checkedIn patterns limits (some schema) scope
        (.quantified quantifier selector binding body)).result? =
      (schema.route scope selector).toOption.bind fun route =>
        if route.field.collection = none then none
        else (checkedIn patterns limits (some schema) (binding.fields route.field ++ scope)
          body).result?.map fun checked =>
            passThrough selector.form (.quantified quantifier · binding checked) route.first
              route.others := by
  rw [checkedIn_quantified, Traced.result?_bind, Traced.result?_ofExcept]
  refine bind_congr fun route => ?_
  split
  next => rfl
  next =>
    rw [Traced.result?_bind]
    exact Option.map_eq_bind.symm

end

/-! ## Selectors passed through lists -/

section

variable {ν : Type} {x y : String}

/-- The quantifiers around a node bind a name of their own, so only the first path is touched. -/
theorem substitute_passThrough {path : List String} (other : x ≠ passedName)
    {node node' : Selector → Expr ν}
    (nodes : ∀ selector, (node selector).substitute x path = node' (selector.substitute x path))
    (form : SelectorForm) (first : List String) (others : List (List String)) :
    (passThrough form node first others).substitute x path =
      passThrough form node' (substitutePath x path first) others := by
  induction others generalizing first with
  | nil => exact nodes ⟨form, first⟩
  | cons next others ih =>
    have outside : x ∉ (Binding.value passedName).names := mt List.mem_singleton.mp other
    rw [passThrough, passThrough, Expr.substitute, if_neg outside, ih,
      substitutePath_of_ne other.symm]
    rfl

theorem renames_passThrough {node node' : Selector → Expr ν}
    (nodes : ∀ selector, Expr.Renames x y (node selector) (node' selector)) (form : SelectorForm)
    (first : List String) (others : List (List String)) :
    Expr.Renames x y (passThrough form node first others) (passThrough form node' first others) := by
  induction others generalizing first with
  | nil => exact nodes ⟨form, first⟩
  | cons next others ih => exact .inside .any ⟨form, first⟩ (.value passedName) (ih _)

/-- No other name comes in with the quantifiers around a node. -/
theorem mem_names_passThrough {form : SelectorForm} {node : Selector → Expr ν} (more : List String)
    (nodes : ∀ first name, name ∈ (node ⟨form, first⟩).names → name ∈ first.take 1 ∨ name ∈ more)
    {first : List String} {others : List (List String)} {name : String}
    (inside : name ∈ (passThrough form node first others).names) :
    name = passedName ∨ name ∈ first.take 1 ∨ name ∈ more := by
  induction others generalizing first with
  | nil => exact .inr (nodes first name inside)
  | cons next others ih =>
    rcases Expr.mem_names_quantified.mp inside with here | bound | below
    · exact .inr (.inl here)
    · exact .inl (List.mem_singleton.mp bound)
    · rcases ih below with same | head | there
      · exact .inl same
      · exact .inl (List.mem_singleton.mp head)
      · exact .inr (.inr there)

end

/-! ## Other names in the place of bound ones -/

section

variable {patterns : PatternEngine} {limits : Limits} {schema : Schema} {x y : String}

/-- With a name in the place of another one, a lexical expression checks to the same, with that name
in its place. -/
theorem result?_checkedIn_substitute {e : Expr String} (other : x ≠ passedName)
    {names names' : List (String × Option Field)} (lexical : e.Lexical schema x names)
    (replaces : Scope.Replaces schema x y e.heads names names') (unbound : y = x ∨ y ∉ e.bound) :
    (checkedIn patterns limits (some schema) (.ofKnown names') (e.substitute x [y])).result? =
      (checkedIn patterns limits (some schema) (.ofKnown names) e).result?.map
        (Expr.substitute x [y]) := by
  induction e generalizing names names' y with
  | test selector operator literal =>
    rw [Expr.substitute, result?_checkedIn_test, result?_checkedIn_test,
      toOption_checkForm_select limits _ selector, replaces.route (fun _ inside => inside) lexical]
    cases (checkForm limits selector operator literal).toOption with
    | none => rfl
    | some =>
      cases (schema.route (.ofKnown names) selector).toOption with
      | none => rfl
      | some route =>
        simp only [Option.bind_some, Option.map_some, Route.substitute]
        split
        next =>
          rw [toOption_mapM_checkLiteral_select _ _ selector, Option.map_map]
          congr 1
          funext checked
          exact (substitute_passThrough other (fun _ => rfl) _ _ _).symm
        next => rfl
  | not operand ih =>
    rw [Expr.substitute, result?_checkedIn_not, result?_checkedIn_not, ih lexical replaces unbound,
      Option.map_map, Option.map_map]
    rfl
  | and left right ihLeft ihRight =>
    have sameLeft := ihLeft lexical.1 (replaces.mono (List.subset_append_left _ _))
      (unbound.imp_right (mt (List.mem_append_left _)))
    have sameRight := ihRight lexical.2 (replaces.mono (List.subset_append_right _ _))
      (unbound.imp_right (mt (List.mem_append_right _)))
    rw [Expr.substitute, result?_checkedIn_and, result?_checkedIn_and, sameLeft, sameRight]
    refine (Option.map_map₂_distrib ?_).symm
    intro left' right'
    rfl
  | or left right ihLeft ihRight =>
    have sameLeft := ihLeft lexical.1 (replaces.mono (List.subset_append_left _ _))
      (unbound.imp_right (mt (List.mem_append_left _)))
    have sameRight := ihRight lexical.2 (replaces.mono (List.subset_append_right _ _))
      (unbound.imp_right (mt (List.mem_append_right _)))
    rw [Expr.substitute, result?_checkedIn_or, result?_checkedIn_or, sameLeft, sameRight]
    refine (Option.map_map₂_distrib ?_).symm
    intro left' right'
    rfl
  | quantified quantifier selector binding body ih =>
    obtain ⟨lexicalSelector, lexicalBody⟩ := lexical
    have inBody := replaces.mono (List.subset_append_right (selector.path.take 1) body.heads)
    rw [Expr.substitute, result?_checkedIn_quantified, result?_checkedIn_quantified,
      replaces.route (List.subset_append_left _ _) lexicalSelector]
    cases routed : schema.route (.ofKnown names) selector with
    | error => rfl
    | ok route =>
      simp only [toOption_ok, Option.bind_some, Option.map_some, Route.substitute]
      split
      next => rfl
      next =>
        have apart : y = x ∨ y ∉ (binding.known route.field).map Prod.fst := by
          rw [Binding.names_known]
          exact unbound.imp_right (mt (List.mem_append_left _))
        have unboundBody : (if x ∈ binding.names then x else y) = x ∨
            (if x ∈ binding.names then x else y) ∉ body.bound := by
          split
          · exact .inl rfl
          · exact unbound.imp_right (mt (List.mem_append_right _))
        have inside := inBody.enter apart
        rw [Binding.names_known] at inside
        rw [Binding.fields_eq, ← Scope.ofKnown_append, ← Scope.ofKnown_append,
          Expr.substitute_unless_bound, ih (lexicalBody route routed) inside unboundBody,
          Option.map_map, Option.map_map]
        congr 1
        funext checked
        refine (substitute_passThrough other (fun selector => ?_) _ _ _).symm
        rw [Expr.substitute, Expr.substitute_unless_bound]

/-- A route starts with the name that the selector starts with. -/
theorem take_first_of_route {scope : Scope} {selector : Selector} {route : Route}
    (routed : schema.route scope selector = .ok route) :
    route.first.take 1 = selector.path.take 1 := by
  obtain ⟨first, rest, field, below, path, -, -, rfl⟩ := of_route routed
  rw [path]
  rfl

/-- Checking brings in no name but its own. -/
theorem mem_names_of_checkedIn {scope : Scope} {e : Expr String} {checked : CheckedExpr}
    (checks : (checkedIn patterns limits (some schema) scope e).outcome = .ok checked)
    {name : String} (inside : name ∈ checked.names) : name = passedName ∨ name ∈ e.names := by
  induction e generalizing scope checked with
  | test selector operator literal =>
    obtain ⟨route, checkedLiteral, routed, -, -, rfl⟩ := of_checkTest (of_checkedIn_test checks)
    have known := mem_names_passThrough []
      (fun _ _ head => .inl (Expr.mem_names_test.mp head)) inside
    rw [take_first_of_route routed] at known
    rw [Expr.mem_names_test]
    simpa using known
  | not operand ih =>
    obtain ⟨inner, innerChecks, rfl⟩ := of_checkedIn_not checks
    exact ih innerChecks inside
  | and left right ihLeft ihRight =>
    obtain ⟨left', right', leftChecks, rightChecks, rfl⟩ := of_checkedIn_and checks
    rw [Expr.mem_names_and] at inside ⊢
    rcases inside with inLeft | inRight
    · exact (ihLeft leftChecks inLeft).imp_right .inl
    · exact (ihRight rightChecks inRight).imp_right .inr
  | or left right ihLeft ihRight =>
    obtain ⟨left', right', leftChecks, rightChecks, rfl⟩ := of_checkedIn_or checks
    rw [Expr.mem_names_or] at inside ⊢
    rcases inside with inLeft | inRight
    · exact (ihLeft leftChecks inLeft).imp_right .inl
    · exact (ihRight rightChecks inRight).imp_right .inr
  | quantified quantifier selector binding body ih =>
    obtain ⟨route, inner, routed, -, bodyChecks, rfl⟩ := of_checkedIn_quantified checks
    have known := mem_names_passThrough (binding.names ++ inner.names) (fun _ _ inside => by
      rw [List.mem_append]
      exact Expr.mem_names_quantified.mp inside) inside
    rw [take_first_of_route routed, List.mem_append] at known
    rw [Expr.mem_names_quantified]
    rcases known with same | head | bound | inBody
    · exact .inl same
    · exact .inr (.inl head)
    · exact .inr (.inr (.inl bound))
    · exact (ih bodyChecks inBody).imp_right fun known => .inr (.inr known)

/-- A quantifier that binds another name checks to one that binds it, and so does everything around
it. -/
theorem renames_checkedIn {e e' : Expr String} (renames : Expr.Renames x y e e')
    (other : x ≠ passedName) (otherNew : y ≠ passedName) {names : List (String × Option Field)}
    (lexical : e.Lexical schema x names) (unused : y ∉ e.bound)
    (unbound : (Scope.ofKnown names).lookup y = none) (free : schema.get? (.named y) = none) :
    Option.Rel (Expr.Renames x y)
      (checkedIn patterns limits (some schema) (.ofKnown names) e).result?
      (checkedIn patterns limits (some schema) (.ofKnown names) e').result? := by
  induction renames generalizing names with
  | @here quantifier selector binding body bound fresh unusedBody =>
    rw [result?_checkedIn_quantified, result?_checkedIn_quantified]
    cases routed : schema.route (.ofKnown names) selector with
    | error => exact .none
    | ok route =>
      simp only [toOption_ok, Option.bind_some]
      split
      next => exact .none
      next =>
        obtain ⟨unusedHeads, unusedBound⟩ := not_or.mp (mt List.mem_append.mpr unusedBody)
        have known := binding.names_known route.field
        have replaces := Scope.Replaces.renamed (known.symm ▸ bound) (known.symm ▸ fresh)
          unusedHeads unbound free
        rw [Binding.fields_eq, Binding.fields_eq, Binding.rename, Binding.known_map,
          ← Scope.ofKnown_append, ← Scope.ofKnown_append,
          result?_checkedIn_substitute other (lexical.2 route routed) replaces (.inr unusedBound)]
        cases checks : (checkedIn patterns limits (some schema)
            (.ofKnown (binding.known route.field ++ names)) body).result? with
        | none => exact .none
        | some checked =>
          have unusedChecked : y ∉ checked.names := by
            intro inside
            rcases mem_names_of_checkedIn (Traced.result?_eq_some.mp checks) inside with same | there
            · exact otherNew same
            · exact unusedBody there
          exact .some (renames_passThrough (fun s => .here _ s bound fresh unusedChecked) _ _ _)
  | not _ ih =>
    rw [result?_checkedIn_not, result?_checkedIn_not]
    exact rel_map (ih lexical unused unbound) fun _ _ => .not
  | andLeft right _ ih =>
    rw [result?_checkedIn_and, result?_checkedIn_and]
    refine rel_map₂ (ih lexical.1 (unused ∘ List.mem_append_left _) unbound) (rel_self _) ?_
    rintro left left' right _ renames rfl
    exact .andLeft right renames
  | andRight left _ ih =>
    rw [result?_checkedIn_and, result?_checkedIn_and]
    refine rel_map₂ (rel_self _) (ih lexical.2 (unused ∘ List.mem_append_right _) unbound) ?_
    rintro left _ right right' rfl renames
    exact .andRight left renames
  | orLeft right _ ih =>
    rw [result?_checkedIn_or, result?_checkedIn_or]
    refine rel_map₂ (ih lexical.1 (unused ∘ List.mem_append_left _) unbound) (rel_self _) ?_
    rintro left left' right _ renames rfl
    exact .orLeft right renames
  | orRight left _ ih =>
    rw [result?_checkedIn_or, result?_checkedIn_or]
    refine rel_map₂ (rel_self _) (ih lexical.2 (unused ∘ List.mem_append_right _) unbound) ?_
    rintro left _ right right' rfl renames
    exact .orRight left renames
  | inside quantifier selector binding _ ih =>
    obtain ⟨unusedHere, unusedBody⟩ := not_or.mp (mt List.mem_append.mpr unused)
    rw [result?_checkedIn_quantified, result?_checkedIn_quantified]
    cases routed : schema.route (.ofKnown names) selector with
    | error => exact .none
    | ok route =>
      simp only [toOption_ok, Option.bind_some]
      split
      next => exact .none
      next =>
        have unboundInside : (Scope.ofKnown (binding.known route.field ++ names)).lookup y = none := by
          rw [Scope.lookup_ofKnown_append_eq_none]
          refine ⟨Scope.lookup_ofKnown_eq_none ?_, unbound⟩
          rwa [Binding.names_known]
        rw [Binding.fields_eq, ← Scope.ofKnown_append]
        refine rel_map (ih (lexical.2 route routed) unusedBody unboundInside) fun _ _ renames => ?_
        exact renames_passThrough (fun s => .inside quantifier s binding renames) _ _ _

theorem isName_of_mem_names {binding : Binding} (wellFormed : binding.WellFormed) {name : String}
    (inside : name ∈ binding.names) : isName name = true := by
  cases binding with
  | each | index | value =>
    obtain rfl := List.mem_singleton.mp inside
    exact wellFormed
  | both i v =>
    rcases List.mem_cons.mp inside with rfl | second
    · exact wellFormed.1
    · obtain rfl := List.mem_singleton.mp second
      exact wellFormed.2.1

/-- What a text binds is not called like what the check binds. -/
theorem ne_passedName_of_renames {e e' : Expr String} (renames : Expr.Renames x y e e')
    (wellFormed : e.WellFormed) : x ≠ passedName := by
  induction renames with
  | here _ _ bound =>
    rintro rfl
    cases isName_of_mem_names wellFormed.2.2.1 bound
  | not _ ih => exact ih wellFormed.1
  | andLeft _ _ ih | orLeft _ _ ih => exact ih wellFormed.1
  | andRight _ _ ih | orRight _ _ ih => exact ih wellFormed.2
  | inside _ _ _ _ ih => exact ih wellFormed.2.2.2

/-- An expression checks if it checks outside any quantifier and does not have too many tests. -/
theorem result?_check (filled : schema ≠ []) (e : Expr String) :
    (check patterns limits (some schema) e).result? =
      (checkedIn patterns limits (some schema) [] e).result?.bind fun checked =>
        if 0 < limits.maxTests ∧ limits.maxTests < e.testCount then none
        else some (checked, e.testCount) := by
  rw [check_eq, filter_filled filled, Traced.result?_bind]
  refine bind_congr fun checked => ?_
  split <;> rfl

end

/-- An expression that a text writes may bind other names: in one that is lexical in a name, the name
may be replaced, where a quantifier binds it, by one that occurs nowhere and is no field at the top.
Both check, to expressions that differ by the name and have as many tests, or neither does. -/
theorem check_renamed {limit : Nat} {text : String} {e e' : Expr String}
    (read : Expr.read limit text = .ok e) {x y : String} (renames : Expr.Renames x y e e')
    (unused : y ∉ e.names) (other : y ≠ passedName) {schema : Schema} (filled : schema ≠ [])
    (free : schema.get? (.named y) = none) (lexical : e.Lexical schema x [])
    (patterns : PatternEngine) (limits : Limits) :
    Option.Rel (fun result result' => Expr.Renames x y result.1 result'.1 ∧ result.2 = result'.2)
      (check patterns limits (some schema) e).result?
      (check patterns limits (some schema) e').result? := by
  have otherOld := ne_passedName_of_renames renames (wellFormed_of_read read)
  have inner : Option.Rel (Expr.Renames x y)
      (checkedIn patterns limits (some schema) [] e).result?
      (checkedIn patterns limits (some schema) [] e').result? :=
    renames_checkedIn renames otherOld other lexical (unused ∘ List.mem_append_right _) rfl free
  rw [result?_check filled, result?_check filled, renames.testCount_eq]
  refine rel_bind inner fun checked checked' same => ?_
  split
  next => exact .none
  next => exact .some ⟨same, rfl⟩

/-- The level of an order: a list of items, of which a price and a list of tags are known. -/
def Schema.sampleTagged : Schema :=
  let item : Field :=
    { fields := [(.named "price", { literalType := some (.int .w64), operators := [.equal] }),
      (.named "tags", { collection := some .list, value := some { operators := [.equal] } })] }
  [(.named "items", { collection := some .list, value := some item, fields := item.fields })]

/-- An item is called what the list is called, and so are its tags. -/
def Expr.sampleShadowing : Expr String :=
  .quantified .any ⟨.words, ["items"]⟩ (.each "items")
    (.and (.test ⟨.words, ["items", "price"]⟩ .equal (some "3"))
      (.quantified .any ⟨.words, ["items", "tags"]⟩ (.each "items")
        (.test ⟨.words, ["items"]⟩ .equal (some "a"))))

/-- The item takes another name, and the tags keep theirs. -/
theorem check_renamed_shadowing :
    ∃ renamed checked, Expr.Renames "items" "item" Expr.sampleShadowing renamed ∧
      (check Pattern.engine {} (some .sampleTagged) Expr.sampleShadowing).result? =
        some (checked, 2) ∧
      Option.Rel (fun result result' => Expr.Renames "items" "item" result.1 result'.1 ∧
          result.2 = result'.2) (some (checked, 2))
        (check Pattern.engine {} (some .sampleTagged) renamed).result? := by
  have read : Expr.read 0 ("any items as items \x7b items.price == 3 and " ++
      "any items.tags as items \x7b items == a \x7d \x7d") = .ok Expr.sampleShadowing := by cbv
  have renames : Expr.Renames "items" "item" Expr.sampleShadowing _ :=
    .here .any ⟨.words, ["items"]⟩ (by decide) (by decide) (by decide)
  have lexical : Expr.sampleShadowing.Lexical .sampleTagged "items" [] := by
    -- something is known of whatever is called so
    have known {names : List (String × Option Field)} (selector : Selector)
        (known : (names.lookup "items").all Option.isSome = true) :
        selector.Lexical .sampleTagged "items" names := by
      intro _ unknown
      rw [unknown] at known
      cases known
    refine ⟨known _ rfl, ?_⟩
    rintro route ⟨⟩
    refine ⟨known _ rfl, known _ rfl, ?_⟩
    rintro route ⟨⟩
    exact known _ rfl
  obtain ⟨checked, checks⟩ : ∃ checked,
      (check Pattern.engine {} (some .sampleTagged) Expr.sampleShadowing).result? =
        some (checked, 2) := ⟨_, rfl⟩
  have filled : Schema.sampleTagged ≠ [] := by decide
  refine ⟨_, checked, renames, checks, ?_⟩
  rw [← checks]
  exact check_renamed read renames (by decide) (by decide) filled rfl lexical Pattern.engine {}

/-- Some element of a list of which nothing is known, under a name. -/
def Expr.sampleRest (name : String) : Expr String :=
  .quantified .any ⟨.words, ["rest"]⟩ (.each name)
    (.test ⟨.words, [name, "code"]⟩ .equal (some "1"))

/-- Nothing is known of the elements of a list of any data, so a name for them that is a field, too,
is checked as the field, while a name that is none is not known at all. -/
theorem bound_name_borrows_field :
    ∃ schema, Schema.ofShape Schema.defaultTag (.record "Log"
        [({ name := "e" }, .list (.record "Event" [({ name := "code" }, .int .w64)])),
          ({ name := "rest" }, .list .any)]) = .ok schema ∧
      schema ≠ [] ∧ schema.get? (.named "y") = none ∧
      Expr.read 0 "any rest as e \x7b e.code == 1 \x7d" = .ok (.sampleRest "e") ∧
      Expr.Renames "e" "y" (Expr.sampleRest "e") (.sampleRest "y") ∧
      "y" ∉ (Expr.sampleRest "e").names ∧
      (∃ checked, (check Pattern.engine {} (some schema) (.sampleRest "e")).outcome =
        .ok (checked, 1)) ∧
      (check Pattern.engine {} (some schema) (.sampleRest "y")).outcome =
        .error (.invalidSelector ⟨.words, ["y"]⟩) := by
  refine ⟨_, rfl, nofun, rfl, by cbv, ?_, by decide, ⟨_, rfl⟩, rfl⟩
  exact .here .any ⟨.words, ["rest"]⟩ (by decide) (by decide) (by decide)

end Sift
