import Sift.Proofs.Evaluation.Result
import Sift.Proofs.Lookup

/-!
# Targets without a hook

With no hook and with absent data left to the operators, a selector comes down to a walk: from the
datum that its first segment is bound to, or from the root. `Env.find?` is what the walk finds, and
a target is that much (`result?_target`) as long as no judge stands on the path, since a judge ends
the walk early. The path is `Clear` of them if the walk finds anything else, and always in
`JudgeFree` data.
-/

namespace Sift

/-- The settings of a query with an engine for patterns, a tag and nothing else. -/
abbrev Settings.ofTag (patterns : PatternEngine) (tag : String) : Settings := { patterns, tag }

/-! ## Walks -/

namespace Datum

variable {tag : String}

/-- What the segments of a path lead to, one after the other. -/
def walk (tag : String) (d : Datum) (path : List String) : Except PathFault Datum :=
  path.foldlM (fun d segment => d.part? tag segment) d

/-- What is found at the end of a path: nothing where nothing is, null included. -/
def find? (tag : String) (d : Datum) (path : List String) : Option (Option Datum) :=
  match d.walk tag path with
  | .ok .null => some none
  | .ok found => some (some found)
  | .error fault => if fault.isNotFound then some none else none

@[simp] theorem walk_nil (d : Datum) : d.walk tag [] = .ok d := rfl

theorem walk_cons (d : Datum) (segment : String) (rest : List String) :
    d.walk tag (segment :: rest) = d.part? tag segment >>= fun found => found.walk tag rest :=
  List.foldlM_cons

theorem walk_append (d : Datum) (path more : List String) :
    d.walk tag (path ++ more) = d.walk tag path >>= fun found => found.walk tag more :=
  List.foldlM_append

/-- A scalar has no parts. -/
theorem part?_scalar {d : Datum} (isScalar : d.isScalar = true) (segment : String) :
    d.part? tag segment = .error (.invalidKind d.kind) := by
  cases d <;> first | rfl | cases isScalar

/-- A record has one of its fields to give, or it has none under the name, or it excludes it. -/
theorem field?_cases (tag segment : String) (fields : List (Member × Datum)) :
    (∃ member found, (member, found) ∈ fields ∧ field? tag segment fields = .ok found) ∨
      field? tag segment fields = .error (.fieldNotFound segment) ∨
      field? tag segment fields = .error (.fieldIgnored segment) := by
  induction fields with
  | nil => exact .inr (.inl rfl)
  | cons head rest ih =>
    obtain ⟨member, value⟩ := head
    have later : (∃ m found, (m, found) ∈ (member, value) :: rest ∧
        field? tag segment rest = .ok found) ∨
        field? tag segment rest = .error (.fieldNotFound segment) ∨
        field? tag segment rest = .error (.fieldIgnored segment) := by
      rcases ih with ⟨m, found, inside, same⟩ | other
      · exact .inl ⟨m, found, List.mem_cons_of_mem _ inside, same⟩
      · exact .inr other
    simp only [field?]
    split
    · exact later
    · split
      next same =>
        rw [← same]
        exact .inr (.inr rfl)
      next => exact later
    · split
      · exact .inl ⟨member, value, List.mem_cons_self, rfl⟩
      · exact later

/-- Only a judge fails with its own kind. -/
theorem fault_ne_judge {d : Datum} {segment : String} {fault : PathFault}
    (failed : d.part? tag segment = .error fault) (other : d.kind ≠ .judge) :
    fault ≠ .invalidKind .judge := by
  rintro rfl
  cases d with
  | judge j => exact other rfl
  | record name fields =>
    rcases field?_cases tag segment fields with ⟨_, _, -, same⟩ | same | same
    all_goals
      rw [part?, same] at failed
      cases failed
  | map | pairs =>
    simp only [part?] at failed
    split at failed <;> cases failed
  | list items =>
    simp only [part?] at failed
    split at failed
    · cases failed
    · split at failed <;> cases failed
  | _ => cases failed

/-- Resolving a path goes on from the part that its first segment leads to. -/
theorem outcome_follow_cons {d next : Datum} {segment : String}
    (step : d.part? tag segment = .ok next) (rest : List String) (part : Nat) :
    (d.follow tag none part (segment :: rest)).outcome =
      (next.follow tag none (part + 1) rest).outcome := by
  cases d with
  | judge j => cases step
  | _ =>
    simp only [follow, step, Hook.show, Traced.outcome_bind, Traced.outcome_mapError,
      Traced.outcome_ofExcept, Traced.outcome_pure, mapError_ok, ok_bind]

/-- A walk that ends at anything but a judge is what resolving the path does. -/
theorem outcome_follow_of_walk {d found : Datum} {path : List String} (part : Nat)
    (walked : d.walk tag path = .ok found) (other : found.kind ≠ .judge) :
    (d.follow tag none part path).outcome = .ok (.datum found) := by
  induction path generalizing d part with
  | nil =>
    cases walked
    cases found with
    | judge j => exact absurd rfl other
    | _ => rfl
  | cons segment rest ih =>
    rw [walk_cons] at walked
    obtain ⟨next, step, behind⟩ := bind_eq_ok.mp walked
    rw [outcome_follow_cons step]
    exact ih (part + 1) behind

/-- A walk that fails, but not at a judge, is what resolving the path does. -/
theorem outcome_follow_of_fault {d : Datum} {path : List String} {fault : PathFault} (part : Nat)
    (walked : d.walk tag path = .error fault) (other : fault ≠ .invalidKind .judge) :
    ∃ failed, (d.follow tag none part path).outcome = .error (failed, fault) := by
  induction path generalizing d part with
  | nil => cases walked
  | cons segment rest ih =>
    rw [walk_cons] at walked
    cases step : d.part? tag segment with
    | error fault' =>
      rw [step] at walked
      cases walked
      refine ⟨part, ?_⟩
      cases d with
      | judge j =>
        cases step
        exact absurd rfl other
      | _ =>
        simp only [follow, step, Traced.outcome_bind, Traced.outcome_mapError,
          Traced.outcome_ofExcept, mapError_error, error_bind]
    | ok next =>
      rw [step] at walked
      rw [outcome_follow_cons step]
      exact ih (part + 1) walked

/-! ## Data in data -/

/-- A datum is another one, or stands somewhere in it, where a path or an element leads; that is never to
a key. -/
inductive Inside (d : Datum) : Datum → Prop
  | whole : Inside d d
  | item {items : List Datum} {item : Datum} : item ∈ items → Inside d item →
    Inside d (.list items)
  | value {entries : List (String × Datum)} {entry : String × Datum} : entry ∈ entries →
    Inside d entry.2 → Inside d (.map entries)
  | pairValue {entries : List (Datum × Datum)} {entry : Datum × Datum} : entry ∈ entries →
    Inside d entry.2 → Inside d (.pairs entries)
  | field {name : String} {fields : List (Member × Datum)} {entry : Member × Datum} :
    entry ∈ fields → Inside d entry.2 → Inside d (.record name fields)

theorem Inside.trans {d e f : Datum} (inner : Inside d e) (outer : Inside e f) : Inside d f := by
  induction outer with
  | whole => exact inner
  | item here _ ih => exact .item here ih
  | value here _ ih => exact .value here ih
  | pairValue here _ ih => exact .pairValue here ih
  | field here _ ih => exact .field here ih

theorem inside_of_part? {d found : Datum} {segment : String}
    (step : d.part? tag segment = .ok found) : Inside found d := by
  cases d with
  | list items =>
    simp only [part?] at step
    split at step
    · cases step
    · split at step
      next here =>
        cases step
        exact .item (List.mem_of_getElem? here) .whole
      next => cases step
  | map entries =>
    simp only [part?] at step
    split at step
    next here =>
      cases step
      exact .value (mem_of_lookup here) .whole
    next => cases step
  | pairs entries =>
    simp only [part?] at step
    split at step
    next here =>
      cases step
      exact .pairValue (List.mem_of_find?_eq_some here) .whole
    next => cases step
  | record name fields =>
    rcases field?_cases tag segment fields with ⟨member, value, here, same⟩ | same | same
    · rw [part?, same] at step
      cases step
      exact .field here .whole
    · rw [part?, same] at step
      cases step
    · rw [part?, same] at step
      cases step
  | _ => cases step

/-! ## Data without judges -/

/-- There is no judge anywhere in a datum. -/
inductive JudgeFree : Datum → Prop
  | null : JudgeFree .null
  | scalar {d : Datum} : d.isScalar = true → JudgeFree d
  | list {items : List Datum} : (∀ d ∈ items, JudgeFree d) → JudgeFree (.list items)
  | map {entries : List (String × Datum)} : (∀ p ∈ entries, JudgeFree p.2) →
    JudgeFree (.map entries)
  | pairs {entries : List (Datum × Datum)} : (∀ p ∈ entries, JudgeFree p.1) →
    (∀ p ∈ entries, JudgeFree p.2) → JudgeFree (.pairs entries)
  | record {name : String} {fields : List (Member × Datum)} : (∀ p ∈ fields, JudgeFree p.2) →
    JudgeFree (.record name fields)

theorem JudgeFree.kind_ne {d : Datum} (free : d.JudgeFree) : d.kind ≠ .judge := by
  cases free with
  | scalar isScalar =>
    rintro judge
    cases d with
    | judge j => cases isScalar
    | _ => cases judge
  | _ => nofun

theorem JudgeFree.of_inside {d e : Datum} (free : d.JudgeFree) (inside : Inside e d) :
    e.JudgeFree := by
  induction inside with
  | whole => exact free
  | item here _ ih =>
    cases free with
    | scalar isScalar => cases isScalar
    | list items => exact ih (items _ here)
  | value here _ ih =>
    cases free with
    | scalar isScalar => cases isScalar
    | map values => exact ih (values _ here)
  | pairValue here _ ih =>
    cases free with
    | scalar isScalar => cases isScalar
    | pairs _ values => exact ih (values _ here)
  | field here _ ih =>
    cases free with
    | scalar isScalar => cases isScalar
    | record values => exact ih (values _ here)

theorem JudgeFree.part {d found : Datum} {segment : String} (free : d.JudgeFree)
    (step : d.part? tag segment = .ok found) : found.JudgeFree :=
  free.of_inside (inside_of_part? step)

theorem JudgeFree.walk {d found : Datum} {path : List String} (free : d.JudgeFree)
    (walked : d.walk tag path = .ok found) : found.JudgeFree := by
  induction path generalizing d with
  | nil =>
    cases walked
    exact free
  | cons segment rest ih =>
    rw [walk_cons] at walked
    cases step : d.part? tag segment with
    | error fault => rw [step] at walked; cases walked
    | ok next =>
      rw [step] at walked
      exact ih (free.part step) walked

theorem JudgeFree.fault_ne {d : Datum} {path : List String} {fault : PathFault}
    (free : d.JudgeFree) (walked : d.walk tag path = .error fault) :
    fault ≠ .invalidKind .judge := by
  induction path generalizing d with
  | nil => cases walked
  | cons segment rest ih =>
    rw [walk_cons] at walked
    cases step : d.part? tag segment with
    | error fault' =>
      rw [step] at walked
      cases walked
      exact fault_ne_judge step free.kind_ne
    | ok next =>
      rw [step] at walked
      exact ih (free.part step) walked

/-- What is found was walked to. -/
theorem walk_of_find? {d found : Datum} {path : List String}
    (here : d.find? tag path = some (some found)) : d.walk tag path = .ok found := by
  unfold find? at here
  split at here
  · cases here
  · cases here
    assumption
  · split at here <;> cases here

/-- Null is not found. -/
theorem ne_null_of_find? {d found : Datum} {path : List String}
    (here : d.find? tag path = some (some found)) : found ≠ .null := by
  rintro rfl
  unfold find? at here
  split at here
  · cases here
  next notNull _ =>
    cases here
    exact notNull rfl
  · split at here <;> cases here

/-- Nothing is found behind nothing, and every other walk goes on from what has been found. -/
theorem find?_append (d : Datum) (path more : List String) :
    d.find? tag (path ++ more) = d.find? tag path >>= fun found => match found with
      | none => some none
      | some next => next.find? tag more := by
  unfold find?
  rw [walk_append]
  cases walked : d.walk tag path with
  | error fault =>
    simp only [error_bind]
    cases fault.isNotFound <;> rfl
  | ok next =>
    rw [ok_bind]
    cases next with
    | null => cases more <;> rfl
    | _ => rfl

/-- No judge stands on a path. -/
structure Clear (tag : String) (d : Datum) (path : List String) : Prop where
  found {next : Datum} : d.walk tag path = .ok next → next.kind ≠ .judge
  fault {fault : PathFault} : d.walk tag path = .error fault → fault ≠ .invalidKind .judge

/-- A walk that ends at something else has met no judge. -/
theorem clear_of_walk {d next : Datum} {path : List String} (walked : d.walk tag path = .ok next)
    (other : next.kind ≠ .judge) : d.Clear tag path := by
  constructor
  · intro next' walked'
    cases walked.symm.trans walked'
    exact other
  · intro fault failed
    cases walked.symm.trans failed

/-- A walk that fails with something else has met no judge. -/
theorem clear_of_fault {d : Datum} {path : List String} {fault : PathFault}
    (failed : d.walk tag path = .error fault) (other : fault ≠ .invalidKind .judge) :
    d.Clear tag path := by
  constructor
  · intro next walked
    cases failed.symm.trans walked
  · intro fault' failed'
    cases failed.symm.trans failed'
    exact other

theorem JudgeFree.clear {d : Datum} (free : d.JudgeFree) (path : List String) : d.Clear tag path :=
  ⟨fun walked => (free.walk walked).kind_ne, free.fault_ne⟩

/-- A walk that finds something else, or nothing, has not been ended by a judge. -/
theorem clear_of_find? {d : Datum} {path : List String} {found : Option Datum}
    (here : d.find? tag path = some found) (other : ∀ next ∈ found, next.kind ≠ .judge) :
    d.Clear tag path := by
  unfold find? at here
  split at here
  next walked => exact clear_of_walk walked JudgeFree.null.kind_ne
  next next _ walked =>
    cases here
    exact clear_of_walk walked (other next rfl)
  next fault failed =>
    refine clear_of_fault failed ?_
    rintro rfl
    cases here

/-- A path stays clear behind what it leads to. -/
theorem Clear.append {d : Datum} {path more : List String} (clear : d.Clear tag path)
    (behind : ∀ next, d.find? tag path = some (some next) → next.Clear tag more) :
    d.Clear tag (path ++ more) := by
  cases walked : d.walk tag path with
  | error fault =>
    have same : d.walk tag (path ++ more) = .error fault := by
      rw [walk_append, walked, error_bind]
    exact clear_of_fault same (clear.fault walked)
  | ok next =>
    have same : d.walk tag (path ++ more) = next.walk tag more := by
      rw [walk_append, walked, ok_bind]
    have clearBehind : next.Clear tag more := by
      by_cases there : next = .null
      · subst there
        exact JudgeFree.null.clear more
      · refine behind next ?_
        unfold find?
        rw [walked]
        cases next with
        | null => exact absurd rfl there
        | _ => rfl
    constructor
    · intro last walked
      exact clearBehind.found (same.symm.trans walked)
    · intro fault failed
      exact clearBehind.fault (same.symm.trans failed)

end Datum

/-! ## Environments -/

namespace Env

variable {tag : String} {env : Env}

/-- The datum that a path starts at, and the number of the first segment to be walked. -/
def base (env : Env) : List String → Datum × Nat
  | [] => (env.root, 0)
  | first :: _ =>
    match env.lookup first with
    | none => (env.root, 0)
    | some bound => (bound, 1)

/-- What a path leads to in an environment. -/
def find? (tag : String) (env : Env) (path : List String) : Option (Option Datum) :=
  (env.base path).1.find? tag (path.drop (env.base path).2)

/-- No judge stands on a path in an environment. -/
def Clear (tag : String) (env : Env) (path : List String) : Prop :=
  (env.base path).1.Clear tag (path.drop (env.base path).2)

/-- There is no judge in an environment. -/
structure JudgeFree (env : Env) : Prop where
  root : env.root.JudgeFree
  bound : ∀ p ∈ env.frames.flatten, p.2.JudgeFree

/-- A path without bound names in it is walked from the root. -/
theorem find?_root (root : Datum) (path : List String) :
    (⟨root, []⟩ : Env).find? tag path = root.find? tag path := by
  cases path <;> rfl

theorem base_bound {first : String} {bound : Datum} (binds : env.lookup first = some bound)
    (rest : List String) : env.base (first :: rest) = (bound, 1) := by
  simp only [base, binds]

theorem base_unbound {first : String} (free : env.lookup first = none) (rest : List String) :
    env.base (first :: rest) = (env.root, 0) := by
  simp only [base, free]

theorem find?_bound {first : String} {bound : Datum} (binds : env.lookup first = some bound)
    (rest : List String) : env.find? tag (first :: rest) = bound.find? tag rest := by
  rw [find?, base_bound binds, List.drop_one, List.tail_cons]

theorem find?_unbound {first : String} (free : env.lookup first = none) (rest : List String) :
    env.find? tag (first :: rest) = env.root.find? tag (first :: rest) := by
  rw [find?, base_unbound free, List.drop_zero]

theorem lookup_push_self (name : String) (d : Datum) :
    (env.push [(name, d)]).lookup name = some d := by
  simp [lookup, push]

theorem find?_append {path : List String} (filled : path ≠ []) (more : List String) :
    env.find? tag (path ++ more) = env.find? tag path >>= fun found => match found with
      | none => some none
      | some next => next.find? tag more := by
  obtain ⟨first, rest, rfl⟩ := List.exists_cons_of_ne_nil filled
  rw [List.cons_append]
  cases binds : env.lookup first with
  | none =>
    rw [find?_unbound binds, find?_unbound binds]
    exact Datum.find?_append env.root (first :: rest) more
  | some bound =>
    rw [find?_bound binds, find?_bound binds]
    exact Datum.find?_append bound rest more

/-- A path starts at the root or at what a name is bound to. -/
theorem base_cases (env : Env) (path : List String) :
    (env.base path).1 = env.root ∨ ∃ entry ∈ env.frames.flatten, (env.base path).1 = entry.2 := by
  cases path with
  | nil => exact .inl rfl
  | cons first rest =>
    cases binds : env.lookup first with
    | none => exact .inl (congrArg Prod.fst (base_unbound binds rest))
    | some bound =>
      exact .inr ⟨(first, bound), mem_of_lookup binds, congrArg Prod.fst (base_bound binds rest)⟩

/-- A path starts at a segment of its own, or behind the last one. -/
theorem base_le (env : Env) (path : List String) : (env.base path).2 ≤ path.length := by
  cases path with
  | nil => exact Nat.le_refl 0
  | cons first rest =>
    cases binds : env.lookup first with
    | none =>
      rw [base_unbound binds]
      exact Nat.zero_le _
    | some bound =>
      rw [base_bound binds]
      exact Nat.succ_le_succ (Nat.zero_le _)

theorem JudgeFree.base (free : env.JudgeFree) (path : List String) :
    (env.base path).1.JudgeFree := by
  rcases env.base_cases path with same | ⟨entry, inside, same⟩
  · rw [same]
    exact free.root
  · rw [same]
    exact free.bound entry inside

theorem JudgeFree.clear (free : env.JudgeFree) (path : List String) : env.Clear tag path :=
  (free.base path).clear _

theorem clear_of_find? {path : List String} {found : Option Datum}
    (here : env.find? tag path = some found) (other : ∀ next ∈ found, next.kind ≠ .judge) :
    env.Clear tag path :=
  Datum.clear_of_find? here other

theorem Clear.append {path more : List String} (clear : env.Clear tag path) (filled : path ≠ [])
    (behind : ∀ next, env.find? tag path = some (some next) → next.Clear tag more) :
    env.Clear tag (path ++ more) := by
  obtain ⟨first, rest, rfl⟩ := List.exists_cons_of_ne_nil filled
  rw [List.cons_append]
  unfold Clear find? at *
  cases binds : env.lookup first with
  | none =>
    rw [base_unbound binds] at clear behind ⊢
    exact Datum.Clear.append clear behind
  | some bound =>
    rw [base_bound binds] at clear behind ⊢
    exact Datum.Clear.append clear behind

theorem JudgeFree.push (free : env.JudgeFree) {frame : Frame} (added : ∀ p ∈ frame, p.2.JudgeFree) :
    (env.push frame).JudgeFree := by
  refine ⟨free.root, ?_⟩
  intro p inside
  rcases List.mem_append.mp inside with new | old
  · exact added p new
  · exact free.bound p old

end Env

/-! ## Targets -/

namespace Settings

variable {patterns : PatternEngine} {tag : String} {env : Env} {selector : Selector}

/-- A selector is resolved from the datum that its path starts at, unless it goes on behind a bound
scalar. -/
theorem resolve_cases (s : Settings) (selector : Selector) (env : Env) :
    s.resolve selector env =
      ((env.base selector.path).1.resolve s.tag s.hook selector.path
        (env.base selector.path).2).mapError .unresolved ∨
    ∃ name kind segment rest, selector.path.drop (env.base selector.path).2 = segment :: rest ∧
      (env.base selector.path).1.isScalar = true ∧
      s.resolve selector env = .fail (.boundScalar name kind selector.path) := by
  unfold resolve
  obtain ⟨form, path⟩ := selector
  cases path with
  | nil => exact .inl rfl
  | cons first rest =>
    cases binds : env.lookup first with
    | none =>
      rw [Env.base_unbound binds]
      refine .inl ?_
      simp only [binds]
    | some bound =>
      rw [Env.base_bound binds]
      simp only [binds]
      split
      next blocked =>
        obtain ⟨segment, others, rfl⟩ := List.exists_cons_of_ne_nil blocked.1
        exact .inr ⟨first, bound.kind, segment, others, rfl, blocked.2, rfl⟩
      next => exact .inl rfl

theorem outcome_resolve_of_walk {found : Datum}
    (walked : (env.base selector.path).1.walk tag (selector.path.drop (env.base selector.path).2) =
      .ok found) (other : found.kind ≠ .judge) :
    ((ofTag patterns tag).resolve selector env).outcome = .ok (.datum found) := by
  rcases resolve_cases (ofTag patterns tag) selector env with
    same | ⟨name, kind, segment, rest, goesOn, isScalar, -⟩
  · rw [same]
    simp only [Datum.resolve, Traced.outcome_mapError,
      Datum.outcome_follow_of_walk _ walked other, mapError_ok]
  · rw [goesOn, Datum.walk_cons, Datum.part?_scalar isScalar] at walked
    cases walked

/-- A failed walk fails with its fault, or because it went on behind a bound scalar. -/
theorem outcome_resolve_of_fault {fault : PathFault}
    (walked : (env.base selector.path).1.walk tag (selector.path.drop (env.base selector.path).2) =
      .error fault) (other : fault ≠ .invalidKind .judge) :
    (∃ part, ((ofTag patterns tag).resolve selector env).outcome =
      .error (.unresolved ⟨selector.path, part, fault⟩)) ∨
    (fault.isNotFound = false ∧ ∃ name kind,
      ((ofTag patterns tag).resolve selector env).outcome =
        .error (.boundScalar name kind selector.path)) := by
  rcases resolve_cases (ofTag patterns tag) selector env with
    same | ⟨name, kind, segment, rest, goesOn, isScalar, same⟩
  · obtain ⟨part, failed⟩ := Datum.outcome_follow_of_fault
      (min (env.base selector.path).2 selector.path.length) walked other
    refine .inl ⟨part, ?_⟩
    rw [same]
    simp only [Datum.resolve, Traced.outcome_mapError, failed, mapError_error]
  · rw [goesOn, Datum.walk_cons, Datum.part?_scalar isScalar] at walked
    cases walked
    exact .inr ⟨rfl, name, kind, by rw [same]; rfl⟩

/-- On a clear path, a target is what the walk finds. -/
theorem result?_target (clear : env.Clear tag selector.path) :
    ((ofTag patterns tag).target selector env).result? =
      (env.find? tag selector.path).map fun found => found.map .datum := by
  unfold Traced.result? target Env.find? Datum.find?
  dsimp only
  cases walked : (env.base selector.path).1.walk tag
      (selector.path.drop (env.base selector.path).2) with
  | ok found =>
    rw [outcome_resolve_of_walk walked (clear.found walked)]
    cases found <;> rfl
  | error fault =>
    rcases outcome_resolve_of_fault walked (clear.fault walked) with
      ⟨part, failed⟩ | ⟨present, name, kind, failed⟩
    · rw [failed]
      dsimp only
      cases fault.isNotFound <;> rfl
    · rw [failed]
      dsimp only
      rw [present]
      rfl

/-! ## Tests and quantifiers at what is found -/

/-- The answer of a test at what its selector leads to. -/
def verdict? (patterns : PatternEngine) (t : Test) : Option Datum → Option Bool
  | none => some t.operator.ifAbsent
  | some d => (t.run patterns d).toOption

theorem answer?_test (clear : env.Clear tag selector.path) (operator : Operator)
    (literal : Option CheckedLiteral) :
    (ofTag patterns tag).answer? (.test selector operator literal) env =
      env.find? tag selector.path >>= verdict? patterns ⟨selector, operator, literal⟩ := by
  simp only [answer?, evaluate, test, Traced.result?_bind, result?_target clear]
  cases env.find? tag selector.path with
  | none => rfl
  | some found => cases found <;> rfl

/-- The answer of a quantifier over the elements of what its selector leads to. -/
def quantified? (quantifier : Quantifier) (binding : Binding) (visit : Frame → Option Bool) :
    Option Datum → Option Bool
  | none => some quantifier.ifNone
  | some d => binding.frames? d >>= quantify? quantifier visit

theorem answer?_quantified_of_clear (clear : env.Clear tag selector.path) (quantifier : Quantifier)
    (binding : Binding) (body : CheckedExpr) :
    (ofTag patterns tag).answer? (.quantified quantifier selector binding body) env =
      env.find? tag selector.path >>= quantified? quantifier binding
        fun frame => (ofTag patterns tag).answer? body (env.push frame) := by
  rw [answer?_quantified, result?_target clear]
  cases env.find? tag selector.path with
  | none => rfl
  | some found => cases found <;> rfl

end Settings

end Sift
