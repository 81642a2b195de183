import Sift.Proofs.Evaluation.Arrivals

/-!
# What a hook is shown

A walk shows a hook what its segments find, and nothing else. `Shows` says so by the places on the path:
the walk stands at one datum after the other, the first of which is the one that it starts from, and what
it shows is what the next segment finds in the datum that it stands at; the hook's verdict on that is
where it stands then. How often the hook has been asked follows from where the walk has ended, and says
where (`Stops`).

An evaluation asks the hook in no other way. Its notes are those of the selectors that it resolves, one
behind the other (`consults_evaluate`), and a selector is resolved by a walk from the root or from what its
first segment is bound to, behind that segment (`notes_resolve`). So neither is shown because a selector
starts there.
-/

namespace Sift

/-- The datum that a walk goes on with behind one that the hook has judged. -/
def HookVerdict.onward? (found : Datum) : HookVerdict → Option Datum
  | keep => some found
  | replace other => some other
  | absent => none

theorem HookVerdict.eq_absent_of_onward? {found : Datum} {verdict : HookVerdict}
    (none : verdict.onward? found = none) : verdict = .absent := by
  cases verdict with
  | absent => rfl
  | keep | replace => cases none

namespace Datum

/-! ## Steps -/

section

variable {tag segment : String} {hook : Hook} {d found next : Datum} {part : Nat}

/-- No segment fails for the reason that only a hook can give. -/
theorem fault_ne_hookAbsent {fault : PathFault} (lost : d.part? tag segment = .error fault) :
    fault ≠ .hookAbsent := by
  rintro rfl
  cases d with
  | record name fields =>
    rcases field?_cases tag segment fields with ⟨_, _, -, same⟩ | same | same
    all_goals
      rw [part?, same] at lost
      cases lost
  | map | pairs =>
    simp only [part?] at lost
    split at lost <;> cases lost
  | list items =>
    simp only [part?] at lost
    split at lost
    · cases lost
    · split at lost <;> cases lost
  | _ => cases lost

/-- A segment that finds nothing ends the walk, and nothing is shown. -/
theorem follow_of_lost {hook : Option Hook} (other : d.kind ≠ .judge) {fault : PathFault}
    (lost : d.part? tag segment = .error fault) (rest : List String) :
    d.follow tag hook part (segment :: rest) = ⟨[], .error (part, fault)⟩ := by
  rw [follow_cons other, lost]
  rfl

/-- A datum that the hook declares absent has been shown, and the walk ends. -/
theorem follow_of_absent (other : d.kind ≠ .judge) (step : d.part? tag segment = .ok found)
    (absent : hook found = .absent) (rest : List String) :
    d.follow tag (some hook) part (segment :: rest) = ⟨[found], .error (part, .hookAbsent)⟩ := by
  have shown : Hook.show (some hook) found = ⟨[found], .error .hookAbsent⟩ := by
    simp only [Hook.show, absent]
  rw [follow_cons other, step]
  change (Hook.show (some hook) found).mapError (part, ·) >>= _ = _
  rw [shown]
  rfl

/-- What a segment finds is shown, and the walk goes on with what the hook makes of it. -/
theorem follow_of_onward (other : d.kind ≠ .judge) (step : d.part? tag segment = .ok found)
    (onward : (hook found).onward? found = some next) (rest : List String) :
    d.follow tag (some hook) part (segment :: rest) =
      ⟨found :: (next.follow tag (some hook) (part + 1) rest).notes,
        (next.follow tag (some hook) (part + 1) rest).outcome⟩ := by
  have shown : Hook.show (some hook) found = ⟨[found], .ok next⟩ := by
    cases verdict : hook found with
    | keep | replace other =>
      rw [verdict] at onward
      cases onward
      simp only [Hook.show, verdict]
    | absent =>
      rw [verdict] at onward
      cases onward
  rw [follow_cons other, step]
  change (Hook.show (some hook) found).mapError (part, ·) >>= _ = _
  rw [shown]
  rfl

end

/-! ## Walks -/

/-- The data that are shown on a walk along a path that stands at `stations`, one after the other, the
first one in front of the segment `start`. -/
structure Shows (tag : String) (hook : Hook) (path : List String) (start : Nat)
    (shown stations : List Datum) : Prop where
  /-- What is shown is what the next segment finds in the station. -/
  found : ∀ i next, shown[i]? = some next → ∃ here segment, stations[i]? = some here ∧
    here.kind ≠ .judge ∧ path[start + i]? = some segment ∧ here.part? tag segment = .ok next
  /-- The next station is what the hook makes of it. -/
  onward : ∀ i next, shown[i]? = some next → stations[i + 1]? = (hook next).onward? next

/-- Where a walk ends that has shown some data, so that the number of these says how far it went. -/
def Stops (tag : String) (hook : Hook) (path : List String) (start : Nat)
    (shown stations : List Datum) : Except PathError Reached → Prop
  | .ok (.datum last) =>
    start + shown.length = path.length ∧ stations[shown.length]? = some last ∧ last.kind ≠ .judge
  | .ok (.judge j rest) =>
    start + shown.length = rest ∧ rest ≤ path.length ∧ stations[shown.length]? = some (.judge j)
  | .error e =>
    -- Either a segment finds nothing, or the hook declares absent what it has been shown last.
    e.path = path ∧
      ((e.fault ≠ .hookAbsent ∧ start + shown.length = e.part ∧
        ∃ here segment, stations[shown.length]? = some here ∧ path[e.part]? = some segment ∧
          here.part? tag segment = .error e.fault) ∨
      (e.fault = .hookAbsent ∧ start + shown.length = e.part + 1 ∧
        ∃ last, shown.getLast? = some last ∧ hook last = .absent))

section

variable {tag segment : String} {hook : Hook} {path : List String} {start : Nat}
  {d found : Datum} {shown stations : List Datum} {outcome : Except PathError Reached}

theorem Shows.nil (stations : List Datum) : Shows tag hook path start [] stations where
  found _ _ none := nomatch none
  onward _ _ none := nomatch none

/-- A walk shows what its first segment finds, and then what the rest of it shows. -/
theorem Shows.cons (other : d.kind ≠ .judge) (here : path[start]? = some segment)
    (step : d.part? tag segment = .ok found) (onward : stations[0]? = (hook found).onward? found)
    (shows : Shows tag hook path (start + 1) shown stations) :
    Shows tag hook path start (found :: shown) (d :: stations) where
  found i next isShown := by
    cases i with
    | zero =>
      cases isShown
      exact ⟨d, segment, rfl, other, here, step⟩
    | succ i =>
      have behind := shows.found i next isShown
      rwa [Nat.add_assoc, Nat.add_comm 1 i] at behind
  onward i next isShown := by
    cases i with
    | zero =>
      cases isShown
      exact onward
    | succ i => exact shows.onward i next isShown

/-- There is a segment on the path for whatever is shown. -/
theorem Shows.length_le (shows : Shows tag hook path start shown stations) :
    shown.length ≤ path.length - start := by
  by_contra longer
  have more : path.length - start < shown.length := Nat.lt_of_not_le longer
  obtain ⟨-, segment, -, -, here, -⟩ := shows.found _ _ (List.getElem?_eq_getElem more)
  obtain ⟨inside, -⟩ := List.getElem?_eq_some_iff.mp here
  omega

theorem Stops.cons (stops : Stops tag hook path (start + 1) shown stations outcome) (d found : Datum) :
    Stops tag hook path start (found :: shown) (d :: stations) outcome := by
  have longer : start + (found :: shown).length = start + 1 + shown.length := by
    rw [List.length_cons]
    omega
  unfold Stops at stops ⊢
  rw [longer]
  split at stops
  · exact stops
  · exact stops
  · obtain ⟨same, lost | ⟨isAbsent, count, last, isLast, absent⟩⟩ := stops
    · exact ⟨same, .inl lost⟩
    · refine ⟨same, .inr ⟨isAbsent, count, last, ?_, absent⟩⟩
      rw [List.getLast?_cons, isLast]
      rfl

/-- Segment by segment, what is shown is what has been found. -/
theorem exists_shows_follow (within : start ≤ path.length) {segments : List String}
    (left : path.drop start = segments) (d : Datum) :
    ∃ stations, stations.head? = some d ∧
      Shows tag hook path start (d.follow tag (some hook) start segments).notes stations ∧
      Stops tag hook path start (d.follow tag (some hook) start segments).notes stations
        ((d.follow tag (some hook) start segments).outcome.mapError
          fun (part, fault) => ⟨path, part, fault⟩) := by
  induction segments generalizing d start with
  | nil =>
    obtain ⟨j, rfl⟩ | other := d.judge_or_other
    · exact ⟨[.judge j], rfl, .nil _, rfl, within, rfl⟩
    · rw [follow_nil other]
      have whole : start = path.length := Nat.le_antisymm within (List.drop_eq_nil_iff.mp left)
      exact ⟨[d], rfl, .nil _, whole, rfl, other⟩
  | cons segment rest ih =>
    obtain ⟨j, rfl⟩ | other := d.judge_or_other
    · exact ⟨[.judge j], rfl, .nil _, rfl, within, rfl⟩
    have here : path[start]? = some segment := by
      rw [← List.head?_drop, left, List.head?_cons]
    obtain ⟨inside, -⟩ := List.getElem?_eq_some_iff.mp here
    have leftBehind : path.drop (start + 1) = rest := by
      rw [← List.drop_drop, left]
      rfl
    cases step : d.part? tag segment with
    | error fault =>
      rw [follow_of_lost other step]
      exact ⟨[d], rfl, .nil _, rfl,
        .inl ⟨fault_ne_hookAbsent step, rfl, d, segment, rfl, here, step⟩⟩
    | ok found =>
      cases verdict : (hook found).onward? found with
      | none =>
        have absent : hook found = .absent := HookVerdict.eq_absent_of_onward? verdict
        rw [follow_of_absent other step absent]
        exact ⟨[d], rfl, .cons other here step verdict.symm (.nil []), rfl,
          .inr ⟨rfl, rfl, found, rfl, absent⟩⟩
      | some next =>
        rw [follow_of_onward other step verdict]
        obtain ⟨stations, starts, shows, stops⟩ := ih inside leftBehind next
        rw [List.head?_eq_getElem?] at starts
        exact ⟨d :: stations, rfl, shows.cons other here step (starts.trans verdict.symm),
          stops.cons d found⟩

variable (tag) (hook) in
/-- The same along a whole path, from any of its segments on. -/
theorem exists_shows_resolve (within : start ≤ path.length) (d : Datum) :
    ∃ stations, stations.head? = some d ∧
      Shows tag hook path start (d.resolve tag (some hook) path start).notes stations ∧
      Stops tag hook path start (d.resolve tag (some hook) path start).notes stations
        (d.resolve tag (some hook) path start).outcome := by
  unfold resolve
  rw [Nat.min_eq_left within]
  exact exists_shows_follow within rfl d

end

end Datum

/-! ## Evaluations -/

namespace Settings

variable {s : Settings}

/-- A selector shows what the walk along it does: a bound scalar with segments behind it is an error of
its own, but nothing would be found in it, either. -/
theorem notes_resolve (selector : Selector) (env : Env) :
    (s.resolve selector env).notes = ((env.base selector.path).1.resolve s.tag s.hook selector.path
      (env.base selector.path).2).notes := by
  rcases resolve_cases s selector env with same | ⟨_, _, segment, rest, goesOn, isScalar, same⟩
  · rw [same]
    rfl
  · have other : (env.base selector.path).1.kind ≠ .judge := by
      obtain ⟨j, isJudge⟩ | other := (env.base selector.path).1.judge_or_other
      · rw [isJudge] at isScalar
        cases isScalar
      · exact other
    rw [same, Datum.resolve, goesOn, Datum.follow_of_lost other (Datum.part?_scalar isScalar segment)]
    rfl

/-- When an expression is evaluated in an environment, a selector may be resolved in another one: in the
same, or behind frames for elements of what the quantifiers around it select. -/
inductive Asks (s : Settings) : CheckedExpr → Env → Selector → Env → Prop
  | test {selector : Selector} {operator : Operator} {literal : Option CheckedLiteral} {env : Env} :
    Asks s (.test selector operator literal) env selector env
  | not {operand : CheckedExpr} {env inner : Env} {selector : Selector} :
    Asks s operand env selector inner → Asks s (.not operand) env selector inner
  | andLeft {left right : CheckedExpr} {env inner : Env} {selector : Selector} :
    Asks s left env selector inner → Asks s (.and left right) env selector inner
  | andRight {left right : CheckedExpr} {env inner : Env} {selector : Selector} :
    Asks s right env selector inner → Asks s (.and left right) env selector inner
  | orLeft {left right : CheckedExpr} {env inner : Env} {selector : Selector} :
    Asks s left env selector inner → Asks s (.or left right) env selector inner
  | orRight {left right : CheckedExpr} {env inner : Env} {selector : Selector} :
    Asks s right env selector inner → Asks s (.or left right) env selector inner
  | collection {quantifier : Quantifier} {selector : Selector} {binding : Binding}
    {body : CheckedExpr} {env : Env} :
    Asks s (.quantified quantifier selector binding body) env selector env
  | body {quantifier : Quantifier} {collection selector : Selector} {binding : Binding}
    {body : CheckedExpr} {env inner : Env} {d : Datum} {frames : List Frame} {frame : Frame} :
    (s.target collection env).outcome = .ok (some (.datum d)) → binding.frames? d = some frames →
    frame ∈ frames → Asks s body (env.push frame) selector inner →
    Asks s (.quantified quantifier collection binding body) env selector inner

/-- An outcome shows a hook what some selectors show it, one behind the other. -/
def Consults {α : Type} (s : Settings) (asks : Selector → Env → Prop)
    (x : Traced Datum EvalError α) : Prop :=
  ∃ asked : List (Selector × Env), x.notes = asked.flatMap (fun a => (s.resolve a.1 a.2).notes) ∧
    ∀ a ∈ asked, asks a.1 a.2

namespace Consults

variable {α β : Type} {asks asks' : Selector → Env → Prop} {x : Traced Datum EvalError α}

theorem silent (none : x.notes = []) : s.Consults asks x := ⟨[], none, nofun⟩

theorem one {selector : Selector} {env : Env} (same : x.notes = (s.resolve selector env).notes)
    (here : asks selector env) : s.Consults asks x := by
  refine ⟨[(selector, env)], ?_, List.forall_mem_singleton.mpr here⟩
  rw [List.flatMap_singleton, same]

theorem mono (consults : s.Consults asks x)
    (more : ∀ selector env, asks selector env → asks' selector env) : s.Consults asks' x := by
  obtain ⟨asked, notes, each⟩ := consults
  exact ⟨asked, notes, fun a inside => more a.1 a.2 (each a inside)⟩

theorem bind {next : α → Traced Datum EvalError β} (first : s.Consults asks x)
    (second : ∀ a, x.outcome = .ok a → s.Consults asks (next a)) :
    s.Consults asks (x >>= next) := by
  obtain ⟨notes, outcome⟩ := x
  cases outcome with
  | error e => exact first
  | ok a =>
    obtain ⟨asked, notesFirst, eachFirst⟩ := first
    obtain ⟨askedBehind, notesBehind, eachBehind⟩ := second a rfl
    refine ⟨asked ++ askedBehind, ?_, List.forall_mem_append.mpr ⟨eachFirst, eachBehind⟩⟩
    rw [List.flatMap_append, ← notesFirst, ← notesBehind]
    rfl

theorem quantify {quantifier : Quantifier} {visit : Frame → Traced Datum EvalError Bool}
    {frames : List Frame} (visits : ∀ frame ∈ frames, s.Consults asks (visit frame)) :
    s.Consults asks (Settings.quantify quantifier visit frames) := by
  induction frames with
  | nil => exact silent rfl
  | cons frame rest ih =>
    obtain ⟨first, others⟩ := List.forall_mem_cons.mp visits
    refine first.bind fun answer _ => ?_
    split
    · exact ih others
    · exact silent rfl

end Consults

/-- The policy for absent data shows nothing. -/
theorem consults_target {asks : Selector → Env → Prop} {selector : Selector} {env : Env}
    (here : asks selector env) : s.Consults asks (s.target selector env) :=
  .one rfl here

/-- An evaluation shows what the selectors do that it resolves. -/
theorem consults_evaluate (e : CheckedExpr) (env : Env) :
    s.Consults (s.Asks e env) (s.evaluate e env) := by
  induction e generalizing env with
  | test selector operator literal =>
    refine (consults_target .test).bind fun found _ => ?_
    rcases found with - | (d | _) <;> exact .silent rfl
  | not operand ih =>
    exact ((ih env).mono fun _ _ => .not).bind fun _ _ => .silent rfl
  | and left right ihLeft ihRight =>
    refine ((ihLeft env).mono fun _ _ => .andLeft).bind fun answer _ => ?_
    cases answer with
    | true => exact (ihRight env).mono fun _ _ => .andRight
    | false => exact .silent rfl
  | or left right ihLeft ihRight =>
    refine ((ihLeft env).mono fun _ _ => .orLeft).bind fun answer _ => ?_
    cases answer with
    | true => exact .silent rfl
    | false => exact (ihRight env).mono fun _ _ => .orRight
  | quantified quantifier selector binding body ih =>
    refine (consults_target .collection).bind fun found targeted => ?_
    rcases found with - | (d | _)
    · exact .silent rfl
    · dsimp only
      cases visited : binding.frames? d with
      | none => exact .silent rfl
      | some frames =>
        refine .quantify fun frame inside => ?_
        exact (ih (env.push frame)).mono fun _ _ => .body targeted visited inside
    · exact .silent rfl

end Settings

/-- A hook sees what is found on a path, in order: a walk from any segment on shows it what each segment
finds in the datum that the hook has made of the find before, and nothing else, so it is asked once for
each segment that finds something. An evaluation asks it for nothing but the selectors that it resolves,
each by a walk from the root, or from what its first segment is bound to and behind that segment; so the
datum that a selector starts from is not shown. -/
theorem hook_sees_what_is_found (tag : String) (hook : Hook) :
    (∀ (path : List String) (start : Nat) (d : Datum), start ≤ path.length →
      ∃ stations, stations.head? = some d ∧
        Datum.Shows tag hook path start (d.resolve tag (some hook) path start).notes stations ∧
        Datum.Stops tag hook path start (d.resolve tag (some hook) path start).notes stations
          (d.resolve tag (some hook) path start).outcome) ∧
    ∀ (patterns : PatternEngine) (policy : AbsencePolicy) (e : CheckedExpr) (env : Env),
      let s : Settings := ⟨patterns, tag, some hook, policy⟩
      ∃ asked : List (Selector × Env),
        (s.evaluate e env).notes = asked.flatMap (fun a => (s.resolve a.1 a.2).notes) ∧
        ∀ selector inner, (selector, inner) ∈ asked → s.Asks e env selector inner ∧
          ∃ stations, stations.head? = some (inner.base selector.path).1 ∧
            Datum.Shows tag hook selector.path (inner.base selector.path).2
              (s.resolve selector inner).notes stations ∧
            (s.resolve selector inner).notes.length ≤
              selector.path.length - (inner.base selector.path).2 := by
  refine ⟨fun path start d within => Datum.exists_shows_resolve tag hook within d, ?_⟩
  intro patterns policy e env s
  obtain ⟨asked, notes, each⟩ := s.consults_evaluate e env
  refine ⟨asked, notes, fun selector inner inside => ⟨each _ inside, ?_⟩⟩
  rw [Settings.notes_resolve]
  obtain ⟨stations, starts, shows, -⟩ := Datum.exists_shows_resolve tag hook
    (inner.base_le selector.path) (inner.base selector.path).1
  exact ⟨stations, starts, shows, shows.length_le⟩

/-- A hook that empties what it is shown first: the null that is then found is shown as well, and declared
absent. -/
theorem hook_sees_what_is_found_replaced :
    let hook : Hook := fun found => match found with
      | .map _ => .replace (.map [("b", .null)])
      | .null => .absent
      | _ => .keep
    let d : Datum := .map [("a", .map [])]
    (1 ≤ ["x", "a", "b"].length ∧
      (d.resolve "json" (some hook) ["x", "a", "b"] 1).notes = [.map [], .null]) ∧
    ∃ stations, stations.head? = some d ∧
      Datum.Shows "json" hook ["x", "a", "b"] 1 [.map [], .null] stations ∧
      Datum.Stops "json" hook ["x", "a", "b"] 1 [.map [], .null] stations
        (.error ⟨["x", "a", "b"], 2, .hookAbsent⟩) := by
  intro hook d
  obtain ⟨walks, -⟩ := hook_sees_what_is_found "json" hook
  exact ⟨⟨by decide, rfl⟩, walks ["x", "a", "b"] 1 d (by decide)⟩

end Sift
