import Sift.Proofs.Grammar.Forward

/-!
# Reading and places

A reader looks at tokens and never at where they stand; only when it fails it hands on the start of
the current one. So the reader is blind to places: if all tokens are moved, by whatever function on
positions, the outcome is the same, and the place of an error is moved along (`blind_whole`). Two
choices of that function give the two things that follow. A function that forgets all places shows
that the tokens alone decide what is read or what is wrong (`Expr.read_eq_of_tokens`), and one
that moves every place but the starts of the tokens shows that an error lies at one of them
(`Expr.position_of_read_error`).
-/

namespace Sift

/-! ## Moving tokens -/

section

variable (f g : Position → Position)

/-- The same token with another start and another end. -/
def SpannedToken.moved (t : SpannedToken) : SpannedToken := ⟨t.token, f t.start, g t.finish⟩

/-- The same error at another place. -/
def ReadError.moved : ReadError → ReadError
  | malformed fault => malformed ⟨f fault.position, fault.fault⟩
  | unexpected position expected => unexpected (f position) expected

theorem ReadError.position_moved (e : ReadError) : (e.moved f).position = f e.position := by
  cases e <;> rfl

namespace Reader

/-- All tokens that are left at other places. -/
def State.moved (s : State) : State := ⟨s.current.moved f g, s.rest.map (·.moved f g), s.counted⟩

/-- What comes of a reader, with the tokens at other places. -/
def movedResult {α : Type} :
    EStateM.Result ReadError State α → EStateM.Result ReadError State α
  | .ok a s => .ok a (s.moved f g)
  | .error e s => .error (e.moved f) (s.moved f g)

end Reader

end

namespace Reader

/-- Wherever the tokens stand, a reader does the same with them. -/
def Blind {α : Type} (r : Reader α) : Prop :=
  ∀ (f g : Position → Position) (s : State), r.run (s.moved f g) = movedResult f g (r.run s)

/-! ## Steps -/

namespace Blind

variable {α β : Type}

theorem pure (a : α) : Blind (Pure.pure a) := fun _ _ _ => rfl

theorem unexpected (expected : Expected) : Blind (Reader.unexpected expected : Reader α) :=
  fun _ _ _ => rfl

theorem malformed (fault : Fault) : Blind (Reader.malformed fault : Reader α) := fun _ _ _ => rfl

theorem bind {r : Reader α} {h : α → Reader β} (first : Blind r) (second : ∀ a, Blind (h a)) :
    Blind (r >>= h) := by
  intro f g s
  simp only [EStateM.run_bind, first f g s]
  cases r.run s with
  | ok a s' => exact second a f g s'
  | error e s' => rfl

/-- Looking at the current token. -/
theorem token {h : Token → Reader β} (each : ∀ t, Blind (h t)) : Blind (Reader.token >>= h) :=
  bind (fun _ _ _ => rfl) each

theorem advance : Blind Reader.advance := by
  rintro f g ⟨current, rest, counted⟩
  cases rest <;> rfl

/-- Going on to the next token. -/
theorem step {h : Unit → Reader β} (behind : Blind (h ())) : Blind (Reader.advance >>= h) :=
  advance.bind fun _ => behind

theorem atWord {w : String} {h : Bool → Reader β} (each : ∀ b, Blind (h b)) :
    Blind (Reader.atWord w >>= h) :=
  bind (token fun _ => pure _) each

theorem expect (t : Token) (expected : Expected) : Blind (Reader.expect t expected) := by
  refine token fun _ => ?_
  split
  · exact advance
  · exact unexpected expected

/-- A step that counts and leaves the tokens alone. -/
theorem counted {count : Nat → Nat} {h : Unit → Reader β} (behind : Blind (h ())) :
    Blind ((modify fun s => { s with counted := count s.counted }) >>= h) :=
  bind (fun _ _ _ => rfl) fun _ => behind

/-- Going on from the state without a look at the places. -/
theorem state {h : State → Reader β} (same : ∀ f g s, h (s.moved f g) = h s)
    (each : ∀ s, Blind (h s)) : Blind (get >>= h) := by
  intro f g s
  have ran : (h (s.moved f g)).run (s.moved f g) = movedResult f g ((h s).run s) := by
    rw [same]
    exact each s f g s
  exact ran

theorem quantifier? : Blind Reader.quantifier? := by
  intro f g s
  have behind : (s.moved f g).rest.map (·.token) = s.rest.map (·.token) := List.map_map
  rw [run_quantifier?, run_quantifier?, behind]
  rfl

end Blind

/-! ## Parts of a test -/

theorem blind_pathRest (steps : Nat) (path : List String) : Blind (pathRest steps path) := by
  induction steps generalizing path with
  | zero => exact .unexpected _
  | succ steps ih =>
    have closed (key : String) : Blind (do
        if (← token) = .closeBracket then
          advance
          pathRest steps (path ++ [key])
        else Reader.malformed .unclosedIndex) := by
      refine .token fun _ => ?_
      split
      · exact .step (ih _)
      · exact .malformed _
    refine .token fun _ => ?_
    split
    · refine .step (.token fun _ => ?_)
      split
      · exact .step (ih _)
      · exact .unexpected _
    · refine .step (.token fun _ => ?_)
      split
      · exact .step (closed _)
      · exact .step (closed _)
      · exact .malformed _
    · exact .pure _

theorem blind_operand (steps : Nat) : Blind (operand steps) := by
  refine .token fun _ => ?_
  split
  · exact .step ((blind_pathRest steps _).bind fun _ => .pure _)
  · exact .step (.pure _)
  · exact .step (.pure _)
  · exact .step (.pure _)
  · exact .unexpected _

theorem blind_literal (steps : Nat) : Blind (literal steps) := by
  refine .token fun _ => ?_
  split
  · exact .step ((blind_pathRest steps _).bind fun _ => .pure _)
  · exact .step (.pure _)
  · exact .step (.pure _)
  · exact .step (.pure _)
  · exact .unexpected _

theorem blind_selector (steps : Nat) : Blind (selector steps) := by
  refine .token fun _ => ?_
  split
  · exact .step ((blind_pathRest steps _).bind fun _ => .pure _)
  · split
    · exact .step (.pure _)
    · exact .malformed _
  · exact .malformed _

theorem blind_selectorFirst (steps : Nat) (op : Operand) (operator : Operator) :
    Blind (selectorFirst steps op operator) := by
  unfold selectorFirst
  split
  · exact .unexpected _
  · exact .step ((blind_literal steps).bind fun _ => .pure _)

theorem blind_literalFirst (steps : Nat) (op : Operand) (operator : Operator) :
    Blind (literalFirst steps op operator) :=
  .step ((blind_selector steps).bind fun _ => .pure _)

theorem blind_emptiness (op : Operand) : Blind (emptiness op) := by
  unfold emptiness
  split
  · exact .unexpected _
  · refine .step (.atWord fun negated => ?_)
    cases negated with
    | true => exact .step ((Blind.expect _ _).bind fun _ => .pure _)
    | false => exact (Blind.expect _ _).bind fun _ => .pure _

theorem blind_negatedTest (steps : Nat) (op : Operand) : Blind (negatedTest steps op) := by
  refine .step (.token fun _ => ?_)
  split
  · exact blind_literalFirst steps op _
  · exact blind_selectorFirst steps op _
  · exact blind_selectorFirst steps op _
  · exact .unexpected _

theorem blind_test (limit steps : Nat) : Blind (test limit steps) := by
  refine .counted (.state (fun _ _ _ => rfl) fun s => ?_)
  dsimp only
  split
  · exact fun _ _ _ => rfl
  · refine (blind_operand steps).bind fun op => .token fun _ => ?_
    split
    case h_7 => exact blind_literalFirst steps op _
    case h_10 => exact blind_emptiness op
    case h_11 => exact blind_negatedTest steps op
    case h_12 => exact .unexpected _
    all_goals exact blind_selectorFirst steps op _

theorem blind_binding : Blind binding := by
  refine .token fun _ => ?_
  split
  · refine .step (.token fun _ => ?_)
    split
    · refine .step (.token fun _ => ?_)
      split
      · exact .step (.pure _)
      · split
        · exact .malformed _
        · exact .step (.pure _)
      · exact .unexpected _
    · exact .pure _
  · refine .step ((Blind.expect _ _).bind fun _ => .token fun _ => ?_)
    split
    · exact .step (.pure _)
    · exact .unexpected _
  · exact .unexpected _

/-! ## Expressions -/

/-- With a number of steps, all parts of an expression are read blindly. -/
structure BlindOn (limit steps : Nat) : Prop where
  disjunction : Blind (disjunction limit steps)
  disjunctionRest (left : Expr String) : Blind (disjunctionRest limit steps left)
  conjunction : Blind (conjunction limit steps)
  conjunctionRest (left : Expr String) : Blind (conjunctionRest limit steps left)
  negation : Blind (negation limit steps)
  quantified (quantifier : Quantifier) : Blind (quantified limit steps quantifier)
  primary : Blind (primary limit steps)

namespace BlindOn

variable {limit steps : Nat}

theorem disjunctionRest_succ (ih : BlindOn limit steps) (left : Expr String) :
    Blind (Reader.disjunctionRest limit (steps + 1) left) := by
  rw [Reader.disjunctionRest]
  refine .atWord fun isOr => ?_
  cases isOr with
  | true => exact .step (ih.conjunction.bind fun _ => ih.disjunctionRest _)
  | false => exact .pure left

theorem conjunctionRest_succ (ih : BlindOn limit steps) (left : Expr String) :
    Blind (Reader.conjunctionRest limit (steps + 1) left) := by
  rw [Reader.conjunctionRest]
  refine .atWord fun isAnd => ?_
  cases isAnd with
  | true => exact .step (ih.negation.bind fun _ => ih.conjunctionRest _)
  | false => exact .pure left

theorem negation_succ (ih : BlindOn limit steps) : Blind (Reader.negation limit (steps + 1)) := by
  rw [Reader.negation]
  refine .atWord fun isNot => ?_
  cases isNot with
  | true =>
    refine .step (.token fun t => ?_)
    split
    · exact ih.negation.bind fun _ => .pure _
    · exact .unexpected _
  | false =>
    refine Blind.quantifier?.bind fun found => ?_
    cases found with
    | some quantifier => exact ih.quantified quantifier
    | none => exact ih.primary

theorem quantified_succ (ih : BlindOn limit steps) (quantifier : Quantifier) :
    Blind (Reader.quantified limit (steps + 1) quantifier) := by
  rw [Reader.quantified]
  refine .step ((blind_selector steps).bind fun s => (Blind.expect _ _).bind fun _ => ?_)
  refine blind_binding.bind fun b => (Blind.expect _ _).bind fun _ => ?_
  refine ih.disjunction.bind fun body => .token fun t => ?_
  split
  · exact .step (.pure _)
  · exact .malformed _
  · exact .unexpected _

theorem primary_succ (ih : BlindOn limit steps) : Blind (Reader.primary limit (steps + 1)) := by
  rw [Reader.primary]
  refine .token fun t => ?_
  split
  · refine .step (ih.disjunction.bind fun inner => .token fun t => ?_)
    split
    · exact .step (.pure _)
    · exact .malformed _
    · exact .unexpected _
  · exact blind_test limit steps

end BlindOn

theorem blindOn (limit steps : Nat) : BlindOn limit steps := by
  induction steps with
  | zero =>
    exact {
      disjunction := .unexpected _
      disjunctionRest := fun _ => .unexpected _
      conjunction := .unexpected _
      conjunctionRest := fun _ => .unexpected _
      negation := .unexpected _
      quantified := fun _ => .unexpected _
      primary := .unexpected _ }
  | succ steps ih =>
    exact {
      disjunction := by
        rw [Reader.disjunction]
        exact ih.conjunction.bind ih.disjunctionRest
      disjunctionRest := ih.disjunctionRest_succ
      conjunction := by
        rw [Reader.conjunction]
        exact ih.negation.bind ih.conjunctionRest
      conjunctionRest := ih.conjunctionRest_succ
      negation := ih.negation_succ
      quantified := ih.quantified_succ
      primary := ih.primary_succ }

theorem blind_whole (limit steps : Nat) : Blind (whole limit steps) := by
  refine (blindOn limit steps).disjunction.bind fun e => .token fun t => ?_
  split
  · exact .pure e
  · exact .unexpected _

/-- Tokens that do not move are left alone. -/
theorem State.moved_eq_self {f : Position → Position} {s : State}
    (still : ∀ t ∈ s.current :: s.rest, f t.start = t.start) : s.moved f id = s := by
  obtain ⟨current, rest, counted⟩ := s
  obtain ⟨first, others⟩ := List.forall_mem_cons.mp still
  have same (t : SpannedToken) (fixed : f t.start = t.start) : t.moved f id = t := by
    rw [SpannedToken.moved, fixed]
    rfl
  rw [State.moved, same current first, List.map_congr_left fun t inside => same t (others t inside),
    List.map_id']

/-- A reader that fails does so at the start of a token: a function that moves every other place does
not move the error. -/
theorem Blind.mem_starts_of_error {α : Type} {r : Reader α} (blind : Blind r) {s s' : State}
    {e : ReadError} (failed : r.run s = .error e s') :
    ∃ t ∈ s.current :: s.rest, e.position = t.start := by
  refine Classical.byContradiction fun elsewhere => ?_
  let f (p : Position) : Position :=
    if p ∈ (s.current :: s.rest).map (·.start) then p else p.next ' '
  have still : s.moved f id = s :=
    State.moved_eq_self fun t inside => if_pos (List.mem_map_of_mem inside)
  have moves : f e.position = e.position.next ' ' := by
    refine if_neg fun inside => elsewhere ?_
    obtain ⟨t, there, same⟩ := List.mem_map.mp inside
    exact ⟨t, there, same.symm⟩
  have ran := blind f id s
  rw [still, failed] at ran
  injection ran with same _
  have place := (e.position_moved f).symm.trans (congrArg ReadError.position same.symm)
  rw [moves] at place
  have offsets := congrArg Position.offset place
  have width : ' '.utf8Size = 1 := rfl
  rw [Position.next, if_neg (by decide), width] at offsets
  exact absurd offsets (Nat.succ_ne_self _)

end Reader

/-! ## Whole texts -/

/-- What is wrong, wherever it is. -/
def ReadError.cause : ReadError → Fault ⊕ Expected
  | malformed fault => .inl fault.fault
  | unexpected _ expected => .inr expected

theorem ReadError.cause_moved (f : Position → Position) (e : ReadError) :
    (e.moved f).cause = e.cause := by
  cases e <;> rfl

namespace Expr

/-- What is read depends on the tokens alone, and so does what is wrong. -/
theorem read_eq_of_tokens {limit : Nat} {text text' : String} {spanned spanned' : List SpannedToken}
    (lexed : tokens text = .ok spanned) (lexed' : tokens text' = .ok spanned')
    (same : spanned'.map (·.token) = spanned.map (·.token)) :
    (read limit text').mapError ReadError.cause = (read limit text).mapError ReadError.cause := by
  obtain ⟨first, rest, rfl⟩ := exists_cons_of_tokensFrom (.ofText text) lexed
  obtain ⟨first', rest', rfl⟩ := exists_cons_of_tokensFrom (.ofText text') lexed'
  rw [List.map_cons, List.map_cons] at same
  obtain ⟨sameFirst, sameRest⟩ := List.cons_eq_cons.mp same
  have long : rest'.length = rest.length := by simpa using congrArg List.length sameRest
  let nowhere (_ : Position) : Position := .start
  have erased (others : List SpannedToken) : others.map (·.moved nowhere nowhere) =
      (others.map (·.token)).map fun t => ⟨t, .start, .start⟩ := by
    rw [List.map_map]
    rfl
  have states : (⟨first', rest', 0⟩ : Reader.State).moved nowhere nowhere =
      (⟨first, rest, 0⟩ : Reader.State).moved nowhere nowhere := by
    rw [Reader.State.moved, Reader.State.moved, erased, erased, sameRest, SpannedToken.moved,
      SpannedToken.moved, sameFirst]
  have blind := Reader.blind_whole limit (Reader.stepsFor rest.length) nowhere nowhere
  have ran := (blind ⟨first', rest', 0⟩).symm.trans (states ▸ blind ⟨first, rest, 0⟩)
  simp only [read, readCounted, lexed, lexed', ofTokens, long]
  generalize (Reader.whole _ _).run ⟨first, rest, 0⟩ = outcome,
    (Reader.whole _ _).run ⟨first', rest', 0⟩ = outcome' at ran ⊢
  cases outcome with
  | ok e s =>
    cases outcome' with
    | ok e' s' =>
      injection ran with here
      rw [here]
      rfl
    | error fault' s' => cases ran
  | error fault s =>
    cases outcome' with
    | ok e' s' => cases ran
    | error fault' s' =>
      injection ran with here
      have causes := congrArg ReadError.cause here
      rw [ReadError.cause_moved, ReadError.cause_moved] at causes
      exact congrArg Except.error causes

/-- A text that cannot be read is at fault where one of its tokens starts, or it has a fault in
place of tokens. -/
theorem position_of_read_error {limit : Nat} {text : String} {e : ReadError}
    (failed : read limit text = .error e) :
    (∃ fault, tokens text = .error fault ∧ e.position = fault.position) ∨
      ∃ spanned, tokens text = .ok spanned ∧ ∃ t ∈ spanned, e.position = t.start := by
  unfold read readCounted at failed
  split at failed
  next fault lexed =>
    cases failed
    exact .inl ⟨fault, lexed, rfl⟩
  next spanned lexed =>
    obtain ⟨first, rest, rfl⟩ := exists_cons_of_tokensFrom (.ofText text) lexed
    split at failed
    · cases failed
    next ran =>
      cases failed
      exact .inr ⟨_, lexed, (Reader.blind_whole limit _).mem_starts_of_error ran⟩

end Expr

end Sift
