import Mathlib
import Sift.Proofs.Grammar.Joined
import Sift.Proofs.Grammar.Places

/-!
# Tokens in their text

The scanner walks over a text once and takes all of it: blanks, which it drops, and one piece of the
text for each token. `Segments` states how the rest of a text is cut, given what stands before it,
since a place is what one gets to behind a beginning of the text. From this the tokens are in order
and apart, only blanks stand outside of them, and each piece is the token it was cut as when it
stands alone (`tokens_divide_text`). That every reported place is one of the text, also where a fault
lies in the middle of a token, holds since a cursor never stands anywhere else (`Cursor.Within`), and
the reader reports no places but those of tokens (`Expr.position_of_read_error`).
-/

namespace Sift

/-! ## Places -/

namespace Position

/-- A place in a text: behind a beginning of it that has as many bytes as the offset says, one line
feed less than the line says, and one character less behind the last of them than the column says. -/
def IsIn (p : Position) (text : String) : Prop :=
  ∃ before behind : String, text = before ++ behind ∧ p.offset = before.utf8ByteSize ∧
    p.line = before.toList.count '\n' + 1 ∧
    p.column = (before.toList.rtakeWhile (· ≠ '\n')).length + 1

theorem offset_after (p : Position) (text : List Char) :
    (p.after text).offset = p.offset + String.utf8Len text := by
  induction text generalizing p with
  | nil => rfl
  | cons c text ih =>
    have step : (p.next c).offset = p.offset + c.utf8Size := by
      unfold next
      split <;> rfl
    rw [after_cons, ih, step, String.utf8Len_cons, Nat.add_assoc, Nat.add_comm c.utf8Size]

theorem offset_start_after (text : List Char) :
    (start.after text).offset = String.utf8Len text := by
  rw [offset_after]
  exact Nat.zero_add _

theorem line_after (p : Position) (text : List Char) :
    (p.after text).line = p.line + text.count '\n' := by
  induction text generalizing p with
  | nil => rfl
  | cons c text ih =>
    rw [after_cons, ih, List.count_cons, next]
    by_cases feed : c = '\n'
    · rw [if_pos feed, if_pos (by simp [feed]), Nat.add_assoc, Nat.add_comm 1]
    · rw [if_neg feed, if_neg (by simp [feed])]
      rfl

theorem column_after (text : List Char) :
    (start.after text).column = (text.rtakeWhile (· ≠ '\n')).length + 1 := by
  induction text using List.reverseRecOn with
  | nil => rfl
  | append_singleton text c ih =>
    rw [after_append, after_cons, after_nil, List.rtakeWhile_concat, next]
    by_cases feed : c = '\n'
    · rw [if_pos feed, if_neg (by simp [feed])]
      rfl
    · rw [if_neg feed, if_pos (by simp [feed]), List.length_append]
      exact congrArg (· + 1) ih

/-- Behind a beginning of a text there is a place in it. -/
theorem isIn_after (before behind : List Char) :
    (start.after before).IsIn (String.ofList (before ++ behind)) := by
  refine ⟨String.ofList before, String.ofList behind, String.ofList_append, ?_, ?_, ?_⟩
  · rw [offset_start_after, String.utf8ByteSize_ofList]
  · rw [line_after, String.toList_ofList]
    exact Nat.add_comm 1 _
  · rw [column_after, String.toList_ofList]

end Position

/-! ## Cursors -/

namespace Cursor

/-- The cursor stands in a text: behind a beginning of it, in front of what is left. -/
def Within (c : Cursor) (text : List Char) : Prop :=
  ∃ before, text = before ++ c.rest ∧ c.position = Position.start.after before

variable {c : Cursor} {text : List Char}

theorem Within.isIn (within : c.Within text) : c.position.IsIn (String.ofList text) := by
  obtain ⟨before, rfl, position⟩ := within
  rw [position]
  exact Position.isIn_after before c.rest

theorem within_ofText (text : String) : (ofText text).Within text.toList := ⟨[], rfl, rfl⟩

theorem Within.advance (within : c.Within text) (count : Nat) : (c.advance count).Within text := by
  obtain ⟨before, same, position⟩ := within
  refine ⟨before ++ c.rest.take count, ?_, ?_⟩
  · rw [Cursor.advance, List.append_assoc, List.take_append_drop, same]
  · rw [Cursor.advance, position, Position.after_append]

theorem Within.skipBlanks (within : c.Within text) : c.skipBlanks.Within text := within.advance _

/-- What is read next stands in the text, or its fault does, and so does the cursor behind. -/
theorem Within.next (within : c.Within text) :
    c.next.2.Within text ∧
      (∀ t, c.next.1 = .ok t → t.start.IsIn (String.ofList text) ∧ t.finish.IsIn (String.ofList text)) ∧
      ∀ fault, c.next.1 = .error fault → fault.position.IsIn (String.ofList text) := by
  have here := within.skipBlanks
  unfold Cursor.next
  dsimp only
  split
  · refine ⟨here, ?_, fun _ failed => by cases failed⟩
    rintro t ⟨⟩
    exact ⟨here.isIn, here.isIn⟩
  · split
    next token more _ =>
      have behind := here.advance (more + 1)
      refine ⟨behind, ?_, fun _ failed => by cases failed⟩
      rintro t ⟨⟩
      exact ⟨here.isIn, behind.isIn⟩
    next fault place stop _ =>
      refine ⟨here.advance stop, (fun _ read => by cases read), ?_⟩
      rintro fault' ⟨⟩
      exact (here.advance place).isIn

/-- What is read after a number of readings, be they successful or not. -/
def reading (c : Cursor) (n : Nat) : Except FaultAt SpannedToken :=
  ((fun c : Cursor => c.next.2)^[n] c).next.1

/-- However often something is read, the cursor stays in the text. -/
theorem Within.iterate_next (within : c.Within text) (n : Nat) :
    ((fun c : Cursor => c.next.2)^[n] c).Within text := by
  induction n with
  | zero => exact within
  | succ n ih =>
    rw [Function.iterate_succ_apply']
    exact ih.next.1

end Cursor

theorem isIn_of_tokensFrom_error {c : Cursor} {text : List Char} (within : c.Within text)
    {fault : FaultAt} (failed : tokensFrom c = .error fault) :
    fault.position.IsIn (String.ofList text) := by
  fun_induction tokensFrom c with
  | case1 => cases failed
  | case2 => cases failed
  | case3 c here first rest split t more scanned behind fault' goesOn ih =>
    cases failed
    exact ih (within.skipBlanks.advance _) goesOn
  | case4 c here first rest split fault' place stop scanned =>
    cases failed
    exact (within.skipBlanks.advance place).isIn

/-! ## Pieces -/

/-- No characters are the token that ends a text. -/
theorem scan_ne_finish (first : Char) (rest : List Char) (more : Nat) :
    scan first rest ≠ .token .finish more := by
  intro scanned
  have sound := sound_scan first rest
  rw [scanned] at sound
  exact sound

/-- A token takes up a piece of the text, and the piece is this token when it stands alone. -/
theorem exists_piece {first : Char} {rest : List Char} {t : Token} {more : Nat}
    (solid : Scan.isBlank first = false) (scanned : scan first rest = .token t more) :
    ∃ body behind, rest = body ++ behind ∧ body.length = more ∧
      Lexed (first :: body) [t, .finish] := by
  obtain ⟨body, behind, rfl, rfl, -, goesOn⟩ := scan_local scanned
  have alone := goesOn [] (.inr .nil)
  rw [List.append_nil] at alone
  refine ⟨body, behind, rfl, rfl, .token solid alone ?_⟩
  rw [List.drop_length]
  exact .nil

/-- The blanks that are skipped, and where that leads. -/
theorem Cursor.exists_blanks (c : Cursor) :
    ∃ blanks, (∀ b ∈ blanks, Scan.isBlank b = true) ∧ c.rest = blanks ++ c.skipBlanks.rest ∧
      c.skipBlanks.position = c.position.after blanks := by
  obtain ⟨run, behind, same, taken, dropped, all, -⟩ := exists_run Scan.isBlank c.rest
  refine ⟨run, all, ?_, ?_⟩
  · rw [skipBlanks, advance, taken, dropped, ← same]
  · rw [skipBlanks, advance, taken, same, List.take_left]

/-- How what is left of a text behind its beginning is cut into blanks and pieces: every token stands
behind blanks and takes up a piece, and the last one stands behind all of the text. -/
inductive Segments : List Char → List Char → List SpannedToken → Prop
  | finish {before blanks : List Char} : (∀ b ∈ blanks, Scan.isBlank b = true) →
    Segments before blanks
      [⟨.finish, Position.start.after (before ++ blanks), Position.start.after (before ++ blanks)⟩]
  | token {before blanks piece rest : List Char} {t : Token} {others : List SpannedToken} :
    (∀ b ∈ blanks, Scan.isBlank b = true) → t ≠ .finish → Lexed piece [t, .finish] →
    Segments (before ++ blanks ++ piece) rest others →
    Segments before (blanks ++ (piece ++ rest))
      (⟨t, Position.start.after (before ++ blanks), Position.start.after (before ++ blanks ++ piece)⟩ ::
        others)

theorem segments_of_tokensFrom {c : Cursor} {before : List Char}
    (position : c.position = Position.start.after before) {spanned : List SpannedToken}
    (lexed : tokensFrom c = .ok spanned) : Segments before c.rest spanned := by
  fun_induction tokensFrom c generalizing before spanned with
  | case1 c here =>
    rename_i empty
    cases lexed
    obtain ⟨blanks, all, same, place⟩ := c.exists_blanks
    rw [position, ← Position.after_append] at place
    rw [same, empty, List.append_nil, place]
    exact .finish all
  | case2 c here first rest split t more scanned behind others goesOn =>
    rename_i ih
    cases lexed
    obtain ⟨blanks, all, same, place⟩ := c.exists_blanks
    have solid := Lexed.solid_of_skipBlanks split
    obtain ⟨body, after, rfl, rfl, alone⟩ := exists_piece solid scanned
    have taken : here.rest.take (body.length + 1) = first :: body := by
      rw [split, List.take_succ_cons, List.take_left]
    have left : behind.rest = after := by
      show here.rest.drop (body.length + 1) = after
      rw [split, List.drop_succ_cons, List.drop_left]
    rw [position, ← Position.after_append] at place
    have stands : behind.position = Position.start.after (before ++ blanks ++ first :: body) := by
      show here.position.after (here.rest.take (body.length + 1)) = _
      rw [taken, Position.after_append (s := before ++ blanks), ← place]
    have further := ih stands goesOn
    rw [left] at further
    rw [same, split, place, stands, ← List.cons_append]
    exact .token all (fun isFinish => scan_ne_finish _ _ _ (isFinish ▸ scanned)) alone further
  | case3 => cases lexed
  | case4 => cases lexed

namespace Segments

variable {before text : List Char} {spanned : List SpannedToken}

/-- Where a token stands, and what the piece between its start and its end is. -/
theorem of_mem (segments : Segments before text spanned) {t : SpannedToken} (inside : t ∈ spanned) :
    ∃ front piece behind, text = front ++ (piece ++ behind) ∧
      t.start = Position.start.after (before ++ front) ∧
      t.finish = Position.start.after (before ++ front ++ piece) ∧
      (t.token ≠ .finish → Lexed piece [t.token, .finish]) := by
  induction segments with
  | @finish before blanks all =>
    obtain rfl := List.mem_singleton.mp inside
    refine ⟨blanks, [], [], ?_, rfl, ?_, fun other => absurd rfl other⟩
    · rw [List.append_nil, List.append_nil]
    · rw [List.append_nil]
  | @token before blanks piece rest t' others all proper alone _ ih =>
    rcases List.mem_cons.mp inside with rfl | inside
    · exact ⟨blanks, piece, rest, rfl, rfl, rfl, fun _ => alone⟩
    · obtain ⟨front, piece', behind, rfl, start, finish, alone'⟩ := ih inside
      refine ⟨blanks ++ (piece ++ front), piece', behind, ?_, ?_, ?_, alone'⟩
      · simp only [List.append_assoc]
      · simpa only [List.append_assoc] using start
      · simpa only [List.append_assoc] using finish

/-- The last token ends the text, and no other one does. -/
theorem ends (segments : Segments before text spanned) :
    ∃ front last, spanned = front ++ [last] ∧ last.token = .finish ∧
      ∀ t ∈ front, t.token ≠ .finish := by
  induction segments with
  | finish _ => exact ⟨[], _, rfl, rfl, nofun⟩
  | token _ proper _ _ ih =>
    obtain ⟨front, last, rfl, isFinish, others⟩ := ih
    exact ⟨_ :: front, last, rfl, isFinish, List.forall_mem_cons.mpr ⟨proper, others⟩⟩

theorem bounds (segments : Segments before text spanned) {t : SpannedToken} (inside : t ∈ spanned) :
    String.utf8Len before ≤ t.start.offset ∧ t.start.offset ≤ t.finish.offset ∧
      t.finish.offset ≤ String.utf8Len (before ++ text) := by
  obtain ⟨front, piece, behind, rfl, start, finish, -⟩ := segments.of_mem inside
  simp only [start, finish, Position.offset_start_after, String.utf8Len_append]
  omega

/-- A token starts where the one before has ended, or behind. -/
theorem ordered (segments : Segments before text spanned) :
    spanned.Pairwise fun a b => a.finish.offset ≤ b.start.offset := by
  induction segments with
  | finish _ => exact List.pairwise_singleton _ _
  | token _ _ _ segments ih =>
    refine List.pairwise_cons.mpr ⟨fun t inside => ?_, ih⟩
    rw [Position.offset_start_after]
    exact (segments.bounds inside).1

/-- A character of two texts put together is one of the first or one of the second. -/
theorem split_at {first second front behind : List Char} {c : Char}
    (same : first ++ second = front ++ c :: behind) :
    (∃ more, first = front ++ c :: more) ∨
      ∃ past, front = first ++ past ∧ second = past ++ c :: behind := by
  rcases List.append_eq_append_iff.mp same with ⟨past, rfl, there⟩ | ⟨more, rfl, there⟩
  · exact .inr ⟨past, rfl, there⟩
  · cases more with
    | nil => exact .inr ⟨[], by rw [List.append_nil, List.append_nil], there.symm⟩
    | cons d more =>
      obtain ⟨rfl, -⟩ := List.cons_eq_cons.mp there
      exact .inl ⟨more, rfl⟩

/-- A character with a byte outside of all tokens is a blank. -/
theorem isBlank_of_outside (segments : Segments before text spanned) {front behind : List Char}
    {c : Char} (same : text = front ++ c :: behind) {i : Nat}
    (fromHere : String.utf8Len (before ++ front) ≤ i)
    (toHere : i < String.utf8Len (before ++ front) + c.utf8Size)
    (outside : ∀ t ∈ spanned, ¬ (t.start.offset ≤ i ∧ i < t.finish.offset)) :
    Scan.isBlank c = true := by
  induction segments generalizing front with
  | finish all =>
    subst same
    exact all c (by simp)
  | @token before blanks piece rest t others all proper alone segments ih =>
    obtain ⟨apart, others⟩ := List.forall_mem_cons.mp outside
    simp only [Position.offset_start_after, String.utf8Len_append] at apart fromHere toHere
    -- it is among the blanks, or in the piece, where the token has all its bytes, or behind it
    rcases split_at same with ⟨more, rfl⟩ | ⟨past, rfl, there⟩
    · exact all c (by simp)
    simp only [String.utf8Len_append] at fromHere toHere
    rcases split_at there with ⟨more, rfl⟩ | ⟨past', rfl, there'⟩
    · refine absurd ⟨?_, ?_⟩ apart
      · omega
      · simp only [String.utf8Len_append, String.utf8Len_cons]
        omega
    · simp only [String.utf8Len_append] at fromHere toHere
      refine ih there' ?_ ?_ others <;> simp only [String.utf8Len_append] <;> omega

end Segments

/-! ## Whole texts -/

/-- The text from the start of a token to its end. -/
def SpannedToken.source (text : String) (t : SpannedToken) : String :=
  String.Pos.Raw.extract text ⟨t.start.offset⟩ ⟨t.finish.offset⟩

theorem segments_of_tokens {text : String} {spanned : List SpannedToken}
    (lexed : tokens text = .ok spanned) : Segments [] text.toList spanned :=
  segments_of_tokensFrom rfl lexed

/-- The text of a token, standing alone, is this token. -/
theorem lexed_source {text : String} {spanned : List SpannedToken}
    (lexed : tokens text = .ok spanned) {t : SpannedToken} (inside : t ∈ spanned)
    (proper : t.token ≠ .finish) : Lexed (t.source text).toList [t.token, .finish] := by
  obtain ⟨front, piece, behind, same, start, finish, alone⟩ :=
    (segments_of_tokens lexed).of_mem inside
  have cut : t.source text = String.ofList piece := by
    rw [SpannedToken.source, start, finish, ← String.ofList_toList (s := text), same,
      Position.offset_start_after, Position.offset_start_after, List.nil_append,
      String.utf8Len_append, ← List.append_assoc]
    exact String.extract_of_valid front piece behind
  rw [cut, String.toList_ofList]
  exact alone proper

/-- The places of a token are places of its text. -/
theorem isIn_of_tokens {text : String} {spanned : List SpannedToken}
    (lexed : tokens text = .ok spanned) {t : SpannedToken} (inside : t ∈ spanned) :
    t.start.IsIn text ∧ t.finish.IsIn text := by
  obtain ⟨front, piece, behind, same, start, finish, -⟩ :=
    (segments_of_tokens lexed).of_mem inside
  rw [← String.ofList_toList (s := text), same, start, finish]
  refine ⟨Position.isIn_after front (piece ++ behind), ?_⟩
  rw [← List.append_assoc]
  exact Position.isIn_after (front ++ piece) behind

/-- The tokens of a text are in order and apart, the last of them and no other one ends the text, only
blanks stand outside of them, and each of them is what its part of the text is cut as alone. Every
place that is reported is one of the text: of a token, of a fault, be it the first one or one that is
met when scanning goes on behind it, and of an error of the reader. -/
theorem tokens_divide_text (text : String) :
    (∀ spanned, tokens text = .ok spanned →
      (∃ front last, spanned = front ++ [last] ∧ last.token = .finish ∧
        ∀ t ∈ front, t.token ≠ .finish) ∧
      (spanned.Pairwise fun a b => a.finish.offset ≤ b.start.offset) ∧
      (∀ t ∈ spanned, t.start.offset ≤ t.finish.offset ∧ t.finish.offset ≤ text.utf8ByteSize) ∧
      (∀ (before behind : String) (c : Char), text = before ++ String.singleton c ++ behind →
        ∀ i, before.utf8ByteSize ≤ i → i < before.utf8ByteSize + c.utf8Size →
          (∀ t ∈ spanned, ¬ (t.start.offset ≤ i ∧ i < t.finish.offset)) →
          c ∈ [' ', '\t', '\r', '\n']) ∧
      (∀ t ∈ spanned, t.token ≠ .finish → ∃ alone, tokens (t.source text) = .ok alone ∧
        alone.map (·.token) = [t.token, .finish]) ∧
      ∀ t ∈ spanned, t.start.IsIn text ∧ t.finish.IsIn text) ∧
    (∀ fault, tokens text = .error fault → fault.position.IsIn text) ∧
    (∀ n, (∀ t, (Cursor.ofText text).reading n = .ok t →
        t.start.IsIn text ∧ t.finish.IsIn text) ∧
      ∀ fault, (Cursor.ofText text).reading n = .error fault → fault.position.IsIn text) ∧
    ∀ limit e, Expr.read limit text = .error e → e.position.IsIn text := by
  have faults (fault : FaultAt) (failed : tokens text = .error fault) :
      fault.position.IsIn text := by
    have place := isIn_of_tokensFrom_error (Cursor.within_ofText text) failed
    rwa [String.ofList_toList] at place
  refine ⟨fun spanned lexed => ?_, faults, ?_, ?_⟩
  · have segments := segments_of_tokens lexed
    refine ⟨segments.ends, segments.ordered, fun t inside => ?_, ?_, ?_, fun t => isIn_of_tokens lexed⟩
    · obtain ⟨-, forwards, inText⟩ := segments.bounds inside
      rw [List.nil_append, String.utf8Len_toList] at inText
      exact ⟨forwards, inText⟩
    · rintro before behind c rfl i fromHere toHere outside
      have same : (before ++ String.singleton c ++ behind).toList =
          before.toList ++ c :: behind.toList := by simp
      have isBlank := segments.isBlank_of_outside same (i := i) (by simpa using fromHere)
        (by simpa using toHere) outside
      simpa [Scan.isBlank, or_assoc] using isBlank
    · intro t inside proper
      obtain ⟨alone, cut, same⟩ := (lexed_source lexed inside proper).lexes .start
      exact ⟨alone, cut, same⟩
  · intro n
    have stands := ((Cursor.within_ofText text).iterate_next n).next.2
    rwa [String.ofList_toList] at stands
  · intro limit e failed
    rcases Expr.position_of_read_error failed with
      ⟨fault, lexed, place⟩ | ⟨spanned, lexed, t, inside, place⟩
    · exact place ▸ faults fault lexed
    · exact place ▸ (isIn_of_tokens lexed inside).1

/-- A text of two lines with a letter of two bytes: its tokens stand where they should. -/
theorem tokens_divide_text_lines :
    ∃ spanned, tokens "k ==\n \"å\"" = .ok spanned ∧
      spanned.map (·.start) = [⟨1, 1, 0⟩, ⟨1, 3, 2⟩, ⟨2, 2, 6⟩, ⟨2, 5, 10⟩] ∧
      ∀ t ∈ spanned, t.start.IsIn "k ==\n \"å\"" ∧ t.finish.IsIn "k ==\n \"å\"" := by
  obtain ⟨spanned, lexed, places⟩ : ∃ spanned, tokens "k ==\n \"å\"" = .ok spanned ∧
      spanned.map (·.start) = [⟨1, 1, 0⟩, ⟨1, 3, 2⟩, ⟨2, 2, 6⟩, ⟨2, 5, 10⟩] :=
    ⟨_, by cbv, by cbv⟩
  obtain ⟨-, -, -, -, -, inText⟩ := (tokens_divide_text _).1 spanned lexed
  exact ⟨spanned, lexed, places, inText⟩

end Sift
