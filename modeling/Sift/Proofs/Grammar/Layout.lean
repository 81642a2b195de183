import Sift.Proofs.Grammar.Segments

/-!
# Texts laid out anew

The tokens of a text can be written with any blanks between them. `relaid` puts the pieces of a text
one behind the other with runs of blanks around them; as long as no two of them touch, the tokens are
the same (`lexed_apart`), since a piece is its token alone and a blank goes on with none. So what is
read is the same, and an error is the same but for its place (`read_relaid`).
-/

namespace Sift

/-- The pieces of a text, each with a run of blanks behind it, and one in front of all of them. The
last token has no piece, so there is one run less than tokens. -/
def relaid (text : String) (spanned : List SpannedToken) (lead : List Char)
    (runs : List (List Char)) : String :=
  String.ofList (lead ++ (spanned.zip runs).flatMap fun (t, run) => (t.source text).toList ++ run)

theorem Lexed.blanks {run text : List Char} {read : List Token}
    (blank : ∀ c ∈ run, Scan.isBlank c = true) (lexed : Lexed text read) :
    Lexed (run ++ text) read := by
  induction run with
  | nil => exact lexed
  | cons c run ih =>
    obtain ⟨first, others⟩ := List.forall_mem_cons.mp blank
    exact .blank first (ih others)

/-- Behind a run of blanks, or at the end of a text, no token goes on. -/
theorem Parts.run {run text : List Char} (blank : ∀ c ∈ run, Scan.isBlank c = true)
    (apart : run ≠ [] ∨ text = []) : Parts (run ++ text) := by
  cases run with
  | nil =>
    obtain rfl := apart.resolve_left (absurd rfl)
    exact .nil
  | cons c run => exact .blank (blank c List.mem_cons_self) _

/-- Pieces that are tokens alone are the same tokens with blanks between them. -/
theorem lexed_apart {text : String} {spanned : List SpannedToken} {runs : List (List Char)}
    (alone : ∀ t ∈ spanned, Lexed (t.source text).toList [t.token, .finish])
    (long : runs.length = spanned.length) (blank : ∀ run ∈ runs, ∀ c ∈ run, Scan.isBlank c = true)
    (apart : ∀ run ∈ runs.dropLast, run ≠ []) :
    Lexed ((spanned.zip runs).flatMap fun (t, run) => (t.source text).toList ++ run)
      (spanned.map (·.token) ++ [.finish]) := by
  induction spanned generalizing runs with
  | nil => exact .nil
  | cons t spanned ih =>
    obtain ⟨run, runs, rfl⟩ := List.exists_cons_of_length_eq_add_one long
    obtain ⟨first, others⟩ := List.forall_mem_cons.mp alone
    obtain ⟨blankRun, blankRuns⟩ := List.forall_mem_cons.mp blank
    replace long : runs.length = spanned.length := Nat.succ.inj long
    rw [List.zip_cons_cons, List.flatMap_cons, List.append_assoc]
    cases runs with
    | nil =>
      obtain rfl := List.eq_nil_of_length_eq_zero long.symm
      exact first.append_one (.run blankRun (.inr rfl)) (.blanks blankRun .nil)
    | cons next runs =>
      rw [List.dropLast_cons_of_ne_nil (List.cons_ne_nil next runs)] at apart
      obtain ⟨filled, apart⟩ := List.forall_mem_cons.mp apart
      exact first.append_one (.run blankRun (.inl filled))
        (.blanks blankRun (ih others long blankRuns apart))

/-- The tokens of a text are those of every text that has the same pieces with blanks between them, and
perhaps around them; and with any limit on tests the two are read alike, or not read for the same
cause. -/
theorem read_relaid {text : String} {spanned : List SpannedToken}
    (lexed : tokens text = .ok spanned) {lead : List Char} {runs : List (List Char)}
    (long : runs.length + 1 = spanned.length)
    (blank : ∀ run ∈ lead :: runs, ∀ c ∈ run, c ∈ [' ', '\t', '\r', '\n'])
    (apart : ∀ run ∈ runs.dropLast, run ≠ []) :
    (∃ spanned', tokens (relaid text spanned lead runs) = .ok spanned' ∧
      spanned'.map (·.token) = spanned.map (·.token)) ∧
    ∀ limit, (Expr.read limit (relaid text spanned lead runs)).mapError ReadError.cause =
      (Expr.read limit text).mapError ReadError.cause := by
  have blanks (run : List Char) (inside : run ∈ lead :: runs) :
      ∀ c ∈ run, Scan.isBlank c = true := by
    intro c there
    simpa [Scan.isBlank, or_assoc] using blank run inside c there
  obtain ⟨blankLead, blankRuns⟩ := List.forall_mem_cons.mp blanks
  obtain ⟨front, last, rfl, isFinish, proper⟩ := (segments_of_tokens lexed).ends
  have long' : runs.length = front.length := by simpa using long
  have pieces : (front ++ [last]).zip runs = front.zip runs := by
    have zipped : (front ++ [last]).zip (runs ++ []) = front.zip runs ++ [last].zip [] :=
      List.zip_append long'.symm
    rwa [List.append_nil, List.zip_nil_right, List.append_nil] at zipped
  have alone (t : SpannedToken) (inside : t ∈ front) :
      Lexed (t.source text).toList [t.token, .finish] :=
    lexed_source lexed (List.mem_append_left _ inside) (proper t inside)
  obtain ⟨spanned', lexed', same⟩ :=
    ((lexed_apart alone long' blankRuns apart).blanks blankLead).lexes .start
  have cut : tokens (relaid text (front ++ [last]) lead runs) = .ok spanned' := by
    rw [tokens, Cursor.ofText, relaid, pieces, String.toList_ofList]
    exact lexed'
  have tokensSame : spanned'.map (·.token) = (front ++ [last]).map (·.token) := by
    rw [same, List.map_append, List.map_singleton, isFinish]
  exact ⟨⟨spanned', cut, tokensSame⟩, fun limit => Expr.read_eq_of_tokens lexed cut tokensSame⟩

/-- A comparison is read alike without a blank and over two lines. -/
theorem read_relaid_comparison :
    ∃ spanned, tokens "k<=-3.5" = .ok spanned ∧
      relaid "k<=-3.5" spanned [' '] [['\r', '\n'], ['\t', ' '], []] = " k\r\n<=\t -3.5" ∧
      (∃ spanned', tokens " k\r\n<=\t -3.5" = .ok spanned' ∧
        spanned'.map (·.token) = spanned.map (·.token)) ∧
      (Expr.read 1 " k\r\n<=\t -3.5").mapError ReadError.cause =
        (Expr.read 1 "k<=-3.5").mapError ReadError.cause := by
  obtain ⟨spanned, lexed, long, written⟩ : ∃ spanned, tokens "k<=-3.5" = .ok spanned ∧
      spanned.length = 4 ∧
      relaid "k<=-3.5" spanned [' '] [['\r', '\n'], ['\t', ' '], []] = " k\r\n<=\t -3.5" :=
    ⟨_, by cbv, by cbv, by cbv⟩
  obtain ⟨cut, read⟩ := @read_relaid _ _ lexed [' '] [['\r', '\n'], ['\t', ' '], []] long.symm
    (by simp) (by simp)
  rw [written] at cut read
  exact ⟨spanned, lexed, written, cut, read 1⟩

end Sift
