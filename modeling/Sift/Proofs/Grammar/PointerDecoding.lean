import Sift.Proofs.Grammar.PointerText

/-!
# Pointer texts and their paths

A segment is decoded by two replacements, one after the other. Neither makes anything for the other to
replace, nor hides anything from it, so one pass from left to right does the same
(`decodeSegment_eq_decodeOnce`), also where tildes stand next to each other or escape nothing. With it a
pointer text stands for exactly the path that is cut out of it (`decode?_eq_some_iff`), and that path can
be written as a pointer text again, if not always as the same one (`pointer_texts_and_paths`).
-/

namespace Sift.Pointer

/-! ## One pass -/

/-- A segment decoded in one pass from left to right. A tilde that escapes nothing stands for itself. -/
def decodeOnce : List Char → List Char
  | '~' :: '1' :: rest => '/' :: decodeOnce rest
  | '~' :: '0' :: rest => '~' :: decodeOnce rest
  | c :: rest => c :: decodeOnce rest
  | [] => []

/-- A tilde stays if the digit does not follow. -/
theorem unescape_tilde {digit restored : Char} {text : List Char} (other : text.head? ≠ some digit) :
    unescape digit restored ('~' :: text) = '~' :: unescape digit restored text := by
  cases text with
  | nil => simp [unescape]
  | cons c rest =>
    have different : c ≠ digit := fun same => other (congrArg some same)
    rw [unescape, if_neg different]

/-- A replacement begins with what the text begins with, or with what it restores. -/
theorem head?_unescape {digit restored c : Char} {text : List Char}
    (first : (unescape digit restored text).head? = some c) :
    c = restored ∨ text.head? = some c := by
  cases text with
  | nil =>
    rw [unescape] at first
    cases first
  | cons d rest =>
    by_cases tilde : d = '~'
    · subst tilde
      by_cases follows : rest.head? = some digit
      · obtain ⟨rest, rfl⟩ := List.head?_eq_some_iff.mp follows
        rw [unescape, if_pos rfl] at first
        exact .inl (Option.some.inj first).symm
      · rw [unescape_tilde follows] at first
        exact .inr first
    · rw [unescape_plain tilde] at first
      exact .inr first

/-- Restoring slashes and then tildes is one pass. -/
theorem decodeSegment_eq_decodeOnce (segment : List Char) :
    decodeSegment segment = decodeOnce segment := by
  rw [decodeSegment]
  fun_induction decodeOnce segment with
  | case1 rest ih => rw [unescape, if_pos rfl, unescape_plain (by decide), ih]
  | case2 rest ih =>
    have untouched : unescape '1' '/' ('~' :: '0' :: rest) = '~' :: '0' :: unescape '1' '/' rest := by
      rw [unescape_tilde (by simp), unescape_plain (by decide)]
    rw [untouched, unescape, if_pos rfl, ih]
  | case3 c rest one zero ih =>
    by_cases tilde : c = '~'
    · subst tilde
      have noOne : rest.head? ≠ some '1' := by
        intro first
        obtain ⟨behind, same⟩ := List.head?_eq_some_iff.mp first
        exact one behind rfl same
      -- The first replacement puts no zero behind the tilde.
      have noZero : (unescape '1' '/' rest).head? ≠ some '0' := by
        intro first
        rcases head?_unescape first with slash | first
        · cases slash
        · obtain ⟨behind, same⟩ := List.head?_eq_some_iff.mp first
          exact zero behind rfl same
      rw [unescape_tilde noOne, unescape_tilde noZero, ih]
    · rw [unescape_plain tilde, unescape_plain tilde, ih]
  | case4 => simp [unescape]

/-! ## Texts and paths -/

/-- The segments that a pointer text can hold, letter by letter. -/
theorem isSegment_iff {segment : String} : isSegment segment = true ↔ segment ≠ "" ∧
    ∀ c ∈ segment.toList, Unicode.isAlphanumeric c = true ∨ c ∈ ['-', '_', '.', '~', ':', '|', '/'] := by
  have letter (c : Char) : (isSegmentChar c || c == '/') = true ↔
      Unicode.isAlphanumeric c = true ∨ c ∈ ['-', '_', '.', '~', ':', '|', '/'] := by
    simp [isSegmentChar, or_assoc]
  have filled : segment.toList ≠ [] ↔ segment ≠ "" := not_congr String.toList_eq_nil_iff
  simp only [isSegment, Bool.and_eq_true, bne_iff_ne, List.all_eq_true, letter, filled]

/-- A text is a pointer text if it starts with a slash and no segment behind it is empty or holds a
character of another kind, and it stands for its segments, decoded in one pass each. -/
theorem decode?_eq_some_iff {text : String} {path : List String} :
    decode? text = some path ↔ ∃ rest, text.toList = '/' :: rest ∧
      (∀ segment ∈ rest.splitOn '/', segment ≠ [] ∧ ∀ c ∈ segment, isSegmentChar c = true) ∧
      path = (rest.splitOn '/').map fun segment => String.ofList (decodeOnce segment) := by
  unfold decode?
  split
  next rest same =>
    simp only [same, decodeSegment_eq_decodeOnce, Option.ite_none_right_eq_some, List.all_eq_true,
      Bool.and_eq_true, bne_iff_ne, List.cons.injEq, true_and, Option.some_inj]
    constructor
    · rintro ⟨allowed, rfl⟩
      exact ⟨rest, rfl, allowed, rfl⟩
    · rintro ⟨_, rfl, allowed, rfl⟩
      exact ⟨allowed, rfl⟩
  next other =>
    refine ⟨nofun, ?_⟩
    rintro ⟨rest, same, -⟩
    exact absurd same (other rest)

/-- A path is read back from the pointer text that it is written as if and only if pointer texts can
hold its segments. A pointer text stands for what stands behind its first slash, cut at the other ones
and decoded in one pass from left to right; and writing that path and reading it again changes nothing. -/
theorem pointer_texts_and_paths :
    (∀ path, path ≠ [] → (decode? (encode path) = some path ↔ ∀ segment ∈ path, segment ≠ "" ∧
      ∀ c ∈ segment.toList, Unicode.isAlphanumeric c = true ∨
        c ∈ ['-', '_', '.', '~', ':', '|', '/'])) ∧
    ∀ text path, decode? text = some path →
      (∃ rest, text.toList = '/' :: rest ∧
        path = (rest.splitOn '/').map fun segment => String.ofList (decodeOnce segment)) ∧
      decode? (encode path) = some path := by
  constructor
  · intro path filled
    simp only [← isSegment_iff]
    exact ⟨fun read => (segments_of_decode? read).2, decode?_encode filled⟩
  · intro text path read
    obtain ⟨rest, slash, -, decoded⟩ := decode?_eq_some_iff.mp read
    obtain ⟨filled, segments⟩ := segments_of_decode? read
    exact ⟨⟨rest, slash, decoded⟩, decode?_encode filled segments⟩

/-- Tildes in a row, of which only the last escapes, and a tilde that a one follows. -/
theorem pointer_texts_and_paths_tildes :
    (["~/", "~1"] ≠ [] ∧ decode? (encode ["~/", "~1"]) = some ["~/", "~1"]) ∧
      decode? "/~~1/~01" = some ["~/", "~1"] ∧ ∃ rest, "/~~1/~01".toList = '/' :: rest ∧
        ["~/", "~1"] = (rest.splitOn '/').map fun segment => String.ofList (decodeOnce segment) := by
  have filled : ["~/", "~1"] ≠ [] := List.cons_ne_nil _ _
  have segments : ∀ segment ∈ ["~/", "~1"], isSegment segment = true := by decide
  have read : decode? "/~~1/~01" = some ["~/", "~1"] := by decide
  have written := (pointer_texts_and_paths.1 _ filled).mpr fun segment inside =>
    isSegment_iff.mp (segments segment inside)
  exact ⟨⟨filled, written⟩, read, (pointer_texts_and_paths.2 _ _ read).1⟩

/-- Another text of the same path escapes every tilde. -/
example : encode ["~/", "~1"] = "/~0~1/~01" := by decide

end Sift.Pointer
