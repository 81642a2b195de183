import Sift.Proofs.Grammar.Written

/-!
# Pointer texts

Escaping keeps slashes out of encoded segments, so a pointer text is cut at exactly the slashes that
were put in front of its segments, and `decode?_encode` gives every path of pointer segments back.
In the other direction, decoding makes no character that a pointer segment must not hold:
`segments_of_decode?`.
-/

namespace Sift.Pointer

/-- A character of a segment as it stands in a pointer text. -/
def encodedAs (c : Char) : List Char :=
  if c = '~' then ['~', '0'] else if c = '/' then ['~', '1'] else [c]

/-- A character of a segment when slashes have been restored, but tildes have not. -/
def halfEncodedAs (c : Char) : List Char := if c = '~' then ['~', '0'] else [c]

theorem escape_cons (digit escaped c : Char) (rest : List Char) :
    escape digit escaped (c :: rest) =
      (if c = escaped then ['~', digit] else [c]) ++ escape digit escaped rest :=
  List.flatMap_cons

theorem escape_append (digit escaped : Char) (left right : List Char) :
    escape digit escaped (left ++ right) =
      escape digit escaped left ++ escape digit escaped right :=
  List.flatMap_append

/-- Escaping tildes and then slashes is one pass, because the first makes no slash. -/
theorem escape_slashes (segment : List Char) :
    escape '1' '/' (escape '0' '~' segment) = segment.flatMap encodedAs := by
  induction segment with
  | nil => rfl
  | cons c rest ih =>
    have first : escape '1' '/' (if c = '~' then ['~', '0'] else [c]) = encodedAs c := by
      unfold encodedAs
      split
      · rfl
      · simp [escape]
    rw [escape_cons, escape_append, first, ih, List.flatMap_cons]

theorem toList_encodeSegment (segment : String) :
    (encodeSegment segment).toList = segment.toList.flatMap encodedAs := by
  rw [encodeSegment, String.toList_ofList, escape_slashes]

theorem encodedAs_plain {c : Char} (tilde : c ≠ '~') (slash : c ≠ '/') : encodedAs c = [c] := by
  rw [encodedAs, if_neg tilde, if_neg slash]

theorem unescape_plain {digit restored c : Char} (tilde : c ≠ '~') (rest : List Char) :
    unescape digit restored (c :: rest) = c :: unescape digit restored rest := by
  rw [unescape]
  simp [tilde]

theorem unescape_slashes (segment : List Char) :
    unescape '1' '/' (segment.flatMap encodedAs) = segment.flatMap halfEncodedAs := by
  induction segment with
  | nil => simp [unescape]
  | cons c rest ih =>
    by_cases tilde : c = '~'
    · subst tilde
      simp [encodedAs, halfEncodedAs, unescape, ih]
    · by_cases slash : c = '/'
      · subst slash
        simp [encodedAs, halfEncodedAs, unescape, ih]
      · simp [encodedAs_plain tilde slash, halfEncodedAs, tilde, unescape_plain tilde, ih]

theorem unescape_tildes (segment : List Char) :
    unescape '0' '~' (segment.flatMap halfEncodedAs) = segment := by
  induction segment with
  | nil => simp [unescape]
  | cons c rest ih =>
    by_cases tilde : c = '~'
    · subst tilde
      simp [halfEncodedAs, unescape, ih]
    · simp [halfEncodedAs, tilde, unescape_plain tilde, ih]

/-- Decoding a segment undoes encoding it. -/
theorem decodeSegment_encodeSegment (segment : String) :
    String.ofList (decodeSegment (encodeSegment segment).toList) = segment := by
  rw [toList_encodeSegment, decodeSegment, unescape_slashes, unescape_tildes, String.ofList_toList]

/-! ## Paths -/

theorem isSegmentChar_slash : isSegmentChar '/' = false := rfl

theorem toList_encode (first : String) (others : List String) :
    (encode (first :: others)).toList = '/' :: ['/'].intercalate
      ((first :: others).map fun segment => (encodeSegment segment).toList) := by
  induction others generalizing first with
  | nil => simp [encode]
  | cons second others ih =>
    have split : encode (first :: second :: others) =
        "/" ++ encodeSegment first ++ encode (second :: others) := by simp [encode]
    rw [split, String.toList_append, ih, List.map_cons, List.map_cons, List.map_cons,
      List.intercalate_cons_cons]
    simp

/-- The characters of an encoded segment may stand in a pointer text. -/
theorem isSegmentChar_of_mem_encoded {segment : String} (valid : isSegment segment = true) {c : Char}
    (inside : c ∈ (encodeSegment segment).toList) : isSegmentChar c = true := by
  simp only [isSegment, Bool.and_eq_true, List.all_eq_true, Bool.or_eq_true, beq_iff_eq] at valid
  rw [toList_encodeSegment, List.mem_flatMap] at inside
  obtain ⟨d, original, made⟩ := inside
  have digits : isSegmentChar '~' = true ∧ isSegmentChar '0' = true ∧ isSegmentChar '1' = true :=
    ⟨rfl, rfl, rfl⟩
  unfold encodedAs at made
  split at made
  · simp only [List.mem_cons, List.not_mem_nil, or_false] at made
    rcases made with rfl | rfl
    · exact digits.1
    · exact digits.2.1
  · split at made
    · simp only [List.mem_cons, List.not_mem_nil, or_false] at made
      rcases made with rfl | rfl
      · exact digits.1
      · exact digits.2.2
    · obtain rfl := List.mem_singleton.mp made
      exact (valid.2 c original).resolve_right ‹c ≠ '/'›

theorem encodeSegment_ne_nil {segment : String} (valid : isSegment segment = true) :
    (encodeSegment segment).toList ≠ [] := by
  simp only [isSegment, Bool.and_eq_true, bne_iff_ne] at valid
  rw [toList_encodeSegment]
  obtain ⟨c, rest, letters⟩ := List.exists_cons_of_ne_nil valid.1
  rw [letters, List.flatMap_cons]
  unfold encodedAs
  split
  · simp
  · split <;> simp

/-- A pointer text stands for the path that it was made from. -/
theorem decode?_encode {path : List String} (filled : path ≠ [])
    (valid : ∀ segment ∈ path, isSegment segment = true) : decode? (encode path) = some path := by
  obtain ⟨first, others, rfl⟩ := List.exists_cons_of_ne_nil filled
  have slashFree : ∀ part ∈ (first :: others).map fun segment => (encodeSegment segment).toList,
      '/' ∉ part := by
    intro part made slash
    obtain ⟨segment, inside, rfl⟩ := List.mem_map.mp made
    have allowed := isSegmentChar_of_mem_encoded (valid segment inside) slash
    rw [isSegmentChar_slash] at allowed
    cases allowed
  unfold decode?
  rw [toList_encode]
  simp only [List.splitOn_intercalate '/' slashFree (by simp)]
  rw [if_pos]
  · rw [List.map_map, Option.some_inj]
    exact (List.map_congr_left fun segment _ => decodeSegment_encodeSegment segment).trans
      (List.map_id _)
  · rw [List.all_eq_true]
    intro part made
    obtain ⟨segment, inside, rfl⟩ := List.mem_map.mp made
    rw [Bool.and_eq_true, bne_iff_ne, List.all_eq_true]
    exact ⟨encodeSegment_ne_nil (valid segment inside),
      fun c here => isSegmentChar_of_mem_encoded (valid segment inside) here⟩

/-! ## Decoded segments -/

theorem unescape_ne_nil {digit restored : Char} {text : List Char} (filled : text ≠ []) :
    unescape digit restored text ≠ [] := by
  fun_cases unescape digit restored text <;> simp_all

theorem mem_unescape {digit restored c : Char} {text : List Char}
    (inside : c ∈ unescape digit restored text) : c = restored ∨ c ∈ text := by
  fun_induction unescape digit restored text with
  | case1 rest ih =>
    rcases List.mem_cons.mp inside with rfl | inside
    · exact .inl rfl
    · exact (ih inside).imp_right fun there => by simp [there]
  | case2 d rest other ih =>
    rcases List.mem_cons.mp inside with rfl | inside
    · exact .inr List.mem_cons_self
    · exact (ih inside).imp_right (List.mem_cons_of_mem _)
  | case3 d rest other ih =>
    rcases List.mem_cons.mp inside with rfl | inside
    · exact .inr List.mem_cons_self
    · exact (ih inside).imp_right (List.mem_cons_of_mem _)
  | case4 => simp at inside

/-- The segments that a pointer text stands for can be written in one. -/
theorem segments_of_decode? {text : String} {path : List String} (read : decode? text = some path) :
    path ≠ [] ∧ ∀ segment ∈ path, isSegment segment = true := by
  unfold decode? at read
  split at read
  next rest _ =>
    dsimp only at read
    split at read
    next valid =>
      cases read
      refine ⟨by simp [List.splitOn_ne_nil], fun segment inside => ?_⟩
      obtain ⟨part, here, rfl⟩ := List.mem_map.mp inside
      have allowed := List.all_eq_true.mp valid part here
      rw [Bool.and_eq_true, bne_iff_ne, List.all_eq_true] at allowed
      rw [isSegment, String.toList_ofList, Bool.and_eq_true, bne_iff_ne, List.all_eq_true]
      refine ⟨unescape_ne_nil (unescape_ne_nil allowed.1), fun c decoded => ?_⟩
      rw [Bool.or_eq_true, beq_iff_eq]
      rcases mem_unescape decoded with rfl | decoded
      · exact .inl rfl
      · exact (mem_unescape decoded).symm.imp_left (allowed.2 c)
    next => cases read
  next => cases read

end Sift.Pointer
