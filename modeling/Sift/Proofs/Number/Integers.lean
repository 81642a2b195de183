import Mathlib
import Sift.Proofs.Number.Numerals

/-!
# Integers in texts

An integer is written as groups of digits with one underscore between two of them, behind a mark
that selects the radix: a zero and a letter, or the zero alone for octal. In front of that a signed
integer may have a sign. Nothing bounds the length of such a text, so the integer that it denotes is
read first (`SignedMagnitude.readSigned?_eq_some_iff`), and then a type of any width either holds it
or finds it out of range (`integers_read_exactly`).
-/

namespace Sift

/-! ## Digits -/

/-- Beyond the first 128 characters there are no digits. -/
theorem digitValue_of_not_ascii {c : Char} (high : 128 ≤ c.toNat) : digitValue c = 16 := by
  have bounded {last : Char} (low : last.toNat < 128) : ¬c ≤ last := fun below => by
    have : c.toNat ≤ last.toNat := UInt32.le_iff_toNat_le.mp below
    omega
  have noDigit : ¬c.isDigit = true := fun digit => by
    have top : '9'.toNat < 128 := by decide
    have := (Char.isDigit_iff_toNat.mp digit).2
    omega
  rw [digitValue, if_neg noDigit, if_neg fun lower => bounded (by decide) lower.2,
    if_neg fun upper => bounded (by decide) upper.2]

/-- A digit of a radix, which is at most sixteen. -/
structure Digit (radix : Nat) where
  value : Fin radix
  /-- A letter may be a capital one. -/
  upper : Bool := false

namespace Digit

variable {radix : Nat}

/-- How the digit is written. -/
def char (d : Digit radix) : Char :=
  if d.upper then d.value.val.digitChar.toUpper else d.value.val.digitChar

theorem digitValue_char (small : radix ≤ 16) (d : Digit radix) : digitValue d.char = d.value := by
  have all : ∀ (v : Fin 16) (upper : Bool),
      digitValue (if upper then v.val.digitChar.toUpper else v.val.digitChar) = v := by decide
  exact all ⟨d.value, by omega⟩ d.upper

theorem isDigitOf_char (small : radix ≤ 16) (d : Digit radix) : isDigitOf radix d.char = true := by
  rw [isDigitOf, digitValue_char small]
  exact decide_eq_true d.value.isLt

/-- A digit is not written as a character that is none of the radix. -/
theorem char_ne (small : radix ≤ 16) (d : Digit radix) {mark : Char}
    (noDigit : radix ≤ digitValue mark) : d.char ≠ mark := by
  rintro rfl
  rw [digitValue_char small] at noDigit
  exact absurd d.value.isLt (Nat.not_lt.mpr noDigit)

theorem exists_char {c : Char} (small : radix ≤ 16) (digit : isDigitOf radix c = true) :
    ∃ d : Digit radix, d.char = c := by
  have below : digitValue c < radix := of_decide_eq_true digit
  have ascii : c.toNat < 128 := by
    by_contra high
    have := digitValue_of_not_ascii (Nat.le_of_not_lt high)
    omega
  -- Only 128 characters are left, and each is the small or the capital form of its value.
  have all : ∀ n : Fin 128, digitValue (Char.ofNat n) < 16 →
      ∃ upper : Bool, (if upper then (digitValue (Char.ofNat n)).digitChar.toUpper
        else (digitValue (Char.ofNat n)).digitChar) = Char.ofNat n := by decide
  obtain ⟨upper, same⟩ := all ⟨c.toNat, ascii⟩ (by rw [Char.ofNat_toNat]; omega)
  rw [Char.ofNat_toNat] at same
  exact ⟨⟨⟨digitValue c, below⟩, upper⟩, same⟩

/-- A row of digits denotes the number that has these digits. -/
theorem rowValue_map_char (small : radix ≤ 16) (row : List (Digit radix)) :
    rowValue radix (row.map char) =
      Nat.ofDigits radix (row.reverse.map fun d => (d.value : Nat)) := by
  rw [rowValue, List.foldl_map, Nat.ofDigits_eq_foldr, List.foldr_map, List.foldr_reverse]
  refine List.foldl_ext _ _ 0 fun sofar d _ => ?_
  rw [digitValue_char small, Nat.add_comm]
  rfl

end Digit

/-! ## Groups of digits -/

/-- Digits of a radix in groups, none of which is empty. -/
structure DigitGroups (radix : Nat) where
  groups : List (List (Digit radix))
  filled : groups ≠ []
  groupsFilled : ∀ group ∈ groups, group ≠ []

namespace DigitGroups

variable {radix : Nat}

/-- The digits with one underscore between two groups. -/
def text (g : DigitGroups radix) : List Char :=
  ['_'].intercalate (g.groups.map (List.map Digit.char))

/-- The number of which these are the digits. -/
def value (g : DigitGroups radix) : Nat :=
  Nat.ofDigits radix (g.groups.flatten.reverse.map fun d => (d.value : Nat))

/-! ### What is written is a run of digits -/

/-- In front of another digit a digit changes nothing. -/
theorem isDigitRun_char_char (small : radix ≤ 16) (d next : Digit radix) (rest : List Char) :
    isDigitRun radix (d.char :: next.char :: rest) = isDigitRun radix (next.char :: rest) := by
  rw [isDigitRun, d.isDigitOf_char small, Bool.true_and]
  exact next.char_ne small small

theorem isDigitRun_group (small : radix ≤ 16) {group : List (Digit radix)} (filled : group ≠ []) :
    isDigitRun radix (group.map Digit.char) = true := by
  induction group with
  | nil => exact absurd rfl filled
  | cons d others ih =>
    cases others with
    | nil => exact d.isDigitOf_char small
    | cons next others =>
      rw [List.map_cons, List.map_cons, isDigitRun_char_char small]
      exact ih (List.cons_ne_nil _ _)

theorem isDigitRun_group_append (small : radix ≤ 16) {group : List (Digit radix)}
    (filled : group ≠ []) (rest : List Char) :
    isDigitRun radix (group.map Digit.char ++ '_' :: rest) = isDigitRun radix rest := by
  induction group with
  | nil => exact absurd rfl filled
  | cons d others ih =>
    cases others with
    | nil =>
      rw [List.map_singleton, List.singleton_append, isDigitRun, d.isDigitOf_char small,
        Bool.true_and]
    | cons next others =>
      rw [List.map_cons, List.map_cons, List.cons_append, List.cons_append,
        isDigitRun_char_char small]
      exact ih (List.cons_ne_nil _ _)

theorem isDigitRun_intercalate (small : radix ≤ 16) {groups : List (List (Digit radix))}
    (filled : groups ≠ []) (groupsFilled : ∀ group ∈ groups, group ≠ []) :
    isDigitRun radix (['_'].intercalate (groups.map (List.map Digit.char))) = true := by
  induction groups with
  | nil => exact absurd rfl filled
  | cons group groups ih =>
    obtain ⟨groupFilled, others⟩ := List.forall_mem_cons.mp groupsFilled
    cases groups with
    | nil =>
      rw [List.map_singleton, List.intercalate_singleton]
      exact isDigitRun_group small groupFilled
    | cons next groups =>
      rw [List.map_cons, List.map_cons, List.intercalate_cons_cons, List.append_assoc,
        List.singleton_append, isDigitRun_group_append small groupFilled]
      exact ih (List.cons_ne_nil _ _) others

theorem isDigitRun_text (small : radix ≤ 16) (g : DigitGroups radix) :
    isDigitRun radix g.text = true :=
  isDigitRun_intercalate small g.filled g.groupsFilled

/-- A run of digits consists of groups. -/
theorem exists_text {digits : List Char} (small : radix ≤ 16)
    (run : isDigitRun radix digits = true) : ∃ g : DigitGroups radix, g.text = digits := by
  fun_induction isDigitRun radix digits with
  | case1 => cases run
  | case2 c =>
    obtain ⟨d, rfl⟩ := Digit.exists_char small run
    exact ⟨⟨[[d]], List.cons_ne_nil _ _, by simp⟩, rfl⟩
  | case3 c rest ih =>
    rw [Bool.and_eq_true] at run
    obtain ⟨d, rfl⟩ := Digit.exists_char small run.1
    obtain ⟨⟨groups, filled, groupsFilled⟩, rfl⟩ := ih run.2
    obtain ⟨group, others, rfl⟩ := List.exists_cons_of_ne_nil filled
    exact ⟨⟨[d] :: group :: others, List.cons_ne_nil _ _,
      List.forall_mem_cons.mpr ⟨List.cons_ne_nil _ _, groupsFilled⟩⟩, List.intercalate_cons_cons⟩
  | case4 c next rest other ih =>
    -- The digit joins the first group of what follows it.
    rw [Bool.and_eq_true] at run
    obtain ⟨d, rfl⟩ := Digit.exists_char small run.1
    obtain ⟨⟨groups, filled, groupsFilled⟩, same⟩ := ih run.2
    obtain ⟨group, others, rfl⟩ := List.exists_cons_of_ne_nil filled
    refine ⟨⟨(d :: group) :: others, List.cons_ne_nil _ _,
      List.forall_mem_cons.mpr ⟨List.cons_ne_nil _ _,
        (List.forall_mem_cons.mp groupsFilled).2⟩⟩, ?_⟩
    rw [← same]
    exact List.intercalate_cons_cons_left

theorem filter_map_char (small : radix ≤ 16) (group : List (Digit radix)) :
    (group.map Digit.char).filter (· ≠ '_') = group.map Digit.char := by
  rw [List.filter_eq_self, List.forall_mem_map]
  exact fun d _ => decide_eq_true (d.char_ne small small)

/-- Without its underscores the text is the row of its digits. -/
theorem filter_intercalate (small : radix ≤ 16) (groups : List (List (Digit radix))) :
    (['_'].intercalate (groups.map (List.map Digit.char))).filter (· ≠ '_') =
      groups.flatten.map Digit.char := by
  induction groups with
  | nil => rfl
  | cons group groups ih =>
    cases groups with
    | nil =>
      rw [List.map_singleton, List.intercalate_singleton, filter_map_char small,
        List.flatten_singleton]
    | cons next groups =>
      have underscore : ['_'].filter (· ≠ '_') = [] := rfl
      rw [List.map_cons] at ih
      rw [List.map_cons, List.map_cons, List.intercalate_cons_cons, List.filter_append,
        List.filter_append, filter_map_char small, underscore, List.append_nil, ih,
        ← List.map_append]
      rfl

theorem runValue_text (small : radix ≤ 16) (g : DigitGroups radix) :
    runValue radix g.text = g.value := by
  rw [runValue, text, filter_intercalate small, Digit.rowValue_map_char small, value]

/-- The text starts with a digit. -/
theorem exists_first (g : DigitGroups radix) :
    ∃ (first : Digit radix) (rest : List Char), g.text = first.char :: rest := by
  obtain ⟨groups, filled, groupsFilled⟩ := g
  obtain ⟨group, others, rfl⟩ := List.exists_cons_of_ne_nil filled
  obtain ⟨first, group, rfl⟩ := List.exists_cons_of_ne_nil (groupsFilled group List.mem_cons_self)
  exact ⟨first, _, List.intercalate_cons_cons_left⟩

end DigitGroups

/-! ## Magnitudes -/

/-- What selects the radix of an integer, in front of its digits. -/
inductive RadixMark where
  | none
  | zero
  | binary (upper : Bool)
  | octal (upper : Bool)
  | hexadecimal (upper : Bool)

namespace RadixMark

def text : RadixMark → List Char
  | none => []
  | zero => ['0']
  | binary upper => ['0', if upper then 'B' else 'b']
  | octal upper => ['0', if upper then 'O' else 'o']
  | hexadecimal upper => ['0', if upper then 'X' else 'x']

def radix : RadixMark → Nat
  | none => 10
  | zero | octal _ => 8
  | binary _ => 2
  | hexadecimal _ => 16

theorem radix_le (mark : RadixMark) : mark.radix ≤ 16 := by
  cases mark <;> simp [radix]

end RadixMark

/-- An integer text without a sign. -/
structure Magnitude where
  mark : RadixMark
  digits : DigitGroups mark.radix
  /-- A zero in front of other digits is a mark. -/
  leading : mark = .none → digits.text = ['0'] ∨ digits.text.head? ≠ some '0'

namespace Magnitude

def text (m : Magnitude) : List Char := m.mark.text ++ m.digits.text

def value (m : Magnitude) : Nat := m.digits.value

/-- A zero in front of a character that is no letter of a mark selects octal digits. -/
theorem splitRadix_zero_cons {c : Char} (noLetter : c ∉ ['x', 'X', 'o', 'O', 'b', 'B'])
    (rest : List Char) : splitRadix ('0' :: c :: rest) = (8, c :: rest) := by
  unfold splitRadix
  split
  case h_7 same =>
    cases same
    rfl
  case h_8 other =>
    exact absurd rfl (other c rest)
  all_goals
    next same =>
      cases same
      simp at noLetter

theorem splitRadix_text (m : Magnitude) : splitRadix m.text = (m.mark.radix, m.digits.text) := by
  obtain ⟨mark, digits, leading⟩ := m
  obtain ⟨first, rest, same⟩ := digits.exists_first
  -- The letter of a mark is no octal digit, so the digits behind a lone zero do not look like one.
  cases mark with
  | none =>
    change splitRadix digits.text = (10, digits.text)
    rcases leading rfl with zero | other
    · rw [zero]
      rfl
    · rw [same] at other
      rw [same, Numeral.splitRadix_of_ne_zero fun zero => other (congrArg some zero)]
  | zero =>
    change splitRadix ('0' :: digits.text) = (8, digits.text)
    rw [same, splitRadix_zero_cons]
    intro letter
    have noDigit : ['x', 'X', 'o', 'O', 'b', 'B'].all (8 ≤ digitValue ·) = true := rfl
    exact first.char_ne (RadixMark.radix_le .zero)
      (of_decide_eq_true (List.all_eq_true.mp noDigit _ letter)) rfl
  | binary upper => cases upper <;> rfl
  | octal upper => cases upper <;> rfl
  | hexadecimal upper => cases upper <;> rfl

theorem readMagnitude?_text (m : Magnitude) : readMagnitude? m.text = some m.value := by
  rw [readMagnitude?, m.splitRadix_text]
  dsimp only
  rw [if_pos (m.digits.isDigitRun_text m.mark.radix_le), m.digits.runValue_text m.mark.radix_le,
    value]

/-- Every text is split at a mark. -/
theorem exists_mark (text : List Char) :
    ∃ (mark : RadixMark) (digits : List Char), splitRadix text = (mark.radix, digits) ∧
      mark.text ++ digits = text ∧ (mark = .none → digits = ['0'] ∨ digits.head? ≠ some '0') := by
  unfold splitRadix
  split
  next rest => exact ⟨.hexadecimal false, rest, rfl, rfl, nofun⟩
  next rest => exact ⟨.hexadecimal true, rest, rfl, rfl, nofun⟩
  next rest => exact ⟨.octal false, rest, rfl, rfl, nofun⟩
  next rest => exact ⟨.octal true, rest, rfl, rfl, nofun⟩
  next rest => exact ⟨.binary false, rest, rfl, rfl, nofun⟩
  next rest => exact ⟨.binary true, rest, rfl, rfl, nofun⟩
  next c rest _ _ _ _ _ _ => exact ⟨.zero, c :: rest, rfl, rfl, nofun⟩
  next other =>
    refine ⟨.none, text, rfl, rfl, fun _ => ?_⟩
    cases text with
    | nil => exact .inr nofun
    | cons first rest =>
      by_cases zero : first = '0'
      · subst zero
        cases rest with
        | nil => exact .inl rfl
        | cons c rest => exact absurd rfl (other c rest)
      · exact .inr fun same => zero (Option.some.inj same)

/-- What is read as an unsigned integer is an integer text and denotes what it is read as. -/
theorem readMagnitude?_eq_some_iff {text : List Char} {n : Nat} :
    readMagnitude? text = some n ↔ ∃ m : Magnitude, m.text = text ∧ m.value = n := by
  constructor
  · intro read
    obtain ⟨mark, digits, split, rfl, leading⟩ := exists_mark text
    rw [readMagnitude?, split] at read
    dsimp only at read
    split at read
    next run =>
      obtain ⟨groups, rfl⟩ := DigitGroups.exists_text mark.radix_le run
      rw [groups.runValue_text mark.radix_le] at read
      exact ⟨⟨mark, groups, leading⟩, rfl, Option.some.inj read⟩
    next => cases read
  · rintro ⟨m, rfl, rfl⟩
    exact m.readMagnitude?_text

/-- A magnitude starts with a digit. -/
theorem exists_first (m : Magnitude) :
    ∃ first rest, m.text = first :: rest ∧ isDigitOf 16 first = true := by
  obtain ⟨mark, digits, leading⟩ := m
  obtain ⟨first, rest, same⟩ := digits.exists_first
  cases mark with
  | none =>
    refine ⟨first.char, rest, same, ?_⟩
    exact decide_eq_true ((of_decide_eq_true (first.isDigitOf_char (by decide))).trans (by decide))
  | zero => exact ⟨'0', _, rfl, rfl⟩
  | binary upper => exact ⟨'0', _, rfl, rfl⟩
  | octal upper => exact ⟨'0', _, rfl, rfl⟩
  | hexadecimal upper => exact ⟨'0', _, rfl, rfl⟩

/-- The text denotes the integer without a sign. -/
def Denotes (raw : String) (n : ℤ) : Prop :=
  ∃ m : Magnitude, m.text = raw.toList ∧ (m.value : ℤ) = n

end Magnitude

/-! ## Signed integers -/

/-- What may stand in front of a signed integer. -/
inductive SignMark where
  | none
  | plus
  | minus

namespace SignMark

def text : SignMark → List Char
  | none => []
  | plus => ['+']
  | minus => ['-']

/-- What a magnitude denotes behind the sign. -/
def signed : SignMark → Nat → ℤ
  | none, n | plus, n => n
  | minus, n => -n

end SignMark

/-- A signed integer text. -/
structure SignedMagnitude where
  sign : SignMark
  magnitude : Magnitude

namespace SignedMagnitude

def text (m : SignedMagnitude) : List Char := m.sign.text ++ m.magnitude.text

def value (m : SignedMagnitude) : ℤ := m.sign.signed m.magnitude.value

/-! ### Signs -/

theorem splitSign_magnitude (m : Magnitude) : splitSign m.text = (false, m.text) := by
  obtain ⟨first, rest, same, digit⟩ := m.exists_first
  rw [same]
  unfold splitSign
  split
  next sign =>
    cases sign
    cases digit
  next sign =>
    cases sign
    cases digit
  next => rfl

theorem readSigned?_minus (digits : List Char) :
    readSigned? ('-' :: digits) = (readMagnitude? digits).map SignMark.minus.signed := by
  rw [readSigned?, splitSign]
  dsimp only
  cases readMagnitude? digits <;> rfl

theorem readSigned?_plus (digits : List Char) :
    readSigned? ('+' :: digits) = (readMagnitude? digits).map SignMark.plus.signed := rfl

theorem readSigned?_none {text : List Char} (noSign : splitSign text = (false, text)) :
    readSigned? text = (readMagnitude? text).map SignMark.none.signed := by
  rw [readSigned?, noSign]
  rfl

/-- Every text is split at a sign. -/
theorem exists_sign (text : List Char) :
    ∃ (sign : SignMark) (digits : List Char), sign.text ++ digits = text ∧
      readSigned? text = (readMagnitude? digits).map sign.signed := by
  have cases : (∃ rest, text = '-' :: rest) ∨ (∃ rest, text = '+' :: rest) ∨
      splitSign text = (false, text) := by
    unfold splitSign
    split
    next rest => exact .inl ⟨rest, rfl⟩
    next rest => exact .inr (.inl ⟨rest, rfl⟩)
    next => exact .inr (.inr rfl)
  rcases cases with ⟨rest, rfl⟩ | ⟨rest, rfl⟩ | noSign
  · exact ⟨.minus, rest, rfl, readSigned?_minus rest⟩
  · exact ⟨.plus, rest, rfl, readSigned?_plus rest⟩
  · exact ⟨.none, text, rfl, readSigned?_none noSign⟩

theorem readSigned?_text (m : SignedMagnitude) : readSigned? m.text = some m.value := by
  obtain ⟨sign, magnitude⟩ := m
  have read := magnitude.readMagnitude?_text
  cases sign with
  | none =>
    change readSigned? magnitude.text = _
    rw [readSigned?_none (splitSign_magnitude magnitude), read]
    rfl
  | plus =>
    change readSigned? ('+' :: magnitude.text) = _
    rw [readSigned?_plus, read]
    rfl
  | minus =>
    change readSigned? ('-' :: magnitude.text) = _
    rw [readSigned?_minus, read]
    rfl

/-- What is read as a signed integer is an integer text and denotes what it is read as. -/
theorem readSigned?_eq_some_iff {text : List Char} {n : ℤ} :
    readSigned? text = some n ↔ ∃ m : SignedMagnitude, m.text = text ∧ m.value = n := by
  constructor
  · intro read
    obtain ⟨sign, digits, rfl, split⟩ := exists_sign text
    rw [split, Option.map_eq_some_iff] at read
    obtain ⟨k, read, rfl⟩ := read
    obtain ⟨magnitude, rfl, rfl⟩ := Magnitude.readMagnitude?_eq_some_iff.mp read
    exact ⟨⟨sign, magnitude⟩, rfl, rfl⟩
  · rintro ⟨m, rfl, rfl⟩
    exact m.readSigned?_text

/-- The text denotes the integer, which may be signed. -/
def Denotes (raw : String) (n : ℤ) : Prop :=
  ∃ m : SignedMagnitude, m.text = raw.toList ∧ m.value = n

end SignedMagnitude

/-! ## Decimal texts -/

/-- The decimal text of a positive number has no leading zero. -/
theorem head?_toDigits {n : Nat} (positive : 0 < n) : (Nat.toDigits 10 n).head? ≠ some '0' := by
  induction n using Nat.strongRec with
  | ind n ih =>
    rw [Nat.toDigits_eq_if (by decide)]
    split
    next => simp [positive.ne']
    next =>
      rw [List.head?_append_of_ne_nil _ Nat.toDigits_ne_nil]
      exact ih (n / 10) (by omega) (by omega)

theorem readMagnitude?_toDigits (n : Nat) : readMagnitude? (Nat.toDigits 10 n) = some n := by
  have digits : ∀ c ∈ Nat.toDigits 10 n, c.isDigit = true := fun c inside =>
    Nat.isDigit_of_mem_toDigits (by decide) (Nat.le_refl 10) inside
  have split : splitRadix (Nat.toDigits 10 n) = (10, Nat.toDigits 10 n) := by
    rcases Nat.eq_zero_or_pos n with rfl | positive
    · rfl
    · have noZero := head?_toDigits positive
      have filled : Nat.toDigits 10 n ≠ [] := Nat.toDigits_ne_nil
      obtain ⟨first, rest, same⟩ := List.exists_cons_of_ne_nil filled
      rw [same] at noZero ⊢
      exact Numeral.splitRadix_of_ne_zero (fun zero => noZero (congrArg some zero)) rest
  rw [readMagnitude?, split]
  dsimp only
  rw [if_pos (isDigitRun_of_digits Nat.toDigits_ne_nil digits), runValue_of_digits digits,
    rowValue_toDigits]

theorem readMagnitude?_toString (n : Nat) : readMagnitude? (toString n).toList = some n := by
  rw [Nat.toString_eq_ofList_toDigits, String.toList_ofList, readMagnitude?_toDigits]

theorem readSigned?_toString (n : ℤ) : readSigned? (toString n).toList = some n := by
  cases n with
  | ofNat n =>
    have read := readMagnitude?_toString n
    obtain ⟨m, text, -⟩ := Magnitude.readMagnitude?_eq_some_iff.mp read
    change readSigned? (toString n).toList = _
    rw [SignedMagnitude.readSigned?_none (text ▸ SignedMagnitude.splitSign_magnitude m), read]
    rfl
  | negSucc n =>
    change readSigned? ("-" ++ toString (n + 1)).toList = _
    rw [String.toList_append]
    change readSigned? ('-' :: (toString (n + 1)).toList) = _
    rw [SignedMagnitude.readSigned?_minus, readMagnitude?_toString]
    rfl

/-! ## Types -/

/-- A type reads the texts that denote an integer within its bounds as that integer, and it tells
apart the texts that denote another one and those that denote none. -/
structure LiteralType.ReadsExactly {α : Type} (type : LiteralType) (literalOf : α → Literal)
    (number : α → ℤ) (Denotes : String → ℤ → Prop) (low high : ℤ) : Prop where
  within (raw : String) (literal : Literal) : type.read raw = .ok literal ↔
    ∃ a, literal = literalOf a ∧ Denotes raw (number a) ∧ low ≤ number a ∧ number a ≤ high
  beyond (raw : String) : type.read raw = .error (.outOfRange type raw) ↔
    ∃ n, Denotes raw n ∧ ¬(low ≤ n ∧ n ≤ high)
  malformed (raw : String) : type.read raw = .error (.malformed type raw) ↔ ¬∃ n, Denotes raw n
  decimal (n : ℤ) : low ≤ n → n ≤ high →
    ∃ a, number a = n ∧ type.read (toString n) = .ok (literalOf a)

namespace LiteralType

section ReadsExactly

variable {α : Type} {type : LiteralType} {literalOf : α → Literal} {number : α → ℤ}
  {Denotes : String → ℤ → Prop} {low high : ℤ} {denoted? : String → Option ℤ}

/-- A type that goes by the integer that a text denotes and by its bounds has one of three answers. -/
theorem read_cases_of_denoted? (ofInt : ℤ → α)
    (spec : ∀ raw n, denoted? raw = some n ↔ Denotes raw n)
    (holds : ∀ n, low ≤ n → n ≤ high → number (ofInt n) = n)
    (reads : ∀ raw, type.read raw = match denoted? raw with
      | none => .error (.malformed type raw)
      | some n => if low ≤ n ∧ n ≤ high then .ok (literalOf (ofInt n))
        else .error (.outOfRange type raw)) (raw : String) :
    (type.read raw = .error (.malformed type raw) ∧ ∀ n, ¬Denotes raw n) ∨
      (∃ n, type.read raw = .error (.outOfRange type raw) ∧ ¬(low ≤ n ∧ n ≤ high) ∧
        ∀ m, Denotes raw m ↔ m = n) ∨
      ∃ a, type.read raw = .ok (literalOf a) ∧ (low ≤ number a ∧ number a ≤ high) ∧
        ∀ m, Denotes raw m ↔ m = number a := by
  have read := reads raw
  cases denoted : denoted? raw with
  | none =>
    rw [denoted] at read
    refine .inl ⟨read, fun n denotes => ?_⟩
    rw [(spec raw n).mpr denotes] at denoted
    cases denoted
  | some n =>
    have only (m : ℤ) : Denotes raw m ↔ m = n := by
      rw [← spec, denoted, Option.some_inj, eq_comm]
    rw [denoted] at read
    dsimp only at read
    split at read
    next range =>
      have same := holds n range.1 range.2
      exact .inr (.inr ⟨ofInt n, read, same.symm ▸ range, same.symm ▸ only⟩)
    next range => exact .inr (.inl ⟨n, read, range, only⟩)

theorem readsExactly_of_read_cases (injective : Function.Injective number)
    (outcome : ∀ raw, (type.read raw = .error (.malformed type raw) ∧ ∀ n, ¬Denotes raw n) ∨
      (∃ n, type.read raw = .error (.outOfRange type raw) ∧ ¬(low ≤ n ∧ n ≤ high) ∧
        ∀ m, Denotes raw m ↔ m = n) ∨
      ∃ a, type.read raw = .ok (literalOf a) ∧ (low ≤ number a ∧ number a ≤ high) ∧
        ∀ m, Denotes raw m ↔ m = number a)
    (decimal : ∀ n, low ≤ n → Denotes (toString n) n) :
    type.ReadsExactly literalOf number Denotes low high where
  within raw literal := by
    rcases outcome raw with ⟨read, none⟩ | ⟨n, read, beyond, only⟩ | ⟨a, read, range, only⟩
    · rw [read]
      exact ⟨nofun, fun ⟨a, _, denotes, _⟩ => absurd denotes (none _)⟩
    · rw [read]
      exact ⟨nofun, fun ⟨a, _, denotes, range⟩ => absurd ((only _).mp denotes ▸ range) beyond⟩
    · rw [read]
      constructor
      · intro same
        cases same
        exact ⟨a, rfl, (only _).mpr rfl, range⟩
      · rintro ⟨b, rfl, denotes, -⟩
        rw [injective ((only _).mp denotes)]
  beyond raw := by
    rcases outcome raw with ⟨read, none⟩ | ⟨n, read, beyond, only⟩ | ⟨a, read, range, only⟩
    · rw [read]
      exact ⟨nofun, fun ⟨n, denotes, _⟩ => absurd denotes (none n)⟩
    · exact ⟨fun _ => ⟨n, (only n).mpr rfl, beyond⟩, fun _ => read⟩
    · rw [read]
      exact ⟨nofun, fun ⟨n, denotes, beyond⟩ => absurd ((only n).mp denotes ▸ range) beyond⟩
  malformed raw := by
    rcases outcome raw with ⟨read, none⟩ | ⟨n, read, -, only⟩ | ⟨a, read, -, only⟩
    · exact ⟨fun _ ⟨n, denotes⟩ => none n denotes, fun _ => read⟩
    · rw [read]
      exact ⟨nofun, fun none => absurd ⟨n, (only n).mpr rfl⟩ none⟩
    · rw [read]
      exact ⟨nofun, fun none => absurd ⟨number a, (only _).mpr rfl⟩ none⟩
  decimal n above below := by
    have denotes := decimal n above
    rcases outcome (toString n) with ⟨-, none⟩ | ⟨m, -, beyond, only⟩ | ⟨a, read, -, only⟩
    · exact absurd denotes (none n)
    · exact absurd ((only n).mp denotes ▸ ⟨above, below⟩) beyond
    · exact ⟨a, ((only n).mp denotes).symm, read⟩

end ReadsExactly

theorem int_readsExactly (width : Width) :
    (int width).ReadsExactly Literal.int Int64.toInt SignedMagnitude.Denotes
      (-2 ^ (width.bits - 1)) (2 ^ (width.bits - 1) - 1) := by
  have bound : ((1 <<< (width.bits - 1) : ℕ) : ℤ) = 2 ^ (width.bits - 1) := by
    rw [Nat.one_shiftLeft]
    push_cast
    rfl
  have wide : (2 : ℤ) ^ (width.bits - 1) ≤ 2 ^ 63 := by cases width <;> decide
  have spec (raw : String) (n : ℤ) :
      readSigned? raw.toList = some n ↔ SignedMagnitude.Denotes raw n :=
    SignedMagnitude.readSigned?_eq_some_iff
  refine readsExactly_of_read_cases (fun _ _ => Int64.toInt_inj.mp)
    (read_cases_of_denoted? Int64.ofInt spec (fun n low high => ?_) fun raw => ?_)
    fun n _ => (spec _ n).mp (readSigned?_toString n)
  · exact Int64.toInt_ofInt_of_le (by omega) (by omega)
  · rw [read_int]
    cases readSigned? raw.toList with
    | none => rfl
    | some n =>
      dsimp only
      rw [bound]
      exact if_congr (and_congr_right' Int.le_sub_one_iff.symm) rfl rfl

theorem uint_readsExactly (width : Width) :
    (uint width).ReadsExactly Literal.uint (fun k => (k.toNat : ℤ)) Magnitude.Denotes 0
      (2 ^ width.bits - 1) := by
  have bound : ((1 <<< width.bits : ℕ) : ℤ) = 2 ^ width.bits := by
    rw [Nat.one_shiftLeft]
    push_cast
    rfl
  have wide : (2 : ℤ) ^ width.bits ≤ 2 ^ 64 := by cases width <;> decide
  have spec (raw : String) (n : ℤ) :
      (readMagnitude? raw.toList).map Int.ofNat = some n ↔ Magnitude.Denotes raw n := by
    rw [Option.map_eq_some_iff]
    simp only [Magnitude.readMagnitude?_eq_some_iff]
    constructor
    · rintro ⟨_, ⟨m, text, rfl⟩, rfl⟩
      exact ⟨m, text, rfl⟩
    · rintro ⟨m, text, rfl⟩
      exact ⟨_, ⟨m, text, rfl⟩, rfl⟩
  refine readsExactly_of_read_cases (fun _ _ same => UInt64.toNat_inj.mp (Int.ofNat_inj.mp same))
    (read_cases_of_denoted? (fun n => UInt64.ofNat n.toNat) spec (fun n low high => ?_)
      fun raw => ?_)
    fun n low => (spec _ n).mp ?_
  · rw [UInt64.toNat_ofNat_of_lt']
    · exact Int.toNat_of_nonneg low
    · have size : UInt64.size = 2 ^ 64 := rfl
      omega
  · rw [read_uint]
    cases readMagnitude? raw.toList with
    | none => rfl
    | some n =>
      have same : n < 1 <<< width.bits ↔ (0 : ℤ) ≤ n ∧ (n : ℤ) ≤ 2 ^ width.bits - 1 := by
        rw [← bound]
        omega
      exact if_congr same rfl rfl
  · obtain ⟨k, rfl⟩ := Int.eq_ofNat_of_zero_le low
    exact congrArg (Option.map Int.ofNat) (readMagnitude?_toString k)

end LiteralType

/-- Integers of every width are read exactly. -/
theorem integers_read_exactly (width : Width) :
    (LiteralType.int width).ReadsExactly Literal.int Int64.toInt SignedMagnitude.Denotes
        (-2 ^ (width.bits - 1)) (2 ^ (width.bits - 1) - 1) ∧
      (LiteralType.uint width).ReadsExactly Literal.uint (fun k => (k.toNat : ℤ))
        Magnitude.Denotes 0 (2 ^ width.bits - 1) :=
  ⟨LiteralType.int_readsExactly width, LiteralType.uint_readsExactly width⟩

example : (LiteralType.int .w8).read "-0x8_0" = .ok (.int (-128)) := by rfl

example : (LiteralType.uint .w16).read "0b1__0" =
    .error (.malformed (.uint .w16) "0b1__0") := by decide

end Sift
