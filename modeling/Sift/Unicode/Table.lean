import Sift.Text.Digits

/-!
# Tables over code points

Properties of characters come as runs of code points. A table keeps the start of each run with
what holds from there on, in increasing order, and a character is looked up by halving. The
tables themselves are written as rows of entries with blanks between them, code points in
hexadecimal. They state version 15.1 of the Unicode character database.
-/

namespace Sift.Unicode

/-- The number that a row of hexadecimal digits denotes. -/
def hexValue (digits : String) : Nat := rowValue 16 digits.toList

/-- The entries of the rows of a table, each split at a mark. -/
def splitEntries (mark : String) (rows : List String) : Array (List String) :=
  (rows.flatMap (·.splitOn " ")).toArray.map (·.splitOn mark)

/-- What the entry with the greatest start not above `n` says. -/
def lookUp {α : Type} (table : Array (Nat × α)) (n : Nat) : Option α :=
  go 0 table.size
where
  /-- Entries before `low` start at or below `n`, those from `high` on above it. -/
  go (low high : Nat) : Option α :=
    if h : low < high ∧ high ≤ table.size then
      let middle := (low + high) / 2
      have : middle < table.size := by omega
      if table[middle].1 ≤ n then go (middle + 1) high else go low middle
    else if low = 0 then none
    else (table[low - 1]?).map (·.2)
  termination_by high - low
  decreasing_by all_goals omega

/-- A set of characters as the first and last code points of its runs. -/
structure CharSet where
  runs : Array (Nat × Nat)

namespace CharSet

/-- Reads entries of the form `first-last`, or a single code point. -/
def ofRows (rows : List String) : CharSet :=
  ⟨(splitEntries "-" rows).filterMap fun
    | [one] => some (hexValue one, hexValue one)
    | [first, last] => some (hexValue first, hexValue last)
    | _ => none⟩

/-- Whether a character is in the set. -/
def contains (set : CharSet) (c : Char) : Bool :=
  match lookUp set.runs c.toNat with
  | some last => c.toNat ≤ last
  | none => false

end CharSet

end Sift.Unicode
