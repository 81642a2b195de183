/-!
# Sorted entries

Maps, documents and schemas keep their entries in the order of their keys, one entry per key; a
later entry replaces an earlier one under the same key. They are plain lists of pairs, and the
operation that keeps them so is `insertEntry`.
-/

namespace Sift

variable {κ α : Type} [Ord κ]

/-- Puts a value under a key, in order, replacing what was there. -/
def insertEntry (key : κ) (value : α) : List (κ × α) → List (κ × α)
  | [] => [(key, value)]
  | (k, v) :: rest =>
    match compare key k with
    | .lt => (key, value) :: (k, v) :: rest
    | .eq => (key, value) :: rest
    | .gt => (k, v) :: insertEntry key value rest

/-- The entries of a list in the order of their keys; of equal keys the last one stays. -/
def sortEntries (entries : List (κ × α)) : List (κ × α) :=
  entries.foldl (fun sorted (key, value) => insertEntry key value sorted) []

end Sift
