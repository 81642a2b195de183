import Sift.Query

/-!
# Filtering

A query filters a collection by keeping what it answers with true, in order. The first error ends
the whole run.
-/

namespace Sift

/-- The elements that a test holds of, tested from left to right. -/
def select {ν ε α : Type} (holds : α → Traced ν ε Bool) : List α → Traced ν ε (List α)
  | [] => return []
  | a :: rest => do
    let isKept ← holds a
    let kept ← select holds rest
    return if isKept then a :: kept else kept

namespace Query

/-- The elements of a list that satisfy the query, and the event that reports it. -/
def filter {α : Type} [Host α] (q : Query) (items : List α) :
    Traced Datum EvalError (List α × Event) := do
  let kept ← select q.evaluate items
  return (kept, .kept kept.length items.length)

/-- The entries of a dictionary whose values satisfy the query. -/
def filterDict {κ α : Type} [Host α] (q : Query) (dict : Dict κ α) :
    Traced Datum EvalError (Dict κ α) := do
  let kept ← select (fun (_, value) => q.evaluate value) dict.entries
  return ⟨kept⟩

/-- A list or a map without what does not satisfy the query; a map is filtered by its values. -/
def filterDatum (q : Query) : Datum → Traced Datum EvalError Datum
  | .list items => return .list (← select q.evaluateDatum items)
  | .map entries => return .map (← select (fun (_, value) => q.evaluateDatum value) entries)
  | .pairs entries => return .pairs (← select (fun (_, value) => q.evaluateDatum value) entries)
  | other => .fail (.notFilterable other.kind)

end Query

end Sift
