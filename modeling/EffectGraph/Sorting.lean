/-!
# Sorting

`Sorting.sort` sorts a row by an order that may refuse to compare, so which items are compared can be
seen: the run that the row begins with is taken as it is, or turned round if it descends, and every
further item is put behind all that do not exceed it, found by halving.  When a comparison is refused
the row stays as far sorted as it is.
-/

namespace EffectGraph
namespace Sorting

variable {α ε : Type}

/-- The items that go on a run whose last item heads `run`, put onto it, and the others.  A run goes
on as long as the next item is smaller, or is not, as `descends` says. -/
def extendRun (less : α → α → Except ε Bool) (descends : Bool) :
    List α → List α → Except ε (List α × List α)
  | last :: run, item :: rest => do
    if (← less item last) == descends then extendRun less descends (item :: last :: run) rest
    else return (last :: run, item :: rest)
  | run, rest => .ok (run, rest)

/-- The run that a row begins with, its items in increasing order, and the items behind it. -/
def firstRun (less : α → α → Except ε Bool) : List α → Except ε (List α × List α)
  | a :: b :: rest => do
    let descends ← less b a
    let (run, rest) ← extendRun less descends [b, a] rest
    return (if descends then run else run.reverse, rest)
  | row => .ok (row, [])

/-- The place behind all items of a sorted row that do not exceed a new one, which is known to lie
between two others. -/
def placeBetween (less : α → α → Except ε Bool) (new : α) (row : Array α) (low high : Nat) :
    Except ε Nat := do
  if low < high then
    let middle := low + (high - low) / 2
    match row[middle]? with
    | none => return high
    | some item =>
      if ← less new item then placeBetween less new row low middle
      else placeBetween less new row (middle + 1) high
  else return low
termination_by high - low
decreasing_by all_goals omega

/-- A sorted row with a new item in its place. -/
def insert (less : α → α → Except ε Bool) (row : Array α) (new : α) : Except ε (Array α) := do
  return row.insertIdxIfInBounds (← placeBetween less new row 0 row.size) new

/-- A sorted row with all of some new items in their places, or a refusal with the row so far and the
items that are left. -/
def insertAll (less : α → α → Except ε Bool) : Array α → List α → Except (ε × List α) (List α)
  | row, [] => .ok row.toList
  | row, new :: rest =>
    match insert less row new with
    | .ok row => insertAll less row rest
    | .error e => .error (e, row.toList ++ new :: rest)

/-- **A row sorted,** or a refusal with the row so far.  Items of which none is smaller keep their
order. -/
def sort (less : α → α → Except ε Bool) (row : List α) : Except (ε × List α) (List α) :=
  match firstRun less row with
  | .ok (run, rest) => insertAll less run.toArray rest
  | .error e => .error (e, row)

end Sorting
end EffectGraph
