/-!
# Tables of code points

A class of characters is given by the ranges of its code points in increasing order, or, where every
second one belongs to it, by runs with a stride.  `PointTable.holds` looks a point up in ranges by
bisection.
-/

namespace EffectGraph

/-- Every `stride`-th code point from `first` to `last`. -/
structure PointRun where
  first : Nat
  last : Nat
  stride : Nat

/-- Is a code point in the run? -/
def PointRun.holds (r : PointRun) (point : Nat) : Bool :=
  r.first ≤ point && point ≤ r.last && (point - r.first) % r.stride == 0

namespace PointTable

/-- Does some range among those with index in `[low, low + span)` hold `point`?  The ranges are in
increasing order, so each comparison halves the span. -/
def search (ranges : Array (Nat × Nat)) (point : Nat) : Nat → Nat → Nat → Bool
  | 0, _, _ => false
  | fuel + 1, low, span =>
    if span == 0 then false
    else
      let half := span / 2
      match ranges[low + half]? with
      | none => false
      | some (first, last) =>
        if point < first then search ranges point fuel low half
        else if last < point then search ranges point fuel (low + half + 1) (span - half - 1)
        else true

/-- **Does one of the ranges hold a character?** -/
def holds (ranges : Array (Nat × Nat)) (c : Char) : Bool :=
  search ranges c.toNat (ranges.size + 1) 0 ranges.size

end PointTable
end EffectGraph
