/-!
# Runs of characters that change case alike

Most characters that change with case move by one distance together with their neighbours.  A run
says which code points move, how far and in which direction.
-/

namespace EffectGraph

/-- Every `stride`-th code point from `first` to `last` moves by `distance`, upwards if `up`. -/
structure CaseRun where
  first : Nat
  last : Nat
  stride : Nat
  up : Bool
  distance : Nat

namespace CaseRun

/-- Is a code point in the run? -/
def holds (r : CaseRun) (point : Nat) : Bool :=
  r.first ≤ point && point ≤ r.last && (point - r.first) % r.stride == 0

/-- The character that a run moves a character to, if one of the runs holds it. -/
def shifted? (runs : List CaseRun) (c : Char) : Option Char :=
  let point := c.toNat
  (runs.find? (·.holds point)).map fun r =>
    Char.ofNat (if r.up then point + r.distance else point - r.distance)

end CaseRun
end EffectGraph
