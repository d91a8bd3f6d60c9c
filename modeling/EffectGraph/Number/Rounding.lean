import EffectGraph.Number.Binary64

/-!
# Rounding

Numbers are rounded to a number of decimal places, which is negative for tens, hundreds and so on; a
tie goes to the even neighbour.  A double is rounded as the exact number that it is, and then to the
nearest double again.
-/

namespace EffectGraph
namespace Rounding

/-- A whole number rounded to a multiple of another one. -/
def toMultiple (i : Int) (unit : Nat) : Int :=
  let amount : Int := (Binary64.roundRatio i.natAbs unit * unit : Nat)
  if i < 0 then -amount else amount

/-- A whole number rounded to decimal places; only negative ones change it. -/
def whole (i : Int) (places : Int) : Int :=
  if places ≥ 0 then i
  else if places.natAbs > i.natAbs.log2 + 1 then 0
  else toMultiple i (Nat.pow 10 places.natAbs)

/-- The whole number nearest to a double. -/
def nearest (x : Float) : Except Binary64.NoWhole Int :=
  match Binary64.decode x with
  | .nan => .error .nan
  | .infinite _ => .error .infinite
  | .finite negative m q =>
    let amount : Int := Binary64.roundRatio (m * Nat.pow 2 q.toNat) (Nat.pow 2 (-q).toNat)
    .ok (if negative then -amount else amount)

/-- The largest whole number that does not exceed a double. -/
def floor (x : Float) : Except Binary64.NoWhole Int := Binary64.truncate x.floor

/-- The least whole number that a double does not exceed. -/
def ceiling (x : Float) : Except Binary64.NoWhole Int := Binary64.truncate x.ceil

/-- A double rounded to decimal places. -/
def toPlaces (x : Float) (places : Int) : Float :=
  match Binary64.decode x with
  | .nan => x
  | .infinite _ => x
  | .finite negative m q =>
    if places > 323 then x
    else if places < -308 then 0.0 * x
    else
      let up := Nat.pow 10 places.toNat
      let down := Nat.pow 10 (-places).toNat
      let kept := Binary64.roundRatio (m * Nat.pow 2 q.toNat * up) (Nat.pow 2 (-q).toNat * down)
      Binary64.ofRatio negative (kept * down) up

end Rounding
end EffectGraph
