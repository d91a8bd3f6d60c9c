/-!
# Binary64 numbers as exact rationals

A finite double is `± m · 2 ^ q` with natural `m` and integer `q`; `Binary64.decode` reads that
off its bits.  In the other direction `Binary64.ofRatio` rounds an exact ratio of naturals to the
nearest double, ties to the even significand, and `Binary64.ofInt?` does so for integers, refusing
those past the largest finite double.  `Binary64.compareInt` orders a double against an integer
without rounding either.
-/

namespace EffectGraph
namespace Binary64

/-- A double taken apart: not a number, an infinity, or a signed `mantissa · 2 ^ exponent`. -/
inductive Decoded where
  | nan
  | infinite (negative : Bool)
  | finite (negative : Bool) (mantissa : Nat) (exponent : Int)

/-- The parts of a double, read from its bits. -/
def decode (x : Float) : Decoded :=
  let bits := x.toBits.toNat
  let negative := bits / Nat.pow 2 63 == 1
  let field : Nat := bits / Nat.pow 2 52 % Nat.pow 2 11
  let fraction : Nat := bits % Nat.pow 2 52
  if field == 2047 then
    if fraction == 0 then .infinite negative else .nan
  else if field == 0 then .finite negative fraction (-1074)
  else .finite negative (Nat.pow 2 52 + fraction) ((field : Int) - 1075)

/-- The double with the given sign, exponent field and fraction added up as one bit pattern. -/
def ofPattern (negative : Bool) (magnitude : Nat) : Float :=
  Float.ofBits (UInt64.ofNat (magnitude + if negative then Nat.pow 2 63 else 0))

/-- The bit pattern of positive infinity. -/
def infinityPattern : Nat := 2047 * Nat.pow 2 52

/-- The quotient `num / den` rounded to the nearest natural, a tie going to the even one. -/
def roundRatio (num den : Nat) : Nat :=
  let quotient := num / den
  let twice := 2 * (num % den)
  if twice < den then quotient
  else if den < twice then quotient + 1
  else if quotient % 2 == 0 then quotient else quotient + 1

/-- `num / den · 2 ^ (-q)` rounded to the nearest natural, a tie going to the even one. -/
def roundScaled (num den : Nat) (q : Int) : Nat :=
  if q < 0 then roundRatio (num * Nat.pow 2 q.natAbs) den
  else roundRatio num (den * Nat.pow 2 q.natAbs)

/-- Does `2 ^ (52 + q)` lie at or below `num / den`? -/
def reaches (num den : Nat) (q : Int) : Bool :=
  let top := 52 + q
  if top < 0 then den ≤ num * Nat.pow 2 top.natAbs else den * Nat.pow 2 top.natAbs ≤ num

/-- The exponent at which a positive ratio has 53 significant bits, or the least exponent that
doubles have. -/
def exponentFor (num den : Nat) : Int :=
  let guess : Int := (num.log2 : Int) - (den.log2 : Int) - 52
  let exact := if reaches num den guess then guess else guess - 1
  max exact (-1074)

/-- The magnitude pattern of the double nearest to `num / den`: rounding up past the last
significand carries into the exponent field, past the last exponent it gives infinity. -/
def nearestPattern (num den : Nat) : Nat :=
  if num == 0 then 0
  else
    let q := exponentFor num den
    if q > 971 then infinityPattern
    else
      let significand := roundScaled num den q
      let field : Nat := (q + 1074).toNat
      min (significand + field * Nat.pow 2 52) infinityPattern

/-- **The double nearest to a signed ratio,** ties to even. -/
def ofRatio (negative : Bool) (num den : Nat) : Float :=
  ofPattern negative (nearestPattern num den)

/-- The double nearest to an integer; none when it would be infinite. -/
def ofInt? (i : Int) : Option Float :=
  let pattern := nearestPattern i.natAbs 1
  if pattern < infinityPattern then some (ofPattern (i < 0) pattern) else none

/-- The integer part of `mantissa · 2 ^ exponent`, its fraction dropped. -/
def wholePart (mantissa : Nat) (exponent : Int) : Nat :=
  if exponent < 0 then mantissa / Nat.pow 2 exponent.natAbs
  else mantissa * Nat.pow 2 exponent.natAbs

/-- Why a double has no integer part. -/
inductive NoWhole where
  | nan
  | infinite

/-- The integer that remains when the fraction of a double is dropped. -/
def truncate (x : Float) : Except NoWhole Int :=
  match decode x with
  | .nan => .error .nan
  | .infinite _ => .error .infinite
  | .finite negative m q =>
    let whole : Int := wholePart m q
    .ok (if negative then -whole else whole)

/-- The exact order of a double and an integer; none when the double is not a number. -/
def compareInt (x : Float) (i : Int) : Option Ordering :=
  match decode x with
  | .nan => none
  | .infinite negative => some (if negative then .lt else .gt)
  | .finite negative m q =>
    let signed : Int := if negative then -(m : Int) else m
    some <|
      if q < 0 then compare signed (i * Int.pow 2 q.natAbs)
      else compare (signed * Int.pow 2 q.natAbs) i

end Binary64
end EffectGraph
