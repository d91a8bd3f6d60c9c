import EffectGraph.Number.Binary64

/-!
# The shortest decimal text of a double

Every double has decimals that read back as it; the text printed is the one with the fewest digits,
and among those the nearest to the exact value.  `Shortest.digits` finds it by trying the two
neighbours of the value on the decimal grids of 1, 2, … 17 digits, in exact arithmetic on naturals.
`Layout` then says how digits are written: positional between `10 ^ (-4)` and `10 ^ 16`, with an
exponent of at least two digits outside.  `Fixed.text` writes a double with a fixed count of places.
-/

namespace EffectGraph
namespace Shortest

/-- A positive value `m · 2 ^ q` with the interval of reals that round to it, all scaled by one
common denominator: `low / den`, `value / den`, `high / den`. -/
structure Interval where
  low : Nat
  value : Nat
  high : Nat
  den : Nat
  closed : Bool

/-- The rounding interval of `m · 2 ^ q`.  Below a power of two the doubles lie twice as dense, so
the lower half gap is half as wide there; the ends belong to the interval when `m` is even. -/
def interval (m : Nat) (q : Int) : Interval :=
  let narrow := m == Nat.pow 2 52 && q > -1074
  let low := if narrow then 4 * m - 1 else 4 * m - 2
  let shift := q - 2
  let scale : Nat := if shift < 0 then 1 else Nat.pow 2 shift.natAbs
  let den : Nat := if shift < 0 then Nat.pow 2 shift.natAbs else 1
  { low := low * scale, value := 4 * m * scale, high := (4 * m + 2) * scale, den
    closed := m % 2 == 0 }

/-- Is `count · 10 ^ place` inside the interval? -/
def Interval.holds (i : Interval) (count : Nat) (place : Int) : Bool :=
  let point := if place < 0 then count else count * Nat.pow 10 place.natAbs
  let unit := if place < 0 then Nat.pow 10 place.natAbs else 1
  let (low, at', high) := (i.low * unit, point * i.den, i.high * unit)
  if i.closed then low ≤ at' && at' ≤ high else low < at' && at' < high

/-- The value divided by `10 ^ place`: whole part, remainder and divisor. -/
def Interval.onGrid (i : Interval) (place : Int) : Nat × Nat × Nat :=
  let num := if place < 0 then i.value * Nat.pow 10 place.natAbs else i.value
  let den := if place < 0 then i.den else i.den * Nat.pow 10 place.natAbs
  (num / den, num % den, den)

/-- The neighbour of the value on the grid of multiples of `10 ^ place` that lies in the interval,
the nearer one if both do, an even count on a tie. -/
def Interval.pick? (i : Interval) (place : Int) : Option Nat :=
  let (below, rest, den) := i.onGrid place
  let above := below + 1
  match i.holds below place, i.holds above place with
  | true, true =>
    if 2 * rest < den then some below
    else if den < 2 * rest then some above
    else some (if below % 2 == 0 then below else above)
  | true, false => some below
  | false, true => some above
  | false, false => none

/-- The largest `k` with `10 ^ k ≤ value / den`, found by correcting an estimate downwards. -/
def Interval.magnitude (i : Interval) : Int :=
  let bits : Int := (i.value.log2 : Int) - (i.den.log2 : Int) + 1
  let estimate := Int.fdiv (bits * 30103) 100000 + 1
  let rec settle : Nat → Int → Int
    | 0, k => k
    | n + 1, k =>
      let reached :=
        if k < 0 then i.den ≤ i.value * Nat.pow 10 k.natAbs else i.den * Nat.pow 10 k.natAbs ≤ i.value
      if reached then k else settle n (k - 1)
  settle 4 estimate

/-- The first grid, from coarse to fine, on which the value has a neighbour in the interval. -/
def Interval.search (i : Interval) (top : Int) : Nat → Nat → Nat × Int
  | 0, _ => (i.value / i.den, 0)
  | fuel + 1, count =>
    let place := top - (count : Int) + 1
    match i.pick? place with
    | some n => (n, place)
    | none => i.search top fuel (count + 1)

/-- Trailing zeros moved from the digits into the place, at most `fuel` of them. -/
def trim : Nat → Nat × Int → Nat × Int
  | 0, d => d
  | fuel + 1, (n, place) =>
    if n != 0 && n % 10 == 0 then trim fuel (n / 10, place + 1) else (n, place)

/-- **The shortest decimal of `m · 2 ^ q`,** as a significand without trailing zeros and the power
of ten of its last digit. -/
def digits (m : Nat) (q : Int) : Nat × Int :=
  let i := interval m q
  trim 20 (i.search i.magnitude 17 1)

end Shortest

/-- How a double is written: the powers of ten between which the point stands in place, and the
least number of digits of an exponent. -/
structure Layout where
  positionalFrom : Int
  positionalBelow : Int
  exponentDigits : Nat

namespace Layout

/-- Numbers from `10 ^ (-4)` up to below `10 ^ 16` are written positionally. -/
def standard : Layout := ⟨-4, 16, 2⟩

/-- A text filled up with zeros on the left. -/
def padded (width : Nat) (text : String) : String :=
  "".pushn '0' (width - text.length) ++ text

/-- A significand with its last digit at `10 ^ place`, written in this layout. -/
def write (layout : Layout) (significand : Nat) (place : Int) : String :=
  let text := significand.repr
  let lead : Int := place + (text.length : Int) - 1
  if layout.positionalFrom ≤ lead && lead < layout.positionalBelow then
    if place ≥ 0 then text ++ "".pushn '0' place.natAbs ++ ".0"
    else if lead ≥ 0 then
      let whole := lead.natAbs + 1
      String.ofList (text.toList.take whole) ++ "." ++ String.ofList (text.toList.drop whole)
    else "0." ++ "".pushn '0' (lead.natAbs - 1) ++ text
  else
    let mantissa := match text.toList with
      | [] => ""
      | [d] => String.singleton d
      | d :: rest => String.singleton d ++ "." ++ String.ofList rest
    let sign := if lead < 0 then "-" else "+"
    mantissa ++ "e" ++ sign ++ padded layout.exponentDigits lead.natAbs.repr

/-- **The text of a double:** the shortest decimal that reads back as it, `-0.0` with its sign, and
`inf` and `nan` by name. -/
def text (layout : Layout) (x : Float) : String :=
  match Binary64.decode x with
  | .nan => "nan"
  | .infinite negative => if negative then "-inf" else "inf"
  | .finite negative m q =>
    let body :=
      if m == 0 then "0.0"
      else
        let (significand, place) := Shortest.digits m q
        layout.write significand place
    if negative then "-" ++ body else body

end Layout

namespace Fixed

/-- A double with exactly `places` digits after the point; the exact value is rounded, a half going
to the even digit, and the sign of a result that rounds to zero is kept. -/
def text (places : Nat) (x : Float) : String :=
  match Binary64.decode x with
  | .nan => "nan"
  | .infinite negative => if negative then "-inf" else "inf"
  | .finite negative m q =>
    let scaled := Binary64.roundScaled (m * Nat.pow 10 places) 1 (-q)
    let digits := Layout.padded (places + 1) scaled.repr
    let whole := digits.length - places
    let body :=
      String.ofList (digits.toList.take whole) ++
        if places == 0 then "" else "." ++ String.ofList (digits.toList.drop whole)
    if negative then "-" ++ body else body

end Fixed
end EffectGraph
