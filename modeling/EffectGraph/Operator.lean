import EffectGraph.Number

/-!
# Operators on numbers

What the operators of the language give for two numbers.  Whole numbers are divided without rounding
by the floor and the remainder that belongs to it, which has the sign of the divisor; divided in full
they give the nearest double.  Their binary digits are those of an endless two's complement.
-/

namespace EffectGraph

/-- An operator on two numbers. -/
inductive Operator where
  | add | subtract | multiply | divide | divideFloor | remainder | divideBoth | power
  | and | or | exclusiveOr | shiftLeft | shiftRight
  deriving DecidableEq, Repr

namespace Operator

/-- The word that an operator is called by between underscores. -/
def word : Operator → String
  | add => "add" | subtract => "sub" | multiply => "mul" | divide => "truediv"
  | divideFloor => "floordiv" | remainder => "mod" | divideBoth => "divmod" | power => "pow"
  | and => "and" | or => "or" | exclusiveOr => "xor" | shiftLeft => "lshift"
  | shiftRight => "rshift"

/-- All operators. -/
def all : List Operator :=
  [add, subtract, multiply, divide, divideFloor, remainder, divideBoth, power, and, or,
    exclusiveOr, shiftLeft, shiftRight]

/-- The operator that a method stands for, and whether its receiver is the operand on the right. -/
def ofMethod? (method : String) : Option (Operator × Bool) :=
  match all.find? fun op => method == "__" ++ op.word ++ "__" with
  | some op => some (op, false)
  | none => (all.find? fun op => method == "__r" ++ op.word ++ "__").map fun op => (op, true)

/-- Does an operator work on binary digits? -/
def isBitwise : Operator → Bool
  | and | or | exclusiveOr | shiftLeft | shiftRight => true
  | _ => false

end Operator

namespace Binary64

/-- What remains of a double when another one is taken off it as often as it goes into it; it has the
sign of the first one. -/
def remainder (x y : Float) : Float :=
  match decode x, decode y with
  | .finite negative m q, .finite _ n r =>
    if n == 0 then 0.0 / 0.0
    else
      let e := min q r
      let left := m * Nat.pow 2 (q - e).toNat % (n * Nat.pow 2 (r - e).toNat)
      if e < 0 then ofRatio negative left (Nat.pow 2 e.natAbs)
      else ofRatio negative (left * Nat.pow 2 e.natAbs) 1
  | .finite _ _ _, .infinite _ => x
  | _, _ => 0.0 / 0.0

/-- Is the sign of a double a minus? -/
def isNegative (x : Float) : Bool := x.toBits.toNat / Nat.pow 2 63 == 1

/-- A zero with the sign of a double. -/
def zeroLike (x : Float) : Float := if isNegative x then -0.0 else 0.0

/-- A double divided by another that is not zero: the floor of the quotient, and the remainder, which
has the sign of the divisor. -/
def divideFloor (x y : Float) : Float × Float :=
  let left := remainder x y
  let quotient := (x - left) / y
  let (quotient, left) :=
    if left == 0 then (quotient, zeroLike y)
    else if (y < 0) != (left < 0) then (quotient - 1, left + y)
    else (quotient, left)
  if quotient == 0 then (zeroLike (x / y), left)
  else
    let floor := quotient.floor
    (if quotient - floor > 0.5 then floor + 1 else floor, left)

end Binary64

namespace Number

/-- A double as a number that is no divisor. -/
def refuseZero (y : Float) (message : String) : Except Complaint Unit :=
  if y == 0 then .error (.zeroDivisor message) else .ok ()

/-- The quotient of two numbers as a double. -/
def divide : Number → Number → Except Complaint Number
  | int a, int b =>
    if b == 0 then .error .divisionByZero
    else
      let x := Binary64.ofRatio ((a < 0) != (b < 0)) a.natAbs b.natAbs
      if x.isInf then .error (.overflow "integer division result too large for a float")
      else .ok (float x)
  | a, b => do
    let x ← a.toFloat
    let y ← b.toFloat
    refuseZero y "float division by zero"
    return float (x / y)

/-- The floor of the quotient of two numbers. -/
def divideFloor : Number → Number → Except Complaint Number
  | int a, int b =>
    if b == 0 then .error (.zeroDivisor "integer division or modulo by zero")
    else .ok (int (a.fdiv b))
  | a, b => do
    let x ← a.toFloat
    let y ← b.toFloat
    refuseZero y "float floor division by zero"
    return float (Binary64.divideFloor x y).1

/-- What remains of one number divided by another. -/
def remainder : Number → Number → Except Complaint Number
  | int a, int b =>
    if b == 0 then .error (.zeroDivisor "integer modulo by zero") else .ok (int (a.fmod b))
  | a, b => do
    let x ← a.toFloat
    let y ← b.toFloat
    refuseZero y "float modulo"
    return float (Binary64.divideFloor x y).2

/-- The floor of the quotient of two numbers, and what remains. -/
def divideBoth : Number → Number → Except Complaint (Number × Number)
  | int a, int b =>
    if b == 0 then .error (.zeroDivisor "integer division or modulo by zero")
    else .ok (int (a.fdiv b), int (a.fmod b))
  | a, b => do
    let x ← a.toFloat
    let y ← b.toFloat
    refuseZero y "float divmod()"
    let (quotient, left) := Binary64.divideFloor x y
    return (float quotient, float left)

/-- The binary digits that two whole numbers have in common. -/
def commonBits (a b : Int) : Int :=
  match a, b with
  | .ofNat m, .ofNat n => (m &&& n : Nat)
  | .ofNat m, .negSucc n => (m - (m &&& n) : Nat)
  | .negSucc m, .ofNat n => (n - (n &&& m) : Nat)
  | .negSucc m, .negSucc n => .negSucc (m ||| n)

/-- The largest number of places that binary digits are moved. -/
def longestShift : Int := Int.pow 2 30

/-- A whole number with its binary digits moved to the left, or to the right. -/
def shift (a : Int) (places : Int) (toLeft : Bool) : Except Complaint Number :=
  if places < 0 then .error (.badValue "negative shift count")
  else if !toLeft then .ok (int (if places > longestShift then (if a < 0 then -1 else 0)
    else a.fdiv (Int.pow 2 places.toNat)))
  else if a == 0 then .ok (int 0)
  else if places > longestShift then .error (.overflow "too many digits in integer")
  else .ok (int (a * Int.pow 2 places.toNat))

/-- An operator on the binary digits of two whole numbers. -/
def bitwise (op : Operator) (a b : Int) : Except Complaint Number :=
  match op with
  | .and => .ok (int (commonBits a b))
  | .or => .ok (int (a + b - commonBits a b))
  | .exclusiveOr => .ok (int (a + b - 2 * commonBits a b))
  | .shiftLeft => shift a b true
  | _ => shift a b false

end Number
end EffectGraph
