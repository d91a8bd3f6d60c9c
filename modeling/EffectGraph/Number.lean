import EffectGraph.Complaint
import EffectGraph.Number.Numeral

/-!
# Arithmetic on values

Whole numbers have any size, decimal numbers are doubles.  An operation on two whole numbers is
exact; if one operand is a double the other is rounded to one, which is refused past the largest
finite double.  Comparisons never round.
-/

namespace EffectGraph

/-- A number. -/
inductive Number where
  | int (i : Int)
  | float (x : Float)

namespace Number

/-- The number that a value is; truth values do not count. -/
def ofValue? : Value → Option Number
  | .int i => some (.int i)
  | .float _ x => some (.float x)
  | _ => none

/-- A number as a value. -/
def toValue : Number → Value
  | int i => .int i
  | float x => .ofFloat x

/-- A number as a double. -/
def toFloat : Number → Except Complaint Float
  | int i =>
    match Binary64.ofInt? i with
    | some x => .ok x
    | none => .error .tooLargeForFloat
  | float x => .ok x

/-- An operation that is exact on whole numbers and works on doubles otherwise. -/
def lift (onInts : Int → Int → Int) (onFloats : Float → Float → Float) :
    Number → Number → Except Complaint Number
  | int a, int b => .ok (int (onInts a b))
  | a, b => do return float (onFloats (← a.toFloat) (← b.toFloat))

/-- The sum of two numbers. -/
def add : Number → Number → Except Complaint Number := lift (· + ·) (· + ·)

/-- The difference of two numbers. -/
def subtract : Number → Number → Except Complaint Number := lift (· - ·) (· - ·)

/-- The product of two numbers. -/
def multiply : Number → Number → Except Complaint Number := lift (· * ·) (· * ·)

/-- A double to the power of another.  A root of a negative number is none. -/
def powerFloat? (x y : Float) : Except Complaint (Option Float) :=
  if x == 0 && y < 0 && y.isFinite then .error .zeroToNegativePower
  else if x.isFinite && x < 0 && y.isFinite && y != y.floor then .ok none
  else
    let z := Float.pow x y
    if z.isInf && x.isFinite && y.isFinite then .error .powerTooLarge else .ok (some z)

/-- A number to the power of another: exact on whole numbers unless the exponent is negative. -/
def power? : Number → Number → Except Complaint (Option Number)
  | int a, int (.ofNat n) => .ok (some (int (Int.pow a n)))
  | a, b => do return (← powerFloat? (← a.toFloat) (← b.toFloat)).map float

/-- Is the first number smaller? -/
def less : Number → Number → Bool
  | int a, int b => a < b
  | float x, float y => x < y
  | float x, int b => Binary64.compareInt x b == some .lt
  | int a, float y => Binary64.compareInt y a == some .gt

/-- Are two numbers equal? -/
def equal : Number → Number → Bool
  | int a, int b => a == b
  | float x, float y => x == y
  | float x, int b => Binary64.compareInt x b == some .eq
  | int a, float y => Binary64.compareInt y a == some .eq

/-- The number that a value counts as where truth values count too. -/
def ofCounting? : Value → Option Number
  | .bool b => some (.int (if b then 1 else 0))
  | v => ofValue? v

end Number

/-- Reads a text as a whole number, or else as a decimal one; none if it is neither. -/
def Numeral.number? (text : String) : Option Number :=
  let stripped := Blank.strip text
  match Numeral.int stripped with
  | .ok i => some (.int i)
  | .error _ => (Numeral.float? stripped).map .float

/-- How long a run took, if both its times are known. -/
def Stats.duration (s : Stats Value) : Except Complaint Value :=
  match s.startTime, s.endTime with
  | .none, _ => .ok .none
  | _, .none => .ok .none
  | start, stop =>
    match Number.ofCounting? stop, Number.ofCounting? start with
    | some b, some a => do return (← b.subtract a).toValue
    | _, _ => .error (.unsupportedOperands "-" stop.typePath start.typePath)

end EffectGraph
