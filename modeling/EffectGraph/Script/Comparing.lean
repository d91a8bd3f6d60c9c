import EffectGraph.Operator
import EffectGraph.Number.Rounding
import EffectGraph.Order
import EffectGraph.Script.Assignment

/-!
# Comparing and calculating

What the operators that compare two values and those that calculate with numbers give when they are
called as methods.  Each type knows how to deal with some other types only; to all others its
operators answer that they do not apply.
-/

namespace EffectGraph
namespace Script

/-- The answer of an operator that does not apply. -/
def notApplied : Value := .constant .notImplemented

/-! ## Comparing -/

/-- Does the type of the first value know how to compare it with the second one? -/
def knowsNumber? (a b : Value) : Option Bool :=
  match Number.ofCounting? a, Number.ofCounting? b with
  | none, _ => none
  | some (.float _), n => some n.isSome
  | some (.int _), n => some (n matches some (.int _))

/-- Does the type of the first value say whether it equals the second one? -/
def knowsEqual (w : World) (a b : Value) : Bool :=
  match knowsNumber? a b with
  | some known => known
  | none =>
    match a, b with
    | .str _, .str _ | .tuple _ _, .tuple _ _ | .list _, .list _ | .deque _, .deque _ => true
    | .range _ _ _, .range _ _ _ => true
    | .method _ _ m, .method _ _ m' => m.boundType == m'.boundType
    | a, b =>
      ((w.entriesOf? a).isSome && (w.entriesOf? b).isSome) ||
        ((w.viewOf? a).isSome && (w.viewOf? b).isSome) ||
        ((w.recordOf? a).isSome && a.classOf == b.classOf)

/-- Does the type of the first value say whether it stands before the second one? -/
def knowsOrder (w : World) (a b : Value) : Bool :=
  match knowsNumber? a b with
  | some known => known
  | none =>
    match a, b with
    | .str _, .str _ | .tuple _ _, .tuple _ _ | .list _, .list _ | .deque _, .deque _ => true
    | a, b => (w.viewOf? a).isSome && (w.viewOf? b).isSome

/-- Is the first value equal to the second one, if its type says so?  Everything knows itself. -/
def equalTo? (a b : Value) : Eff (Option Bool) := do
  let w ← get
  if knowsEqual w a b then return some (← Eff.ofExcept (w.equal? a b))
  else return if a.isSame b then some true else none

/-- The comparison that a method stands for. -/
def comparisonOf? (word : String) : Option Comparison :=
  match word with
  | "__lt__" => some .less
  | "__le__" => some .lessOrEqual
  | "__gt__" => some .greater
  | "__ge__" => some .greaterOrEqual
  | _ => none

/-- An answer that may be that an operator does not apply. -/
def answer (found : Option Bool) : Value := (found.map Value.bool).getD notApplied

/-- **Compares two values** by a method of the first one. -/
def compareValues (word : String) (a b : Value) : Eff Value := do
  match comparisonOf? word with
  | some c =>
    let w ← get
    if knowsOrder w a b then return .bool (← Eff.ofExcept (w.compare? c a b)) else return notApplied
  | none =>
    let equal ← equalTo? a b
    return answer (if word == "__ne__" then equal.map (!·) else equal)

/-! ## Calculating -/

/-- A number modulo another one, raised to a power that is not negative. -/
def powerModulo (base modulus : Int) : Nat → Int
  | 0 => (1 : Int).fmod modulus
  | n + 1 =>
    let half := powerModulo base modulus ((n + 1) / 2)
    let square := (half * half).fmod modulus
    if (n + 1) % 2 == 0 then square else (square * base).fmod modulus

/-- The greatest divisor of two numbers, and what the first of them is multiplied by to leave it modulo
the second one; `s` and `t` are that for the numbers at hand. -/
def divisorWith (a b : Nat) (s t : Int) : Nat × Int :=
  if b = 0 then (a, s) else divisorWith b (a % b) t (s - (a / b : Nat) * t)
termination_by b
decreasing_by exact Nat.mod_lt _ (by omega)

/-- The number that times a whole number leaves 1 modulo another one, if there is one. -/
def inverseModulo? (base modulus : Int) : Option Int :=
  let (divisor, factor) := divisorWith (base.fmod modulus.natAbs).toNat modulus.natAbs 1 0
  if divisor == 1 then some (factor.fmod modulus) else none

/-- A number to the power of another, modulo a third one. -/
def powerWithin (a b modulus : Value) : Eff Value := do
  match Number.ofCounting? a, Number.ofCounting? b, Number.ofCounting? modulus with
  | some (.int x), some (.int y), some (.int m) =>
    if m == 0 then Eff.complain (.badValue "pow() 3rd argument cannot be 0")
    if y ≥ 0 then return .int (powerModulo x m y.toNat)
    match inverseModulo? x m with
    | some inverse => return .int (powerModulo inverse m y.natAbs)
    | none => Eff.complain (.badValue "base is not invertible for the given modulus")
  | _, _, _ => return notApplied

/-- What an operator gives for two numbers. -/
def operate (op : Operator) (x y : Number) : Except Complaint Value :=
  match op with
  | .add => (x.add y).map Number.toValue
  | .subtract => (x.subtract y).map Number.toValue
  | .multiply => (x.multiply y).map Number.toValue
  | .divide => (x.divide y).map Number.toValue
  | .divideFloor => (x.divideFloor y).map Number.toValue
  | .remainder => (x.remainder y).map Number.toValue
  | .divideBoth => do
    let (quotient, left) ← x.divideBoth y
    return .ofItems [quotient.toValue, left.toValue]
  | .power => do return ((← x.power? y).map Number.toValue).getD (.inert "complex")
  | op =>
    match x, y with
    | .int a, .int b => (Number.bitwise op a b).map Number.toValue
    | _, _ => .ok notApplied

/-- An operator on the digits of two truth values. -/
def operateOnTruth? (op : Operator) (a b : Value) : Option Value :=
  match op, a, b with
  | .and, .bool x, .bool y => some (.bool (x && y))
  | .or, .bool x, .bool y => some (.bool (x || y))
  | .exclusiveOr, .bool x, .bool y => some (.bool (x != y))
  | _, _, _ => none

/-- **Calculates with two numbers** by a method of the first one, which is the operand on the right if
`turned` says so. -/
def calculate (op : Operator) (turned : Bool) (a b : Value) : Eff Value := do
  match knowsNumber? a b, Number.ofCounting? a, Number.ofCounting? b with
  | some true, some x, some y =>
    match operateOnTruth? op a b with
    | some v => return v
    | none => Eff.ofExcept (if turned then operate op y x else operate op x y)
  | _, _, _ => return notApplied

/-- A whole number made of a double, which has to be finite. -/
def wholeOf (made : Except Binary64.NoWhole Int) : Eff Value := do
  match made with
  | .ok i => return .int i
  | .error .nan => Eff.complain .nanToInt
  | .error .infinite => Eff.complain .infiniteToInt

/-- Rounds a number to decimal places, or to a whole number if none are given. -/
def roundNumber (n : Number) (places : Option Value) : Eff Value := do
  let places := if n matches .float _ then places.filter (!· matches .none) else places
  let places ← places.mapM fun v =>
    match Number.ofCounting? v with
    | some (.int i) => pure i
    | _ => Eff.complain (.notAnInteger v.typePath)
  match n, places with
  | .int i, none => return .int i
  | .int i, some places => return .int (Rounding.whole i places)
  | .float x, none => wholeOf (Rounding.nearest x)
  | .float x, some places =>
    let rounded := Rounding.toPlaces x places
    if rounded.isInf && !x.isInf then
      Eff.complain (.overflow "rounded value too large to represent")
    return .ofFloat rounded

/-- The operator on one number that a method stands for, with its result. -/
def changeNumber? (word : String) (n : Number) (places : Option Value) : Option (Eff Value) :=
  match word, n with
  | "__neg__", .int i => some (pure (.int (-i)))
  | "__neg__", .float x => some (pure (.ofFloat (-x)))
  | "__pos__", n => some (pure n.toValue)
  | "__abs__", .int i => some (pure (.int i.natAbs))
  | "__abs__", .float x => some (pure (.ofFloat x.abs))
  | "__invert__", .int i => some (pure (.int (-i - 1)))
  | "__index__", .int i => some (pure (.int i))
  | "__int__", .int i | "__trunc__", .int i | "__floor__", .int i | "__ceil__", .int i =>
    some (pure (.int i))
  | "__int__", .float x | "__trunc__", .float x => some (wholeOf (Binary64.truncate x))
  | "__floor__", .float x => some (wholeOf (Rounding.floor x))
  | "__ceil__", .float x => some (wholeOf (Rounding.ceiling x))
  | "__float__", n => some do return .ofFloat (← Eff.ofExcept n.toFloat)
  | "__round__", n => some (roundNumber n places)
  | _, _ => none

/-- **Runs an operator of a number** on its operands, if there is one of that word. -/
def runNumberOperator? (word : String) (v : Value) (n : Number) (places : List (Option Value)) :
    Option (Eff Value) :=
  match Operator.ofMethod? word, places with
  | some (.power, turned), [some other, some modulus] => some <|
    match modulus, n with
    | .none, _ => calculate .power turned v other
    | _, .float _ =>
      Eff.complain (.arguments "pow() 3rd argument not allowed unless all arguments are integers")
    | modulus, _ => if turned then powerWithin other v modulus else powerWithin v other modulus
  | some (op, turned), some other :: _ => some (calculate op turned v other)
  | _, places => changeNumber? word n (places.head?.getD none)

end Script
end EffectGraph
