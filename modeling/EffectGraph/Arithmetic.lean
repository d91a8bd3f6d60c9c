import EffectGraph.Spelling

/-!
# Arithmetic on any values

Sums, products and comparisons as the language defines them on every value: on numbers by their
amount, on texts and rows by joining and repeating, and refused on everything else.
-/

namespace EffectGraph
namespace Arithmetic

/-- The complaint about operands that an operator does not take. -/
def unsupported (operator : String) (a b : Value) : Complaint :=
  .unsupportedOperands operator a.typePath b.typePath

/-- The sum of a value and a number, written with the given operator. -/
def addNumber (operator : String) (v : Value) (amount : Number) : Except Complaint Value :=
  match Number.ofCounting? v with
  | some n => (n.add amount).map Number.toValue
  | none =>
    match v with
    | .str _ | .list _ | .tuple _ _ | .deque _ =>
      .error (.cannotJoin v.typeName amount.toValue.typePath)
    | v => .error (unsupported operator v amount.toValue)

/-- A value increased in place by a number. -/
def increase (v amount : Value) : Eff Value :=
  match Number.ofCounting? amount, v with
  | some _, .list _ | some _, .deque _ => Eff.complain (.notIterable amount.typePath)
  | some n, v => Eff.ofExcept (addNumber "+=" v n)
  | none, v => Eff.complain (unsupported "+=" v amount)

/-- Is a value greater than a number? -/
def isGreater (v : Value) (n : Number) : Except Complaint Bool :=
  match Number.ofCounting? v with
  | some m => .ok (n.less m)
  | none => .error (.notOrdered ">" v.typePath n.toValue.typePath)

/-- Is a number greater than a value? -/
def isBelow (n : Number) (v : Value) : Except Complaint Bool :=
  match Number.ofCounting? v with
  | some m => .ok (m.less n)
  | none => .error (.notOrdered ">" n.toValue.typePath v.typePath)

/-- Is a number as great as a value, or greater? -/
def isAtLeast (n : Number) (v : Value) : Except Complaint Bool :=
  match Number.ofCounting? v with
  | some m => .ok (m.less n || m.equal n)
  | none => .error (.notOrdered ">=" n.toValue.typePath v.typePath)

/-- Some items, repeated. -/
def repeated {α : Type} (items : List α) (times : Int) : List α :=
  (List.replicate times.toNat items).flatten

/-- **The product of two values.**  A row times a whole number is the row repeated. -/
def multiply (a b : Value) : Eff Value := do
  match Number.ofCounting? a, Number.ofCounting? b with
  | some x, some y => return (← Eff.ofExcept (x.multiply y)).toValue
  | none, some (.int n) => row a n a b
  | some (.int n), none => row b n a b
  | _, _ => refuse a b
where
  /-- Operands that have no product. -/
  refuse (a b : Value) : Eff Value :=
    let isRow (v : Value) : Bool := v matches .str _ | .list _ | .tuple _ _ | .deque _
    if isRow a then Eff.complain (.notRepeated b.typePath)
    else if isRow b then Eff.complain (.notRepeated a.typePath)
    else Eff.complain (unsupported "*" a b)
  /-- A row repeated, for a product of the two operands. -/
  row (v : Value) (n : Int) (a b : Value) : Eff Value := do
    match v with
    | .str s => return .str (String.ofList (repeated s.toList n))
    | .tuple _ items => return .ofItems (repeated items n)
    | .list address => World.newList (repeated ((← get).listItems address).toList n).toArray
    | _ => refuse a b

end Arithmetic
end EffectGraph
