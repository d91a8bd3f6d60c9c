import EffectGraph.Script.Containing

/-!
# Operators as methods

`runOperator?` finds out what an operator does that is called as a method: one that compares or
calculates, one that looks into a row or a dictionary, or one that every object has, for its texts and
its attributes.
-/

namespace EffectGraph
namespace Script

/-! ## Objects -/

/-- The text of a value in a given format.  Only a few types know any formats. -/
def formatted (v format : Value) : Eff Value := do
  match format with
  | .str "" => return .str (← Eff.ofExcept ((← get).str? v))
  | .str _ => Eff.complain (.noFormat v.typeName)
  | format =>
    Eff.complain (.arguments ("__format__() argument must be str, not " ++ format.argumentName))

/-- Takes an attribute away from an object, which scripts have to have given to it. -/
def removeAttribute (v : Value) (name : String) : Eff Unit := do
  if isFrozen v then Eff.complain (.frozenDeletion (Quoted.text name))
  match v.identity?, (← get).given? v name, descriptorRefusal? v name with
  | some i, some _, _ => World.withdraw i name
  | _, _, some c => Eff.complain c
  | _, _, none =>
    if (v.method? name).isSome then Eff.complain (.readOnlyAttribute v.typePath name)
    else Eff.complain (.noAttribute v.typePath name)

/-- A number that equal values share: that of a whole number is its remainder by a large prime. -/
def hashOf (v : Value) : Int :=
  match Number.ofCounting? v with
  | some (.int i) =>
    let remainder := i.tmod (Int.pow 2 61 - 1)
    if remainder == -1 then -2 else remainder
  | _ => 0

/-- Does a class descend from another one? -/
def descends (cls : Value) (ancestor : Blueprint) : Eff Value := do
  match cls with
  | .blueprint cls => return .bool (cls.ancestry.contains ancestor)
  | _ => Eff.complain (.arguments "issubclass() arg 1 must be a class")

/-- Runs an operator that every object or class has on its operands, if there is one of that word. -/
def runObjectOperator? (word : String) (v : Value) (places : List (Option Value)) :
    Option (Eff Value) :=
  match word, v, places with
  | "__repr__", v, _ => some do return .str (← Eff.ofExcept ((← get).repr? v))
  | "__str__", v, _ => some do return .str (← Eff.ofExcept ((← get).str? v))
  | "__bool__", v, _ => some do return .bool ((← get).isTruthy v)
  | "__format__", v, [some format] => some (formatted v format)
  | "__getattribute__", v, [some name] => some do readAttribute v (← attributeName name)
  | "__setattr__", v, [some name, some value] => some do
    if isFrozen v then Eff.complain (.frozenField (← Eff.ofExcept ((← get).repr? name)))
    assignAttribute v (← attributeName name) value
    return .none
  | "__delattr__", v, [some name] => some do
    if isFrozen v then Eff.complain (.frozenDeletion (← Eff.ofExcept ((← get).repr? name)))
    removeAttribute v (← attributeName name)
    return .none
  | "__hash__", v, _ => some do
    match unhashable? v with
    | some got => Eff.complain (.unhashable got)
    | none => return .int (hashOf v)
  | "__instancecheck__", .blueprint cls, [some x] => some (return .bool (x.isInstance cls))
  | "__subclasscheck__", .blueprint cls, [some x] => some (descends x cls)
  | "mro", .blueprint cls, _ => some (World.newList (cls.ancestry.map Value.blueprint).toArray)
  | _, _, _ => none

/-! ## All operators -/

/-- **Runs an operator on its operands,** if there is one of that word. -/
def runOperator? (h : Host) (fuel : Nat) (word : String) (v : Value)
    (places : List (Option Value)) : Option (Eff Value) :=
  let compared :=
    match places with
    | [some other] =>
      if BuiltinType.comparisons.any (·.1 == word) then some (compareValues word v other) else none
    | _ => none
  let calculated := (Number.ofCounting? v).bind fun n => runNumberOperator? word v n places
  (((compared.or calculated).or (setWith? h fuel word v places)).or
    (runRowOperator? h fuel word v places)).or (runObjectOperator? word v places)

/-- Runs an operator that frozen dictionaries define themselves. -/
def runFrozenOperator (h : Host) (fuel : Nat) (word : String) (v : Value)
    (places : List (Option Value)) : Eff Value := do
  match word, places with
  | "__setitem__", _ => Eff.complain .frozenItem
  | "__delitem__", _ => Eff.complain .frozenItemDeletion
  | "__or__", [some other] | "__ior__", [some other] =>
    let address ← World.newDictAddress
    putAllInto address (((← get).entriesOf? v).getD [])
    updateDict h fuel address (some other) []
    return .frozenDict 0 ((← get).dictEntries address)
  | "__copy__", _ => return v
  | "__repr__", _ => return .str (← Eff.ofExcept ((← get).repr? v))
  | "__init__", _ => return .none
  | _, _ => Eff.complain .frozenObject

end Script
end EffectGraph
