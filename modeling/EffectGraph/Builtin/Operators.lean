import EffectGraph.Builtin

/-!
# Operators of the built-in types

Every operator can be called as a method too, by a word between double underscores.
`BuiltinType.operators` lists for each type the operators that it defines itself and how each of them
takes its operands; the other ones it has from the types that it descends from.
-/

namespace EffectGraph
namespace BuiltinType

/-- Operators that take a given number of operands. -/
def taking (count : Nat) (words : List String) : List (String × Taking) :=
  words.map fun word => (word, .operands count)

/-- Operators that take their one operand on either side. -/
def onEitherSide (names : List String) : List (String × Taking) :=
  taking 1 (names.map ("__" ++ · ++ "__") ++ names.map ("__r" ++ · ++ "__"))

/-- The operators of comparison. -/
def comparisons : List (String × Taking) :=
  taking 1 ["__eq__", "__ne__", "__lt__", "__le__", "__gt__", "__ge__"]

/-- The operators of all numbers. -/
def arithmetic : List (String × Taking) :=
  onEitherSide ["add", "sub", "mul", "truediv", "floordiv", "mod", "divmod"] ++
  [("__pow__", .operandsBetween 1 2), ("__rpow__", .operandsBetween 1 2)] ++
  taking 0 ["__abs__", "__neg__", "__pos__", "__bool__", "__int__", "__float__"] ++
  [("__trunc__", .nothing), ("__floor__", .nothing), ("__ceil__", .nothing),
    ("__round__", .expected 0 1), ("__format__", .one)]

/-- The operators of rows. -/
def ofRows : List (String × Taking) :=
  taking 0 ["__len__", "__iter__"] ++ taking 1 ["__contains__"]

/-- The operators of rows that can be joined and repeated. -/
def ofJoinedRows : List (String × Taking) := taking 1 ["__add__", "__mul__", "__rmul__"] ++ ofRows

/-- The operators of rows whose items can change. -/
def ofChangingRows : List (String × Taking) :=
  [("__setitem__", .operandsBetween 2 2), ("__delitem__", .operands 1), ("__reversed__", .nothing)]

/-- The operators that a built-in type defines itself, by their words. -/
def operators : BuiltinType → List (String × Taking)
  | anything =>
    comparisons ++ taking 0 ["__repr__", "__str__", "__hash__"] ++
    [("__init__", .anyArguments), ("__getattribute__", .operands 1), ("__setattr__", .operandsBetween 2 2),
      ("__delattr__", .operands 1), ("__format__", .one)]
  | absent | notImplemented => taking 0 ["__repr__", "__bool__"]
  | truth => taking 0 ["__repr__"] ++ onEitherSide ["and", "or", "xor"]
  | whole =>
    comparisons ++ arithmetic ++ onEitherSide ["and", "or", "xor", "lshift", "rshift"] ++
    taking 0 ["__repr__", "__hash__", "__invert__", "__index__"]
  | decimal => comparisons ++ arithmetic ++ taking 0 ["__repr__", "__hash__"]
  | text =>
    comparisons ++ ofJoinedRows ++ taking 0 ["__repr__", "__str__", "__hash__"] ++
    [("__getitem__", .operands 1), ("__format__", .one)]
  | list =>
    comparisons ++ ofJoinedRows ++ ofChangingRows ++ taking 0 ["__repr__"] ++
    taking 1 ["__iadd__", "__imul__"] ++ [("__getitem__", .one), ("__init__", .anyArguments)]
  | tuple =>
    comparisons ++ ofJoinedRows ++ taking 0 ["__repr__", "__hash__"] ++ taking 1 ["__getitem__"]
  | deque =>
    comparisons ++ ofJoinedRows ++ ofChangingRows ++ taking 0 ["__repr__"] ++
    taking 1 ["__iadd__", "__imul__", "__getitem__"] ++
    [("__copy__", .nothing), ("__init__", .anyArguments)]
  | dict =>
    comparisons ++ ofChangingRows ++ taking 0 ["__repr__", "__len__", "__iter__"] ++
    taking 1 ["__or__", "__ror__", "__ior__"] ++ 
    [("__getitem__", .one), ("__contains__", .one), ("__init__", .anyArguments)]
  | range =>
    comparisons ++ ofRows ++ taking 0 ["__repr__", "__hash__", "__bool__"] ++
    taking 1 ["__getitem__"] ++
    [("__reversed__", .nothing)]
  | keys | items =>
    comparisons ++ ofRows ++ taking 0 ["__repr__"] ++ [("__reversed__", .nothing)] ++
    onEitherSide ["and", "or", "xor", "sub"]
  | values => taking 0 ["__repr__", "__len__", "__iter__"] ++ [("__reversed__", .nothing)]
  | generator => taking 0 ["__repr__", "__iter__", "__next__"]
  | iterator _ => taking 0 ["__iter__", "__next__"] ++ [("__length_hint__", .nothing)]
  | fault => taking 0 ["__repr__", "__str__"] ++ [("__init__", .anyArguments)]
  | function | builtinFunction | method | operator | methodOfType | operatorOfType | preset =>
    [("__call__", .anyArguments), ("__repr__", .operands 0)]
  | type =>
    [("__call__", .anyArguments), ("__repr__", .operands 0), ("__instancecheck__", .one),
      ("__subclasscheck__", .one)]
  | _ => []

end BuiltinType
end EffectGraph
