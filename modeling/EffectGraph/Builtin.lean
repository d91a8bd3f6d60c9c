/-!
# Built-in types

`BuiltinType` lists the types that the scripting language brings along, those of data and those of
functions, iterators and classes; `BuiltinType.ancestry` says which types a type descends from.
`Taking` says how a built-in function or method takes its arguments.
-/

namespace EffectGraph

/-- The built-in types. -/
inductive BuiltinType where
  /-- The type that all others descend from. -/
  | anything
  | absent | truth | whole | decimal | text | list | tuple | deque | dict | range
  | keys | values | items | generator | fault
  /-- A type of iterators, by its name. -/
  | iterator (typeName : String)
  /-- A type of things that can only be held, by its name. -/
  | inert (typeName : String)
  -- what can be called
  | function | builtinFunction | method | operator | methodOfType | operatorOfType | preset
  -- types of types, and what only serves to describe types
  | type | abstractType | contractType | genericAlias | union | notImplemented
  -- what classes of the library descend from
  | abstract | generic | contract
  deriving DecidableEq, Repr

/-- How a built-in method takes its arguments.  It says so in complaints in its own way. -/
inductive Taking where
  /-- It takes none. -/
  | nothing
  /-- It takes exactly one. -/
  | one
  /-- It expects at least and at most so many. -/
  | expected (least most : Nat)
  /-- It takes at least and at most so many, counted without its class. -/
  | counted (least most : Nat)
  /-- It takes arguments that may all be left out, and may be given by name. -/
  | named (names : List String)
  /-- It takes arguments by name only. -/
  | namedOnly (names : List String)
  /-- It takes at most so many arguments, and any names. -/
  | free (most : Nat)
  /-- It stands for an operator, and takes exactly so many operands. -/
  | operands (count : Nat)
  /-- It stands for an operator, and takes at least and at most so many operands. -/
  | operandsBetween (least most : Nat)
  /-- It stands for a call, and takes what is called for. -/
  | anyArguments
  deriving DecidableEq, Repr

/-- The most arguments that can be given by place. -/
def Taking.most : Taking → Nat
  | .nothing => 0
  | .one => 1
  | .expected _ most => most
  | .counted _ most => most
  | .named names => names.length
  | .namedOnly _ => 0
  | .free most => most
  | .operands count => count
  | .operandsBetween _ most => most
  | .anyArguments => 0

/-- Does a method that takes its arguments so stand for an operator? -/
def Taking.isOperator : Taking → Bool
  | .operands _ | .operandsBetween _ _ | .anyArguments => true
  | _ => false

namespace BuiltinType

/-- The name of a built-in type. -/
def name : BuiltinType → String
  | anything => "object" | absent => "NoneType" | truth => "bool" | whole => "int"
  | decimal => "float" | text => "str" | list => "list" | tuple => "tuple" | deque => "deque"
  | dict => "dict" | range => "range" | keys => "dict_keys" | values => "dict_values"
  | items => "dict_items" | generator => "generator" | fault => "BaseException"
  | iterator typeName | inert typeName => typeName | function => "function"
  | builtinFunction => "builtin_function_or_method" | method => "method"
  | operator => "method-wrapper" | methodOfType => "method_descriptor"
  | operatorOfType => "wrapper_descriptor" | preset => "partial" | type => "type"
  | abstractType => "ABCMeta" | contractType => "_ProtocolMeta" | genericAlias => "GenericAlias"
  | union => "UnionType" | notImplemented => "NotImplementedType" | abstract => "ABC"
  | generic => "Generic" | contract => "Protocol"

/-- The module that a built-in type is kept in, for a type that is not always there. -/
def home : BuiltinType → String
  | deque => "collections"
  | preset => "functools"
  | iterator "_deque_iterator" | iterator "_deque_reverse_iterator" => "_collections"
  | genericAlias | union => "types"
  | abstractType | abstract => "abc"
  | contractType | generic | contract => "typing"
  | _ => ""

/-- The name of a built-in type with the module it is kept in, for a type that is not always there. -/
def path (t : BuiltinType) : String := if t.home.isEmpty then t.name else t.home ++ "." ++ t.name

/-- What a built-in type is called in complaints. -/
def shownName (t : BuiltinType) : String :=
  if t.home == "abc" || t.home == "typing" then t.name else t.path

/-- The types that a built-in type descends from, itself first. -/
def ancestry : BuiltinType → List BuiltinType
  | anything => [anything]
  | truth => [truth, whole, anything]
  | abstractType => [abstractType, type, anything]
  | contractType => [contractType, abstractType, type, anything]
  | contract => [contract, generic, anything]
  | t => [t, anything]

end BuiltinType
end EffectGraph
