/-!
# The scripting language

Scripts are expressions of a small dynamic language: literals, variables, closures, calls of library
operations and methods, and primitives.  A generator body is a list of statements that may stop at a
`yield` and go on with the value sent back.
-/

namespace EffectGraph
namespace Script

/-- A value written down directly. -/
inductive Literal where
  | none
  | bool (b : Bool)
  | int (i : Int)
  | float (x : Float)
  | str (s : String)

/-- The built-in operations of the language, apart from its special forms. -/
inductive Primitive where
  | add | subtract | multiply | less | floorDivide | modulo | equal | same | not | truthy | power
  | list | tuple | dict | range | length | index | append | circular
  | str | repr | upper | typeName | int | float
  | iter | lazy | relazy | iterate
  | log | count | counted
  | fault | raise | isInstance | isVariant | isProtocol
  | call | preset | getAttribute | setAttribute | setItem
  | console | stream | alien
  deriving DecidableEq, Repr

/-- The word that a primitive is written with. -/
def Primitive.word : Primitive → String
  | add => "+" | subtract => "-" | multiply => "*" | less => "<" | floorDivide => "//"
  | modulo => "%" | equal => "==" | same => "same" | not => "not" | truthy => "truthy"
  | power => "**" | list => "list" | tuple => "tuple" | dict => "dict" | range => "range"
  | length => "len" | index => "index" | append => "append" | circular => "circular"
  | str => "str" | repr => "repr" | upper => "upper" | typeName => "typename" | int => "int"
  | float => "float" | iter => "iter" | lazy => "lazy" | relazy => "relazy"
  | iterate => "iterate" | log => "log" | count => "count" | counted => "counted"
  | fault => "exc" | raise => "raise" | isInstance => "isinstance" | isVariant => "variant"
  | isProtocol => "protocol" | call => "call" | preset => "partial" | getAttribute => "attr"
  | setAttribute => "setattr" | setItem => "fd_set" | console => "console" | stream => "stream"
  | alien => "alien"

/-- All primitives. -/
def Primitive.all : List Primitive :=
  [add, subtract, multiply, less, floorDivide, modulo, equal, same, not, truthy, power,
    list, tuple, dict, range, length, index, append, circular, str, repr, upper, typeName, int,
    float, iter, lazy, relazy, iterate, log, count, counted, fault, raise, isInstance, isVariant,
    isProtocol, call, preset, getAttribute, setAttribute, setItem, console, stream, alien]

/-- The primitive written with a given word. -/
def Primitive.ofWord? (word : String) : Option Primitive :=
  all.find? (·.word == word)

mutual

/-- An expression. -/
inductive Expr where
  | literal (value : Literal)
  | var (name : String)
  | fn (params : List String) (body : Expr) (name : Option String)
  /-- Sets a global. -/
  | define (name : String) (value : Expr)
  | seq (items : List Expr)
  | cond (test yes no : Expr)
  /-- A generator function wrapped for use as an effect program. -/
  | program (name : String) (params : List String) (body : List Stmt)
  /-- A library operation as a value. -/
  | library (name : String)
  /-- A call of a library operation. -/
  | invoke (name : String) (args : List Expr) (keywords : List (String × Expr))
  /-- A call of a method. -/
  | method (name : String) (receiver : Expr) (args : List Expr) (keywords : List (String × Expr))
  | primitive (op : Primitive) (args : List Expr) (keywords : List (String × Expr))

/-- A statement of a generator body. -/
inductive Stmt where
  | yield (value : Expr)
  /-- Yields, and binds what is sent back. -/
  | bind (name : String) (value : Expr)
  | set (name : String) (value : Expr)
  | expr (value : Expr)
  | return (value : Expr)
  | when (test : Expr) (yes no : List Stmt)
  | while (test : Expr) (body : List Stmt)
  | for (name : String) (items : Expr) (body : List Stmt)
  | try (body : List Stmt) (name : String) (handler : List Stmt)
  | finally (body final : List Stmt)

end

instance : Inhabited Expr := ⟨.literal .none⟩

instance : Inhabited Stmt := ⟨.expr default⟩

end Script
end EffectGraph
