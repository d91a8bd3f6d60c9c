import EffectGraph.Node
import EffectGraph.Fault
import EffectGraph.Callback
import EffectGraph.Method
import EffectGraph.Script.Syntax

/-!
# Values

The values that scripts compute with.  Nodes, faults and callables are values like any other, and
the parts of a node are values.  What can change after it was made (lists, dictionaries, cells,
iterators, generators, consoles, counters of runs, the locals of a generator) is kept in the world
and is here an address.

A script can tell two things apart although they look alike, so whatever is no plain datum has an
identity: its address, its name, or a stamp.  A value that no script has got hold of yet has the
stamp 0; it gets a stamp of its own when it is handed to one.  The one shared unit node has the
stamp 1.
-/

namespace EffectGraph

/-- One layer of the variables that a closure sees: bound once, or shared with a generator that may
still assign them. -/
inductive Layer (α : Type) where
  | bound (bindings : List (String × α))
  | shared (address : Nat)

/-- What a closure does when it is called: compute an expression, or make a generator. -/
inductive ClosureBody where
  | expr (body : Script.Expr)
  | generator (body : List Script.Stmt)

/-- A function of a script. -/
structure Closure (α : Type) where
  stamp : Nat
  /-- The name that it was given, if any. -/
  name : Option String
  params : List String
  body : ClosureBody
  scope : List (Layer α)

/-- Does a call make a generator? -/
def Closure.isGenerator {α : Type} (c : Closure α) : Bool :=
  match c.body with
  | .generator _ => true
  | .expr _ => false

/-- Which part of its entries a view of a dictionary shows. -/
inductive View where
  | keys
  | values
  | items
  deriving DecidableEq, Repr

/-- The built-in type of a view. -/
def View.builtinType : View → BuiltinType
  | keys => .keys
  | values => .values
  | items => .items

/-- A value of the scripting language. -/
inductive Value where
  | none
  | bool (b : Bool)
  | int (i : Int)
  | float (stamp : Nat) (x : Float)
  | str (s : String)
  | tuple (stamp : Nat) (items : List Value)
  | list (address : Nat)
  | dict (address : Nat)
  | frozenDict (stamp : Nat) (entries : List (Value × Value))
  | range (stamp : Nat) (start stop : Int)
  | ok (stamp : Nat) (value : Value)
  | err (stamp : Nat) (error : Value)
  /-- An outcome that is neither a success nor a failure. -/
  | bareResult (stamp : Nat)
  | fault (f : Fault Value)
  | node (stamp : Nat) (n : Node Value)
  | frame (stamp : Nat) (f : Frame Value)
  | stats (address : Nat)
  /-- The state of a run as an object of its own. -/
  | runState (address : Nat)
  | runResult (stamp : Nat) (result stats failure : Value)
  | interpreter (stamp : Nat) (maxStackDepth traceSteps : Value)
  | cell (address : Nat)
  | scripted (address : Nat)
  /-- A console over two streams; none stands for those of the session. -/
  | stream (stamp : Nat) (input output : Value)
  | closure (c : Closure Value)
  | callback (stamp : Nat) (c : Callback Value)
  | operation (op : Operation)
  | blueprint (cls : Blueprint)
  /-- A function wrapped as an effect program. -/
  | program (stamp : Nat) (target : Value)
  /-- A callable with its first arguments already given. -/
  | preset (stamp : Nat) (target : Value) (args : List Value) (keywords : List (String × Value))
  /-- A method of a value. -/
  | method (stamp : Nat) (receiver : Value) (m : Method)
  /-- A method as its class offers it, without a receiver. -/
  | unbound (m : Method)
  | generator (address : Nat)
  /-- An iterator of the scripting language. -/
  | iterator (address : Nat)
  /-- An iterator of a built-in type with the given name. -/
  | walker (typeName : String) (address : Nat)
  /-- An iterable that makes a fresh lazy iterator each time. -/
  | relazy (stamp : Nat) (count f : Value)
  /-- A row that grows and shrinks at both ends. -/
  | deque (address : Nat)
  /-- The keys, values or entries of a dictionary as they are now. -/
  | view (stamp : Nat) (kind : View) (source : Value)
  | constant (c : Constant)
  /-- Something of a given type that can only be held. -/
  | inert (typeName : String)

/-- A keyword argument list. -/
abbrev Keywords := List (String × Value)

namespace Value

instance : Inhabited Value := ⟨.none⟩

/-- The one shared node that is finished without a value. -/
def unit : Value := .node 1 (.done .none)

/-- A success that no script has seen yet. -/
def success (v : Value) : Value := .ok 0 v

/-- A failure that no script has seen yet. -/
def failure (e : Value) : Value := .err 0 e

/-- A tuple that no script has seen yet. -/
def ofItems (items : List Value) : Value := .tuple 0 items

/-- A double that no script has seen yet. -/
def ofFloat (x : Float) : Value := .float 0 x

/-- A node that no script has seen yet. -/
def ofNode (n : Node Value) : Value := .node 0 n

/-- A callback of the library that no script has seen yet. -/
def ofCallback (c : Callback Value) : Value := .callback 0 c

/-- A finished node. -/
def done (v : Value) : Value := ofNode (.done v)

/-- A sequence whose continuation is a callback of the library. -/
def sequenced (source : Value) (next : Callback Value) : Value :=
  ofNode (.flatMap source (ofCallback next))

/-- A node that builds its real node when it is reached. -/
def suspend (factory : Factory Value) : Value := sequenced unit (.suspended factory)

/-- Is this value a node? -/
def isNode : Value → Bool
  | .node _ _ => true
  | _ => false

/-- Can this value be called? -/
def isCallable : Value → Bool
  | .closure _ => true
  | .callback _ _ => true
  | .operation _ => true
  | .blueprint _ => true
  | .program _ _ => true
  | .preset _ _ _ _ => true
  | .method _ _ _ => true
  | .unbound _ => true
  | .constant .generatorType => true
  | _ => false

/-- **The class that a value is an instance of.** -/
def classOf : Value → Blueprint
  | .none => .builtin .absent
  | .bool _ => .builtin .truth
  | .int _ => .builtin .whole
  | .float _ _ => .builtin .decimal
  | .str _ => .builtin .text
  | .tuple _ _ => .builtin .tuple
  | .list _ => .builtin .list
  | .dict _ => .builtin .dict
  | .frozenDict _ _ => .frozenDict
  | .range _ _ _ => .builtin .range
  | .ok _ _ => .ok
  | .err _ _ => .err
  | .bareResult _ => .result
  | .fault f => .fault f.kind
  | .node _ (.done _) => .done
  | .node _ (.delay _ _) => .delay
  | .node _ (.flatMap _ _) => .flatMap
  | .node _ (.recover _ _) => .recover
  | .node _ (.foreign variant) => .foreign variant
  | .frame _ (.continuation _) => .continuationFrame
  | .frame _ (.boundary _) => .recoverFrame
  | .stats _ => .stats
  | .runState _ => .runState
  | .runResult _ _ _ _ => .runResult
  | .interpreter _ _ _ => .interpreter
  | .cell _ => .cell
  | .scripted _ => .scriptedConsole
  | .stream _ _ _ => .streamConsole
  | .closure c => if c.isGenerator then .builtin .function else .scripted "Fn"
  | .callback _ _ => .builtin .function
  | .operation .length => .builtin .builtinFunction
  | .operation _ => .builtin .function
  | .blueprint cls => .builtin cls.kind
  | .program _ _ => .program
  | .preset _ _ _ _ => .builtin .preset
  | .method _ _ m => .builtin m.boundType
  | .unbound m => .builtin m.unboundType
  | .generator _ => .builtin .generator
  | .iterator _ => .scripted "Lazy"
  | .walker typeName _ => .builtin (.iterator typeName)
  | .relazy _ _ _ => .scripted "Relazy"
  | .deque _ => .builtin .deque
  | .view _ kind _ => .builtin kind.builtinType
  | .constant c => .builtin c.builtinType
  | .inert typeName => .builtin (.inert typeName)

/-- The name of a value's type. -/
def typeName (v : Value) : String := v.classOf.name

/-- What a value's type is called in complaints. -/
def typePath (v : Value) : String := v.classOf.shownName

/-- What a value is called in the place of an argument of another type. -/
def argumentName : Value → String
  | .none => "None"
  | v => v.typePath

/-- The method of a value with a given word, its own or inherited. -/
def method? (v : Value) (word : String) : Option Method := v.classOf.method? word

/-- The name that a value carries itself, if it has one. -/
def ownName? : Value → Option String
  | .closure c => c.name
  | .callback _ c => some c.name
  | .operation op => some op.name
  | .blueprint cls => some cls.name
  | .method _ receiver m =>
    some (if m.isBuiltin && !m.isOperator then receiver.typeName ++ "." ++ m.word else m.name)
  | .unbound m => some m.name
  | .constant .generatorType => some "Generator"
  | _ => Option.none

/-- Is a value an instance of a class, or of one that descends from it? -/
def isInstance (v : Value) (cls : Blueprint) : Bool := v.classOf.ancestry.contains cls

end Value
end EffectGraph
