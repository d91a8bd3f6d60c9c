import EffectGraph.Operation

/-!
# Methods

`Method` lists what can be called on a receiver: the methods of the library's classes, those of the
built-in types, and the special methods that stand for operators and texts.  Each method of a class
has a word that it is read off its receiver by, and names for its arguments; it is inherited by the
classes that descend from its own.
-/

namespace EffectGraph

/-- A method. -/
inductive Method where
  -- nodes
  | map | flatMap | thenRun | skip | replace | recover | attempt | pair
  -- outcomes
  | isOk | isErr | okValue | errValue | unwrap | unwrapErr | mapOutcome | unwrapOr
  -- cells
  | getCell | setCell | modifyCell | readCell
  -- runs
  | reportIsOk | reportIsErr | reportUnwrap | statsToDict | pushFrame
  | run | runResult | drive | unwind
  -- consoles
  | feed | readScripted | writeScripted | readStream | writeStream | readContract | writeContract
  -- frozen dictionaries
  | copyFrozen | putFrozen | deleteFrozen | setDefaultFrozen | keyAt | valueAt | itemAt
  | popFrozen | popLastFrozen | clearFrozen | updateFrozen
  /-- What a class defines itself for an operator. -/
  | special (cls : Blueprint) (specialWord : String)
  /-- A method of a built-in type. -/
  | builtin (owner : BuiltinType) (builtinWord : String)
  deriving DecidableEq, Repr

/-- The operators, by their words, that a class defines itself. -/
def Blueprint.specials : Blueprint → List String
  | .done | .flatMap | .recover | .continuationFrame | .recoverFrame =>
    ["__init__", "__repr__", "__setattr__", "__delattr__"]
  | .delay => ["__init__", "__post_init__", "__repr__", "__setattr__", "__delattr__"]
  | .ok | .err | .runResult =>
    ["__init__", "__repr__", "__eq__", "__hash__", "__setattr__", "__delattr__"]
  | .stats | .runState => ["__init__", "__repr__", "__eq__"]
  | .result => ["__bool__"]
  | .interpreter | .cell | .scriptedConsole => ["__init__", "__repr__"]
  | .streamConsole => ["__init__"]
  | .program => ["__init__", "__call__", "__repr__"]
  | .frozenDict =>
    ["__init__", "__repr__", "__setitem__", "__delitem__", "__or__", "__ior__", "__copy__",
      "__setattr__", "__delattr__"]
  | .foreign _ => ["__repr__"]
  | .scripted "Fn" => ["__call__", "__repr__"]
  | .scripted "Lazy" => ["__iter__", "__next__", "__repr__"]
  | .scripted "Relazy" => ["__iter__", "__repr__"]
  | _ => []

namespace Method

/-- The name of the class that a method belongs to. -/
def owner : Method → String
  | map | flatMap | thenRun | skip | replace | recover | attempt | pair => "EffectNode"
  | isOk | isErr | okValue | errValue | unwrap | unwrapErr | mapOutcome | unwrapOr => "Result"
  | getCell | setCell | modifyCell | readCell => "Ref"
  | reportIsOk | reportIsErr | reportUnwrap => "RunResult"
  | statsToDict => "InterpretationStats"
  | pushFrame => "InterpreterState"
  | run | runResult | drive | unwind => "Interpreter"
  | feed | readScripted | writeScripted => "ScriptedConsole"
  | readStream | writeStream => "StreamConsole"
  | readContract => "LineReader"
  | writeContract => "LineWriter"
  | copyFrozen | putFrozen | deleteFrozen | setDefaultFrozen | keyAt | valueAt | itemAt
  | popFrozen | popLastFrozen | clearFrozen | updateFrozen => "frozendict"
  | special cls _ => cls.name
  | builtin owner _ => owner.name

/-- The word that a method is read off its receiver by. -/
def word : Method → String
  | map => "map" | flatMap => "flat_map" | thenRun => "then" | skip => "skip" | replace => "as_"
  | recover => "recover" | attempt => "attempt" | pair => "__pow__"
  | isOk => "is_ok" | isErr => "is_err" | okValue => "ok" | errValue => "err"
  | unwrap => "unwrap" | unwrapErr => "unwrap_err" | mapOutcome => "map" | unwrapOr => "unwrap_or"
  | getCell => "get" | setCell => "set" | modifyCell => "modify" | readCell => "_read"
  | reportIsOk => "is_ok" | reportIsErr => "is_err" | reportUnwrap => "unwrap"
  | statsToDict => "to_dict" | pushFrame => "push_frame"
  | run => "run" | runResult => "run_result" | drive => "_drive" | unwind => "_unwind"
  | feed => "feed"
  | readScripted | readStream | readContract => "read_line"
  | writeScripted | writeStream | writeContract => "write_line"
  | copyFrozen => "copy" | putFrozen => "set" | deleteFrozen => "delete"
  | setDefaultFrozen => "setdefault" | keyAt => "key" | valueAt => "value" | itemAt => "item"
  | popFrozen => "pop" | popLastFrozen => "popitem" | clearFrozen => "clear"
  | updateFrozen => "update"
  | special _ word => word
  | builtin _ word => word

/-- Is this a method that only refuses to change what is frozen? -/
def isRefusal : Method → Bool
  | popFrozen | popLastFrozen | clearFrozen | updateFrozen => true
  | special .frozenDict "__setattr__" | special .frozenDict "__delattr__" => true
  | _ => false

/-- The name of a method in labels and messages. -/
def name (m : Method) : String :=
  match m with
  | special .frozenDict "__or__" | special .frozenDict "__ior__" => "frozendict_or"
  | m => if m.isRefusal then "immutable" else m.owner ++ "." ++ m.word

/-- Is this a method of a built-in type? -/
def isBuiltin : Method → Bool
  | builtin _ _ => true
  | _ => false

/-- What the class that a method belongs to is called in complaints. -/
def ownerPath : Method → String
  | builtin owner _ => owner.shownName
  | m => m.owner

/-- How a method of a built-in type takes its arguments. -/
def taking : Method → Taking
  | builtin owner word => (owner.taking? word).getD .nothing
  | _ => .nothing

/-- Is this a method that belongs to a class itself rather than to its instances? -/
def isOfClass : Method → Bool
  | builtin .dict "fromkeys" => true
  | _ => false

/-- Is this an operator of a built-in type? -/
def isOperator (m : Method) : Bool := m.taking.isOperator

/-- The type of a method that has a receiver. -/
def boundType (m : Method) : BuiltinType :=
  if m.isOperator then .operator else if m.isBuiltin then .builtinFunction else .method

/-- The type of a method as its class offers it. -/
def unboundType (m : Method) : BuiltinType :=
  if m.isOperator then .operatorOfType else if m.isBuiltin then .methodOfType else .function

/-- The names of the arguments that a method of a class needs. -/
def parameters : Method → List String
  | map | flatMap | mapOutcome | modifyCell => ["f"]
  | thenRun | pair => ["other"]
  | replace | setCell => ["value"]
  | recover => ["handler"]
  | unwrapOr => ["default"]
  | pushFrame => ["frame"]
  | run | runResult => ["node"]
  | drive => ["state"]
  | unwind => ["state", "exc", "label"]
  | writeScripted | writeStream | writeContract => ["text"]
  | deleteFrozen | setDefaultFrozen => ["key"]
  | putFrozen => ["key", "val"]
  | special _ "__eq__" => ["other"]
  | special .frozenDict "__or__" | special .frozenDict "__ior__" => ["other"]
  | special .frozenDict "__setitem__" => ["key", "val"]
  | special .frozenDict "__delitem__" => ["key"]
  | special .frozenDict _ => []
  | special _ "__setattr__" => ["name", "value"]
  | special _ "__delattr__" => ["name"]
  | _ => []

/-- The names of the arguments that may be left out. -/
def optional : Method → List String
  | setDefaultFrozen => ["default"]
  | keyAt | valueAt | itemAt => ["index"]
  | _ => []

/-- Does a method take any number of arguments? -/
def takesAny (m : Method) : Bool :=
  match m with
  | feed | special _ "__call__" => true
  | special .frozenDict word => word != "__repr__" && word != "__copy__"
  | m => m.isRefusal

/-- Does a method take any keyword? -/
def takesAnyKeyword (m : Method) : Bool :=
  match m with
  | special .program "__call__" => true
  | special .frozenDict _ => m.takesAny
  | m => m.isRefusal

/-- All methods of classes. -/
def all : List Method :=
  [map, flatMap, thenRun, skip, replace, recover, attempt, pair, isOk, isErr, okValue, errValue,
    unwrap, unwrapErr, mapOutcome, unwrapOr, getCell, setCell, modifyCell, readCell, reportIsOk,
    reportIsErr, reportUnwrap, statsToDict, pushFrame, run, runResult, drive, unwind, feed,
    readScripted, writeScripted, readStream, writeStream, readContract, writeContract,
    copyFrozen, putFrozen, deleteFrozen, setDefaultFrozen, keyAt, valueAt, itemAt, popFrozen,
    popLastFrozen, clearFrozen, updateFrozen]

/-- The method that a class defines itself, by its word. -/
def ofClass? (cls : Blueprint) (word : String) : Option Method :=
  let own := all.find? fun m => m.owner == cls.name && m.word == word
  match cls with
  | .builtin t => (t.taking? word).map fun _ => .builtin t word
  | .fault .baseException => (BuiltinType.fault.taking? word).map fun _ => .builtin .fault word
  | cls => own.or (if cls.specials.contains word then some (.special cls word) else none)

end Method

/-- The method of a class with a given word, its own or inherited. -/
def Blueprint.method? (cls : Blueprint) (word : String) : Option Method :=
  cls.ancestry.findSome? fun c => Method.ofClass? c word

end EffectGraph
