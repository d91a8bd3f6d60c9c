import EffectGraph.Script.Fields

/-!
# Attributes

What can be read off a value by name.  What the class of a value computes comes first, then what the
object holds itself, then what its class and the classes that this descends from hold for all their
instances; a method found there is bound to the value.  A class is a value too, and offers what it
holds as it is.
-/

namespace EffectGraph
namespace Script

/-! ## What objects hold -/

/-- The first of a fault's arguments, if that is what it is about. -/
def soleArgument (args : List Value) (all : Value) : Value :=
  match args with
  | [] => .none
  | [v] => v
  | _ => all

/-- The arguments of a fault as a tuple, the same one each time. -/
def argumentsOf (f : Fault Value) : Eff Value := do
  match (← get).given? (.fault f) "args" with
  | some args => return args
  | none =>
    let args ← settle (.ofItems f.args)
    World.give (.fault f) "args" args
    return args

/-- What every fault of some kinds offers besides its fields. -/
def kindField? (f : Fault Value) (name : String) : Eff (Option Value) := do
  let kind := f.kind
  let system (number text : Value) (files : List Value) : Option Value :=
    match name with
    | "errno" => some number
    | "strerror" => some text
    | "filename" => some (files.head?.getD .none)
    | "filename2" => some ((files.drop 1).head?.getD .none)
    | _ => none
  match name with
  | "args" => return some (← argumentsOf f)
  | "__cause__" | "__traceback__" => return some .none
  | "__context__" =>
    match f.detail with
    | .parse _ [refusal] => return some refusal
    | _ => return some .none
  | "__suppress_context__" =>
    let causeGiven := ((← get).given? (.fault f) "__cause__").isSome
    return some (.bool (causeGiven || f.detail matches .parse _ [_]))
  | "value" => return if kind.isA .stopIteration then some (f.args.head?.getD .none) else none
  | "code" =>
    if kind.isA .systemExit then return some (soleArgument f.args (← argumentsOf f)) else return none
  | "name" | "obj" =>
    match f.detail with
    | .lookup missed object =>
      return some (if name == "name" then .str missed else object.head?.getD .none)
    | _ =>
      let knows := kind.isA .attributeError || (name == "name" && kind.isA .nameError)
      return if knows then some .none else none
  | _ =>
    if !kind.isA .osError then return none
    match f.detail with
    | .system number text files => return system number text files
    | _ => return system .none .none []

/-- The value that a callable with arguments given in advance has under a name, the same one each
time. -/
def presetField? (v : Value) (name : String) : Eff (Option Value) := do
  let remembered (make : Eff Value) : Eff (Option Value) := do
    match (← get).given? v name with
    | some made => return some made
    | none =>
      let made ← make
      World.give v name made
      return some made
  match v, name with
  | .preset _ target _ _, "func" => return some target
  | .preset _ _ args _, "args" => remembered (settle (.ofItems args))
  | .preset _ _ _ keywords, "keywords" =>
    remembered (World.newDict (keywords.map fun (k, w) => (.str k, w)))
  | _, _ => return none

/-- The stream that a console was given, if it was given one. -/
def givenStream (v field : Value) (hidden name : String) : Eff Value := do
  match ((← get).given? v hidden).getD field with
  | .none => missing v name
  | stream => return stream

/-- What the class of a value computes from its fields under a name. -/
def property? (v : Value) (name : String) : Option (Eff Value) :=
  match v, name with
  | .runResult _ result _ _, "value" => some <|
    match result with
    | .ok _ v => pure v
    | .err _ e => raiseValue e
    | other => do
      match field? (← get) other "error" with
      | some e => raiseValue e
      | none => missing other "error"
  | .runResult _ result _ _, "error" => some <|
    match result with
    | .err _ e => pure e
    | _ => Eff.complain .noErrorInSuccess
  | .stats address, "duration_ns" => some do Eff.ofExcept ((← get).statsAt address).duration
  | .runState _, "stack_depth" => some do
    Eff.ofExcept (fieldLength (← get) v "continuation_stack")
  | .interpreter _ limit _, "max_stack_depth" => some do
    return ((← get).given? v "_max_stack_depth").getD limit
  | .interpreter _ _ trace, "trace_steps" => some do
    return ((← get).given? v "_trace_steps").getD trace
  | .scripted address, "remaining" => some do
    return .int (← Eff.ofExcept ((← get).length? ((← get).consoleAt address).pending))
  | .stream _ input _, "stdin" => some (givenStream v input "_stdin" name)
  | .stream _ _ output, "stdout" => some (givenStream v output "_stdout" name)
  | .range _ a _, "start" => some (pure (.int a))
  | .range _ _ b, "stop" => some (pure (.int b))
  | .range _ _ _, "step" => some (pure (.int 1))
  | .deque _, "maxlen" => some (pure .none)
  | .float stamp x, "real" => some (pure (.float stamp x))
  | .float _ _, "imag" => some (pure (.ofFloat 0.0))
  | v, name =>
    match Number.ofCounting? v, name with
    | some (.int i), "real" | some (.int i), "numerator" => some (pure (.int i))
    | some (.int _), "imag" => some (pure (.int 0))
    | some (.int _), "denominator" => some (pure (.int 1))
    | _, _ => none

/-- The table of the fields of an object as a dictionary.  A callable with arguments given in advance
makes one when it is asked for it, and keeps it. -/
def tableOf? (v : Value) : Eff (Option Value) := do
  match v, fieldTable? (← get) v with
  | .blueprint _, _ => return some (.inert "mappingproxy")
  | _, none => return none
  | v, some fields =>
    let table ← World.newDict (fields.map fun (name, value) => (.str name, value))
    if v matches .preset _ _ _ _ then World.give v "__dict__" table
    return some table

/-- What an object has of its own under a name, if anything. -/
def ownAttribute? (v : Value) (name : String) : Eff (Option Value) := do
  match name, field? (← get) v name with
  | "__dict__", _ => tableOf? v
  | _, some found => return some found
  | _, none =>
    match v with
    | .fault f => kindField? f name
    | .cell address =>
      match name with
      | "ref_id" => return some (.int (address + 1))
      | "_value" => return some (← settledCell address)
      | _ => return none
    | .preset _ _ _ _ => presetField? v name
    | _ => return none

/-! ## What classes hold -/

/-- The names of the fields that an instance of a class is made from. -/
def fieldNames : Blueprint → List String
  | .done | .ok => ["value"]
  | .delay => ["thunk", "label"]
  | .flatMap => ["source", "continuation"]
  | .recover => ["source", "handler"]
  | .err => ["error"]
  | .continuationFrame => ["continuation"]
  | .recoverFrame => ["handler"]
  | .stats => Stats.fieldNames
  | .runState => ["current", "continuation_stack", "stats"]
  | .runResult => ["result", "stats", "failure"]
  | _ => []

/-- Some texts as a tuple. -/
def textTuple (texts : List String) : Value := .ofItems (texts.map .str)

/-- What a class holds for all its instances: the values that fields have if they are left out, and
what it is made of. -/
def classField? (cls : Blueprint) (name : String) : Option Value :=
  match cls, name with
  | .stats, "start_time_ns" => some .none
  | .stats, "end_time_ns" => some .none
  | .delay, "label" => some .none
  | .runResult, "failure" => some .none
  | .effectNode, "__slots__" | .result, "__slots__" => some (textTuple [])
  | .cell, "__slots__" => some (textTuple ["_value", "ref_id"])
  | .frozenDict, "__slots__" => some (textTuple ["_hash"])
  | .builtin .list, "__hash__" | .builtin .dict, "__hash__" | .builtin .deque, "__hash__"
  | .builtin .keys, "__hash__" | .builtin .items, "__hash__" | .stats, "__hash__"
  | .runState, "__hash__" => some .none
  | .builtin .preset, "__module__" => some (.str BuiltinType.preset.home)
  | .builtin _, "__module__" => none
  | cls, "__module__" => if cls.home.isEmpty then none else some (.str cls.home)
  | cls, "__match_args__" =>
    if (fieldNames cls).isEmpty then none else some (textTuple (fieldNames cls))
  | .stats, name => if (Stats.fieldNames.take 6).contains name then some (.int 0) else none
  | _, _ => none

/-- The type of what a class holds in the place of an attribute that is computed or kept in a place of
its own. -/
def descriptorType? (cls : Blueprint) (name : String) : Option String :=
  let among (names : List String) (type : String) := if names.contains name then some type else none
  match cls with
  | .runResult => among ["value", "error"] "property"
  | .stats => among ["duration_ns"] "property"
  | .runState => among ["stack_depth"] "property"
  | .interpreter => among ["max_stack_depth", "trace_steps"] "property"
  | .scriptedConsole => among ["remaining"] "property"
  | .streamConsole => among ["stdin", "stdout"] "property"
  | .cell => among ["_value", "ref_id"] "member_descriptor"
  | .builtin .range => among ["start", "stop", "step"] "member_descriptor"
  | .builtin .deque => among ["maxlen"] "getset_descriptor"
  | .builtin .whole => among ["real", "imag", "numerator", "denominator"] "getset_descriptor"
  | .builtin .decimal => among ["real", "imag"] "getset_descriptor"
  | .builtin .keys | .builtin .values | .builtin .items => among ["mapping"] "getset_descriptor"
  | _ => none

/-- What is found in a class: a value that stays as it is, or a method. -/
inductive Inherited where
  | plain (value : Value)
  | method (m : Method)

/-- What a class holds itself under a name.  What scripts have given to it comes first. -/
def heldBy? (w : World) (name : String) (cls : Blueprint) : Option Inherited :=
  match w.given? (.blueprint cls) name, Method.ofClass? cls name, classField? cls name with
  | some given, _, _ => some (.plain given)
  | none, some m, _ => some (.method m)
  | none, none, some value => some (.plain value)
  | none, none, none => (descriptorType? cls name).map fun type => .plain (.inert type)

/-- What a class holds under a name, itself or by descent. -/
def inherited? (w : World) (cls : Blueprint) (name : String) : Option Inherited :=
  cls.ancestry.findSome? (heldBy? w name)

/-- What a class has under a name because it is a class. -/
def classAttribute? (cls : Blueprint) (name : String) : Option Value :=
  match name with
  | "__name__" | "__qualname__" => some (.str cls.name)
  | "__module__" =>
    match cls with
    | .foreign _ | .scripted _ => none
    | cls => some (.str (if cls.home.isEmpty then "builtins" else cls.home))
  | "__class__" => some (.blueprint (.builtin cls.kind))
  | "__mro__" => some (.ofItems (cls.ancestry.map .blueprint))
  | "__bases__" => some (.ofItems (cls.bases.map .blueprint))
  | "__base__" => some ((cls.bases.head?.map .blueprint).getD .none)
  | _ => none

/-- The attribute of a class with a given name, if it has one. -/
def attributeOfClass? (w : World) (cls : Blueprint) (name : String) : Option Value :=
  let v := Value.blueprint cls
  match classAttribute? cls name, inherited? w cls name with
  | some found, _ => some ((w.given? v name).getD found)
  | none, some (.plain found) => some found
  | none, some (.method m) =>
    if m.isOfClass then some (.method 0 v m) else some (.unbound m)
  | none, none => (v.method? name).map fun m => .method 0 v m

/-! ## Reading attributes -/

/-- A value as the name of an attribute, which has to be a text. -/
def attributeName (v : Value) : Eff String :=
  match v with
  | .str name => pure name
  | v => Eff.complain (.attributeNotText v.typePath)

/-- What a value has under a name by itself: its own name, its class, and the parts of a method. -/
def nameField? (v : Value) (name : String) : Option Value :=
  match v, name with
  | v, "__qualname__" => v.ownName?.map .str
  | .closure c, "__name__" => c.name.map .str
  | v, "__name__" => v.ownName?.map fun full => .str ((full.splitOn ".").getLast?.getD full)
  | .method _ receiver _, "__self__" => some receiver
  | .method _ _ m, "__func__" => if m.isBuiltin then none else some (.unbound m)
  | .operation op, "__module__" => some (.str op.home)
  | .constant .generatorType, "__class__" => some (.blueprint (.builtin .abstractType))
  | v, "__class__" => some (.blueprint v.classOf)
  | _, _ => none

/-- **The attribute of a value with a given name.** -/
def readAttribute (v : Value) (name : String) : Eff Value := do
  match property? v name with
  | some computed => computed
  | none =>
    match ← ownAttribute? v name, v with
    | some found, _ => return found
    | none, .blueprint cls =>
      match attributeOfClass? (← get) cls name with
      | some found => settle found
      | none => missing v name
    | none, v =>
      match inherited? (← get) v.classOf name, nameField? v name with
      | some (.method m), _ => return .method 0 v m
      | some (.plain found), _ => settle found
      | none, some found => return found
      | none, none => missing v name

/-- The attribute of a value with a given name, if it has one. -/
def attribute? (v : Value) (name : String) : Eff (Option Value) := do
  match ← Eff.attempt (readAttribute v name) with
  | .ok found => return some found
  | .error f => if f.kind.isA .attributeError then return none else Eff.raise f

/-- Does a value offer a method that a console contract asks for? -/
def offers (v : Value) (name : String) : Eff Bool := do
  if (v.method? name).isSome then return true
  match ← attribute? v name with
  | some .none => return false
  | some _ => return true
  | none => return false

end Script
end EffectGraph
