import EffectGraph.Command.Problem
import EffectGraph.Script.Methods

/-!
# Finding a program by name

Programs stand in modules, and a catalog holds the modules that there are.  A path names a module and
a symbol in it: after a colon the symbol may be an attribute of another one, to any depth; without a
colon it is what follows the last point.  `Catalog.find` gives what a path names, or stops with the
reason why there is nothing.
-/

namespace EffectGraph
namespace Command

/-- What a name stands for: a value, something that is no node and makes none, or a group of further
names.  A group is a module, or else a plain namespace. -/
inductive Symbol where
  | value (v : Value)
  /-- What is complained about when it is called with a console of a type of a given name, if
  anything. -/
  | barren (refusal? : String → Option Complaint)
  | group (moduleName : Option String) (members : List (String × Symbol))

/-- The names in a group. -/
abbrev Members := List (String × Symbol)

/-- A module under its full name. -/
structure Module where
  name : String
  members : Members

/-- The modules that there are. -/
abbrev Catalog := List Module

/-- The members of a group with a value installed under a dotted path; groups on the way are made as
they are needed. -/
def install (value : Value) : List String → Members → Members
  | [], members => members
  | [name], members => setEntry name (.value value) members
  | name :: rest, members =>
    let inner : Members := match members.lookup name with
      | some (.group _ inner) => inner
      | _ => []
    setEntry name (.group none (install value rest inner)) members

/-! ## What everything has -/

/-- A symbol that is of no use. -/
def Symbol.useless : Symbol := .barren fun _ => none

/-- A symbol that refuses to be called, whatever the console. -/
def Symbol.refusing (message : String) : Symbol := .barren fun _ => some (.arguments message)

/-- What describes every object. -/
def objectNames : List String :=
  ["__doc__", "__repr__", "__str__", "__hash__", "__sizeof__", "__dir__", "__getstate__", "__eq__",
    "__ne__", "__lt__", "__le__", "__gt__", "__ge__", "__subclasshook__", "__init_subclass__",
    "__reduce__"]

/-- What describes every class. -/
def classNames : List String :=
  ["__basicsize__", "__dictoffset__", "__flags__", "__itemsize__",
    "__text_signature__", "__weakrefoffset__", "__prepare__", "__subclasses__", "__or__", "__ror__",
    "__annotations__"]

/-- Is a class one of data that is written out as it is? -/
def isData : Blueprint → Bool
  | .builtin .truth | .builtin .whole | .builtin .decimal | .builtin .text | .builtin .list
  | .builtin .tuple | .builtin .dict | .builtin .keys | .builtin .values | .builtin .items => true
  | _ => false

/-- What the objects of a class are described by besides. -/
def describingNames (cls : Blueprint) : List String :=
  let ancestry := cls.ancestry
  (if (Script.fieldNames cls).isEmpty then []
    else ["__annotations__", "__dataclass_fields__", "__dataclass_params__"]) ++
  (if ancestry.contains (.builtin .generic) then
    ["__orig_bases__", "__parameters__", "__class_getitem__", "_is_protocol", "__slots__"] else []) ++
  (if ancestry.contains (.builtin .abstract) then ["__abstractmethods__", "_abc_impl"] else []) ++
  (if cls.home.isEmpty || cls == .cell then [] else ["__weakref__"]) ++
  match cls with
  | .builtin .truth | .builtin .whole | .builtin .decimal | .builtin .text | .builtin .tuple =>
    ["__getnewargs__"]
  | .builtin .builtinFunction => ["__module__", "__self__", "__text_signature__"]
  | .builtin .operator => ["__objclass__", "__text_signature__"]
  | _ => []

/-- Does a kind of faults make its faults itself? -/
def isMaker (kind : FaultKind) : Bool :=
  kind.home.isEmpty && (kind == .osError || !kind.isA .osError) &&
    ! [FaultKind.systemExit, .attributeError, .importError, .moduleNotFoundError, .nameError,
      .stopIteration, .keyError].contains kind

/-- The type that makes the instances of a class. -/
def makerOf (cls : Blueprint) : String :=
  (cls.ancestry.findSome? fun c =>
    match c with
    | .builtin .operator | .builtin .builtinFunction | .builtin .methodOfType
    | .builtin .operatorOfType | .builtin (.iterator _) | .builtin .keys | .builtin .values
    | .builtin .items | .builtin .generator | .builtin .generic | .builtin .abstract => none
    | .builtin t => some t.path
    | .fault kind => if isMaker kind then some kind.name else none
    | _ => none).getD "object"

/-- A symbol that refuses to be called without an argument. -/
def Symbol.needingOne (name : String) : Symbol :=
  .refusing (name ++ "() takes exactly one argument (0 given)")

/-- What an object of a class has under a name that everything has a use for but that leads to no
node. -/
def common? (cls : Blueprint) (maker : String) (name : String) : Option Symbol :=
  match name with
  | "__getattribute__" | "__delattr__" => some (.barren fun got => some (.attributeNotText got))
  | "__setattr__" => some (.refusing " expected 2 arguments, got 1")
  | "__format__" => some (.barren fun got =>
    some (.arguments ("__format__() argument must be str, not " ++ got)))
  | "__reduce__" =>
    some (if isData cls then .refusing ("cannot pickle '" ++ cls.name ++ "' object") else .useless)
  | "__reduce_ex__" => some (.barren fun got => some (.notAnInteger got))
  | "__new__" => some (.barren fun got =>
    some (.arguments (maker ++ ".__new__(X): X is not a type object (" ++ got ++ ")")))
  | "__init_subclass__" =>
    if cls.ancestry.contains (.builtin .generic) then
      some (.refusing (cls.name ++ ".__init_subclass__() takes no arguments (1 given)"))
    else some .useless
  | name => if objectNames.contains name then some .useless else none

/-- What a value has under a name besides its attributes. -/
def besides? (v : Value) (name : String) : Option Symbol :=
  match v, name with
  | .none, "__sizeof__" | .none, "__dir__" | .none, "__getstate__" | .none, "__reduce__" =>
    some (.refusing ("NoneType." ++ name ++ "() takes no arguments (1 given)"))
  | .list _, "__class_getitem__" | .tuple _ _, "__class_getitem__" | .dict _, "__class_getitem__"
  | .deque _, "__class_getitem__" | .preset _ _ _ _, "__class_getitem__"
  | .fault _, "__setstate__" | .preset _ _ _ _, "__setstate__" =>
    some (.needingOne (v.typeName ++ "." ++ name))
  | .err _ _, "__class_getitem__" =>
    some (.refusing ("<class '" ++ v.classOf.path ++ "'> is not a generic class"))
  | .blueprint _, "__reduce_ex__" => some (.needingOne "object.__reduce_ex__")
  | .blueprint _, "__reduce__" => some .useless
  | .blueprint cls, name =>
    match common? cls (makerOf cls) name with
    | some symbol => some symbol
    | none => if (classNames ++ describingNames cls).contains name then some .useless else none
  | v, name =>
    match common? v.classOf (makerOf v.classOf) name with
    | some symbol => some symbol
    | none => if (describingNames v.classOf).contains name then some .useless else none

/-- The members of a group that are values, as the entries of a dictionary. -/
def valuesOf (members : Members) : List (Value × Value) :=
  members.map fun (name, member) =>
    match member with
    | .value v => (.str name, v)
    | _ => (.str name, .none)

/-- The class of modules. -/
def moduleClass : Blueprint := .builtin (.inert "module")

/-- The class of namespaces. -/
def namespaceClass : Blueprint := .scripted "Namespace"

/-- The names that a module lists as its own, if it lists any. -/
def listedNames : String → Option (List String)
  | "examples.factorial_repl" => some ["factorial", "main"]
  | "examples.temperature" => some ["fahrenheit_to_celsius", "main"]
  | _ => none

/-- What a module has besides its members under a name. -/
def ownOfModule? (moduleName : String) (members : Members) (name : String) :
    Eff (Option Symbol) := do
  match name with
  | "__dict__" => return some (.value (← World.newDict (valuesOf members)))
  | "__annotations__" => return some (.value (← World.newDict []))
  | "__class__" => return some (.value (.blueprint moduleClass))
  | "__name__" => return some (.value (.str moduleName))
  | "__package__" | "__loader__" | "__spec__" | "__doc__" => return some (.value .none)
  | "__all__" => (listedNames moduleName).mapM fun names => do
    return .value (← World.newList (names.map Value.str).toArray)
  | "__init__" => return some (.barren fun got => some (.moduleName got))
  | "__reduce__" => return some (.refusing "cannot pickle 'module' object")
  | name => return common? moduleClass "module" name

/-- What a namespace has besides its members under a name. -/
def ownOfNamespace? (members : Members) (name : String) : Eff (Option Symbol) := do
  match name with
  | "__dict__" => return some (.value (← World.newDict (valuesOf members)))
  | "__class__" => return some (.value (.blueprint namespaceClass))
  | "__module__" | "__weakref__" => return some .useless
  | "__init__" => return some (.refusing
    "Namespace.__init__() takes exactly one argument (the instance to initialize)")
  | name => return common? namespaceClass "object" name

/-- The attribute of a symbol with a given name. -/
def Symbol.member (symbol : Symbol) (name : String) : Eff Symbol := do
  match symbol with
  | .value v =>
    match ← Script.attribute? v name, besides? v name with
    | some found, _ => return .value found
    | none, some symbol => return symbol
    | none, none => return .value (← Script.readAttribute v name)
  | .barren _ =>
    if objectNames.contains name then return .useless
    else Eff.complain (.noAttribute "method" name)
  | .group (some moduleName) members =>
    match members.lookup name, ← ownOfModule? moduleName members name with
    | some member, _ => return member
    | none, some member => return member
    | none, none => Problem.stop (.noMember moduleName name)
  | .group none members =>
    match members.lookup name, ← ownOfNamespace? members name with
    | some member, _ => return member
    | none, some member => return member
    | none, none => Eff.complain (.noAttribute "Namespace" name)

/-- The attribute at the end of a chain of names. -/
def Symbol.descend (symbol : Symbol) : List String → Eff Symbol
  | [] => pure symbol
  | name :: rest => do (← symbol.member name).descend rest

namespace Catalog

/-- The module with a given name. -/
def module? (catalog : Catalog) (name : String) : Option Module :=
  catalog.find? (·.name == name)

/-- Do modules stand below a module? -/
def isPackage (catalog : Catalog) (name : String) : Bool :=
  catalog.any fun m => (name ++ ".").isPrefixOf m.name

/-- Reaches a module through those above it; `above` is the name of the one reached so far. -/
def reach (catalog : Catalog) : Option String → List String → Except Problem String
  | none, [] => .error .emptyModuleName
  | some name, [] => .ok name
  | none, part :: rest =>
    if (catalog.module? part).isSome then catalog.reach (some part) rest
    else .error (.noModule part)
  | some above, part :: rest =>
    let name := above ++ "." ++ part
    if (catalog.module? name).isSome then catalog.reach (some name) rest
    else if catalog.isPackage above then .error (.noModule name)
    else .error (.notPackage name above)

/-- The module with a given full name. -/
def load (catalog : Catalog) (name : String) : Except Problem Symbol := do
  if name.isEmpty then throw .emptyModuleName
  if ".".isPrefixOf name then throw (.relativeModuleName name)
  let found ← catalog.reach none (name.splitOn ".")
  match catalog.module? found with
  | some m => return .group (some m.name) m.members
  | none => throw (.noModule name)

/-- The module and the chain of names that a path consists of. -/
def cutPath (path : String) : Except Problem (String × List String) :=
  match path.splitOn ":" with
  | moduleName :: first :: more =>
    .ok (moduleName, (String.intercalate ":" (first :: more)).splitOn ".")
  | _ =>
    let parts := path.splitOn "."
    if parts.length < 2 then .error (.notQualified path)
    else .ok (String.intercalate "." parts.dropLast, [parts.getLast?.getD ""])

/-- **What a path names.** -/
def find (catalog : Catalog) (path : String) : Eff Symbol := do
  let found := do
    let (moduleName, names) ← cutPath path
    return (← catalog.load moduleName, names)
  match found with
  | .ok (symbol, names) => symbol.descend names
  | .error problem => problem.stop

/-- Functions of the library under their names. -/
def operations (ops : List Operation) : Members := ops.map fun op => (op.word, .value (.operation op))

/-- Classes of the library under their names. -/
def classes (blueprints : List Blueprint) : Members :=
  blueprints.map fun cls => (cls.name, .value (.blueprint cls))

/-- What a module that is read from a file has besides. -/
def fileNames : Members :=
  (["__file__", "__cached__", "__doc__"].map fun name => (name, .value (.str name))) ++
  [("__builtins__", .useless), ("annotations", .value (.inert "_Feature")),
    ("__package__", .value (.str "examples")), ("__spec__", .value (.inert "ModuleSpec")),
    ("__loader__", .value (.inert "SourceFileLoader"))]

/-- The names in the module of the factorial program: what it is built from is there too. -/
def dialogueMembers : Members :=
  [("factorial", .value (.operation .factorial)), ("main", .value (.operation .factorialMain)),
    ("HELP_TEXT", .value (.str Sample.dialogueHelp)),
    ("EffectGenerator", .value (.constant .generatorType))] ++
    fileNames ++ classes [.console, .effectNode] ++
    operations [.wrapProgram, .doWhile, .foreachM, .parseNumber, .printLine, .readLine, .newCell,
      .unit]

/-- The names in the module of the temperature program. -/
def temperatureMembers : Members :=
  [("fahrenheit_to_celsius", .value (.operation .celsius)),
    ("main", .value (.operation .temperatureMain))] ++
    fileNames ++ classes [.console, .effectNode] ++ operations [.parseNumber, .printLine, .readLine]

/-- The modules of the sample programs. -/
def samples : Catalog :=
  let dialogueName := "examples.factorial_repl"
  let temperatureName := "examples.temperature"
  [⟨"examples", [("factorial_repl", .group (some dialogueName) dialogueMembers),
      ("temperature", .group (some temperatureName) temperatureMembers),
      ("__path__", .value (.inert "_NamespacePath")), ("__file__", .value .none),
      ("__package__", .value (.str "examples")), ("__spec__", .value (.inert "ModuleSpec")),
      ("__loader__", .value (.inert "NamespaceLoader"))]⟩,
    ⟨dialogueName, dialogueMembers⟩, ⟨temperatureName, temperatureMembers⟩]

end Catalog
end Command
end EffectGraph
