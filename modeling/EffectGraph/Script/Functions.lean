import EffectGraph.Json
import EffectGraph.Script.RunState

/-!
# Calling functions of the library

What happens when a script calls a function of the library: the arguments are distributed by its
signature, and the node is built, the run is started, or the question is answered.
-/

namespace EffectGraph
namespace Script

/-- All elements of an iterable; an iterator is pulled to its end. -/
def elements (h : Host) (fuel : Nat) (v : Value) : Eff (List Value) := do
  match ← snapshot? v with
  | some items => return items
  | none =>
    let iterator ← h.openIterator v
    return (← h.drain fuel iterator #[]).toList

/-- The signature of a function of the library. -/
def operationSignature (op : Operation) : Signature :=
  let plain := Signature.plain op.name
  match op with
  | .asValue => plain ["node", "value"]
  | .attempt => plain ["node"]
  | .combine => (plain []).withRest
  | .doWhile => plain ["body", "cond"]
  | .flatMap => plain ["node", "f"]
  | .foldM => plain ["elements", "initial", "step"]
  | .foldMUnit => plain ["elements", "initial", "step"]
  | .foreachM => plain ["elements", "f"]
  | .forever => plain ["node"]
  | .map2 => plain ["na", "nb", "f"]
  | .map => plain ["node", "f"]
  | .product => plain ["na", "nb"]
  | .recover => plain ["node", "handler"]
  | .replicateM => plain ["n", "node"]
  | .replicateMUnit => plain ["n", "node"]
  | .sequence => plain ["nodes"]
  | .sequenceUnit => (plain []).withRest
  | .skip => plain ["node"]
  | .traverse => plain ["items", "f"]
  | .unlessM => plain ["condition", "node"]
  | .when => plain ["condition", "node"]
  | .whileM => plain ["cond", "body"]
  | .printLine => plain ["console", "text"]
  | .printLineAlias => plain ["console", "text"]
  | .readLine => plain ["console"]
  | .readLineAlias => plain ["console"]
  | .parseNumber => plain ["text"]
  | .wrapProgram => plain ["func"]
  | .run => (plain ["node"]).withAnyKeyword
  | .runResult => (plain ["node"]).withAnyKeyword
  | .delay => (plain ["thunk"]).withOptional ["label"]
  | .fail => (plain ["error"]).withOptional ["label"]
  | .pure => plain ["value"]
  | .suspend => plain ["factory"]
  | .unit => plain ["value"]
  | .newCell => plain ["initial"]
  | .debugStepsEnabled => plain []
  | .defaultMaxStackDepth => plain []
  | .describeNode => (plain ["node"]).withOptional ["max_length"]
  | .envFlag => plain ["name"]
  | .envInt => plain ["name"]
  | .factorial => plain ["n"]
  | .factorialMain => plain ["console"]
  | .celsius => plain ["f"]
  | .temperatureMain => plain ["console"]
  | .stripTerminator => plain ["line"]
  | .callableName => plain ["func"]
  | .jsonSafe => plain ["value"]
  | .length => plain ["obj"]

/-! ## Single functions -/

/-- The nodes of an iterable, run in order with their values collected. -/
def sequenceOf (h : Host) (fuel : Nat) (nodes : Value) : Eff Value := do
  let items ← elements h fuel nodes
  Eff.ofExcept (Graph.requireNodes "sequence" items)
  return Graph.traverse (.ofItems items) .same

/-- The short text of a value, cut to a length. -/
def describe (v : Value) (limit : Value) : Eff Value := do
  let text ← Eff.ofExcept ((← get).repr? v)
  match Number.ofCounting? limit with
  | some (.int n) => return .str (World.shorten n text)
  | some (.float x) =>
    if (Number.float x).less (.int text.length) then
      Eff.complain (.arguments
        "slice indices must be integers or None or have an __index__ method")
    else return .str text
  | none => Eff.complain (.notOrdered ">" "int" limit.typePath)

/-- The name of an environment variable, which has to be a text. -/
def variableName (v : Value) : Eff String :=
  match v with
  | .str s => pure s
  | v => Eff.complain (.arguments ("str expected, not " ++ v.typeName))

/-- The value of an environment variable as a whole number. -/
def environmentIntValue (name : String) : Eff Value := do
  match ← Eff.ofExcept (environmentInt (← get) name) with
  | some i => return .int i
  | none => return .none

/-- A function wrapped as an effect program.  The wrapper takes over the names of the function and
whatever this holds in a table, and knows the function that it wraps. -/
def wrapProgram (f : Value) : Eff Value := do
  let program := Value.program (← World.freshStamp) f
  for name in ["__module__", "__name__", "__qualname__"] do
    if let some value ← attribute? f name then World.give program name value
  let fields := (fieldTable? (← get) f).getD []
  let _ ← tableOf? f
  for (name, value) in fields do
    World.give program name value
  World.give program "__wrapped__" f
  return program

/-! ## Runs -/

/-- The settings of a run by an interpreter. -/
def interpreterSettings (interpreter limit trace : Value) : Eff Machine.Settings := do
  let w ← get
  return settingsOf w ((w.given? interpreter "_max_stack_depth").getD limit)
    ((w.given? interpreter "_trace_steps").getD trace)

/-- Has a script changed how an interpreter works? -/
def isChanged (w : World) (interpreter : Value) : Bool :=
  (w.given? interpreter "_drive").isSome || (w.given? interpreter "_unwind").isSome

/-- **Runs a node by an interpreter** and reports the outcome as a value. -/
def runResultBy (h : Host) (fuel : Nat) (interpreter node : Value) : Eff Value := do
  match interpreter with
  | .interpreter _ limit trace =>
    if isChanged (← get) interpreter then runOnState h fuel interpreter node
    else
      let settings ← interpreterSettings interpreter limit trace
      (← settledReport (← Machine.runReport h fuel settings node)).toValue
  | other => runOnState h fuel other node

/-- **Runs a node by an interpreter** and gives its value. -/
def runBy (h : Host) (fuel : Nat) (interpreter node : Value) : Eff Value := do
  match interpreter, (← get).given? interpreter "run_result" with
  | .interpreter _ limit trace, none =>
    if isChanged (← get) interpreter then
      readAttribute (← runOnState h fuel interpreter node) "value"
    else Machine.run h fuel (← interpreterSettings interpreter limit trace) node
  | other, _ => readAttribute (← h.callMethod other "run_result" [node]) "value"

/-- **Runs a function of the library** on distributed arguments. -/
def runOperation (h : Host) (fuel : Nat) (op : Operation) (a : Arguments) : Eff Value := do
  match op, a.places with
  | .asValue, [some node, some value] => h.callMethod node "as_" [value]
  | .attempt, [some node] => h.callMethod node "attempt" []
  | .combine, [] => Eff.ofExcept (Graph.sequenceUnit a.rest)
  | .doWhile, [some body, some condition] => Eff.ofExcept (Graph.doWhile body condition)
  | .flatMap, [some node, some f] => h.callMethod node "flat_map" [f]
  | .foldM, [some elements, some initial, some step] =>
    Eff.ofExcept (Graph.fold elements initial step)
  | .foldMUnit, [some elements, some initial, some step] => do
    return Graph.skip (← Eff.ofExcept (Graph.fold elements initial step))
  | .foreachM, [some elements, some f] => return Graph.foreach elements (.apply f)
  | .forever, [some node] => Eff.ofExcept (Graph.forever node)
  | .map2, [some first, some second, some f] => Eff.ofExcept (Graph.map2 first second (.apply f))
  | .map, [some node, some f] => h.callMethod node "map" [f]
  | .product, [some first, some second] => Eff.ofExcept (Graph.map2 first second .pair)
  | .recover, [some node, some handler] => h.callMethod node "recover" [handler]
  | .replicateM, [some count, some node] => Eff.ofExcept (Graph.replicate count node)
  | .replicateMUnit, [some count, some node] => Eff.ofExcept (Graph.replicateUnit count node)
  | .sequence, [some nodes] => sequenceOf h fuel nodes
  | .sequenceUnit, [] => Eff.ofExcept (Graph.sequenceUnit a.rest)
  | .skip, [some node] => h.callMethod node "skip" []
  | .traverse, [some items, some f] => return Graph.traverse items (.apply f)
  | .unlessM, [some condition, some node] => do
    Graph.when h (!(← get).isTruthy condition) node
  | .when, [some condition, some node] => do Graph.when h ((← get).isTruthy condition) node
  | .whileM, [some condition, some body] => Eff.ofExcept (Graph.whileLoop condition body)
  | .printLine, [some console, some text] => Console.printLine h console text
  | .printLineAlias, [some console, some text] => Console.printLine h console text
  | .readLine, [some console] => Console.readLine h console
  | .readLineAlias, [some console] => Console.readLine h console
  | .parseNumber, [some text] => return Graph.parseNumber text
  | .wrapProgram, [some f] => wrapProgram f
  | .run, [some node] => do runBy h fuel (← interpreterOf [] a.others) node
  | .runResult, [some node] => do runResultBy h fuel (← interpreterOf [] a.others) node
  | .delay, [some thunk, label] => Eff.ofExcept (Graph.delay thunk (label.getD .none))
  | .fail, [some error, label] => do
    let w ← get
    Eff.ofExcept (Graph.fail error (label.filter w.isTruthy))
  | .pure, [some value] => return .done value
  | .suspend, [some f] => Eff.ofExcept (Graph.suspend f)
  | .unit, [some value] => return .done value
  | .newCell, [some initial] => return Graph.newCell initial
  | .debugStepsEnabled, [] => return .bool (environmentFlag (← get) traceVariable)
  | .defaultMaxStackDepth, [] => environmentIntValue limitVariable
  | .describeNode, [some node, limit] => describe node (limit.getD (.int World.descriptionLimit))
  | .envFlag, [some name] => do
    let name ← variableName name
    return .bool (environmentFlag (← get) name)
  | .envInt, [some name] => do environmentIntValue (← variableName name)
  | .factorial, [some n] => return Sample.factorial n
  | .factorialMain, [some console] => Sample.dialogue h console
  | .celsius, [some f] => Eff.ofExcept (Sample.celsius f)
  | .temperatureMain, [some console] => Sample.temperature h console
  | .stripTerminator, [some line] => Console.stripTerminator h line
  | .callableName, [some f] => return (← get).callableName f
  | .jsonSafe, [some v] => do Eff.ofExcept ((← get).jsonSafe v)
  | .length, [some v] => do return .int (← Eff.ofExcept ((← get).length? v))
  | op, places =>
    Eff.complain (.argumentCount op.name (operationSignature op).positional.length places.length)

/-- The complaint about the arguments of the function that tells a length. -/
def lengthArguments? (args : List Value) (keywords : Keywords) : Option String :=
  if !keywords.isEmpty then some "len() takes no keyword arguments"
  else if args.length != 1 then
    some ("len() takes exactly one argument (" ++ args.length.repr ++ " given)")
  else none

/-- Calls a function of the library. -/
def callOperation (h : Host) (fuel : Nat) (op : Operation) (args : List Value)
    (keywords : Keywords) : Eff Value := do
  if op == .length then
    if let some message := lengthArguments? args keywords then Eff.complain (.arguments message)
  let a ← Eff.ofExcept ((operationSignature op).bind args keywords)
  runOperation h fuel op a

end Script
end EffectGraph
