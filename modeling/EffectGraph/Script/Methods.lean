import EffectGraph.Json
import EffectGraph.Script.Operators

/-!
# Calling methods

What happens when a script calls a method: the arguments are distributed by its signature, and it
runs on its receiver.  A method that is called without a receiver takes its first argument for one,
whatever that is, so every method of the library says what it does on any value: most ask it for the
attributes that they need.  The methods of the built-in types insist on a receiver of their own.
-/

namespace EffectGraph
namespace Script

/-! ## Outcomes, cells and consoles -/

/-- The outcome of mapping a function over an outcome: what is no success stays as it is. -/
def mapOutcome (h : Host) (outcome f : Value) : Eff Value :=
  match outcome with
  | .ok _ v => do return .success (← h.call f [v] [])
  | other => pure other

/-- The value of a success; what is no success is asked for its error. -/
def unwrapOutcome (outcome : Value) : Eff Value := do
  match outcome with
  | .ok _ v => return v
  | other => raiseValue (← readAttribute other "error")

/-- The label of an action on a cell, or on what is taken for one. -/
def cellLabel (v : Value) (action : String) : Eff Value := do
  let id ← readAttribute v "ref_id"
  return .str ("Ref#" ++ (← Eff.ofExcept ((← get).str? id)) ++ "." ++ action)

/-- Reads a cell when the node is reached. -/
def getCell (v : Value) : Eff Value := do
  match v with
  | .cell address => return Graph.getCell address (← World.cellName address)
  | v =>
    let read ← readAttribute v "_read"
    Eff.ofExcept (Graph.delay read (← cellLabel v "get"))

/-- Overwrites a cell when the node is reached. -/
def setCell (v value : Value) : Eff Value := do
  match v with
  | .cell address => return Graph.setCell address (← World.cellName address) value
  | v =>
    let _ ← cellLabel v "set"
    missing v "_value"

/-- Changes a cell when the node is reached. -/
def modifyCell (v f : Value) : Eff Value := do
  if !f.isCallable then Eff.complain .updateNotCallable
  match v with
  | .cell address => Eff.ofExcept (Graph.modifyCell address (← World.cellName address) f)
  | v =>
    let _ ← cellLabel v "modify"
    missing v "_value"

/-- The counters of a run by name, how long it took among them. -/
def statsEntries (v : Value) : Eff (List (Value × Value)) :=
  (Stats.fieldNames.take 6 ++ ["duration_ns"]).mapM fun name => do
    return (.str name, ← readAttribute v name)

/-- Adds lines to what a console has still to give. -/
def feedConsole (h : Host) (v : Value) (lines : List Value) : Eff Value := do
  match v with
  | .scripted address => Console.feed h address lines
  | v =>
    let _ ← h.callMethod (← readAttribute v "_pending") "extend" [.ofItems lines]
    return .none

/-- Reads the next prepared line of a console, or of what is taken for one. -/
def readPrepared (h : Host) (v : Value) : Eff Value := do
  match v with
  | .scripted address => Console.readScripted h address
  | v =>
    if !(← get).isTruthy (← readAttribute v "_pending") then Eff.complain .noInput
    increaseAttribute v "reads" (.int 1)
    h.callMethod (← readAttribute v "_pending") "popleft" []

/-- Records a line on a console, or on what is taken for one. -/
def writePrepared (h : Host) (v text : Value) : Eff Value := do
  match v with
  | .scripted address => Console.writeScripted h address text
  | v =>
    let _ ← h.callMethod (← readAttribute v "written") "append" [text]
    return .none

/-- Reads a line through a console over streams, or through what is taken for one. -/
def readThrough (h : Host) (v : Value) : Eff Value := do
  match v with
  | .stream stamp input output => Console.readStream h (.stream stamp input output) input
  | v => Console.readLineFrom h (← readAttribute v "_stdin")

/-- Writes a line through a console over streams, or through what is taken for one. -/
def writeThrough (h : Host) (v text : Value) : Eff Value := do
  match v with
  | .stream stamp input output => Console.writeStream h (.stream stamp input output) output text
  | v => Console.writeLineTo h (← readAttribute v "_stdout") text

/-! ## Numbers, generators and faults -/

/-- A decimal number as the ratio of two whole ones. -/
def ratioOf (x : Float) : Except Complaint (Int × Int) :=
  match Binary64.decode x with
  | .nan => .error .ratioOfNan
  | .infinite _ => .error .ratioOfInfinite
  | .finite negative m q =>
    let num := m * Nat.pow 2 q.toNat
    let den := Nat.pow 2 (-q).toNat
    let common := Nat.gcd num den
    let amount : Int := (num / common : Nat)
    .ok (if negative then -amount else amount, (den / common : Nat))

/-- Runs a method of a number, which takes no arguments. -/
def runNumberMethod (word : String) (v : Value) : Eff Value := do
  match word, Number.ofCounting? v with
  | "as_integer_ratio", some (.int i) => return .ofItems [.int i, .int 1]
  | "as_integer_ratio", some (.float x) =>
    let (num, den) ← Eff.ofExcept (ratioOf x)
    return .ofItems [.int num, .int den]
  | "bit_count", some (.int i) => return .int (((Nat.toDigits 2 i.natAbs).count '1' : Nat) : Int)
  | "bit_length", some (.int i) => return .int (if i == 0 then 0 else i.natAbs.log2 + 1 : Nat)
  | "conjugate", some (.int i) => return .int i
  | "conjugate", some (.float _) => return v
  | "is_integer", some (.float x) =>
    return .bool ((Binary64.truncate x).toOption.any fun i => (Number.float x).equal (.int i))
  | word, _ => missing v word

/-- What is thrown into a generator. -/
def thrownBy (thrown value trace : Value) : Except Complaint (Fault Value) :=
  match thrown, value, trace with
  | .fault f, .none, .none => .ok f
  | .fault _, _, .none => .error .separateValue
  | v, _, .none => .error (.notThrowable v.typePath)
  | _, _, _ => .error .notTracebackThrown

/-- Runs a method of a generator on its arguments. -/
def runGeneratorMethod (h : Host) (word : String) (v : Value) (places : List (Option Value)) :
    Eff Value := do
  match word, places with
  | "close", _ =>
    h.close v
    return .none
  | "send", [some sent] => resumed (← h.send v sent)
  | "throw", [some thrown, value, trace] =>
    resumed (← h.throw v (thrownBy thrown (value.getD .none) (trace.getD .none)))
  | word, _ => missing v word

/-- Adds a note to a fault, which keeps them in a list. -/
def addNote (fault note : Value) : Eff Value := do
  if !(note matches .str _) then
    Eff.complain (.arguments ("note must be a str, not '" ++ note.typePath ++ "'"))
  match ← attribute? fault "__notes__" with
  | none => World.give fault "__notes__" (← World.newList #[note])
  | some (.list address) => World.pushItem address note
  | some _ => Eff.complain (.arguments "Cannot add note: __notes__ is not a list")
  return .none

/-- Runs a method of a fault on its arguments. -/
def runFaultMethod (word : String) (v : Value) (places : List (Option Value)) : Eff Value := do
  match word, places with
  | "add_note", [some note] => addNote v note
  | "with_traceback", [some trace] =>
    assignAttribute v "__traceback__" trace
    return v
  | word, _ => missing v word

/-! ## Methods of built-in types -/

/-- What a method read off a value is called in complaints: by its word and the name of the value's
type, but some methods of texts by their word alone. -/
def boundName (owner : BuiltinType) (word : String) (v : Value) : String :=
  match v, owner.taking? word with
  | .str _, some (.counted _ _) => word
  | .blueprint cls, _ => cls.name ++ "." ++ word
  | v, _ => v.typeName ++ "." ++ word

/-- **Runs a method of a built-in type** on a receiver of that type. -/
def runBuiltin (h : Host) (fuel : Nat) (word : String) (v : Value) (places : List (Option Value))
    (named : Keywords) : Eff Value :=
  match v with
  | .str s => runTextMethod h fuel word s places
  | .list address => runListMethod h fuel word address places
  | .tuple stamp items => runTupleMethod word (.tuple stamp items) items places
  | .deque address => runDequeMethod h fuel word address places
  | .range stamp a b => runRangeMethod word (.range stamp a b) a b places
  | .dict address => runDictMethod h fuel word address places named
  | .frozenDict stamp entries => runSharedMethod h fuel word (.frozenDict stamp entries) places
  | .blueprint cls => runSharedMethod h fuel word (.blueprint cls) places
  | .view stamp kind source => runViewMethod h fuel word (.view stamp kind source) places
  | .generator address => runGeneratorMethod h word (.generator address) places
  | .fault f => runFaultMethod word (.fault f) places
  | v => runNumberMethod word v

/-- Makes a value of a built-in type anew from arguments.  What is frozen stays as it is. -/
def remake (h : Host) (fuel : Nat) (v : Value) (args : List Value) (keywords : Keywords) :
    Eff Value := do
  let bind (taking : Taking) : Eff (Option Value) := do
    let places ← Eff.ofExcept (taking.bind ⟨v.typeName, v.typeName⟩ args keywords)
    return places.head?.getD none
  match v with
  | .list address =>
    let source ← bind (.expected 0 1)
    World.setItems address #[]
    if let some source := source then
      World.setItems address (← elements h fuel source).toArray
  | .deque address =>
    let source ← bind (.expected 0 1)
    World.changeDeque address []
    if let some source := source then World.changeDeque address (← elements h fuel source)
  | .dict address => updateDict h fuel address (← bind (.free 1)) keywords
  | .fault f =>
    if !keywords.isEmpty then
      Eff.complain (.arguments (f.kind.name ++ "() takes no keyword arguments"))
    World.give v "args" (← settle (.ofItems args))
  | _ => pure ()
  return .none

/-- Calls a method of a built-in type, given what it is called in full. -/
def callBuiltin (h : Host) (fuel : Nat) (owner : BuiltinType) (word full : String) (v : Value)
    (args : List Value) (keywords : Keywords) : Eff Value := do
  if word == "__call__" then return ← h.call v args keywords
  if word == "__init__" then return ← remake h fuel v args keywords
  let short := if owner == .deque && word == "rotate" then "deque.rotate" else word
  let taking := (owner.taking? word).getD .nothing
  let places ← Eff.ofExcept (taking.bind ⟨short, full⟩ args keywords)
  match runOperator? h fuel word v places with
  | some run => run
  | none => runBuiltin h fuel word v places keywords

/-! ## Methods -/

/-- Puts arguments into the fields of an object that is there already.  What is frozen stays as it
is. -/
def refill (h : Host) (fuel : Nat) (cls : Blueprint) (v : Value) (args : List Value)
    (keywords : Keywords) : Eff Value := do
  let a ← Eff.ofExcept ((blueprintSignature cls).bind args keywords)
  if v matches .cell _ | .stats _ | .runState _ | .interpreter _ _ _ | .scripted _ | .stream _ _ _ then
    let made ← settle (← instantiate h fuel cls a)
    match v, made with
    | .cell address, .cell other => World.writeCell address (← settledCell other)
    | v, made =>
      for (name, value) in ownFields (← get) made do
        assignAttribute v name value
  return .none

/-- Asks a value for some attributes, which it has to have. -/
def askFor (v : Value) (names : List String) : Eff Unit :=
  names.forM fun name => do
    let _ ← readAttribute v name

/-- The text of a value as a class writes it; what is no instance of the class has to have the
attributes that the text is made of. -/
def textBy (cls : Blueprint) (v : Value) : Eff Value := do
  if !v.isInstance cls then
    askFor v <|
      match cls with
      | .cell => ["ref_id"]
      | .interpreter => ["_max_stack_depth", "_trace_steps"]
      | .scriptedConsole => ["remaining", "written"]
      | .program => ["original_func"]
      | cls => fieldNames cls
  return .str (← Eff.ofExcept ((← get).repr? v))

/-- **Runs a method of the library** on a receiver, whatever that is. -/
def runMethod (h : Host) (fuel : Nat) (m : Method) (v : Value) (a : Arguments) : Eff Value := do
  match m, a.places with
  | .map, [some f] => Eff.ofExcept (Graph.map v f)
  | .flatMap, [some f] => Eff.ofExcept (Graph.flatMap v f)
  | .thenRun, [some other] => Eff.ofExcept (Graph.thenRun v other)
  | .skip, _ => return Graph.skip v
  | .replace, [some value] => return Graph.replace v value
  | .recover, [some f] => Eff.ofExcept (Graph.recover v f)
  | .attempt, _ => return Graph.attempt v
  | .pair, [some other] => return (Graph.pair? v other).getD (.constant .notImplemented)
  | .isOk, _ => return .bool (v matches .ok _ _)
  | .isErr, _ => return .bool (v matches .err _ _)
  | .okValue, _ =>
    match v with
    | .ok _ value => return value
    | _ => return .none
  | .errValue, _ =>
    match v with
    | .err _ error => return error
    | _ => return .none
  | .unwrap, _ => unwrapOutcome v
  | .unwrapErr, _ =>
    match v with
    | .err _ error => return error
    | _ => Eff.complain .noFailureInSuccess
  | .mapOutcome, [some f] => mapOutcome h v f
  | .unwrapOr, [some other] =>
    match v with
    | .ok _ value => return value
    | _ => return other
  | .getCell, _ => getCell v
  | .setCell, [some value] => setCell v value
  | .modifyCell, [some f] => modifyCell v f
  | .readCell, _ => readAttribute v "_value"
  | .reportIsOk, _ => return .bool ((← readAttribute v "result") matches .ok _ _)
  | .reportIsErr, _ => return .bool ((← readAttribute v "result") matches .err _ _)
  | .reportUnwrap, _ => readAttribute v "value"
  | .statsToDict, _ => return .frozenDict 0 (← statsEntries v)
  | .pushFrame, [some frame] => pushFrame h v frame
  | .run, [some node] => runBy h fuel v node
  | .runResult, [some node] => runResultBy h fuel v node
  | .drive, [some state] => driveState h fuel v state
  | .unwind, [some state, some fault, some label] => unwindState h fuel state fault label
  | .feed, _ => feedConsole h v a.rest
  | .readScripted, _ => readPrepared h v
  | .writeScripted, [some text] => writePrepared h v text
  | .readStream, _ => readThrough h v
  | .writeStream, [some text] => writeThrough h v text
  | .readContract, _ => return .none
  | .writeContract, _ => return .none
  | .special .program "__call__", _ => h.call v a.rest a.others
  | .special (.scripted _) "__call__", _ => h.call v a.rest a.others
  | .special .frozenDict word, places => runFrozenOperator h fuel word v places
  | .special cls "__repr__", _ => textBy cls v
  | .special cls "__hash__", _ => do
    askFor v (if v.isInstance cls then [] else fieldNames cls)
    (runOperator? h fuel "__hash__" v []).getD (return .none)
  | .special _ word, places =>
    match runOperator? h fuel word v places with
    | some run => run
    | none => return .none
  | m, places => runFrozenMethod m v places

/-- **Calls a method** of a value. -/
def callMethod (h : Host) (fuel : Nat) (v : Value) (m : Method) (args : List Value)
    (keywords : Keywords) : Eff Value := do
  match m with
  | .builtin owner word => callBuiltin h fuel owner word (boundName owner word v) v args keywords
  | .special cls "__init__" => refill h fuel cls v args keywords
  | m => runMethod h fuel m v (← Eff.ofExcept ((Signature.ofMethod m).bind args keywords))

/-- Calls a method without a receiver: its first argument is the receiver. -/
def callUnbound (h : Host) (fuel : Nat) (m : Method) (args : List Value) (keywords : Keywords) :
    Eff Value := do
  let absent := Complaint.arguments (
    if m.isOperator then "descriptor '" ++ m.word ++ "' of '" ++ m.ownerPath ++
      "' object needs an argument"
    else "unbound method " ++ m.name ++ "() needs an argument")
  match m, args with
  | .builtin _ _, [] => Eff.complain absent
  | .builtin owner word, v :: args =>
    if !v.isInstance (.ofBuiltin owner) then
      Eff.complain (
        if m.isOperator then .arguments ("descriptor '" ++ word ++ "' requires a '" ++
          owner.shownName ++ "' object but received a '" ++ v.typePath ++ "'")
        else .notReceiver word owner.shownName v.typePath)
    callBuiltin h fuel owner word m.name v args keywords
  | .special cls "__init__", v :: args => refill h fuel cls v args keywords
  | m, args =>
    let a ← Eff.ofExcept ((Signature.ofUnbound m).bind args keywords)
    match a.places with
    | some v :: places => runMethod h fuel m v { a with places }
    | _ => Eff.complain absent

end Script
end EffectGraph
