import EffectGraph.Script.FaultValues
import EffectGraph.Script.Functions
import EffectGraph.Script.Taking

/-!
# Making instances

What happens when a script calls a class of the library: the arguments are distributed by its
signature, and an instance is made.  A dictionary is made from another one or from pairs; classes
without fields take no arguments, and a contract has no instances of its own.
-/

namespace EffectGraph
namespace Script

/-! ## Dictionaries -/

/-- Puts an entry into a dictionary. -/
def putInto (address : Nat) (key value : Value) : Eff Unit := do
  let w ← get
  World.setDict address (← Eff.ofExcept (putEntry w (w.dictAt address) key value))

/-- Puts some entries into a dictionary, one after the other. -/
def putAllInto (address : Nat) (entries : List (Value × Value)) : Eff Unit :=
  entries.forM fun (key, value) => putInto address key value

/-- The key and value that an element of a row of pairs is. -/
def pairOf (h : Host) (fuel : Nat) (place : Nat) (element : Value) : Eff (Value × Value) := do
  match ← Eff.attempt (elements h fuel element) with
  | .ok [key, value] => return (key, value)
  | .ok items => Eff.complain (.pairLength place items.length)
  | .error f =>
    if f.kind.isA .typeError then Eff.complain (.pairNotRow place) else Eff.raise f

/-- Puts the pairs that an iterator gives into a dictionary, as they come, the first at a given
place. -/
def putPairs (h : Host) (fuel address : Nat) (iterator : Value) : Nat → Nat → Eff Unit
  | 0, _ => Eff.exhausted
  | left + 1, place => do
    match ← h.pull iterator with
    | none => return ()
    | some element =>
      let (key, value) ← pairOf h fuel place element
      putInto address key value
      putPairs h fuel address iterator left (place + 1)

/-- Puts the entries of a dictionary or a row of pairs, and then keywords, into a dictionary. -/
def updateDict (h : Host) (fuel address : Nat) (source : Option Value) (named : Keywords) :
    Eff Unit := do
  if let some v := source then
    match (← get).entriesOf? v with
    | some entries => putAllInto address entries
    | none => putPairs h fuel address (← h.openIterator v) fuel 0
  putAllInto address (named.map fun (name, value) => (.str name, value))

/-- A frozen dictionary from at most one dictionary or row of pairs, and from keywords.  A frozen one
alone stays itself. -/
def frozenFrom (h : Host) (fuel : Nat) (source : Option Value) (named : Keywords) : Eff Value := do
  match source, named with
  | some (.frozenDict stamp entries), [] => return .frozenDict stamp entries
  | source, named =>
    let address ← World.newDictAddress
    updateDict h fuel address source named
    return .frozenDict 0 ((← get).dictEntries address)

/-! ## Texts -/

/-- A text that says how to read bytes. -/
def codecArgument (name : String) (given : Option Value) : Eff Unit := do
  match given with
  | none => return ()
  | some (.str s) =>
    if s.toList.contains '\x00' then Eff.complain (.badValue "embedded null character")
  | some v =>
    Eff.complain (.arguments
      ("str() argument '" ++ name ++ "' must be str, not " ++ v.argumentName))

/-- The text of a value.  Bytes could be read in a given way, but no value is made of bytes. -/
def makeText (args : List Value) (keywords : Keywords) : Eff Value := do
  match ← Eff.ofExcept (Taking.bindNamed "str" ["object", "encoding", "errors"] 3 args keywords) with
  | [v, encoding, errors] => do
    codecArgument "encoding" encoding
    codecArgument "errors" errors
    match v, encoding.isSome || errors.isSome with
    | none, _ => return .str ""
    | some v, false => return .str (← Eff.ofExcept ((← get).str? v))
    | some (.str _), true => Eff.complain (.arguments "decoding str is not supported")
    | some v, true =>
      Eff.complain (.arguments
        ("decoding to str: need a bytes-like object, " ++ v.typePath ++ " found"))
  | _ => return .str ""

/-! ## Built-in types -/

/-- A whole number as the end of a range. -/
def rangeBound (v : Value) : Except Complaint Int :=
  match Number.ofCounting? v with
  | some (.int i) => .ok i
  | _ => .error (.notAnInteger v.typePath)

/-- How a built-in type takes its arguments, if it makes values of other values. -/
def builtinTaking? : BuiltinType → Option Taking
  | .absent | .anything => some .nothing
  | .truth | .whole | .decimal | .list | .tuple | .deque => some (.expected 0 1)
  | .dict => some (.free 1)
  | .range => some (.expected 1 2)
  | _ => none

/-- A value of a built-in type from other values, or without them the one that stands for nothing. -/
def convert (h : Host) (fuel : Nat) (t : BuiltinType) (given : List Value) (named : Keywords) :
    Eff Value := do
  match t, given with
  | .truth, [v] => return .bool ((← get).isTruthy v)
  | .truth, _ => return .bool false
  | .whole, [v] => Reading.int v
  | .whole, _ => return .int 0
  | .decimal, [v] => Reading.float v
  | .decimal, _ => return .ofFloat 0.0
  | .list, given => World.newList (← elements h fuel (given.head?.getD (.ofItems []))).toArray
  | .tuple, given => return .ofItems (← elements h fuel (given.head?.getD (.ofItems [])))
  | .deque, given => World.newDeque (← elements h fuel (given.head?.getD (.ofItems [])))
  | .dict, given => do
    let address ← World.newDictAddress
    updateDict h fuel address given.head? named
    return .dict address
  | .range, [stop] => return .range 0 0 (← Eff.ofExcept (rangeBound stop))
  | .range, [start, stop] =>
    return .range 0 (← Eff.ofExcept (rangeBound start)) (← Eff.ofExcept (rangeBound stop))
  | .anything, _ => return .inert "object"
  | _, _ => return .none

/-- Calls a built-in type. -/
def callBuiltinType (h : Host) (fuel : Nat) (t : BuiltinType) (args : List Value)
    (keywords : Keywords) : Eff Value := do
  match t, builtinTaking? t with
  | .text, _ => makeText args keywords
  | .type, _ =>
    match args, keywords with
    | [v], [] => return .blueprint v.classOf
    | _, _ => Eff.complain (.arguments "type() takes 1 or 3 arguments")
  | .preset, _ =>
    match args with
    | f :: args => Eff.ofExcept ((← get).preset f args keywords)
    | [] => Eff.complain (.arguments "type 'partial' takes at least one argument")
  | .inert "module", _ =>
    match args.head? with
    | some (.str _) => return .inert "module"
    | some v => Eff.complain (.moduleName v.argumentName)
    | none =>
      Eff.complain (.arguments "module() missing required argument 'name' (pos 1)")
  | t, some taking =>
    let places ← Eff.ofExcept (taking.bind ⟨t.name, t.name⟩ args keywords)
    convert h fuel t (places.filterMap id) keywords
  | t, none => Eff.complain (.arguments ("cannot create '" ++ t.path ++ "' instances"))

/-! ## Classes -/

/-- The signature of a class. -/
def blueprintSignature (cls : Blueprint) : Signature :=
  let init (required optional : List String) : Signature :=
    ((Signature.plain (cls.name ++ ".__init__") required).withOptional optional).onReceiver
  match cls with
  | .done => init ["value"] []
  | .delay => init ["thunk"] ["label"]
  | .flatMap => init ["source", "continuation"] []
  | .recover => init ["source", "handler"] []
  | .ok => init ["value"] []
  | .err => init ["error"] []
  | .cell => init ["initial"] []
  | .scriptedConsole => init [] ["inputs"]
  | .streamConsole => init [] ["stdin", "stdout"]
  | .interpreter => interpreterSignature
  | .stats => init [] Stats.fieldNames
  | .runState => init ["current"] ["continuation_stack", "stats"]
  | .runResult => init ["result", "stats"] ["failure"]
  | .program => init ["func"] []
  | .continuationFrame => init ["continuation"] []
  | .recoverFrame => init ["handler"] []
  | .frozenDict => (init [] []).withRest.withAnyKeyword
  | _ => (init [] []).withRest.withAnyKeyword

/-- **Makes an instance of a class** from distributed arguments. -/
def instantiate (h : Host) (fuel : Nat) (cls : Blueprint) (a : Arguments) : Eff Value := do
  match cls, a.places with
  | .done, [some v] => return .done v
  | .delay, [some thunk, label] => Eff.ofExcept (Graph.delay thunk (label.getD .none))
  | .flatMap, [some source, some f] => return .ofNode (.flatMap source f)
  | .recover, [some source, some handler] => return .ofNode (.recover source handler)
  | .ok, [some v] => return .success v
  | .err, [some e] => return .failure e
  | .cell, [some initial] => World.newCell initial
  | .scriptedConsole, [inputs] => do
    World.newConsole (← elements h fuel (inputs.getD (.ofItems [])))
  | .streamConsole, [input, output] => return .stream 0 (input.getD .none) (output.getD .none)
  | .interpreter, _ =>
    newInterpreter ((a.named.lookup "max_stack_depth").getD .none)
      ((a.named.lookup "trace_steps").getD .none)
  | .stats, [s, e, c, r, d, x, start, stop] =>
    let count (v : Option Value) : Value := v.getD (.int 0)
    World.newStats ⟨count s, count e, count c, count r, count d, count x, start.getD .none,
      stop.getD .none⟩
  | .runState, [some current, stack, stats] => do
    let stack ← match stack with
      | some v => pure v
      | none => World.newList #[]
    let stats ← match stats with
      | some v => pure v
      | none => World.newStats Stats.zero
    World.newRunState ⟨current, stack, stats⟩
  | .runResult, [some result, some stats, failure] =>
    return .runResult 0 result stats (failure.getD .none)
  | .program, [some f] => wrapProgram f
  | .continuationFrame, [some f] => return .frame 0 (.continuation f)
  | .recoverFrame, [some f] => return .frame 0 (.boundary f)
  | .frozenDict, [] =>
    if a.rest.length > 1 then
      Eff.complain (.arguments
        ("dict expected at most 1 argument, got " ++ a.rest.length.repr))
    frozenFrom h fuel a.rest.head? a.others
  | cls, _ =>
    if cls.isContract then Eff.complain .cannotInstantiate
    else if !a.rest.isEmpty || !a.others.isEmpty then Eff.complain (.takesNoArguments cls.name)
    else
      match cls with
      | .result => return .bareResult 0
      | .scripted className => return .inert className
      | cls => return .ofNode (.foreign cls.name)

/-- **Calls a class.** -/
def callBlueprint (h : Host) (fuel : Nat) (cls : Blueprint) (args : List Value)
    (keywords : Keywords) : Eff Value := do
  match cls with
  | .builtin t => callBuiltinType h fuel t args keywords
  | .fault kind => return .fault (← buildFault kind args keywords)
  | cls =>
    let a ← Eff.ofExcept ((blueprintSignature cls).bind args keywords)
    instantiate h fuel cls a

end Script
end EffectGraph
