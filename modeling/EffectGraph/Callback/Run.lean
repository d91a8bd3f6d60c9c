import EffectGraph.Reading
import EffectGraph.Sample.Programs
import EffectGraph.Text.Listing

/-!
# What callbacks do

`Callback.run` gives every continuation and thunk of the library its meaning, over any host.  The
loops of the library are here: each round ends by giving a node whose continuation is the next
round, so a loop of any length is a chain of single steps of the machine.
-/

namespace EffectGraph

/-- Reads a value as a number: a text without the blanks around it, or whatever else it has for
that. -/
def Value.parseNumber (h : Host) (v : Value) : Eff Value := do
  match v with
  | .str s =>
    match Numeral.number? s with
    | .some n => return n.toValue
    | .none =>
      let refusal := (Complaint.badFloat (Quoted.text (Blank.strip s))).fault
      Eff.raise (Fault.notANumber v (Quoted.text s) [refusal])
  | v => do
    let stripped ← h.callMethod v "strip" []
    match ← Eff.attempt (Reading.int stripped) with
    | .ok n => return n
    | .error f =>
      if !f.kind.isA .valueError then Eff.raise f
      match ← Eff.attempt (Reading.float stripped) with
      | .ok x => return x
      | .error f =>
        if !f.kind.isA .valueError then Eff.raise f
        Eff.raise (Fault.notANumber v (← Eff.ofExcept ((← get).repr? v)) [f])

/-- A node with its value dropped.  The known variants always have that form; anything else may have
a way of its own, or none. -/
def Value.skipped (h : Host) (v : Value) : Eff Value :=
  match v with
  | .node _ (.foreign _) => h.callMethod v "skip" []
  | .node _ _ => pure (Graph.skip v)
  | v => h.callMethod v "skip" []

/-- Runs a node only if a condition holds. -/
def Graph.when (h : Host) (condition : Bool) (node : Value) : Eff Value := do
  Eff.ofExcept (Graph.requireNode "when" node)
  if condition then node.skipped h else return .unit

/-- The node that an element gives. -/
def Mapper.run (h : Host) (element : Value) : Mapper Value → Eff Value
  | .apply f => h.call f [element] []
  | .same => pure element
  | .scale (.cell address) => do
    return Graph.updateCell address (← World.cellName address) (.multiply element)
  | .scale cell => h.callMethod cell "modify" [.ofCallback (.times element)]

/-- The value that two results give. -/
def Combiner.run (h : Host) (first second : Value) : Combiner Value → Eff Value
  | .apply f => h.call f [first, second] []
  | .pair => pure (.ofItems [first, second])

/-- The new content of a cell. -/
def Update.run (h : Host) (content : Value) : Update Value → Eff Value
  | .apply f => h.call f [content] []
  | .multiply factor => Arithmetic.multiply content factor

/-- The node of one round of a fold. -/
def FoldStep.run (h : Host) (accumulator element : Value) : FoldStep Value → Eff Value
  | .apply f => h.call f [accumulator, element] []
  | .discard mapper => do (← mapper.run h element).skipped h
  | .collect results mapper => do return .sequenced (← mapper.run h element) (.appendTo results)
  | .again node => node.skipped h

/-- One round of a fold: at the end of the iterator the accumulator is the result, otherwise the
step's node runs and its value goes into the next round. -/
def foldRound (h : Host) (iterator : Value) (step : FoldStep Value) (accumulator : Value) :
    Eff Value := do
  match ← h.pull iterator with
  | none => return .done accumulator
  | some element => return .sequenced (← step.run h accumulator element) (.foldNext iterator step)

/-- One round of a replication: finished when there are enough results. -/
def replicateRound (results : Nat) (count : Int) (node : Value) : Eff Value := do
  let size ← World.listSize results
  if (size : Int) ≥ count then return .done (.list results)
  else return .sequenced node (.replicateNext results count node)

/-- Sends a value into a generator and goes on with what it yields.  A generator that yields
anything but a node is closed. -/
def resumeGenerator (h : Host) (generator sent : Value) : Eff Value := do
  match ← h.send generator sent with
  | .returned v => return .done v
  | .yielded v =>
    if v.isNode then return .sequenced v (.resume generator)
    else
      h.close generator
      Eff.complain (.generatorYielded v.typeName)

/-- What a call has produced, as a node: a generator is run, a node is itself, any other value is
the result. -/
def startProduced (h : Host) (produced : Value) : Eff Value :=
  match produced with
  | .generator _ => resumeGenerator h produced .none
  | .node _ _ => pure produced
  | v => pure (.done v)

/-- The node that a suspended node stands for. -/
def Factory.build (h : Host) : Factory Value → Eff Value
  | .apply f => h.call f [] []
  | .fold elements initial step => do
    let iterator ← h.openIterator elements
    foldRound h iterator step initial
  | .traverse items mapper => do
    let results ← World.newListAddress
    return .sequenced (Graph.foldWith items .none (.collect results mapper)) (.giveList results)
  | .replicate count node => do
    let results ← World.newListAddress
    replicateRound results count node
  | .doWhile body condition => pure (.sequenced body (.doWhileCheck body condition))
  | .whileLoop condition body => pure (.sequenced condition (.whileTest condition body))
  | .forever node => pure (.sequenced node (.foreverNext node))
  | .generate f args keywords => do startProduced h (← h.call f args keywords)

/-- The complaint about a wrong number of arguments for a callback. -/
def Callback.wrongArity (c : Callback Value) (given : Nat) : Complaint :=
  let takes := c.parameters.length
  if given < takes then
    .arguments (c.name ++ "() missing " ++ takes.repr ++ " required positional argument: " ++
      Listing.quoted c.parameters)
  else
    .arguments (c.name ++ "() takes " ++ takes.repr ++ " positional argument" ++
      (if takes == 1 then "" else "s") ++ " but " ++ given.repr ++
      (if given == 1 then " was given" else " were given"))

/-- **What a callback does.** -/
def Callback.run (h : Host) : Callback Value → List Value → Eff Value
  | .mapWith f, [v] => do return .done (← h.call f [v] [])
  | .thenRun other, [_] => pure other
  | .toUnit, [_] => pure .unit
  | .replaceWith value, [_] => pure (.done value)
  | .wrapOk, [v] => pure (.done (.success v))
  | .wrapErr, [e] => pure (.done (.failure e))
  | .pairOuter second, [a] => pure (.sequenced second (.pairInner a))
  | .pairInner a, [b] => pure (.done (.ofItems [a, b]))
  | .suspended factory, [_] => factory.build h
  | .map2Outer second combiner, [a] => pure (.sequenced second (.map2Inner a combiner))
  | .map2Inner a combiner, [b] => do return .done (← combiner.run h a b)
  | .foldNext iterator step, [accumulator] => foldRound h iterator step accumulator
  | .appendTo results, [v] => do
    World.pushItem results v
    return .unit
  | .giveList results, [_] => pure (.done (.list results))
  | .replicateNext results count node, [v] => do
    World.pushItem results v
    replicateRound results count node
  | .doWhileCheck body condition, [v] => do
    return .sequenced (← h.call condition [v] []) (.doWhileAgain body condition)
  | .doWhileAgain body condition, [again] => do
    return if (← get).isTruthy again then .sequenced body (.doWhileCheck body condition) else .unit
  | .whileTest condition body, [again] => do
    return if (← get).isTruthy again then .sequenced body (.whileNext condition body) else .unit
  | .whileNext condition body, [_] => pure (.sequenced condition (.whileTest condition body))
  | .foreverNext node, [_] => pure (.sequenced node (.foreverNext node))
  | .resume generator, [sent] => resumeGenerator h generator sent
  | .factorialIn n, [accumulator] => Sample.multiplyUp h n accumulator
  | .reportCelsius console, [celsius] => Sample.printCelsius h console celsius
  | .raiseFault (.fault f), [] => Eff.raise f
  | .writeCell address value, [] => do
    World.writeCell address value
    return .none
  | .updateCell address update, [] => do
    let content ← update.run h (← World.readCell address)
    World.writeCell address content
    return content
  | .newCell initial, [] => World.newCell initial
  | .parse, [text] => text.parseNumber h
  | .times factor, [v] => Arithmetic.multiply v factor
  | .startDialogue console, [] => World.newGenerator (.dialogue console .start)
  | c, args => Eff.complain (c.wrongArity args.length)

/-- What the methods of cells and consoles do that nodes are built from. -/
def Method.run? (h : Host) : Method → Value → List Value → Option (Eff Value)
  | .readCell, .cell address, [] => some (World.readCell address)
  | .readScripted, .scripted address, [] => some (Console.readScripted h address)
  | .writeScripted, .scripted address, [text] => some (Console.writeScripted h address text)
  | .readStream, .stream stamp input output, [] =>
    some (Console.readStream h (.stream stamp input output) input)
  | .writeStream, .stream stamp input output, [text] =>
    some (Console.writeStream h (.stream stamp input output) output text)
  | _, _, _ => none

/-- **Calls a callable.**  What the library builds its own nodes from has a meaning of its own,
whatever the host: its callbacks, the methods of cells and consoles, and both with arguments given
in advance.  Anything else is the host's. -/
def Host.invoke (h : Host) (f : Value) (args : List Value) : Eff Value :=
  match f with
  | .callback _ c => c.run h args
  | .method stamp receiver m =>
    match m.run? h receiver args with
    | some action => action
    | none => h.call (.method stamp receiver m) args []
  | .preset stamp target before [] => do
    let f := Value.preset stamp target before []
    if ((← get).given? f "keywords").isSome then h.call f args []
    else h.invoke target (before ++ args)
  | f => h.call f args []

end EffectGraph
