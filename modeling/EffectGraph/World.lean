import EffectGraph.Datum
import EffectGraph.Dictionary
import EffectGraph.Text.Lines

/-!
# The world

`World` is everything that a running script can read or change: its variables, the lists,
dictionaries, cells, iterators, generators and consoles that values refer to by address, the
attributes that scripts have given to objects, the streams, and the journal.  The journal, with the
clock and the messages of the machine, is written by runs and never read by scripts.

An `Eff` is a computation in a world.  It ends with a value, or with a signal: a fault was raised,
or the fuel that bounds every computation here ran out.  `Eff.attempt` turns a raised fault into a
value; nothing turns back what was done to the world before it.
-/

namespace EffectGraph

/-- Where an iterator stands. -/
inductive Iteration where
  /-- The items still to come. -/
  | items (rest : List Value)
  /-- A position in a list, which may change meanwhile. -/
  | listAt (address position : Nat)
  /-- A place in a dictionary, the number of entries still to come, and the size that it has to
  keep. -/
  | entryAt (address : Nat) (kind : View) (place left size : Nat)
  /-- In a dictionary that has changed its size. -/
  | lost
  /-- A position in a row that has to stay as it is, with the number of changes to it so far. -/
  | dequeAt (address position changes : Nat)
  /-- The numbers from `next` to below `stop`. -/
  | numbers (next stop : Int)
  /-- The values of a function at the positions still to come. -/
  | lazy (position : Nat) (count f : Value)
  /-- The items of a value at the indices still to come. -/
  | indexed (source : Value) (position size : Nat)
  /-- Past the end, whatever is added afterwards. -/
  | finished

/-- How a part of a generator body ended. -/
inductive Completion where
  | normal
  | returned (value : Value)
  | raised (fault : Fault Value)

/-- What a generator body has still to do. -/
inductive Task where
  /-- The rest of a block. -/
  | block (rest : List Script.Stmt)
  /-- Another round of a loop while a test holds. -/
  | loop (test : Script.Expr) (body : List Script.Stmt)
  /-- Another round of a loop over an iterator. -/
  | each (name : String) (iterator : Value) (body : List Script.Stmt)
  /-- A handler for failures raised by what stands before it. -/
  | guard (name : String) (handler : List Script.Stmt)
  /-- The end of a handler, with the fault that it dealt with. -/
  | handled (fault : Fault Value)
  /-- A block to run however what stands before it ends. -/
  | ensure (final : List Script.Stmt)
  /-- An ending to take up again after a final block. -/
  | finish (completion : Completion)

/-- How far one round of the factorial dialogue has come. -/
inductive DialogueStage where
  | start
  | line
  | number (text : Value)
  | result
  | replied

/-- The state of a generator. -/
inductive Generator where
  /-- A body of a script: has it started, which variable waits for the value sent, what is left. -/
  | script (started : Bool) (target : Option String) (tasks : List Task) (scope : List (Layer Value))
  /-- One round of the factorial dialogue on a console. -/
  | dialogue (console : Value) (stage : DialogueStage)
  | running
  | finished

/-- A row that grows and shrinks at both ends, with the number of times that it has done so. -/
structure Deque where
  items : List Value
  changes : Nat

/-- A console with prepared input lines that records what is written to it, in a list of its own. -/
structure ScriptedConsole where
  /-- The lines still to give; a script may put something else in their place. -/
  pending : Value
  /-- The list of what was written; a script may put something else in its place. -/
  written : Value
  /-- How many lines were read, unless a script has changed it. -/
  reads : Value

/-- The state of a run as a script can build it: the current node, the list of frames with the
topmost one last, and the counters. -/
structure RunState where
  current : Value
  stack : Value
  stats : Value

/-- What runs write down and scripts cannot read: the clock, and the machine's messages. -/
structure Journal where
  clock : Nat
  recording : Bool
  messages : Array String

/-- The counters of a run that has not begun. -/
def Stats.zero : Stats Value :=
  ⟨.int 0, .int 0, .int 0, .int 0, .int 0, .int 0, .none, .none⟩

/-- Everything that a script can read or change. -/
structure World where
  globals : List (String × Value)
  layers : Array (List (String × Value))
  lists : Array (Array Value)
  dicts : Array Dictionary
  deques : Array Deque
  cells : Array Value
  stats : Array (Stats Value)
  runStates : Array RunState
  iterators : Array Iteration
  generators : Array Generator
  consoles : Array ScriptedConsole
  input : List Char
  ending : LineEnding
  output : String
  environment : List (String × String)
  /-- How often scripts have counted something, by what it is. -/
  counters : Dictionary
  log : Array Datum
  /-- The next stamp. -/
  stamps : Nat
  /-- The lists that hold values which no script has seen yet. -/
  unsettled : List Nat
  /-- Attributes that scripts have given to objects. -/
  attributes : List ((Identity × String) × Value)
  journal : Journal

/-- Why a computation stopped without a value. -/
inductive Signal where
  | raised (fault : Fault Value)
  /-- The fuel ran out. -/
  | exhausted

/-- A computation in a world. -/
abbrev Eff := EStateM Signal World

namespace Eff

/-- Raises a fault. -/
def raise {α : Type} (fault : Fault Value) : Eff α := throw (.raised fault)

/-- Stops because the fuel has run out. -/
def exhausted {α : Type} : Eff α := throw .exhausted

/-- Runs a computation and gives the fault it raises as a value. -/
def attempt {α : Type} (x : Eff α) : Eff (Except (Fault Value) α) := fun w =>
  match x w with
  | .ok a w' => .ok (.ok a) w'
  | .error (.raised f) w' => .ok (.error f) w'
  | .error .exhausted w' => .error .exhausted w'

/-- Raises a complaint. -/
def complain {α : Type} (c : Complaint) : Eff α := raise c.fault

/-- The value of a computation that may be refused with a complaint. -/
def ofExcept {α : Type} : Except Complaint α → Eff α
  | .ok a => pure a
  | .error c => complain c

end Eff

/-- An association list with the entry of a key set: changed in place, or added in front. -/
def setEntry {α : Type} (key : String) (value : α) (entries : List (String × α)) :
    List (String × α) :=
  if entries.any (·.1 == key) then
    entries.map fun e => if e.1 == key then (key, value) else e
  else (key, value) :: entries

namespace World

/-- The items of a list. -/
def listItems (w : World) (address : Nat) : Array Value := w.lists[address]?.getD #[]

/-- A dictionary. -/
def dictAt (w : World) (address : Nat) : Dictionary := w.dicts[address]?.getD .empty

/-- The entries of a dictionary. -/
def dictEntries (w : World) (address : Nat) : List (Value × Value) := (w.dictAt address).entries

/-- The entries of a dictionary, frozen or not. -/
def entriesOf? (w : World) : Value → Option (List (Value × Value))
  | .dict address => some (w.dictEntries address)
  | .frozenDict _ entries => some entries
  | _ => none

/-- A row that grows and shrinks at both ends. -/
def dequeAt (w : World) (address : Nat) : Deque := w.deques[address]?.getD ⟨[], 0⟩

/-- A scripted console. -/
def consoleAt (w : World) (address : Nat) : ScriptedConsole :=
  w.consoles[address]?.getD ⟨.none, .none, .int 0⟩

/-- The attribute that a script has given to an object under a name. -/
def given? (w : World) (v : Value) (name : String) : Option Value :=
  v.identity?.bind fun i => w.attributes.lookup (i, name)

/-- All attributes that scripts have given to an object, the oldest first. -/
def givenTo (w : World) (v : Value) : List (String × Value) :=
  match v.identity? with
  | some i => (w.attributes.filterMap fun e => if e.1.1 == i then some (e.1.2, e.2) else none).reverse
  | none => []

/-- The counters of a run. -/
def statsAt (w : World) (address : Nat) : Stats Value :=
  w.stats[address]?.getD Stats.zero

/-- The state of a run. -/
def runStateAt (w : World) (address : Nat) : RunState :=
  w.runStates[address]?.getD ⟨.none, .none, .none⟩

/-- A fresh stamp. -/
def freshStamp : Eff Nat := modifyGet fun w => (w.stamps, { w with stamps := w.stamps + 1 })

/-- Gives an object an attribute, in the place of one of the same name. -/
def give (v : Value) (name : String) (value : Value) : Eff Unit :=
  match v.identity? with
  | some i => modify fun w =>
    { w with attributes := ((i, name), value) :: w.attributes.filter (·.1 != (i, name)) }
  | none => pure ()

/-- Takes an attribute away that a script has given to an object. -/
def withdraw (i : Identity) (name : String) : Eff Unit :=
  modify fun w => { w with attributes := w.attributes.filter (·.1 != (i, name)) }

/-- A new list with the given items. -/
def newList (items : Array Value) : Eff Value := modifyGet fun w =>
  (.list w.lists.size,
    { w with
      lists := w.lists.push items
      unsettled := if items.all Value.isSettled then w.unsettled else w.lists.size :: w.unsettled })

/-- The address of a new empty list. -/
def newListAddress : Eff Nat := modifyGet fun w =>
  (w.lists.size, { w with lists := w.lists.push #[] })

/-- Appends an item to a list. -/
def pushItem (address : Nat) (item : Value) : Eff Unit := modify fun w =>
  { w with
    lists := w.lists.modify address (·.push item)
    unsettled :=
      if item.isSettled || w.unsettled.contains address then w.unsettled
      else address :: w.unsettled }

/-- Replaces the items of a list. -/
def setItems (address : Nat) (items : Array Value) : Eff Unit := modify fun w =>
  { w with lists := w.lists.setIfInBounds address items }

/-- How many items a list has. -/
def listSize (address : Nat) : Eff Nat := do return ((← get).listItems address).size

/-- The address of a new dictionary without entries. -/
def newDictAddress : Eff Nat := modifyGet fun w =>
  (w.dicts.size, { w with dicts := w.dicts.push .empty })

/-- A new dictionary with the given entries. -/
def newDict (entries : List (Value × Value)) : Eff Value := modifyGet fun w =>
  (.dict w.dicts.size, { w with dicts := w.dicts.push (.ofEntries entries) })

/-- Puts a changed dictionary in the place of one. -/
def setDict (address : Nat) (d : Dictionary) : Eff Unit := modify fun w =>
  { w with dicts := w.dicts.setIfInBounds address d }

/-- A new row that grows and shrinks at both ends. -/
def newDeque (items : List Value) : Eff Value := modifyGet fun w =>
  (.deque w.deques.size, { w with deques := w.deques.push ⟨items, 0⟩ })

/-- Replaces the items of a row by as many others. -/
def setDequeItems (address : Nat) (items : List Value) : Eff Unit := modify fun w =>
  { w with deques := w.deques.modify address fun d => { d with items } }

/-- Replaces the items of a row by others, which counts as a change. -/
def changeDeque (address : Nat) (items : List Value) : Eff Unit := modify fun w =>
  { w with deques := w.deques.modify address fun d => ⟨items, d.changes + 1⟩ }

/-- A new cell with the given content. -/
def newCell (content : Value) : Eff Value := modifyGet fun w =>
  (.cell w.cells.size, { w with cells := w.cells.push content })

/-- The content of a cell. -/
def readCell (address : Nat) : Eff Value := do return (← get).cells[address]?.getD .none

/-- Overwrites the content of a cell. -/
def writeCell (address : Nat) (content : Value) : Eff Unit := modify fun w =>
  { w with cells := w.cells.setIfInBounds address content }

/-- A new set of counters. -/
def newStats (content : Stats Value) : Eff Value := modifyGet fun w =>
  (.stats w.stats.size, { w with stats := w.stats.push content })

/-- Overwrites a set of counters. -/
def setStats (address : Nat) (content : Stats Value) : Eff Unit := modify fun w =>
  { w with stats := w.stats.setIfInBounds address content }

/-- A new state of a run. -/
def newRunState (content : RunState) : Eff Value := modifyGet fun w =>
  (.runState w.runStates.size, { w with runStates := w.runStates.push content })

/-- Overwrites a state of a run. -/
def setRunState (address : Nat) (content : RunState) : Eff Unit := modify fun w =>
  { w with runStates := w.runStates.setIfInBounds address content }

/-- A new iterator. -/
def newIterator (start : Iteration) : Eff Value := modifyGet fun w =>
  (.iterator w.iterators.size, { w with iterators := w.iterators.push start })

/-- Moves an iterator to another place. -/
def setIterator (address : Nat) (place : Iteration) : Eff Unit := modify fun w =>
  { w with iterators := w.iterators.setIfInBounds address place }

/-- A new generator. -/
def newGenerator (start : Generator) : Eff Value := modifyGet fun w =>
  (.generator w.generators.size, { w with generators := w.generators.push start })

/-- Puts a generator into another state. -/
def setGenerator (address : Nat) (state : Generator) : Eff Unit := modify fun w =>
  { w with generators := w.generators.setIfInBounds address state }

/-- Takes the state of a generator out to run it; meanwhile the generator counts as running. -/
def takeGenerator (address : Nat) : Eff Generator := modifyGet fun w =>
  (w.generators[address]?.getD .finished,
    { w with generators := w.generators.setIfInBounds address .running })

/-- A new layer of variables that closures may share. -/
def newLayer (bindings : List (String × Value)) : Eff Nat := modifyGet fun w =>
  (w.layers.size, { w with layers := w.layers.push bindings })

/-- Assigns a variable of a shared layer. -/
def assign (address : Nat) (name : String) (value : Value) : Eff Unit := modify fun w =>
  { w with layers := w.layers.modify address (setEntry name value) }

/-- Sets a global. -/
def define (name : String) (value : Value) : Eff Unit := modify fun w =>
  { w with globals := setEntry name value w.globals }

/-- Adds a new scripted console with the given input lines. -/
def newConsole (lines : List Value) : Eff Value := do
  let pending ← newDeque lines
  let written ← newList #[]
  modifyGet fun w =>
    (.scripted w.consoles.size, { w with consoles := w.consoles.push ⟨pending, written, .int 0⟩ })

/-- Changes a scripted console. -/
def modifyConsole (address : Nat) (change : ScriptedConsole → ScriptedConsole) : Eff Unit :=
  modify fun w => { w with consoles := w.consoles.modify address change }

/-- Appends text to the output stream. -/
def print (text : String) : Eff Unit := modify fun w => { w with output := w.output ++ text }

/-- Reads the clock, which moves on by one microsecond each time. -/
def tick : Eff Nat := modifyGet fun w =>
  let now := w.journal.clock + 1000
  (now, { w with journal := { w.journal with clock := now } })

/-- Writes a message about the world into the journal if it is recorded; only then is it worded, and
may be refused. -/
def note (message : World → Except Complaint String) : Eff Unit := do
  let w ← get
  if w.journal.recording then
    let text ← Eff.ofExcept (message w)
    set { w with journal := { w.journal with messages := w.journal.messages.push text } }

end World
end EffectGraph
