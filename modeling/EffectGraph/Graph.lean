import EffectGraph.Spelling

/-!
# Building graphs

The constructors and combinators of effect graphs.  Each is a plain function of its arguments: it
gives a node, or the complaint for which it refuses, and nothing is called, pulled or changed.  All
loops are built lazily: a combinator that repeats something gives a suspended node that builds its
next round only when the machine reaches it.
-/

namespace EffectGraph
namespace Graph

/-- The node itself, if the value is one; otherwise the complaint of the given operation. -/
def requireNode (operation : String) (v : Value) : Except Complaint Unit :=
  if v.isNode then .ok () else .error (.expectsNodes operation v.typeName)

/-- The first complaint about values that are not nodes. -/
def requireNodes (operation : String) (vs : List Value) : Except Complaint Unit :=
  vs.forM (requireNode operation)

/-- The count that a value gives, if it is a whole number and not negative. -/
def requireCount (operation : String) (v : Value) : Except Complaint Int := do
  let n ← match v with
    | .int n => pure n
    | .bool b => pure (if b then 1 else 0)
    | v => throw (.expectsCount operation v.typeName)
  if n < 0 then
    let text ← Datum.intText? n
    throw (.negativeCount operation text)
  return n

/-! ## One node -/

/-- A finished node. -/
def unit (v : Value) : Value := .done v

/-- One suspended action. -/
def delay (thunk label : Value) : Except Complaint Value :=
  if thunk.isCallable then .ok (.ofNode (.delay thunk label)) else .error .thunkNotCallable

/-- A node whose thunk is a callback of the library. -/
def action (thunk : Callback Value) (label : String) : Value :=
  .ofNode (.delay (.ofCallback thunk) (.str label))

/-- A node that is built when it is reached. -/
def suspend (f : Value) : Except Complaint Value :=
  if f.isCallable then .ok (.suspend (.apply f)) else .error .suspendNotCallable

/-- A node that fails with a fault, under a label or else one that names the kind of fault. -/
def fail (error : Value) (label : Option Value) : Except Complaint Value :=
  match error with
  | .fault f =>
    if f.kind.isFailure then
      .ok (.ofNode (.delay (.ofCallback (.raiseFault error))
        (label.getD (.str ("fail(" ++ f.kind.name ++ ")")))))
    else .error (.failExpectsException f.kind.name)
  | v => .error (.failExpectsException v.typeName)

/-! ## A node and what comes after it -/

/-- Maps a function over the result of a node. -/
def map (node f : Value) : Except Complaint Value :=
  if f.isCallable then .ok (.sequenced node (.mapWith f)) else .error .mapperNotCallable

/-- Runs a node and then the node that a function makes of its result. -/
def flatMap (node f : Value) : Except Complaint Value :=
  if f.isCallable then .ok (.ofNode (.flatMap node f)) else .error .binderNotCallable

/-- Runs a node, drops its value, and runs another one. -/
def thenRun (node other : Value) : Except Complaint Value :=
  if other.isNode then .ok (.sequenced node (.thenRun other))
  else .error (.thenExpectsNode other.typeName)

/-- Runs a node and drops its value. -/
def skip (node : Value) : Value := .sequenced node .toUnit

/-- Runs a node and replaces its value. -/
def replace (node value : Value) : Value := .sequenced node (.replaceWith value)

/-- Runs a node and, if it fails, the node that a handler makes of the fault. -/
def recover (node handler : Value) : Except Complaint Value :=
  if handler.isCallable then .ok (.ofNode (.recover node handler)) else .error .handlerNotCallable

/-- Runs a node and gives its outcome, success or failure, as a value. -/
def attempt (node : Value) : Value :=
  .ofNode (.recover (.sequenced node .wrapOk) (.ofCallback .wrapErr))

/-- Runs two nodes in order and pairs their values; none if the second is no node. -/
def pair? (first second : Value) : Option Value :=
  if second.isNode then some (.sequenced first (.pairOuter second)) else none

/-- Runs two nodes in order and combines their values. -/
def map2 (first second : Value) (combiner : Combiner Value) : Except Complaint Value := do
  requireNode "map2" first
  requireNode "map2" second
  return .sequenced first (.map2Outer second combiner)

/-! ## Loops -/

/-- Folds elements with a step of the library. -/
def foldWith (elements initial : Value) (step : FoldStep Value) : Value :=
  .suspend (.fold elements initial step)

/-- Folds elements left to right with an effectful step. -/
def fold (elements initial step : Value) : Except Complaint Value :=
  if step.isCallable then .ok (foldWith elements initial (.apply step)) else .error .stepNotCallable

/-- Runs a node for every element, dropping the values. -/
def foreach (elements : Value) (mapper : Mapper Value) : Value :=
  foldWith elements .none (.discard mapper)

/-- Runs nodes in order, dropping their values. -/
def sequenceUnit (nodes : List Value) : Except Complaint Value := do
  requireNodes "sequence_" nodes
  return foreach (.ofItems nodes) .same

/-- Runs a node for every item and collects the values. -/
def traverse (items : Value) (mapper : Mapper Value) : Value :=
  .suspend (.traverse items mapper)

/-- Runs a node a number of times and collects the values. -/
def replicate (count node : Value) : Except Complaint Value := do
  requireNode "replicate_m" node
  let n ← requireCount "replicate_m" count
  return .suspend (.replicate n node)

/-- Runs a node a number of times, dropping the values. -/
def replicateUnit (count node : Value) : Except Complaint Value := do
  requireNode "replicate_m_" node
  let n ← requireCount "replicate_m_" count
  return skip (foldWith (.range 0 0 n) .none (.again node))

/-- Runs a body and then a condition on its result, again while the condition yields true. -/
def doWhile (body condition : Value) : Except Complaint Value := do
  requireNode "do_while" body
  return .suspend (.doWhile body condition)

/-- Runs a condition, and a body as long as it yields true. -/
def whileLoop (condition body : Value) : Except Complaint Value := do
  requireNode "while_m" condition
  requireNode "while_m" body
  return .suspend (.whileLoop condition body)

/-- Runs a node again and again. -/
def forever (node : Value) : Except Complaint Value := do
  requireNode "forever" node
  return .suspend (.forever node)

/-- Calls a function when the node is reached, and runs the generator it returns. -/
def generate (f : Value) (args : List Value) (keywords : Keywords) : Value :=
  .suspend (.generate f args keywords)

/-! ## Cells -/

/-- Makes a cell when the node is reached. -/
def newCell (initial : Value) : Value := action (.newCell initial) "Ref.new"

/-- Reads a cell of the given name. -/
def getCell (address : Nat) (name : String) : Value :=
  .ofNode (.delay (.method 0 (.cell address) .readCell) (.str (name ++ ".get")))

/-- Overwrites a cell of the given name. -/
def setCell (address : Nat) (name : String) (value : Value) : Value :=
  action (.writeCell address value) (name ++ ".set")

/-- Changes a cell of the given name in a way the library knows. -/
def updateCell (address : Nat) (name : String) (update : Update Value) : Value :=
  action (.updateCell address update) (name ++ ".modify")

/-- Changes a cell of the given name by a function, giving the new content. -/
def modifyCell (address : Nat) (name : String) (f : Value) : Except Complaint Value :=
  if f.isCallable then .ok (updateCell address name (.apply f)) else .error .updateNotCallable

/-! ## Consoles and numbers -/

/-- Reads a line by calling a reader. -/
def readLine (reader : Value) : Except Complaint Value := delay reader (.str "ReadLine")

/-- Writes a line by calling a writer that has its line already. -/
def printLine (writer : Value) : Except Complaint Value := delay writer (.str "PrintLine")

/-- Reads a text as a number. -/
def parseNumber (text : Value) : Value :=
  .ofNode (.delay (.preset 0 (.ofCallback .parse) [text] []) (.str "ParseNumber"))

end Graph

/-- Keywords given in advance with those of a call: one given again keeps its place and takes the
new value. -/
def Keywords.merge (before now : Keywords) : Keywords :=
  now.foldl (fun all (name, value) =>
    if all.any (·.1 == name) then all.map fun e => if e.1 == name then (name, value) else e
    else all ++ [(name, value)]) before

/-- The keywords given in advance to a callable, as they are now. -/
def World.presetKeywords? (w : World) (v : Value) (keywords : Keywords) :
    Except Complaint Keywords :=
  match w.given? v "keywords" with
  | some (.dict address) =>
    (w.dictEntries address).mapM fun (key, value) =>
      match key with
      | .str name => .ok (name, value)
      | _ => .error (.arguments "keywords must be strings")
  | _ => .ok keywords

/-- The names under which what a callable was made with is kept, beside attributes of its own. -/
def World.presetNames : List String := ["args", "keywords"]

/-- A callable with its first arguments given.  Arguments given to one that has some already are
added to those, unless it carries attributes of its own. -/
def World.preset (w : World) (f : Value) (args : List Value) (keywords : Keywords) :
    Except Complaint Value :=
  if !f.isCallable then .error .presetNotCallable
  else
    match f with
    | .preset stamp g before named =>
      let own := (w.givenTo f).filter fun e => !World.presetNames.contains e.1
      if own.isEmpty then do
        let named := (w.presetKeywords? f named).toOption.getD named
        return .preset 0 g (before ++ args) (Keywords.merge named keywords)
      else .ok (.preset 0 (.preset stamp g before named) args keywords)
    | f => .ok (.preset 0 f args keywords)

end EffectGraph
