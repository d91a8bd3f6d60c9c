import EffectGraph.Sample.Dialogue
import EffectGraph.Script.Evaluate

/-!
# Running generators

A generator body is run as a list of tasks.  Statements are carried out until one yields; what is
left then is kept as the generator's state.  An abrupt ending, a return or a fault, unwinds the
tasks: a guard catches failures, and a final block runs before the ending is taken up again.  Every
block is a generator of its own inside that of the block around it, so the end of iteration never
leaves one as it is, and closing a generator closes its blocks one after the other, innermost first,
and then itself.
-/

namespace EffectGraph
namespace Script

/-- How far a body has run: up to a yield, or to its end. -/
inductive Advance where
  | yielded (value : Value) (target : Option String) (tasks : List Task)
  | ended (completion : Completion)

/-- What to do next inside a body: go on with tasks, or stop at a yield. -/
inductive Move where
  | go (completion : Completion) (tasks : List Task)
  | stop (value : Value) (target : Option String) (tasks : List Task)

/-- Assigns a variable in the innermost shared layer of a scope. -/
def assignIn : Scope → String → Value → Eff Unit
  | .shared address :: _, name, value => World.assign address name value
  | _ :: outer, name, value => assignIn outer name value
  | [], name, value => World.define name value

/-- What a fault becomes when it leaves a generator: the end of iteration may not leave one, and is
the cause of what does. -/
def leaving (f : Fault Value) : Eff (Fault Value) := do
  if !f.kind.isA .stopIteration then return f
  let cause := Value.fault (← settleFault f)
  let raised ← settleFault Complaint.generatorRaisedStop.fault
  World.give (.fault raised) "__cause__" cause
  World.give (.fault raised) "__context__" cause
  return raised

/-- A fault that was raised while another one was being dealt with, which it keeps. -/
def raisedDuring (handled f : Fault Value) : Eff (Fault Value) := do
  let handled ← settleFault handled
  let f ← settleFault f
  if f.stamp != handled.stamp && ((← get).given? (.fault f) "__context__").isNone then
    World.give (.fault f) "__context__" (.fault handled)
  return f

/-- Goes on with the value of an action; a fault becomes the body's completion. -/
def withResult {α : Type} (action : Eff α) (tasks : List Task) (next : α → Eff Move) : Eff Move := do
  match ← Eff.attempt action with
  | .ok v => next v
  | .error f => return .go (.raised (← leaving f)) tasks

/-- Computes an expression and goes on with its value. -/
def withValue (h : Host) (scope : Scope) (e : Expr) (tasks : List Task) (next : Value → Eff Move) :
    Eff Move :=
  withResult (evaluate h scope e) tasks next

/-- Carries out one statement; `tasks` is what stands after it. -/
def carryOut (h : Host) (scope : Scope) (s : Stmt) (tasks : List Task) : Eff Move :=
  match s with
  | .yield e => withValue h scope e tasks fun v => return .stop v none tasks
  | .bind name e => withValue h scope e tasks fun v => return .stop v (some name) tasks
  | .set name e => withValue h scope e tasks fun v => do
    assignIn scope name v
    return .go .normal tasks
  | .expr e => withValue h scope e tasks fun _ => return .go .normal tasks
  | .return e => withValue h scope e tasks fun v => return .go (.returned v) tasks
  | .when test yes no => withValue h scope test tasks fun v => do
    let branch := if (← get).isTruthy v then yes else no
    return .go .normal (.block branch :: tasks)
  | .while test body => return .go .normal (.loop test body :: tasks)
  | .for name items body => withValue h scope items tasks fun v =>
    withResult (h.openIterator v) tasks fun iterator =>
      return .go .normal (.each name iterator body :: tasks)
  | .try body name handler => return .go .normal (.block body :: .guard name handler :: tasks)
  | .finally body final => return .go .normal (.block body :: .ensure final :: tasks)

/-- One move while the body is running normally. -/
def runTask (h : Host) (scope : Scope) (task : Task) (tasks : List Task) : Eff Move :=
  match task with
  | .block [] => return .go .normal tasks
  | .block (s :: rest) => carryOut h scope s (.block rest :: tasks)
  | .loop test body => withValue h scope test tasks fun v => do
    if (← get).isTruthy v then return .go .normal (.block body :: .loop test body :: tasks)
    else return .go .normal tasks
  | .each name iterator body => withResult (h.pull iterator) tasks fun
    | some v => do
      assignIn scope name (← settle v)
      return .go .normal (.block body :: .each name iterator body :: tasks)
    | none => return .go .normal tasks
  | .guard _ _ | .handled _ => return .go .normal tasks
  | .ensure final => return .go .normal (.block final :: .finish .normal :: tasks)
  | .finish completion => return .go completion tasks

/-- One move while an abrupt ending unwinds the body.  A return out of a final block ends that block
only. -/
def unwindTask (scope : Scope) (ending : Completion) (task : Task) (tasks : List Task) : Eff Move :=
  match task, ending with
  | .guard name handler, .raised f => do
    if f.kind.isFailure then
      let f ← settleFault f
      assignIn scope name (.fault f)
      return .go .normal (.block handler :: .handled f :: tasks)
    else return .go ending tasks
  | .handled handled, .raised f => return .go (.raised (← raisedDuring handled f)) tasks
  | .ensure final, _ => return .go .normal (.block final :: .finish ending :: tasks)
  | .finish completion, .returned _ => return .go completion tasks
  | .finish (.raised handled), .raised f => return .go (.raised (← raisedDuring handled f)) tasks
  | _, _ => return .go ending tasks

/-- **Runs a body** up to its next yield or its end, `fuel` bounding the number of moves. -/
def advance (h : Host) (scope : Scope) : Nat → Completion → List Task → Eff Advance
  | 0, _, _ => Eff.exhausted
  | _ + 1, completion, [] => return .ended completion
  | fuel + 1, completion, task :: tasks => do
    let move ← match completion with
      | .normal => runTask h scope task tasks
      | ending => unwindTask scope ending task tasks
    match move with
    | .go completion' tasks' => advance h scope fuel completion' tasks'
    | .stop value target tasks' => return .yielded value target tasks'

/-! ## Sending -/

/-- How far a body has run, as the answer of its generator, which is kept in that state. -/
def answerWith (address : Nat) (scope : Scope) (advanced : Advance) : Eff Resumption := do
  match advanced with
  | .yielded v target tasks =>
    World.setGenerator address (.script true target tasks scope)
    return .yielded v
  | .ended completion =>
    World.setGenerator address .finished
    match completion with
    | .normal => return .returned .none
    | .returned v => return .returned v
    | .raised f => Eff.raise f

/-- Sends a value into one round of the factorial dialogue. -/
def sendDialogue (h : Host) (address : Nat) (console : Value) (stage : DialogueStage)
    (sent : Value) : Eff Resumption := do
  match ← Eff.attempt (Sample.answer h console stage sent) with
  | .ok (.ask node next) =>
    World.setGenerator address (.dialogue console next)
    return .yielded node
  | .ok (.give v) =>
    World.setGenerator address .finished
    return .returned v
  | .error f =>
    World.setGenerator address .finished
    Eff.raise (← leaving f)

/-- Has a generator not begun? -/
def isUnstarted : Generator → Bool
  | .script false _ _ _ => true
  | .dialogue _ .start => true
  | _ => false

/-- **Sends a value into a generator.**  The first one only starts it, and is none. -/
def sendGenerator (h : Host) (fuel : Nat) (generator sent : Value) : Eff Resumption := do
  match generator with
  | .generator address =>
    let state ← World.takeGenerator address
    if isUnstarted state && !(sent matches .none) then
      World.setGenerator address state
      Eff.complain .generatorNotStarted
    match state with
    | .script _ target tasks scope =>
      if let some name := target then assignIn scope name (← settle sent)
      answerWith address scope (← advance h scope fuel .normal tasks)
    | .dialogue console stage => sendDialogue h address console stage sent
    | .running => Eff.complain .generatorRunning
    | .finished =>
      World.setGenerator address .finished
      return .returned .none
  | v => Eff.complain (.noAttribute v.typePath "send")

/-! ## Closing -/

/-- The fault that closing a generator raises inside it. -/
def exitFault : Fault Value := ⟨.generatorExit, [], .plain, 0⟩

/-- The tasks of each block that is being run, innermost first. -/
def levels : List Task → List (List Task)
  | [] => []
  | .block rest :: tasks => [.block rest] :: levels tasks
  | task :: tasks =>
    match levels tasks with
    | [] => [[task]]
    | level :: outer => (task :: level) :: outer

/-- Splitting tasks into levels loses none. -/
theorem flatten_levels (tasks : List Task) : (levels tasks).flatten = tasks := by
  fun_induction levels tasks <;> simp_all

/-- Closes blocks one after the other, innermost first, raising a fault in the first of them.  A block
that ends leaves the next one to be closed too; one that yields is left behind and complained about
in the next one, and one that raises something else raises it there. -/
def exitThrough (h : Host) (scope : Scope) (exit : Fault Value) :
    Nat → Fault Value → List (List Task) → Eff (Fault Value)
  | 0, _, _ => Eff.exhausted
  | _ + 1, fault, [] => return fault
  | fuel + 1, fault, level :: outer => do
    match ← advance h scope fuel (.raised fault) level with
    | .yielded _ _ tasks =>
      let _ ← exitThrough h scope exitFault fuel exitFault (levels tasks)
      exitThrough h scope exit fuel Complaint.generatorIgnoredExit.fault outer
    | .ended (.raised f) =>
      exitThrough h scope exit fuel (if f.kind == .generatorExit then exit else f) outer
    | .ended _ => exitThrough h scope exit fuel exit outer

/-- **Closes a generator.**  Its pending final blocks run; yielding in one of them is refused, and
what one of them raises is raised here. -/
def closeGenerator (h : Host) (fuel : Nat) (generator : Value) : Eff Unit := do
  match generator with
  | .generator address =>
    match ← World.takeGenerator address with
    | .script true _ tasks scope =>
      let fault ← exitThrough h scope exitFault fuel exitFault (levels tasks)
      World.setGenerator address .finished
      if fault.kind != .generatorExit then Eff.raise fault
    | .running => Eff.complain .generatorRunning
    | _ => World.setGenerator address .finished
  | v => Eff.complain (.noAttribute v.typePath "close")

/-! ## Throwing -/

/-- Raises a fault where a body has stopped, or complains there about what is no fault: in the block
around the innermost one, which is left behind. -/
def throwInto (h : Host) (scope : Scope) (fuel : Nat) (thrown : Except Complaint (Fault Value))
    (tasks : List Task) : Eff Advance := do
  match thrown, levels tasks with
  | .ok fault, blocks =>
    if fault.kind == .generatorExit then
      return .ended (.raised (← exitThrough h scope fault fuel fault blocks))
    else advance h scope fuel (.raised (← leaving fault)) tasks
  | .error c, [] => return .ended (.raised c.fault)
  | .error c, inner :: outer =>
    let _ ← exitThrough h scope exitFault fuel exitFault [inner]
    advance h scope fuel (.raised c.fault) outer.flatten

/-- **Raises a fault inside a generator.**  One that has not begun or has ended raises it here. -/
def throwGenerator (h : Host) (fuel : Nat) (generator : Value)
    (thrown : Except Complaint (Fault Value)) : Eff Resumption := do
  match generator with
  | .generator address =>
    let state ← World.takeGenerator address
    match state, thrown with
    | .running, _ => Eff.complain .generatorRunning
    | .script true _ tasks scope, thrown =>
      answerWith address scope (← throwInto h scope fuel thrown tasks)
    | state, .ok fault =>
      World.setGenerator address .finished
      Eff.raise (← if state matches .finished then pure fault else leaving fault)
    | state, .error c =>
      World.setGenerator address state
      Eff.complain c
  | v => Eff.complain (.noAttribute v.typePath "throw")

end Script
end EffectGraph
