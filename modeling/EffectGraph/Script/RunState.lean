import EffectGraph.Script.FaultValues

/-!
# States of runs as objects

A script can build the state of a run itself, put frames on its stack, let a fault unwind it and let
the machine go on from it.  The object is changed in place, attribute by attribute, so a thunk that
holds it sees every change and can make changes of its own: its stack is a list with the topmost
frame last, its counters are an object too.
-/

namespace EffectGraph
namespace Script

/-- Adds to an attribute of an object. -/
def increaseAttribute (v : Value) (name : String) (amount : Value) : Eff Unit := do
  let sum ← Arithmetic.increase (← readAttribute v name) amount
  assignAttribute v name sum

/-- Makes a node the current one of a state. -/
def setCurrent (state node : Value) : Eff Unit := do
  assignAttribute state "current" (← settle node)

/-- The number of frames on a stack. -/
def sizeOf (stack : Value) : Eff Nat := do Eff.ofExcept ((← get).length? stack)

/-- Removes an item of a list and gives it. -/
def popItem (address : Nat) (index : Value) : Eff Value := do
  let i ← Eff.ofExcept (wordOf index)
  let items ← settledItems address
  if items.isEmpty then Eff.complain .emptyPop
  let place := if i < 0 then i + items.size else i
  if place < 0 then Eff.complain (.indexOutOfRange "pop")
  match items[place.toNat]? with
  | none => Eff.complain (.indexOutOfRange "pop")
  | some item =>
    World.setItems address (items.eraseIdxIfInBounds place.toNat)
    return item

/-- Takes the topmost frame off a stack. -/
def popFrame (h : Host) (stack : Value) : Eff Value :=
  match stack with
  | .list address => popItem address (.int (-1))
  | stack => h.callMethod stack "pop" []

/-- Takes all frames off a stack. -/
def clearFrames (h : Host) (stack : Value) : Eff Unit := do
  match stack with
  | .list address => World.setItems address #[]
  | stack =>
    let _ ← h.callMethod stack "clear" []

/-- Puts a frame on the stack of a state and keeps the largest depth there has been. -/
def pushFrame (h : Host) (state frame : Value) : Eff Value := do
  match ← readAttribute state "continuation_stack" with
  | .list address => World.pushItem address frame
  | stack =>
    let _ ← h.callMethod stack "append" [frame]
  let depth ← sizeOf (← readAttribute state "continuation_stack")
  let most ← readAttribute (← readAttribute state "stats") "max_stack_depth"
  if ← Eff.ofExcept (Arithmetic.isBelow (.int depth) most) then
    assignAttribute (← readAttribute state "stats") "max_stack_depth" (.int depth)
  return .none

/-- Takes frames off a stack down to the nearest boundary, which is the result if there is one, and
counts the others. -/
def takeFrames (h : Host) (stack : Value) : Nat → Nat → Eff (Nat × Option Value)
  | 0, _ => Eff.exhausted
  | fuel + 1, dropped => do
    if !(← get).isTruthy stack then return (dropped, none)
    match ← popFrame h stack with
    | .frame _ (.boundary handler) => return (dropped, some handler)
    | _ => takeFrames h stack fuel (dropped + 1)

/-- A value as a whole number in a message. -/
def countText (v : Value) : Except Complaint String :=
  match Number.ofCounting? v with
  | some (.int i) => Datum.intText? i
  | some (.float x) =>
    match Binary64.truncate x with
    | .ok i => Datum.intText? i
    | .error .nan => .error .nanToInt
    | .error .infinite => .error .infiniteToInt
  | none => .error (.countFormat v.typePath)

/-- **Lets a fault unwind the stack of a state.**  None if a boundary takes over, otherwise the
report of the failure. -/
def unwindState (h : Host) (fuel : Nat) (state fault label : Value) : Eff Value := do
  let stats ← readAttribute state "stats"
  let stack ← readAttribute state "continuation_stack"
  match ← takeFrames h stack fuel 0 with
  | (dropped, some handler) =>
    increaseAttribute stats "total_recoveries" (.int 1)
    increaseAttribute stats "discarded_continuations" (.int dropped)
    World.note fun w => do
      return "Recovering from " ++ fault.typeName ++ " in " ++ (← w.str? label) ++ " (" ++
        dropped.repr ++ " continuation(s) discarded)"
    setCurrent state (.ofNode (.flatMap (.done fault) handler))
    return .none
  | (dropped, none) =>
    increaseAttribute stats "discarded_continuations" (.int dropped)
    let step ← readAttribute stats "total_steps"
    return .fault (← reportFault fault label step (.int dropped))

/-- A machine at work on a state: the parts that it looks up once. -/
structure Driver where
  interpreter : Value
  state : Value
  stats : Value
  stack : Value
  limit : Value
  trace : Value

namespace Driver

/-- Lets the interpreter unwind the stack, in its own way if a script has given it one; a report is
the end. -/
def unwind (d : Driver) (h : Host) (fuel : Nat) (fault : Fault Value) (label : Value) :
    Eff (Option Value) := do
  let fault ← settleFault fault
  let answer ← match d.interpreter, (← get).given? d.interpreter "_unwind" with
    | .interpreter _ _ _, none => unwindState h fuel d.state (.fault fault) label
    | other, _ => h.callMethod other "_unwind" [d.state, .fault fault, label]
  match answer with
  | .none => return none
  | failure => return some (.failure failure)

/-- What a failure does, an interrupt passing on. -/
def handle (d : Driver) (h : Host) (fuel : Nat) (fault : Fault Value) (label : Eff Value) :
    Eff (Option Value) := do
  if !fault.kind.isFailure then Eff.raise fault
  d.unwind h fuel fault (← label)

/-- Ends if there are more frames than the limit allows. -/
def checkLimit (d : Driver) (h : Host) : Eff (Option Value) := do
  match d.limit with
  | .none => return none
  | limit =>
    let depth ← sizeOf d.stack
    if ← Eff.ofExcept (Arithmetic.isBelow (.int depth) limit) then
      increaseAttribute d.stats "discarded_continuations" (.int depth)
      clearFrames h d.stack
      return some (.failure (.fault (← overflowFault limit (.int depth))))
    else return none

/-- Hands the value of a finished node to the topmost frame. -/
def continueWith (d : Driver) (h : Host) (fuel : Nat) (value : Value) : Eff (Option Value) := do
  if !(← get).isTruthy d.stack then return some (.success value)
  match ← popFrame h d.stack with
  | .frame _ (.boundary _) => return none
  | frame =>
    increaseAttribute d.stats "total_continuations" (.int 1)
    let label : Eff Value := do
      return (← get).callableName (← readAttribute frame "continuation")
    let invoked : Eff Value := do h.invoke (← readAttribute frame "continuation") [value]
    match ← Eff.attempt invoked with
    | .error fault => d.handle h fuel fault label
    | .ok next =>
      if next.isNode then
        setCurrent d.state next
        d.checkLimit h
      else d.handle h fuel (Complaint.continuationGave next.typeName).fault label

/-- Puts a frame on the stack and turns to its source. -/
def enter (d : Driver) (h : Host) (frame : Frame Value) (source : Value) : Eff (Option Value) := do
  let frame ← settle (.frame 0 frame)
  let _ ← match d.state, (← get).given? d.state "push_frame" with
    | .runState _, none => pushFrame h d.state frame
    | other, _ => h.callMethod other "push_frame" [frame]
  setCurrent d.state source
  d.checkLimit h

/-- Performs a suspended action. -/
def perform (d : Driver) (h : Host) (fuel : Nat) (thunk label : Value) : Eff (Option Value) := do
  match ← Eff.attempt (h.invoke thunk []) with
  | .error fault =>
    let name : Eff Value := do
      let w ← get
      return if w.isTruthy label then label else w.callableName thunk
    d.handle h fuel fault name
  | .ok value =>
    increaseAttribute d.stats "total_effects" (.int 1)
    setCurrent d.state (.done value)
    d.checkLimit h

/-- One step; the outcome if it is the last one. -/
def step (d : Driver) (h : Host) (fuel : Nat) : Eff (Option Value) := do
  increaseAttribute d.stats "total_steps" (.int 1)
  let current ← readAttribute d.state "current"
  if (← get).isTruthy d.trace then
    let steps ← readAttribute d.stats "total_steps"
    let depth ← sizeOf d.stack
    let text ← Eff.ofExcept ((← get).describe? current)
    World.note fun _ => do
      return "step " ++ (← countText steps) ++ " depth=" ++ depth.repr ++ " " ++ text
  match current with
  | .node _ (.done value) => d.continueWith h fuel value
  | .node _ (.delay thunk label) => d.perform h fuel thunk label
  | .node _ (.flatMap source f) => d.enter h (.continuation f) source
  | .node _ (.recover source handler) => d.enter h (.boundary handler) source
  | other =>
    increaseAttribute d.stats "discarded_continuations" (.int (← sizeOf d.stack))
    clearFrames h d.stack
    return some (.failure (.fault (Machine.Abort.unknownVariant other.typeName).fault))

/-- The steps until the last one, `fuel` bounding their number. -/
def steps (d : Driver) (h : Host) (fuel : Nat) : Nat → Eff Value
  | 0 => Eff.exhausted
  | left + 1 => do
    match ← d.step h fuel with
    | some outcome => return outcome
    | none => d.steps h fuel left

end Driver

/-- **Lets the machine go on from a state** until the run ends; the outcome is a success or a
failure, the report of which is in it. -/
def driveState (h : Host) (fuel : Nat) (interpreter state : Value) : Eff Value := do
  let stats ← readAttribute state "stats"
  let stack ← readAttribute state "continuation_stack"
  let limit ← readAttribute interpreter "_max_stack_depth"
  let trace ← readAttribute interpreter "_trace_steps"
  Driver.steps ⟨interpreter, state, stats, stack, limit, trace⟩ h fuel fuel

/-- Lets an interpreter go on from a state, in its own way if a script has given it one. -/
def driveAs (h : Host) (fuel : Nat) (interpreter state : Value) : Eff Value := do
  match interpreter, (← get).given? interpreter "_drive" with
  | .interpreter _ _ _, none => driveState h fuel interpreter state
  | other, _ => h.callMethod other "_drive" [state]

/-- The end of a run that an interrupt passed through. -/
def interruptState (h : Host) (state : Value) : Eff Unit := do
  let depth ← readAttribute state "stack_depth"
  increaseAttribute (← readAttribute state "stats") "discarded_continuations" depth
  clearFrames h (← readAttribute state "continuation_stack")
  let steps ← readAttribute (← readAttribute state "stats") "total_steps"
  World.note fun _ => do return "Run interrupted after " ++ (← countText steps) ++ " steps"

/-- The message that ends a run that gave a value. -/
def completed (s : Stats Value) : Except Complaint String := do
  return "Run completed in " ++ (← countText s.totalSteps) ++ " steps (" ++
    (← countText s.totalEffects) ++ " effects, max depth " ++ (← countText s.maxStackDepth) ++ ")"

/-- The report of a run from its outcome. -/
def reportOutcome (stats outcome : Value) : Eff Value := do
  match outcome with
  | .ok _ _ =>
    let s ← match stats with
      | .stats address => do pure ((← get).statsAt address)
      | _ => pure Stats.zero
    World.note fun _ => completed s
    return .runResult 0 outcome stats .none
  | outcome =>
    let error ← readAttribute outcome "error"
    match error with
    | .fault f =>
      if f.kind == .suspendedEffectFailure then
        World.note fun w => do return "Run failed: " ++ (← w.str? error)
        return .runResult 0 (.failure (← readAttribute error "cause")) stats error
    | _ => pure ()
    World.note fun w => do return "Run aborted by interpreter: " ++ (← w.str? error)
    return .runResult 0 outcome stats .none

/-- **Runs a node on a state that is an object,** for an interpreter that scripts have changed. -/
def runOnState (h : Host) (fuel : Nat) (interpreter node : Value) : Eff Value := do
  if !node.isNode then Eff.complain (.interpreterExpectsNode node.typeName)
  let stats ← World.newStats { Stats.zero with startTime := .int (← World.tick) }
  let state ← World.newRunState ⟨node, ← World.newList #[], stats⟩
  let description ← Eff.ofExcept ((← get).describe? node)
  World.note fun _ => .ok ("Run started: " ++ description)
  let finish : Eff Unit := do
    assignAttribute (← readAttribute state "stats") "end_time_ns" (.int (← World.tick))
  match ← Eff.attempt (driveAs h fuel interpreter state) with
  | .ok outcome =>
    finish
    reportOutcome (← readAttribute state "stats") (← settle outcome)
  | .error fault =>
    let interruption ← Eff.attempt (interruptState h state)
    finish
    match interruption with
    | .ok _ => Eff.raise fault
    | .error other => Eff.raise other

end Script
end EffectGraph
