import EffectGraph.Callback.Run
import EffectGraph.Spelling
import EffectGraph.Machine.State

/-!
# Steps of the machine

The machine runs a graph without recursion.  One step looks at the current node: a finished one
hands its value to the topmost frame, a suspended action is performed, and a sequence or a guarded
node puts a frame on the stack and turns to its source.  A failure drops the frames down to the
nearest boundary and goes on with the handler's node outside of it; without a boundary it ends the
run.  Interrupts end it at once.
-/

namespace EffectGraph
namespace Machine

namespace State

/-- The state with one more step counted. -/
def counted (s : State) : State :=
  { s with counters := { s.counters with totalSteps := s.counters.totalSteps + 1 } }

/-- The state with a frame put on the stack and its source as the current node. -/
def enter (s : State) (frame : Frame Value) (source : Value) : State :=
  let stack := s.stack.push frame
  { current := source, stack
    counters := { s.counters with maxStackDepth := max s.counters.maxStackDepth stack.depth } }

/-- The state with an empty stack, all its frames counted as discarded. -/
def cleared (s : State) : State :=
  { s with
    stack := .empty
    counters := { s.counters with
      discardedContinuations := s.counters.discardedContinuations + s.stack.depth } }

/-- The state after a boundary has caught a fault: the handler is the continuation of a node that is
finished with the fault, below the boundary. -/
def recovered (s : State) (fault : Fault Value) (dropped : Nat) (handler : Value) (rest : Stack) :
    State :=
  { current := .ofNode (.flatMap (.done (.fault fault)) handler)
    stack := rest
    counters := { s.counters with
      totalRecoveries := s.counters.totalRecoveries + 1
      discardedContinuations := s.counters.discardedContinuations + dropped } }

/-- The state after a fault that no boundary has caught. -/
def uncaught (s : State) (dropped : Nat) : State :=
  { s with
    stack := .empty
    counters := { s.counters with
      discardedContinuations := s.counters.discardedContinuations + dropped } }

end State

/-- A state is gone on with unless its stack exceeds the limit. -/
def checkLimit (settings : Settings) (s : State) : Progress :=
  match settings.bound with
  | .unlimited => .next s
  | .atMost limit =>
    if (s.stack.depth : Int) > limit then
      match settings.limitText with
      | .ok text => .halted (.aborted (.overflow settings.limit text s.stack.depth)) s.cleared
      | .error c => .halted (.interrupted c.fault) s.cleared
    else .next s
  | .incomparable =>
    .halted (.interrupted (Complaint.notOrdered ">" "int" settings.limit.typePath).fault) s

/-- The report of a failure; its wording may be refused. -/
def report (fault : Fault Value) (label : Value) (step discarded : Nat) :
    Eff (Except Complaint Failure) := do
  let w ← get
  return do
    let place ← if w.isTruthy label then w.str? label else .ok ""
    let cause ← w.str? (.fault fault)
    return {
      cause := fault, label, step, discarded
      message :=
        Failure.wording (w.isTruthy label) place fault.kind.name cause step.repr discarded.repr }

/-- **What a fault does.**  An interrupt ends the run.  A failure is caught by the nearest boundary,
or ends the run with a report. -/
def handleFault (s : State) (fault : Fault Value) (label : Value) : Eff Progress := do
  if !fault.kind.isFailure then return .halted (.interrupted fault) s
  match s.stack.unwind with
  | ⟨dropped, some (handler, rest)⟩ =>
    let noted := World.note fun w => do
      return "Recovering from " ++ fault.kind.name ++ " in " ++ (← w.str? label) ++ " (" ++
        dropped.repr ++ " continuation(s) discarded)"
    match ← Eff.attempt noted with
    | .ok _ => return .next (s.recovered fault dropped handler rest)
    | .error refusal => return .halted (.interrupted refusal) s
  | ⟨dropped, none⟩ =>
    let after := s.uncaught dropped
    match ← report fault label s.counters.totalSteps dropped with
    | .ok failure => return .halted (.failed failure) after
    | .error c => return .halted (.interrupted c.fault) after

/-- The step of a finished node above a continuation: the continuation is invoked once, and has to
give a node. -/
def continueWith (h : Host) (settings : Settings) (s : State) (f value : Value) : Eff Progress := do
  let s := { s with
    counters := { s.counters with totalContinuations := s.counters.totalContinuations + 1 } }
  match ← Eff.attempt (h.invoke f [value]) with
  | .error fault => handleFault s fault ((← get).callableName f)
  | .ok next =>
    if next.isNode then return checkLimit settings { s with current := next }
    else handleFault s (Complaint.continuationGave next.typeName).fault ((← get).callableName f)

/-- The step of a suspended action: its thunk is invoked once. -/
def perform (h : Host) (settings : Settings) (s : State) (thunk label : Value) : Eff Progress := do
  match ← Eff.attempt (h.invoke thunk []) with
  | .error fault =>
    let w ← get
    handleFault s fault (if w.isTruthy label then label else w.callableName thunk)
  | .ok value =>
    return checkLimit settings { s with
      current := .done value
      counters := { s.counters with totalEffects := s.counters.totalEffects + 1 } }

/-- The step on the current node. -/
def dispatch (h : Host) (settings : Settings) (s : State) : Eff Progress :=
  match s.current with
  | .node _ (.done value) =>
    match s.stack.pop? with
    | none => return .halted (.finished value) s
    | some (.boundary _, rest) => return .next { s with stack := rest }
    | some (.continuation f, rest) => continueWith h settings { s with stack := rest } f value
  | .node _ (.delay thunk label) => perform h settings s thunk label
  | .node _ (.flatMap source f) => return checkLimit settings (s.enter (.continuation f) source)
  | .node _ (.recover source handler) =>
    return checkLimit settings (s.enter (.boundary handler) source)
  | other => return .halted (.aborted (.unknownVariant other.typeName)) s.cleared

/-- **One step of the machine.**  With tracing on, the current node is described first. -/
def step (h : Host) (settings : Settings) (s : State) : Eff Progress := do
  let s := s.counted
  if (← get).isTruthy settings.trace then
    match (← get).describe? s.current with
    | .error c => return .halted (.interrupted c.fault) s
    | .ok text =>
      World.note fun _ => .ok <|
        "step " ++ s.counters.totalSteps.repr ++ " depth=" ++ s.stack.depth.repr ++ " " ++ text
  dispatch h settings s

/-- The steps of a run until it ends, `fuel` bounding their number. -/
def drive (h : Host) (settings : Settings) : Nat → State → Eff (Ending × State)
  | 0, _ => Eff.exhausted
  | fuel + 1, s => do
    match ← step h settings s with
    | .next s' => drive h settings fuel s'
    | .halted ending s' => return (ending, s')

/-- A step that goes on is followed by the steps from the state it leads to. -/
theorem drive_of_next {h : Host} {settings : Settings} {fuel : Nat} {s s' : State} {w w' : World}
    (hstep : step h settings s w = .ok (.next s') w') :
    drive h settings (fuel + 1) s w = drive h settings fuel s' w' := by
  simp [drive, bind, EStateM.bind, hstep]

/-- A step that halts ends the run. -/
theorem drive_of_halted {h : Host} {settings : Settings} {fuel : Nat} {s s' : State}
    {w w' : World} {ending : Ending} (hstep : step h settings s w = .ok (.halted ending s') w') :
    drive h settings (fuel + 1) s w = .ok (ending, s') w' := by
  simp [drive, bind, EStateM.bind, hstep, pure, EStateM.pure]

/-- A run that has ended ends the same way with more fuel. -/
theorem drive_succ_of_ok {h : Host} {settings : Settings} {fuel : Nat} {s : State} {w w' : World}
    {end' : Ending × State} (hdrive : drive h settings fuel s w = .ok end' w') :
    drive h settings (fuel + 1) s w = .ok end' w' := by
  induction fuel generalizing s w with
  | zero => cases hdrive
  | succ fuel ih =>
    rw [drive] at hdrive
    rw [drive]
    simp only [bind, EStateM.bind] at hdrive ⊢
    cases hstep : step h settings s w with
    | error signal w₁ => simp [hstep] at hdrive
    | ok progress w₁ =>
      simp only [hstep] at hdrive ⊢
      cases progress with
      | next s₁ => exact ih hdrive
      | halted ending s₁ => exact hdrive

end Machine
end EffectGraph
