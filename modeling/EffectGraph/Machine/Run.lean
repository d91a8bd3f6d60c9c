import EffectGraph.Machine.Step

/-!
# Runs

A run starts from one node, drives the machine until it ends, and reports the outcome with the
counters and the times of its start and end.  Interrupts are raised again; every other ending is a
report.
-/

namespace EffectGraph
namespace Machine

/-- The outcome of a run that was not interrupted. -/
inductive Outcome where
  | finished (value : Value)
  | failed (failure : Failure)
  | aborted (reason : Abort)

/-- What a run reports. -/
structure Report where
  outcome : Outcome
  counters : Counters
  startTime : Nat
  endTime : Nat

namespace Report

/-- The outcome as a success or a failure. -/
def result (r : Report) : Except (Fault Value) Value :=
  match r.outcome with
  | .finished value => .ok value
  | .failed failure => .error failure.cause
  | .aborted reason => .error reason.fault

/-- The report of the failure, if the run failed by what it ran. -/
def failure? (r : Report) : Option Failure :=
  match r.outcome with
  | .failed failure => some failure
  | _ => none

/-- The counters and times as values. -/
def stats (r : Report) : Stats Value where
  totalSteps := .int r.counters.totalSteps
  totalEffects := .int r.counters.totalEffects
  totalContinuations := .int r.counters.totalContinuations
  totalRecoveries := .int r.counters.totalRecoveries
  maxStackDepth := .int r.counters.maxStackDepth
  discardedContinuations := .int r.counters.discardedContinuations
  startTime := .int r.startTime
  endTime := .int r.endTime

/-- A report as a value. -/
def toValue (r : Report) : Eff Value := do
  let result := match r.result with
    | .ok v => .success v
    | .error f => .failure (.fault f)
  let failure := match r.failure? with
    | some f => .fault f.fault
    | none => .none
  return .runResult 0 result (← World.newStats r.stats) failure

end Report

/-- The message that ends a run in the journal. -/
def closing (counters : Counters) : Outcome → String
  | .finished _ =>
    "Run completed in " ++ counters.totalSteps.repr ++ " steps (" ++ counters.totalEffects.repr ++
      " effects, max depth " ++ counters.maxStackDepth.repr ++ ")"
  | .failed failure => "Run failed: " ++ failure.message
  | .aborted reason => "Run aborted by interpreter: " ++ reason.message

/-- **Runs a node** and reports the outcome. -/
def runReport (h : Host) (fuel : Nat) (settings : Settings) (node : Value) : Eff Report := do
  if !node.isNode then Eff.complain (.interpreterExpectsNode node.typeName)
  let startTime ← World.tick
  let description ← Eff.ofExcept ((← get).describe? node)
  World.note fun _ => .ok ("Run started: " ++ description)
  let (ending, s) ← drive h settings fuel (.start node)
  let finish (outcome : Outcome) : Eff Report := do
    let endTime ← World.tick
    World.note fun _ => .ok (closing s.counters outcome)
    return ⟨outcome, s.counters, startTime, endTime⟩
  match ending with
  | .finished value => finish (.finished value)
  | .failed failure => finish (.failed failure)
  | .aborted reason => finish (.aborted reason)
  | .interrupted fault =>
    World.note fun _ => .ok ("Run interrupted after " ++ s.counters.totalSteps.repr ++ " steps")
    let _ ← World.tick
    Eff.raise fault

/-- **Runs a node** and gives its value; the fault that the run failed with is raised again. -/
def run (h : Host) (fuel : Nat) (settings : Settings) (node : Value) : Eff Value := do
  match (← runReport h fuel settings node).result with
  | .ok value => return value
  | .error fault => Eff.raise fault

end Machine
end EffectGraph
