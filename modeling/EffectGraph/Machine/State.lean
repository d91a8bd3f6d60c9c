import EffectGraph.Complaint
import EffectGraph.Machine.Stack

/-!
# States of the machine

A state is the value that is looked at next, the stack of frames that wait, and six counters.  A run
ends in one of four ways: with a value, with a failure that no boundary caught, because the machine
itself gives up, or because an interrupt passed through.
-/

namespace EffectGraph
namespace Machine

/-- What a run counts. -/
structure Counters where
  /-- Rounds of the machine. -/
  totalSteps : Nat
  /-- Thunks that gave a value. -/
  totalEffects : Nat
  /-- Continuations that were invoked. -/
  totalContinuations : Nat
  /-- Failures that a boundary caught. -/
  totalRecoveries : Nat
  /-- The largest number of frames there have been. -/
  maxStackDepth : Nat
  /-- Frames dropped without being invoked. -/
  discardedContinuations : Nat

/-- The counters at the start of a run. -/
def Counters.zero : Counters := ⟨0, 0, 0, 0, 0, 0⟩

/-- What bounds the stack. -/
inductive Bound where
  | unlimited
  /-- At most so many frames. -/
  | atMost (depth : Int)
  /-- Something that a number of frames cannot be compared with. -/
  | incomparable

/-- How a run is to be done: the bound on the stack with the value that it was given as and the text
of that, which may be refused, and the value whose truth says whether a step is written into the
journal. -/
structure Settings where
  bound : Bound
  limit : Value
  limitText : Except Complaint String
  trace : Value

/-- The state of a run. -/
structure State where
  current : Value
  stack : Stack
  counters : Counters

/-- The state before the first step. -/
def State.start (node : Value) : State := ⟨node, .empty, .zero⟩

/-- Why the machine gives up. -/
inductive Abort where
  /-- Something that is not a node of a known variant was to be run. -/
  | unknownVariant (typeName : String)
  /-- The stack exceeded its limit. -/
  | overflow (limit : Value) (limitText : String) (depth : Nat)

/-- The wording of an abort. -/
def Abort.message : Abort → String
  | .unknownVariant typeName => (Complaint.unknownVariant typeName).message
  | .overflow _ limitText depth =>
    "Continuation stack depth " ++ depth.repr ++ " exceeds limit " ++ limitText

/-- The fault that an abort is reported as. -/
def Abort.fault (a : Abort) : Fault Value :=
  match a with
  | .unknownVariant _ => ⟨.invariantError, [.str a.message], .plain, 0⟩
  | .overflow limit _ depth => ⟨.stackOverflow, [.str a.message], .overflow limit (.int depth), 0⟩

/-- The report of a failure that no boundary caught. -/
structure Failure where
  /-- What was raised. -/
  cause : Fault Value
  /-- Where: the label or name of what raised it. -/
  label : Value
  /-- In which step. -/
  step : Nat
  /-- How many continuations were dropped for it. -/
  discarded : Nat
  /-- All of this in words. -/
  message : String

/-- A failure report as a fault. -/
def Failure.fault (f : Failure) : Fault Value :=
  ⟨.suspendedEffectFailure, [.str f.message],
    .suspended (.fault f.cause) f.label (.int f.step) (.int f.discarded), 0⟩

/-- The wording of a failure report; a place is named if there is something to it. -/
def Failure.wording (named : Bool) (place kind cause step discarded : String) : String :=
  "Effect failed" ++ (if named then " in " ++ place else "") ++ " at step " ++ step ++ ": " ++
    kind ++ ": " ++ cause ++ " (" ++ discarded ++ " pending continuation(s) discarded)"

/-- How a run ends. -/
inductive Ending where
  | finished (value : Value)
  | failed (failure : Failure)
  | aborted (reason : Abort)
  | interrupted (fault : Fault Value)

/-- What a step leads to. -/
inductive Progress where
  | next (s : State)
  | halted (ending : Ending) (s : State)

end Machine
end EffectGraph
