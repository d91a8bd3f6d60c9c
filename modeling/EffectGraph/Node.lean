/-!
# Effect nodes

A node describes a computation without running it.  It is finished, or one suspended action, or a
sequence of a source and a continuation, or a source guarded by a handler; a node of a variant that
the machine does not know can be written down too.  The parts of a node are values of the scripting
language, here the parameter `α`: nothing forces a source to be a node or a thunk to be callable,
that is found out when the machine gets there.
-/

namespace EffectGraph

/-- A description of a computation. -/
inductive Node (α : Type) where
  /-- A value that is already there. -/
  | done (value : α)
  /-- One suspended action, and the label it is reported under. -/
  | delay (thunk label : α)
  /-- Run the source and feed its value to the continuation. -/
  | flatMap (source continuation : α)
  /-- Run the source; if it fails, hand the fault to the handler. -/
  | recover (source handler : α)
  /-- A node of another variant, known by its name only. -/
  | foreign (variant : String)

/-- The name of a node's variant. -/
def Node.variantName {α : Type} : Node α → String
  | .done _ => "Done"
  | .delay _ _ => "Delay"
  | .flatMap _ _ => "FlatMap"
  | .recover _ _ => "Recover"
  | .foreign variant => variant

/-- Work that the machine has put off: a continuation waiting for a value, or the boundary of a
guarded region. -/
inductive Frame (α : Type) where
  | continuation (f : α)
  | boundary (handler : α)

/-- Is this frame the boundary of a guarded region? -/
def Frame.isBoundary {α : Type} : Frame α → Bool
  | .boundary _ => true
  | .continuation _ => false

/-- What a run has counted, and when it began and ended. -/
structure Stats (α : Type) where
  totalSteps : α
  totalEffects : α
  totalContinuations : α
  totalRecoveries : α
  maxStackDepth : α
  discardedContinuations : α
  startTime : α
  endTime : α

namespace Stats

variable {α : Type}

/-- The names of the counters and times, in order. -/
def fieldNames : List String :=
  ["total_steps", "total_effects", "total_continuations", "total_recoveries", "max_stack_depth",
    "discarded_continuations", "start_time_ns", "end_time_ns"]

/-- The counters and times, in order. -/
def toList (s : Stats α) : List α :=
  [s.totalSteps, s.totalEffects, s.totalContinuations, s.totalRecoveries, s.maxStackDepth,
    s.discardedContinuations, s.startTime, s.endTime]

/-- The counter or time with a given name. -/
def field? (s : Stats α) (name : String) : Option α := (fieldNames.zip s.toList).lookup name

/-- The counters and times with one of them replaced, if there is one of that name. -/
def replace? (s : Stats α) (name : String) (v : α) : Option (Stats α) :=
  match name with
  | "total_steps" => some { s with totalSteps := v }
  | "total_effects" => some { s with totalEffects := v }
  | "total_continuations" => some { s with totalContinuations := v }
  | "total_recoveries" => some { s with totalRecoveries := v }
  | "max_stack_depth" => some { s with maxStackDepth := v }
  | "discarded_continuations" => some { s with discardedContinuations := v }
  | "start_time_ns" => some { s with startTime := v }
  | "end_time_ns" => some { s with endTime := v }
  | _ => none

end Stats
end EffectGraph
