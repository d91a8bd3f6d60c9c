import EffectGraph.Machine.State
import EffectGraph.Script.Assignment

/-!
# Faults that scripts build

A script builds a fault from its kind and arguments.  Most kinds keep their arguments as they are;
the library's own kinds put their arguments into a message.
-/

namespace EffectGraph
namespace Script

/-- The arguments of a library fault, distributed over the names of its parameters. -/
def faultSignature (kind : FaultKind) (required optional : List String) : Signature :=
  ((Signature.plain (kind.name ++ ".__init__") required).withOptional optional).onReceiver

/-- A fault of the kind for texts that are not numbers. -/
def parseFault (text : Value) : Eff (Fault Value) := do
  return Fault.notANumber text (← Eff.ofExcept ((← get).repr? text)) []

/-- A fault of the kind that reports a failed run. -/
def reportFault (cause label step discarded : Value) : Eff (Fault Value) := do
  let w ← get
  let place ← if w.isTruthy label then Eff.ofExcept (w.str? label) else pure ""
  let stepText ← Eff.ofExcept (w.str? step)
  let causeText ← Eff.ofExcept (w.str? cause)
  let discardedText ← Eff.ofExcept (w.str? discarded)
  let message :=
    Machine.Failure.wording (w.isTruthy label) place cause.typeName causeText stepText discardedText
  return ⟨.suspendedEffectFailure, [.str message], .suspended cause label step discarded, 0⟩

/-- A fault of the kind for a stack that is too deep. -/
def overflowFault (maxDepth actualDepth : Value) : Eff (Fault Value) := do
  let w ← get
  let actualText ← Eff.ofExcept (w.str? actualDepth)
  let maxText ← Eff.ofExcept (w.str? maxDepth)
  let message := "Continuation stack depth " ++ actualText ++ " exceeds limit " ++ maxText
  return ⟨.stackOverflow, [.str message], .overflow maxDepth actualDepth, 0⟩

/-- A fault of the system from two to five arguments: an error number, a text, and the files it is
about.  The number may stand for a kind of its own.  With a file there, the number and the text are
the arguments that remain. -/
def systemFault (args : List Value) : Fault Value :=
  match args with
  | number :: text :: rest =>
    if rest.length > 3 then ⟨.osError, args, .plain, 0⟩
    else
      let kind : FaultKind :=
        match number with
        | .int i => (FaultKind.ofErrorNumber? i).getD .osError
        | .bool b => (FaultKind.ofErrorNumber? (if b then 1 else 0)).getD .osError
        | _ => .osError
      let given (place : Nat) : List Value :=
        match rest[place]? with
        | some .none => []
        | some file => [file]
        | none => []
      let isCount := (given 0).any fun v => (Number.ofCounting? v).isSome
      if (given 0).isEmpty || (kind == .blockingError && isCount) then
        ⟨kind, args, .system number text [], 0⟩
      else ⟨kind, [number, text], .system number text (given 0 ++ given 2), 0⟩
  | args => ⟨.osError, args, .plain, 0⟩

/-- **A fault from its kind and arguments.** -/
def buildFault (kind : FaultKind) (args : List Value) (keywords : Keywords) : Eff (Fault Value) := do
  let bind (s : Signature) := Eff.ofExcept (s.bind args keywords)
  match kind with
  | .inputUnavailable =>
    let a ← bind (faultSignature kind [] ["message"])
    let message := (a.places.head?.getD none).getD (.str (Complaint.message .noInput))
    return ⟨kind, [message], .plain, 0⟩
  | .parseError =>
    let a ← bind (faultSignature kind ["text"] [])
    parseFault ((a.places.head?.getD none).getD .none)
  | .suspendedEffectFailure =>
    let a ← bind ((faultSignature kind ["cause"] []).withKeywords ["label", "step", "discarded"])
    let named (name : String) (absent : Value) := (a.named.lookup name).getD absent
    reportFault ((a.places.head?.getD none).getD .none) (named "label" .none)
      (named "step" (.int 0)) (named "discarded" (.int 0))
  | .stackOverflow =>
    let a ← bind (faultSignature kind ["max_depth", "actual_depth"] [])
    match a.places with
    | [some maxDepth, some actualDepth] => overflowFault maxDepth actualDepth
    | _ => return ⟨kind, [], .plain, 0⟩
  | kind =>
    if !keywords.isEmpty then
      Eff.complain (.arguments (kind.name ++ "() takes no keyword arguments"))
    if kind == .osError then return systemFault args
    return ⟨kind, args, .plain, 0⟩

end Script
end EffectGraph
