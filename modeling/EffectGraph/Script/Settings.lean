import EffectGraph.Machine.Run
import EffectGraph.Script.Signature

/-!
# Settings from arguments and environment

An interpreter is made from two optional arguments, a limit on the stack and whether to trace every
step.  Where an argument is missing, an environment variable decides.
-/

namespace EffectGraph
namespace Script

/-- The value of an environment variable without blanks around it; empty if it is not set. -/
def environmentText (w : World) (name : String) : String :=
  Blank.strip ((w.environment.lookup name).getD "")

/-- Is an environment variable set to a word for yes? -/
def environmentFlag (w : World) (name : String) : Bool :=
  ["1", "true", "yes"].contains (environmentText w name).toLower

/-- The whole number that an environment variable is set to, if it is set. -/
def environmentInt (w : World) (name : String) : Except Complaint (Option Int) :=
  let text := environmentText w name
  if text.isEmpty then .ok none
  else
    match Numeral.int text with
    | .ok i => .ok (some i)
    | .error _ => .error (.environmentNotInteger name (Quoted.text text))

/-- The variable that turns tracing on. -/
def traceVariable : String := "PUREIO_DEBUG"

/-- The variable that limits the stack. -/
def limitVariable : String := "PUREIO_MAX_STACK_DEPTH"

/-- The limit given as an argument, or else by the environment; it has to be at least one. -/
def chooseLimit (w : World) (given : Value) : Except Complaint Value := do
  let limit ← match given with
    | .none => do
      match ← environmentInt w limitVariable with
      | some i => pure (Value.int i)
      | none => pure Value.none
    | v => pure v
  match limit with
  | .none => return .none
  | v =>
    match Number.ofCounting? v with
    | none => throw (.limitNotNumber v.typePath)
    | some n => if n.less (.int 1) then throw .limitTooSmall else return v

/-- **A new interpreter.** -/
def newInterpreter (limit trace : Value) : Eff Value := do
  let w ← get
  let limit ← Eff.ofExcept (chooseLimit w limit)
  let trace := match trace with
    | .none => .bool (environmentFlag w traceVariable)
    | v => v
  return .interpreter 0 limit trace

/-- The arguments of an interpreter, by keyword only. -/
def interpreterSignature : Signature :=
  ((Signature.plain "Interpreter.__init__" []).onReceiver).withKeywords
    ["max_stack_depth", "trace_steps"]

/-- A new interpreter from the arguments of a call. -/
def interpreterOf (args : List Value) (keywords : Keywords) : Eff Value := do
  let a ← Eff.ofExcept (interpreterSignature.bind args keywords)
  newInterpreter ((a.named.lookup "max_stack_depth").getD .none)
    ((a.named.lookup "trace_steps").getD .none)

/-- The bound that a limit puts on the stack. -/
def boundOf (limit : Value) : Machine.Bound :=
  match limit with
  | .none => .unlimited
  | v =>
    match Number.ofCounting? v with
    | some (.int i) => .atMost i
    | some (.float x) =>
      match Binary64.truncate x with
      | .ok i => .atMost (if x < 0.0 then i - 1 else i)
      | .error .nan => .unlimited
      | .error .infinite => if x < 0.0 then .atMost (-1) else .unlimited
    | none => .incomparable

/-- The settings of a run by an interpreter with the given limit and tracing. -/
def settingsOf (w : World) (limit trace : Value) : Machine.Settings where
  bound := boundOf limit
  limit := limit
  limitText := w.str? limit
  trace := trace

end Script
end EffectGraph
