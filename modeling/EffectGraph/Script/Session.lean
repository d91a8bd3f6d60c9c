import EffectGraph.Script.Hosting

/-!
# Sessions

A session evaluates a list of expressions one after the other in one world.  Each step is reported:
its value or the fault it raised, and what it logged, wrote, read, printed and traced.  A step that
fails does not stop the later ones.
-/

namespace EffectGraph
namespace Script

/-- A fault as a report shows it. -/
structure FaultReport where
  kind : String
  message : String

/-- What a step of a session did. -/
structure StepReport where
  outcome : Except FaultReport Datum
  log : Array Datum
  written : List Datum
  reads : Number
  printed : String
  trace : Array String

/-- What a session starts from. -/
structure SessionInput where
  inputs : List String
  stdin : String
  ending : LineEnding
  environment : List (String × String)
  recording : Bool

/-- The world in which a session starts: one scripted console with the given lines. -/
def SessionInput.world (s : SessionInput) : World where
  globals := []
  layers := #[]
  lists := #[#[]]
  dicts := #[]
  deques := #[⟨s.inputs.map .str, 0⟩]
  cells := #[]
  stats := #[]
  runStates := #[]
  iterators := #[]
  generators := #[]
  consoles := #[⟨.deque 0, .list 0, .int 0⟩]
  input := s.stdin.toList
  ending := s.ending
  output := ""
  environment := s.environment
  counters := .empty
  log := #[]
  stamps := 3
  unsettled := []
  attributes := []
  journal := ⟨0, s.recording, #[]⟩

/-- A fault as a report: its kind, and its message, which may itself be refused. -/
def reportFaultValue (w : World) (f : Fault Value) : FaultReport :=
  match w.str? (.fault f) with
  | .ok message => ⟨f.kind.name, message⟩
  | .error c => ⟨c.kind.name, c.message⟩

/-- The outcome of a step: a value that cannot be shown counts as the fault of showing it. -/
def showOutcome (w : World) (v : Value) : Except FaultReport Datum :=
  let d := w.spell v
  match d.refusal? with
  | none => .ok d
  | some c => .error (reportFaultValue w c.fault)

/-- The world with nothing logged, printed or traced yet in this step. -/
def freshStep (w : World) : World :=
  { w with log := #[], output := "", journal := { w.journal with messages := #[] } }

/-- The lines that were written to a console, where they can be listed. -/
def linesOf (w : World) (written : Value) : List Value :=
  match written with
  | .list address => (w.listItems address).toList
  | .tuple _ items => items
  | _ => []

/-- How much a count of reads has grown. -/
def growth (before after : Value) : Number :=
  match Number.ofCounting? before, Number.ofCounting? after with
  | some a, some b => (b.subtract a).toOption.getD (.int 0)
  | _, _ => .int 0

/-- **One step of a session.** -/
def runStep (fuel : Nat) (e : Expr) (w : World) : StepReport × World :=
  let w := freshStep w
  let before := w.consoleAt 0
  let size := (linesOf w before.written).length
  let finish (outcome : World → Except FaultReport Datum) (w : World) : StepReport × World :=
    let console := w.consoleAt 0
    let written := ((linesOf w console.written).drop size).map w.spell
    (⟨outcome w, w.log, written, growth before.reads console.reads, w.output, w.journal.messages⟩, w)
  match evaluate (host fuel) [] e w with
  | .ok v w => finish (fun w => showOutcome w v) w
  | .error (.raised f) w => finish (fun w => .error (reportFaultValue w f)) w
  | .error .exhausted w => finish (fun _ => .error ⟨"RecursionError", "fuel exhausted"⟩) w

/-- The steps of a session, one after the other. -/
def runSteps (fuel : Nat) : List Expr → World → List StepReport
  | [], _ => []
  | e :: rest, w =>
    let (report, w) := runStep fuel e w
    report :: runSteps fuel rest w

/-- More fuel than a computation can use up. -/
def ampleFuel : Nat := Nat.pow 2 60

/-- **A session.** -/
def runSession (input : SessionInput) (steps : List Expr) : List StepReport :=
  runSteps ampleFuel steps input.world

end Script
end EffectGraph
