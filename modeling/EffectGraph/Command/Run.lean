import EffectGraph.Command.Factory
import EffectGraph.Command.Report
import EffectGraph.Script.Session

/-!
# Running a command

`Command.execute` does what a request asks: it opens the console, finds the program, runs it and
reports the outcome.  Every failure on the way is reported and gives the code 1, an interrupt from
the keyboard the code 130.  What is left, a request to exit and the other interrupts, ends the
command as it is.  `Command.run` does this for a command line.
-/

namespace EffectGraph
namespace Command

/-- The console that a program talks to: the terminal, or the lines of a file. -/
def openConsole (request : Request) (contents : Except FileProblem (List UInt8)) : Eff Value :=
  match request.input, contents with
  | none, _ => do return .stream (← World.freshStamp) .none .none
  | some .nothing, _ => Problem.stop .noInputPath
  | some (.just path), contents =>
    if path.toList.contains forbiddenInPath then Problem.stop .forbiddenPath
    else
      match contents with
      | .error why => Problem.stop (.unreadable path why)
      | .ok bytes =>
        match Utf8.decode bytes with
        | .error found => Problem.stop (.malformedText found)
        | .ok text =>
          World.newConsole ((Lines.split (Lines.normalize text)).map fun line =>
            .str (String.ofList line))

/-- How a request was carried out: with a text for the error stream, or with a failure of the
program. -/
inductive Conclusion where
  | reported (errorText : String)
  | failed (f : Fault Value) (output : Option (List Value))

/-- The limit that a request sets on the stack. -/
def limitOf (request : Request) : Except Complaint Value :=
  match request.limit with
  | none => .ok .none
  | some (.just n) => .ok (.int n)
  | some .nothing => .error (.limitNotNumber "list")

/-- Runs a node with the settings of a request. -/
def interpret (h : Host) (fuel : Nat) (request : Request) (node : Value) : Eff Machine.Report := do
  let limit ← Eff.ofExcept (limitOf request)
  let trace : Value := if request.debug then .bool true else .none
  match ← Script.newInterpreter limit trace with
  | .interpreter stamp limit trace =>
    let settings ← Script.interpreterSettings (.interpreter stamp limit trace) limit trace
    Script.settledReport (← Machine.runReport h fuel settings node)
  | v => Eff.complain (.noAttribute v.typePath "run_result")

/-- The fault that a failed run is reported by. -/
def reportedFault (report : Machine.Report) (cause : Fault Value) : Fault Value :=
  match report.failure? with
  | some failure => failure.fault
  | none => cause

/-- The outcome of a run, reported if it is a value. -/
def conclude (h : Host) (fuel : Nat) (request : Request) (program : String) (console : Value)
    (report : Machine.Report) : Eff Conclusion := do
  match report.result with
  | .error cause =>
    let f := reportedFault report cause
    let output ← writtenTo? h fuel console
    echo request.format output
    let _ ← Eff.ofExcept ((← get).str? (.fault f))
    return .failed f output
  | .ok value =>
    let output ← writtenTo? h fuel console
    let stats ← Script.statsEntries (← World.newStats report.stats)
    return .reported (← reportSuccess request program output value stats)

/-- Carries out a request. -/
def perform (h : Host) (fuel : Nat) (catalog : Catalog)
    (contents : Except FileProblem (List UInt8)) (request : Request) : Eff Conclusion := do
  let console ← openConsole request contents
  match request.program with
  | .nothing => Problem.stop .noProgram
  | .just program =>
    let symbol ← catalog.find program
    let node ← nodeOf h program console symbol
    conclude h fuel request program console (← interpret h fuel request node)

/-- A code to end with, and a text for the error stream. -/
structure Exit where
  code : Nat
  errorText : String

/-- **Carries out a request** and reports every failure on the way. -/
def execute (h : Host) (fuel : Nat) (catalog : Catalog)
    (contents : Except FileProblem (List UInt8)) (request : Request) : Eff Exit := do
  match ← Eff.attempt (perform h fuel catalog contents request) with
  | .ok (.reported errorText) => return ⟨0, errorText⟩
  | .ok (.failed f output) => return ⟨1, ← reportFailure request.format f output⟩
  | .error f =>
    if f.kind.isA .keyboardInterrupt then return ⟨130, "Interrupted\n"⟩
    else if f.kind.isFailure then return ⟨1, ← reportFailure request.format f none⟩
    else Eff.raise f

/-- How a command ended. -/
inductive Ending where
  /-- The command gave a code. -/
  | code (n : Nat)
  /-- Something asked for an exit. -/
  | exit (argument : Datum)
  /-- A fault that nothing reported. -/
  | escaped (fault : Script.FaultReport)

/-- The ending that a fault makes of a command it escapes from. -/
def Ending.ofFault (w : World) (f : Fault Value) : Ending :=
  if f.kind.isA .systemExit then
    .exit (w.spell ((w.given? (.fault f) "code").getD (Script.soleArgument f.args (.ofItems f.args))))
  else .escaped (Script.reportFaultValue w f)

/-- What a command did. -/
structure CommandReport where
  ending : Ending
  output : String
  errors : String
  log : Array Datum

/-- A world in which the messages of the machine are recorded as a request says. -/
def recordMessages (debug : Bool) (w : World) : World :=
  { w with journal := { w.journal with recording := debug, messages := #[] } }

/-- The recorded messages as they appear on the error stream. -/
def debugText (w : World) : String :=
  String.join (w.journal.messages.toList.map fun m => "DEBUG pureio.interpreter: " ++ m ++ "\n")

/-- A command line that asks for no run. -/
def stopped (w : World) : Stop → CommandReport
  | .help page => ⟨.exit (.int 0), w.output ++ page.help, "", w.log⟩
  | .refused page message =>
    ⟨.exit (.int 2), w.output, page.usage ++ page.title ++ ": error: " ++ message ++ "\n", w.log⟩

/-- The end of a computation as the end of a command. -/
def ended (result : EStateM.Result Signal World Exit) : CommandReport :=
  match result with
  | .ok exit w => ⟨.code exit.code, w.output, debugText w ++ exit.errorText, w.log⟩
  | .error (.raised f) w => ⟨.ofFault w f, w.output, debugText w, w.log⟩
  | .error .exhausted w =>
    ⟨.escaped ⟨"RecursionError", "fuel exhausted"⟩, w.output, debugText w, w.log⟩

/-- **Runs a command line** in a world, over a catalog of modules and the files that can be read. -/
def run (catalog : Catalog) (readFile : String → Except FileProblem (List UInt8))
    (args : List String) (w : World) : CommandReport :=
  match Request.ofArguments args with
  | .error stop => stopped w stop
  | .ok request =>
    let contents := match request.input with
      | some (.just path) => readFile path
      | _ => .ok []
    let fuel := Script.ampleFuel
    ended (execute (Script.host fuel) fuel catalog contents request
      (recordMessages request.debug w))

/-- Installs programs, computed one after the other, under dotted paths in a module. -/
def installAll (fuel : Nat) : List (String × Script.Expr) → Members → Eff Members
  | [], members => pure members
  | (path, e) :: rest, members => do
    let v ← Script.evaluate (Script.host fuel) [] e
    installAll fuel rest (install v (path.splitOn ".") members)

/-- **Runs a command line over programs** that are computed first and installed in a module. -/
def runWith (moduleName : String) (programs : List (String × Script.Expr))
    (readFile : String → Except FileProblem (List UInt8)) (args : List String) (w : World) :
    CommandReport :=
  match installAll Script.ampleFuel programs [] w with
  | .ok members w => run (⟨moduleName, members⟩ :: Catalog.samples) readFile args w
  | .error (.raised f) w => ⟨.ofFault w f, w.output, "", w.log⟩
  | .error .exhausted w =>
    ⟨.escaped ⟨"RecursionError", "fuel exhausted"⟩, w.output, "", w.log⟩

end Command
end EffectGraph
