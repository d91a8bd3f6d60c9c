import EffectGraph.Command.Run

/-!
# The program

The command line of the sample programs: the arguments, the environment, the input stream and the
file that the request names are read, the command is run on them, and what it wrote is written out.
-/

open EffectGraph

/-- The environment variables that are set among those that matter. -/
def readEnvironment : List String → IO (List (String × String))
  | [] => return []
  | name :: rest => do
    let others ← readEnvironment rest
    match ← IO.getEnv name with
    | some text => return (name, text) :: others
    | none => return others

/-- The rest of a stream. -/
partial def readAll (stream : IO.FS.Stream) (text : String) : IO String := do
  let line ← stream.getLine
  if line.isEmpty then return text else readAll stream (text ++ line)

/-- The bytes of a file, or why there are none. -/
def readBytes (path : String) : IO (Except Command.FileProblem (List UInt8)) := do
  try
    return .ok (← IO.FS.readBinFile (PathText.shortest path)).toList
  catch e =>
    match e with
    | .noFileOrDirectory _ _ _ => return .error .missing
    | .inappropriateType _ _ _ => return .error .directory
    | e => return .error (.other (toString e))

/-- The world that the command starts in. -/
def startWorld (stdin : String) (environment : List (String × String)) : World :=
  Script.SessionInput.world ⟨[], stdin, .feed, environment, false⟩

/-- Ends with the code that an ending stands for. -/
def finishWith (ending : Command.Ending) : IO UInt32 := do
  match ending with
  | .code n => return n.toUInt32
  | .exit .none => return 0
  | .exit (.int n) => return (n % 256).toNat.toUInt32
  | .exit argument => do
    (← IO.getStderr).putStrLn ((argument.str?).toOption.getD "")
    return 1
  | .escaped fault => do
    (← IO.getStderr).putStrLn (fault.kind ++ ": " ++ fault.message)
    return 1

def main (args : List String) : IO UInt32 := do
  let environment ← readEnvironment [Script.traceVariable, Script.limitVariable]
  let request := Command.Request.ofArguments args
  let input := request.toOption.bind (·.input)
  let contents ← match input with
    | some (.just path) => readBytes path
    | _ => pure (.ok [])
  let stdin ← if request.toOption.isSome && input.isNone then
      readAll (← IO.getStdin) ""
    else pure ""
  let report := Command.run Command.Catalog.samples (fun _ => contents) args
    (startWorld stdin environment)
  (← IO.getStdout).putStr report.output
  (← IO.getStderr).putStr report.errors
  finishWith report.ending
