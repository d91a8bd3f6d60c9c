import EffectGraph.Graph
import EffectGraph.Host
import EffectGraph.Arithmetic

/-!
# Consoles

A console gives lines and takes lines.  A scripted console gives the lines prepared for it and
records what is written; a stream console reads raw lines from an input stream, takes exactly one
terminator off each, and writes to an output stream.  Reading fails exactly when there is no more
input, and then changes nothing.

Any object with a `read_line` or a `write_line` can stand in for a console: `Console.reader` and
`Console.writer` give what reads and writes, which is the console's own method unless a script has
given the object another one.
-/

namespace EffectGraph
namespace Console

/-! ## Scripted consoles -/

/-- Takes the first item of a row, or of what is asked for one. -/
def takeFirst (h : Host) (row : Value) : Eff Value := do
  match row with
  | .deque address =>
    match ((← get).dequeAt address).items with
    | [] => Eff.complain .emptyDequePop
    | item :: rest =>
      World.changeDeque address rest
      return item
  | other => h.callMethod other "popleft" []

/-- Reads the next line of a scripted console and counts it. -/
def readScripted (h : Host) (address : Nat) : Eff Value := do
  let console := (← get).consoleAt address
  if !(← get).isTruthy console.pending then Eff.complain .noInput
  let reads ← Arithmetic.increase console.reads (.int 1)
  World.modifyConsole address fun c => { c with reads }
  takeFirst h console.pending

/-- Records what is written to a scripted console, as it is. -/
def writeScripted (h : Host) (address : Nat) (text : Value) : Eff Value := do
  match ((← get).consoleAt address).written with
  | .list lines => World.pushItem lines text
  | other =>
    let _ ← h.callMethod other "append" [text]
  return .none

/-- Adds lines at the end of a scripted console's input. -/
def feed (h : Host) (address : Nat) (lines : List Value) : Eff Value := do
  match ((← get).consoleAt address).pending with
  | .deque pending =>
    if !lines.isEmpty then
      World.changeDeque pending (((← get).dequeAt pending).items ++ lines)
  | other =>
    let _ ← h.callMethod other "extend" [.ofItems lines]
  return .none

/-! ## Stream consoles -/

/-- Reads the next line of the session's input. -/
def readStandard : Eff Value := do
  let w ← get
  let (raw, rest) := Lines.takeRaw w.ending w.input
  if raw.isEmpty then Eff.complain .noInput
  else
    set { w with input := rest }
    return .str (String.ofList (Lines.stripTerminator raw))

/-- A value that has items, cut short by some characters at its end. -/
def cutEnd (v : Value) (count : Nat) : Eff Value :=
  match v with
  | .str s => pure (.str (String.ofList (s.toList.take (s.length - count))))
  | v => Eff.complain (.notSubscriptable v.typePath)

/-- A line without its terminator.  What is no text is asked for its end. -/
def stripTerminator (h : Host) (line : Value) : Eff Value := do
  match line with
  | .str s => return .str (String.ofList (Lines.stripTerminator s.toList))
  | line =>
    let endsWith (terminator : String) : Eff Bool := do
      let answer ← h.callMethod line "endswith" [.str terminator]
      return (← get).isTruthy answer
    if ← endsWith "\r\n" then cutEnd line 2
    else if ← endsWith "\n" then cutEnd line 1
    else if ← endsWith "\r" then cutEnd line 1
    else return line

/-- Reads the next line of a stream; none stands for that of the session. -/
def readLineFrom (h : Host) (input : Value) : Eff Value := do
  match input with
  | .none => readStandard
  | input =>
    let line ← h.callMethod input "readline" []
    match line with
    | .str "" => Eff.complain .noInput
    | line => stripTerminator h line

/-- Writes a line to a stream; none stands for that of the session. -/
def writeLineTo (h : Host) (output text : Value) : Eff Value := do
  match output with
  | .none =>
    World.print ((← Eff.ofExcept ((← get).str? text)) ++ "\n")
    return .none
  | output =>
    let write ← h.read output "write"
    let line ← Eff.ofExcept ((← get).str? text)
    let _ ← h.call write [.str (line ++ "\n")] []
    let _ ← h.callMethod output "flush" []
    return .none

/-- Reads the next line of a stream console. -/
def readStream (h : Host) (console input : Value) : Eff Value := do
  readLineFrom h (((← get).given? console "_stdin").getD input)

/-- Writes a line to a stream console. -/
def writeStream (h : Host) (console output text : Value) : Eff Value := do
  writeLineTo h (((← get).given? console "_stdout").getD output) text

/-! ## Reading and writing -/

/-- The console's own method for reading, if it is one. -/
def ownReader? : Value → Option Method
  | .scripted _ => some .readScripted
  | .stream _ _ _ => some .readStream
  | _ => none

/-- The console's own method for writing, if it is one. -/
def ownWriter? : Value → Option Method
  | .scripted _ => some .writeScripted
  | .stream _ _ _ => some .writeStream
  | _ => none

/-- What an object has under a name: given to it by a script, its own method, or else what the host
finds. -/
def offered (h : Host) (v : Value) (name : String) (own : Option Method) : Eff Value := do
  match (← get).given? v name, own with
  | some given, _ => return given
  | none, some m => return .method 0 v m
  | none, none => h.read v name

/-- **What reads lines from a console.** -/
def reader (h : Host) (console : Value) : Eff Value :=
  offered h console "read_line" (ownReader? console)

/-- **What writes lines to a console.** -/
def writer (h : Host) (console : Value) : Eff Value :=
  offered h console "write_line" (ownWriter? console)

/-- A node that reads a line from a console when it is reached. -/
def readLine (h : Host) (console : Value) : Eff Value := do
  Eff.ofExcept (Graph.readLine (← reader h console))

/-- A node that writes a value as a line to a console when it is reached. -/
def printLine (h : Host) (console value : Value) : Eff Value := do
  let write ← writer h console
  let text ← Eff.ofExcept ((← get).str? value)
  let preset ← Eff.ofExcept ((← get).preset write [.str text] [])
  Eff.ofExcept (Graph.printLine preset)

end Console
end EffectGraph
