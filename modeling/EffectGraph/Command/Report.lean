import EffectGraph.Command.Problem
import EffectGraph.Command.Request
import EffectGraph.Machine.Run
import EffectGraph.Script.Methods

/-!
# Reporting a run

The outcome of a run is written in one of two forms.  As text, the lines written to a scripted
console come first, then the value unless it is none; counters and errors go to the error stream.
As JSON, one object on one line holds everything.  Where no form is asked for the lines are left
out and the rest is as in a text.  What goes to the output stream is printed into the
world; what goes to the error stream is the result of each function here.
-/

namespace EffectGraph
namespace Command

/-- Prints a value on a line of its own. -/
def printValue (v : Value) : Eff Unit := do
  let line ← Eff.ofExcept ((← get).str? v)
  World.print (line ++ "\n")

/-- Prints a JSON object on a line of its own. -/
def printObject (entries : List (String × Datum)) : Eff Unit :=
  match (Datum.dict (entries.map fun (name, d) => (.str name, d))).json? with
  | .ok text => World.print (text ++ "\n")
  | .error why => Problem.stop (.notWritable why)

/-- What has been written to a console, if it keeps that. -/
def writtenTo? (h : Host) (fuel : Nat) (console : Value) : Eff (Option (List Value)) := do
  match console with
  | .scripted address => return some (← Script.elements h fuel ((← get).consoleAt address).written)
  | _ => return none

/-- Repeats the lines written to a scripted console, in text form. -/
def echo (format : Format) (output : Option (List Value)) : Eff Unit :=
  match format, output with
  | .text, some lines => lines.forM printValue
  | _, _ => pure ()

/-- The entry of a JSON report for the lines written to a scripted console. -/
def outputEntry (w : World) (output : Option (List Value)) : List (String × Datum) :=
  match output with
  | some lines => [("output", .list (lines.map w.spell))]
  | none => []

/-- The texts of the counters of a run, a line for each. -/
def statsLines (w : World) (entries : List (Value × Value)) : Except Complaint String := do
  let lines ← entries.mapM fun (name, count) => do
    return (← w.str? name) ++ ": " ++ (← w.str? count) ++ "\n"
  return String.join lines

/-- The counters of a run, spelled out. -/
def statsDatum (w : World) (entries : List (Value × Value)) : Datum :=
  .dict (entries.map fun (name, count) => (w.spell name, w.spell count))

/-- The report of a run that ended with a value, as JSON. -/
def successObject (program : String) (withStats : Bool) (output : Option (List Value))
    (value : Value) (stats : List (Value × Value)) : Eff Unit := do
  let w ← get
  let safe ← Eff.ofExcept (w.jsonSafe value)
  let base : List (String × Datum) :=
    [("status", .str "ok"), ("program", .str program), ("result", w.spell safe),
      ("result_type", .str value.typeName)]
  let counters : List (String × Datum) := if withStats then [("stats", statsDatum w stats)] else []
  printObject (base ++ outputEntry w output ++ counters)

/-- **Reports a run that ended with a value.** -/
def reportSuccess (request : Request) (program : String) (output : Option (List Value))
    (value : Value) (stats : List (Value × Value)) : Eff String := do
  echo request.format output
  if request.format == .json then
    successObject program request.stats output value stats
    return ""
  else
    match value with
    | .none => pure ()
    | v => printValue v
    if request.stats then Eff.ofExcept (statsLines (← get) stats) else return ""

/-- What lies behind a fault, by the kind of it. -/
def causeEntry (f : Fault Value) : Eff (List (String × Datum)) := do
  match ← Script.attribute? (.fault f) "cause" with
  | none => return []
  | some .none => return []
  | some cause => return [("cause", .str cause.typeName)]

/-- **Reports a failure.** -/
def reportFailure (format : Format) (f : Fault Value) (output : Option (List Value)) :
    Eff String := do
  let w ← get
  let message ← Eff.ofExcept (w.str? (.fault f))
  if format == .json then
    let cause ← causeEntry f
    printObject
      ([("status", .str "error"), ("error", .str f.kind.name), ("message", .str message)] ++
        cause ++ outputEntry w output)
    return ""
  else return "Error: " ++ message ++ "\n"

end Command
end EffectGraph
