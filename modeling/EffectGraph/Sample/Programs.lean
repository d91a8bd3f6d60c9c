import EffectGraph.Console

/-!
# Sample programs

Two small programs built from the library's parts.  `Sample.factorial` computes a factorial in a
fresh cell with a loop over nodes; `Sample.temperature` reads a temperature in degrees Fahrenheit
from a console and prints it in degrees Celsius.
-/

namespace EffectGraph
namespace Sample

/-- One more than a value, as the end of a range. -/
def rangeEnd (n : Value) : Except Complaint Int := do
  match Number.ofCounting? (← Arithmetic.addNumber "+" n (.int 1)) with
  | some (.int i) => return i
  | _ => throw (.notAnInteger n.typePath)

/-- A node that multiplies a cell that holds one by 1, 2, … up to a number and then reads it. -/
def multiplyUp (h : Host) (n accumulator : Value) : Eff Value := do
  let stop ← Eff.ofExcept (rangeEnd n)
  let loop := Graph.foreach (.range 0 1 stop) (.scale accumulator)
  let last ← match accumulator with
    | .cell address => do pure (Graph.getCell address (← World.cellName address))
    | v => h.callMethod v "get" []
  Eff.ofExcept (Graph.thenRun loop last)

/-- **The factorial of a number,** computed in a fresh cell. -/
def factorial (n : Value) : Value := .sequenced (Graph.newCell (.int 1)) (.factorialIn n)

/-- A temperature in degrees Celsius, from one in degrees Fahrenheit. -/
def celsius (fahrenheit : Value) : Except Complaint Value :=
  match Number.ofCounting? fahrenheit with
  | none => .error (.unsupportedOperands "-" fahrenheit.typePath "int")
  | some f => do
    let above ← f.subtract (.int 32)
    let fivefold ← above.multiply (.float 5.0)
    return .ofFloat ((← fivefold.toFloat) / 9.0)

/-- A temperature with one decimal place. -/
def celsiusText (degrees : Value) : Except Complaint String :=
  match Number.ofCounting? degrees, degrees with
  | some n, _ => do return Fixed.text 1 (← n.toFloat) ++ " degrees Celsius"
  | none, .str _ => .error .badFormat
  | none, v => .error (.noFormat v.typePath)

/-- Prints a temperature and keeps it as the result. -/
def printCelsius (h : Host) (console degrees : Value) : Eff Value := do
  let text ← Eff.ofExcept (celsiusText degrees)
  return Graph.replace (← Console.printLine h console (.str text)) degrees

/-- **The temperature program** on a console. -/
def temperature (h : Host) (console : Value) : Eff Value := do
  let asked ← Console.printLine h console (.str "Enter a temperature in degrees Fahrenheit: ")
  let line := Value.sequenced asked (.thenRun (← Console.readLine h console))
  let number := Value.ofNode (.flatMap line (.operation .parseNumber))
  let converted := Value.sequenced number (.mapWith (.operation .celsius))
  return Value.sequenced converted (.reportCelsius console)

/-- The opening words of the factorial dialogue. -/
def dialogueHelp : String :=
  "The Amazing Factorial REPL\n" ++
    "Enter a non-negative integer to see its factorial, or q to quit."

/-- **The factorial dialogue** on a console: after the opening words, one round after another until
a round asks for no more. -/
def dialogue (h : Host) (console : Value) : Eff Value := do
  let opening ← Console.printLine h console (.str dialogueHelp)
  let round := Graph.generate (.ofCallback (.startDialogue console)) [] []
  let rounds ← Eff.ofExcept (Graph.doWhile round (.operation .unit))
  Eff.ofExcept (Graph.thenRun opening rounds)

end Sample
end EffectGraph
