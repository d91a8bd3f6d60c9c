import EffectGraph.Equality
import EffectGraph.Sample.Programs

/-!
# One round of the factorial dialogue

A round reads a line and answers it: the factorial of a whole number that is not negative, and a
complaint about any other text.  It gives false, for no further round, when there is no line or the
line is `q`.  The round is a generator: each stage yields the node whose value the next stage needs.
What it is sent is an outcome as a rule; anything else is asked what an outcome would be asked.
-/

namespace EffectGraph
namespace Sample

/-- The answer to a stage: a node to run with the stage that takes its value, or the result. -/
inductive Answer where
  | ask (node : Value) (next : DialogueStage)
  | give (result : Value)

/-- Is an outcome a failure? -/
def isFailure (h : Host) (outcome : Value) : Eff Bool := do
  match outcome with
  | .ok _ _ => return false
  | .err _ _ => return true
  | v =>
    let answer ← h.callMethod v "is_err" []
    return (← get).isTruthy answer

/-- The value of an outcome that is no failure. -/
def contentOf (h : Host) (outcome : Value) : Eff Value :=
  match outcome with
  | .ok _ v => pure v
  | v => h.callMethod v "unwrap" []

/-- A text without the blanks around it. -/
def stripped (h : Host) (v : Value) : Eff Value :=
  match v with
  | .str s => pure (.str (Blank.strip s))
  | v => h.callMethod v "strip" []

/-- The complaint of the dialogue about a text. -/
def refusal (h : Host) (console text : Value) : Eff Answer := do
  let shown ← Eff.ofExcept ((← get).repr? text)
  let node ← Console.printLine h console (.str ("Not a non-negative integer: " ++ shown))
  return .ask node .replied

/-- The answer to a line that was read. -/
def answerLine (h : Host) (line : Value) : Eff Answer := do
  let text ← stripped h line
  if ← Eff.ofExcept ((← get).equal? text (.str "q")) then return .give (.bool false)
  return .ask (Graph.attempt (Graph.parseNumber text)) (.number text)

/-- The answer to a number that was read, or to the failure to read one. -/
def answerNumber (h : Host) (console outcome text : Value) : Eff Answer := do
  if ← isFailure h outcome then refusal h console text
  else
    match Number.ofCounting? (← contentOf h outcome) with
    | some (.int _) =>
      let n ← contentOf h outcome
      if ← Eff.ofExcept (Arithmetic.isBelow (.int 0) n) then refusal h console text
      else return .ask (factorial (← contentOf h outcome)) .result
    | _ => refusal h console text

/-- The line that tells a factorial. -/
def tellFactorial (h : Host) (console value : Value) : Eff Answer := do
  let shown ← Eff.ofExcept ((← get).str? value)
  return .ask (← Console.printLine h console (.str ("factorial: " ++ shown))) .replied

/-- **One stage of a round,** with the value that was sent in. -/
def answer (h : Host) (console : Value) (stage : DialogueStage) (sent : Value) : Eff Answer := do
  match stage with
  | .start => return .ask (Graph.attempt (← Console.readLine h console)) .line
  | .line =>
    if ← isFailure h sent then return .give (.bool false)
    else answerLine h (← contentOf h sent)
  | .number text => answerNumber h console sent text
  | .result => tellFactorial h console sent
  | .replied => return .give (.bool true)

end Sample
end EffectGraph
