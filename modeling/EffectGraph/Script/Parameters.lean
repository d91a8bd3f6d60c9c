import EffectGraph.Complaint
import EffectGraph.Text.Identifier
import EffectGraph.Text.Letter
import EffectGraph.Text.Quoted

/-!
# Names of parameters

A function declares names for its arguments.  Each has to be a name that is not reserved, and no two
may be the same.  A point followed by digits declares an argument without a name of its own, which is
known by its number; such arguments come before all others.
-/

namespace EffectGraph
namespace Script

/-- The words that are reserved. -/
def reservedWords : List String :=
  ["False", "None", "True", "and", "as", "assert", "async", "await", "break", "class", "continue",
    "def", "del", "elif", "else", "except", "finally", "for", "from", "global", "if", "import",
    "in", "is", "lambda", "nonlocal", "not", "or", "pass", "raise", "return", "try", "while",
    "with", "yield"]

/-- A parameter: the name that it is known by, and whether it has no name of its own. -/
structure Parameter where
  name : String
  isNumbered : Bool
  deriving DecidableEq

/-- The parameter that a name declares. -/
def Parameter.ofName (name : String) : Except Complaint Parameter :=
  match name.toList with
  | [] => .error (.indexOutOfRange "string")
  | '.' :: d :: digits =>
    if (d :: digits).all Letter.isDigit then numbered (d :: digits) else refused name
  | _ =>
    if reservedWords.contains name || !Identifier.isIdentifier name then refused name
    else .ok ⟨name, false⟩
where
  /-- The parameter with a number, whose digits have to be fit for a name. -/
  numbered (digits : List Char) : Except Complaint Parameter :=
    let name := "implicit" ++ String.ofList digits
    if Identifier.isIdentifier name then .ok ⟨name, true⟩ else refused name
  /-- Refuses a name. -/
  refused (name : String) : Except Complaint Parameter :=
    .error (.badValue (Quoted.text name ++ " is not a valid parameter name"))

/-- Refuses parameters that stand in a wrong order or twice, after those in `before`. -/
def checkOrder (before : List Parameter) : List Parameter → Except Complaint Unit
  | [] => .ok ()
  | p :: rest =>
    if p.isNumbered && before.any (!·.isNumbered) then
      .error (.badValue ("wrong parameter order: positional or keyword parameter before " ++
        "positional-only parameter"))
    else if before.any (·.name == p.name) then
      .error (.badValue ("duplicate parameter name: " ++ Quoted.text p.name))
    else checkOrder (p :: before) rest

/-- **Refuses names that cannot be those of parameters.** -/
def checkParameters (names : List String) : Except Complaint Unit := do
  checkOrder [] (← names.mapM Parameter.ofName)

end Script
end EffectGraph
