import EffectGraph.Spelling
import EffectGraph.Text.AsciiString

/-!
# Data as JSON

`Datum.json?` writes a datum as a JSON text in ASCII, with a comma and a space between items and a
colon and a space after keys.  Tuples are written as arrays, keys that are numbers, truth values or
none as their texts.  Anything else, and a container inside itself, is refused.
-/

namespace EffectGraph
namespace Datum

/-- Why a datum has no JSON text. -/
inductive JsonRefusal where
  | notSerializable (typeName : String)
  | badKey (typeName : String)
  | circular
  | tooManyDigits

/-- The name of the type of what is spelled out. -/
def typeName : Datum → String
  | none => "NoneType"
  | bool _ => "bool"
  | int _ => "int"
  | float _ => "float"
  | str _ => "str"
  | tuple _ => "tuple"
  | list _ => "list"
  | again _ => "list"
  | dict _ => "dict"
  | frozenDict _ => "frozendict"
  | range _ _ => "range"
  | ok _ => "Ok"
  | err _ => "Err"
  | fault kind _ _ _ => kind.name
  | stats _ _ _ => "InterpretationStats"
  | runState _ _ _ => "InterpreterState"
  | runResult _ _ _ => "RunResult"
  | object v _ => v.typeName

/-- The text of a double in JSON, the infinities and not-a-number by name. -/
def jsonFloat (x : Float) : String :=
  match Binary64.decode x with
  | .nan => "NaN"
  | .infinite negative => if negative then "-Infinity" else "Infinity"
  | .finite _ _ _ => Layout.standard.text x

/-- The text of a whole number in JSON. -/
def jsonInt? (i : Int) : Except JsonRefusal String :=
  if writable i then .ok (toString i) else .error .tooManyDigits

/-- The key that a datum is written as. -/
def jsonKey? : Datum → Except JsonRefusal String
  | str s => .ok s
  | none => .ok "null"
  | bool b => .ok (if b then "true" else "false")
  | int i => jsonInt? i
  | float x => .ok (jsonFloat x)
  | d => .error (.badKey d.typeName)

mutual

/-- **A datum as a JSON text.** -/
def json? : Datum → Except JsonRefusal String
  | none => .ok "null"
  | bool b => .ok (if b then "true" else "false")
  | int i => jsonInt? i
  | float x => .ok (jsonFloat x)
  | str s => .ok (AsciiString.text s)
  | tuple items => do return bracketed "[" "]" (← jsonAll? items)
  | list items => do return bracketed "[" "]" (← jsonAll? items)
  | dict entries => do return bracketed "\x7b" "\x7d" (← jsonEntries? entries)
  | frozenDict entries => do return bracketed "\x7b" "\x7d" (← jsonEntries? entries)
  | again _ => .error .circular
  | d => .error (.notSerializable d.typeName)

/-- The JSON texts of some data. -/
def jsonAll? : List Datum → Except JsonRefusal (List String)
  | [] => .ok []
  | d :: rest => do return (← d.json?) :: (← jsonAll? rest)

/-- The JSON texts of the entries of a dictionary. -/
def jsonEntries? : List (Datum × Datum) → Except JsonRefusal (List String)
  | [] => .ok []
  | (k, v) :: rest => do
    return (AsciiString.text (← k.jsonKey?) ++ ": " ++ (← v.json?)) :: (← jsonEntries? rest)

end

end Datum

/-- **A value that can be written as JSON:** the value itself if it can, otherwise its text. -/
def World.jsonSafe (w : World) (v : Value) : Except Complaint Value :=
  let d := w.spell v
  match d.json? with
  | .ok _ => .ok v
  | .error _ => (w.repr? v).map .str

end EffectGraph
