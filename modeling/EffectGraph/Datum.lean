import EffectGraph.Complaint
import EffectGraph.Text.Quoted
import EffectGraph.Number.Shortest
import EffectGraph.Number.Numeral

/-!
# Data and their texts

A `Datum` is a value spelled out in full: everything that it refers to is replaced by its content,
and a container met again inside itself by a mark.  A datum no longer depends on the world, so its
texts are plain recursions: `Datum.repr?` is the text that shows a value unambiguously, `Datum.str?`
the one that is printed.  A text can be refused, for a whole number with too many digits, or for
something in it that cannot be looked up.
-/

namespace EffectGraph

/-- The containers that show a mark where they meet themselves. -/
inductive Container where
  | list | tuple | dict | frozenDict | record
  deriving DecidableEq, Repr

/-- What a container shows in its own place inside itself. -/
def Container.mark : Container → String
  | list => "[...]"
  | tuple => "(...)"
  | dict => "\x7b...\x7d"
  | frozenDict => "frozendict.frozendict(\x7b...\x7d)"
  | record => "..."

/-- A value spelled out in full. -/
inductive Datum where
  | none
  | bool (b : Bool)
  | int (i : Int)
  | float (x : Float)
  | str (s : String)
  | tuple (items : List Datum)
  | list (items : List Datum)
  /-- A container that is being spelled out already. -/
  | again (container : Container)
  | dict (entries : List (Datum × Datum))
  | frozenDict (entries : List (Datum × Datum))
  | range (start stop : Int)
  | ok (value : Datum)
  | err (error : Datum)
  /-- A fault: its arguments as a tuple, its details, and its message. -/
  | fault (kind : FaultKind) (args : Datum) (details : List Datum) (message : Except Complaint String)
  /-- The counters and times of a run, how long it took, and why that cannot be said. -/
  | stats (fields : List Datum) (elapsed : Datum) (refusal : Option Complaint)
  | runState (current stack stats : Datum)
  | runResult (result stats failure : Datum)
  /-- Anything else: the value itself, and its text. -/
  | object (value : Value) (text : Except Complaint String)

namespace Datum

/-- Has a whole number few enough digits to be written? -/
def writable (i : Int) : Bool :=
  i.natAbs.log2 < 14000 || i.natAbs < Nat.pow 10 Numeral.digitLimit

/-- The text of a whole number. -/
def intText? (i : Int) : Except Complaint String :=
  if writable i then .ok (toString i) else .error .tooManyDigits

/-- Texts between brackets, a comma and a space between two. -/
def bracketed (opening closing : String) (texts : List String) : String :=
  opening ++ String.intercalate ", " texts ++ closing

/-- The text of a tuple: a lone item is followed by a comma. -/
def tupleText : List String → String
  | [t] => "(" ++ t ++ ",)"
  | ts => bracketed "(" ")" ts

/-- The text of a record: its fields by name. -/
def recordText (name : String) (fields : List (String × String)) : String :=
  name ++ bracketed "(" ")" (fields.map fun (field, text) => field ++ "=" ++ text)

mutual

/-- **The text that shows a value.** -/
def repr? : Datum → Except Complaint String
  | none => .ok "None"
  | bool b => .ok (if b then "True" else "False")
  | int i => intText? i
  | float x => .ok (Layout.standard.text x)
  | str s => .ok (Quoted.text s)
  | tuple items => do return tupleText (← reprAll? items)
  | list items => do return bracketed "[" "]" (← reprAll? items)
  | again container => .ok container.mark
  | dict entries => do return bracketed "\x7b" "\x7d" (← reprEntries? entries)
  | frozenDict entries => do
    return bracketed "frozendict.frozendict(\x7b" "\x7d)" (← reprEntries? entries)
  | range a b => do return bracketed "range(" ")" [← intText? a, ← intText? b]
  | ok v => do return recordText "Ok" [("value", ← v.repr?)]
  | err e => do return recordText "Err" [("error", ← e.repr?)]
  | fault kind args _ _ =>
    match args with
    | tuple [arg] => do return kind.name ++ "(" ++ (← arg.repr?) ++ ")"
    | args => do return kind.name ++ (← args.repr?)
  | stats fields _ _ => do
    return recordText "InterpretationStats" (Stats.fieldNames.zip (← reprAll? fields))
  | runState c k s => do
    return recordText "InterpreterState"
      [("current", ← c.repr?), ("continuation_stack", ← k.repr?), ("stats", ← s.repr?)]
  | runResult r s f => do
    return recordText "RunResult"
      [("result", ← r.repr?), ("stats", ← s.repr?), ("failure", ← f.repr?)]
  | object _ text => text

/-- The texts of some data. -/
def reprAll? : List Datum → Except Complaint (List String)
  | [] => .ok []
  | d :: rest => do return (← d.repr?) :: (← reprAll? rest)

/-- The texts of the entries of a dictionary. -/
def reprEntries? : List (Datum × Datum) → Except Complaint (List String)
  | [] => .ok []
  | (k, v) :: rest => do return ((← k.repr?) ++ ": " ++ (← v.repr?)) :: (← reprEntries? rest)

end

/-- **The text that is printed for a value.**  Texts stand without quotes, and a fault as its
message. -/
def str? : Datum → Except Complaint String
  | str s => .ok s
  | fault _ _ _ message => message
  | d => d.repr?

/-- The entries of a dictionary as keyword arguments. -/
def keywordTexts? : Datum → Except Complaint (List String)
  | dict entries => entries.mapM fun (k, v) => do return (← k.str?) ++ "=" ++ (← v.repr?)
  | _ => .ok []

/-- The message of a fault without details: empty, its one argument, or the tuple of all. -/
def message? (kind : FaultKind) (args : Datum) : Except Complaint String :=
  match args with
  | tuple [] => .ok ""
  | tuple [d] => if kind.isA .keyError then d.repr? else d.str?
  | d => d.repr?

/-- The message of a system error: its number and text, and the files it is about. -/
def systemMessage? (number text : Datum) (files : List Datum) : Except Complaint String := do
  let head := "[Errno " ++ (← number.str?) ++ "] " ++ (← text.str?)
  match ← reprAll? files with
  | [] => return head
  | names => return head ++ ": " ++ String.intercalate " -> " names

mutual

/-- The first refusal met when every text of a datum that is shown has to be written. -/
def refusal? : Datum → Option Complaint
  | int i => if writable i then Option.none else some .tooManyDigits
  | tuple items => refusalAll? items
  | list items => refusalAll? items
  | dict entries => refusalEntries? entries
  | frozenDict entries => refusalEntries? entries
  | ok v => v.refusal?
  | err e => e.refusal?
  | fault _ _ details message =>
    match message with
    | .error e => some e
    | .ok _ => refusalAll? details
  | stats fields _ refusal => (refusalAll? fields).or refusal
  | runResult r s f => (r.refusal?).or ((f.refusal?).or s.refusal?)
  | object _ (.error e) => some e
  | _ => Option.none

/-- The first refusal among some data. -/
def refusalAll? : List Datum → Option Complaint
  | [] => Option.none
  | d :: rest => (d.refusal?).or (refusalAll? rest)

/-- The first refusal among the entries of a dictionary. -/
def refusalEntries? : List (Datum × Datum) → Option Complaint
  | [] => Option.none
  | (k, v) :: rest => (k.refusal?).or ((v.refusal?).or (refusalEntries? rest))

end

end Datum

/-- The part of an entry that a view shows. -/
def View.part (kind : View) (entry : Datum × Datum) : Datum :=
  match kind with
  | keys => entry.1
  | values => entry.2
  | items => .tuple [entry.1, entry.2]

end EffectGraph
