import EffectGraph.Number
import EffectGraph.World

/-!
# Spelling values out

`World.spell` turns a value into a datum by looking up what it refers to.  A container inside itself
is not entered again, so every value has a finite spelling: each reference that is entered is taken
off a supply that suffices for everything there is to refer to, once where parts are listed and once
inside a text.  With it come the texts of values, their truth and length, the names of callables, and
`World.describe?`, the short text that names a node in messages.
-/

namespace EffectGraph

/-- Something in the world that is spelled out by its content. -/
inductive Reference where
  | list (address : Nat)
  | dict (address : Nat)
  | stats (address : Nat)
  | runState (address : Nat)
  | deque (address : Nat)
  /-- The part of the entries of a dictionary that a view shows. -/
  | entries (address : Nat) (kind : View)
  /-- An attribute that a script has given to an object. -/
  | given (owner : Identity) (name : String)

/-- Where something stands in a spelling: the containers around it, and whether their parts are listed
one by one or written as one text. -/
structure Place where
  around : List Identity
  listed : Bool

/-- The place of a text: one inside a text goes on with it, one that is listed begins afresh. -/
def Place.text (p : Place) : Place := if p.listed then ⟨[], false⟩ else p

/-- The most items that a row may have for its length to be told. -/
def longestRow : Nat := Nat.pow 2 63 - 1

namespace World

/-- Does a value count as true?  False are the empty ones, zero, none, and every outcome but a
success. -/
def isTruthy (w : World) : Value → Bool
  | .none => false
  | .bool b => b
  | .int i => i != 0
  | .float _ x => x != 0.0
  | .str s => !s.isEmpty
  | .tuple _ items => !items.isEmpty
  | .list address => !(w.listItems address).isEmpty
  | .dict address => !(w.dictEntries address).isEmpty
  | .frozenDict _ entries => !entries.isEmpty
  | .range _ a b => a < b
  | .err _ _ => false
  | .bareResult _ => false
  | .deque address => !(w.dequeAt address).items.isEmpty
  | .view _ _ source => !((w.entriesOf? source).getD []).isEmpty
  | _ => true

/-- The number of items of a value. -/
def length? (w : World) (v : Value) : Except Complaint Nat :=
  match v with
  | .str s => .ok s.length
  | .range _ a b => if (b - a).toNat > longestRow then .error .lengthTooLarge else .ok (b - a).toNat
  | .list address => .ok (w.listItems address).size
  | .tuple _ items => .ok items.length
  | .dict address => .ok (w.dictEntries address).length
  | .frozenDict _ entries => .ok entries.length
  | .deque address => .ok (w.dequeAt address).items.length
  | .view _ _ source => .ok ((w.entriesOf? source).getD []).length
  | v => .error (.noLength v.typePath)

/-- The full name of a value as an attribute, if it has one. -/
def qualifiedName? (w : World) (v : Value) : Option Value :=
  (w.given? v "__qualname__").or (v.ownName?.map .str)

/-- **The name that a callable is reported under:** its own if there is something to it, or else that
of its type. -/
def callableName (w : World) (v : Value) : Value :=
  match w.qualifiedName? v with
  | some name => if w.isTruthy name then name else .str v.typeName
  | none => .str v.typeName

/-- The function that a wrapped function calls. -/
def wrappedBy (w : World) (v target : Value) : Value := (w.given? v "original_func").getD target

/-- A datum for what has an identity, entered unless that is done already. -/
def enter (place : Place) (identity : Option Identity) (container : Container)
    (inner : Place → Datum) : Datum :=
  match identity with
  | some i =>
    if place.around.contains i then .again container
    else inner { place with around := i :: place.around }
  | none => inner place

/-- What a script has given to an object under a name, or else what it has of its own. -/
def givenOr (w : World) (onRef : Reference → Datum) (v : Value) (name : String) (own : Datum) :
    Datum :=
  match v.identity? with
  | some i => if (w.given? v name).isSome then onRef (.given i name) else own
  | none => own

/-- The text of the name of a callable. -/
def callableText (w : World) (onRef : Reference → Datum) (v : Value) : Except Complaint String :=
  match w.callableName v with
  | .str name => .ok name
  | _ => (givenOr w onRef v "__qualname__" .none).str?

/-- The text of a wrapped function. -/
def programText (w : World) (onRef : Reference → Datum) (v target : Value) :
    Except Complaint String :=
  let f := w.wrappedBy v target
  match w.qualifiedName? f with
  | some (.str name) => .ok ("<do " ++ name ++ ">")
  | some _ => do return "<do " ++ (← (givenOr w onRef f "__qualname__" .none).str?) ++ ">"
  | none => .error (.noAttribute f.typePath "__qualname__")

/-- The message of a fault from what it is made of.  A system error that knows what it is about says
so, naming a second file only beside a first one; every other fault has its arguments only. -/
def faultMessage (kind : FaultKind) (args number text : Datum) (first second : List Datum)
    (known : Bool) : Except Complaint String :=
  if kind.isA .osError && (known || !first.isEmpty) then
    Datum.systemMessage? number text (if first.isEmpty then [] else first ++ second)
  else Datum.message? kind args

mutual

/-- The spelling of a value at a place, `onRef` saying how what it refers to is
spelled. -/
def spellWith (w : World) (onRef : Place → Reference → Datum) (place : Place) :
    Value → Datum
  | .none => .none
  | .bool b => .bool b
  | .int i => .int i
  | .float _ x => .float x
  | .str s => .str s
  | .tuple stamp items =>
    enter place (Value.identity? (.tuple stamp items)) .tuple fun place =>
      .tuple (spellAll w onRef place items)
  | .list address => onRef place (.list address)
  | .dict address => onRef place (.dict address)
  | .frozenDict stamp entries =>
    enter place (Value.identity? (.frozenDict stamp entries)) .frozenDict fun place =>
      .frozenDict (spellEntries w onRef place entries)
  | .range _ a b => .range a b
  | .ok stamp v =>
    enter place (Identity.ofStamp? stamp) .record fun place => .ok (spellWith w onRef place v)
  | .err stamp e =>
    enter place (Identity.ofStamp? stamp) .record fun place => .err (spellWith w onRef place e)
  | .bareResult stamp => .object (.bareResult stamp) (.ok "<Result>")
  | .fault ⟨kind, args, detail, stamp⟩ =>
    let v := Value.fault ⟨kind, args, detail, stamp⟩
    let identity := if stamp == 0 || args.length == 1 then none else some (Identity.arguments stamp)
    let own := enter place.text identity .tuple fun place => .tuple (spellAll w onRef place args)
    spellFault w onRef place v kind (givenOr w (onRef place.text) v "args" own) detail
  | .stats address => onRef place (.stats address)
  | .runState address => onRef place (.runState address)
  | .runResult stamp r s f =>
    enter place (Identity.ofStamp? stamp) .record fun place =>
      .runResult (spellWith w onRef place r) (spellWith w onRef place s) (spellWith w onRef place f)
  | .node stamp n => .object (.node stamp n) (nodeText w onRef place.text n)
  | .frame stamp f =>
    enter place.text (Identity.ofStamp? stamp) .record fun place =>
      .object (.frame stamp f) (frameText w onRef place f)
  | .interpreter stamp limit trace =>
    let v := Value.interpreter stamp limit trace
    .object v do
      let place := place.text
      let limit := givenOr w (onRef place) v "_max_stack_depth" (spellWith w onRef place limit)
      let trace := givenOr w (onRef place) v "_trace_steps" (spellWith w onRef place trace)
      return "Interpreter(max_stack_depth=" ++ (← limit.str?) ++ ", trace_steps=" ++
        (← trace.str?) ++ ")"
  | .cell address =>
    let own : Datum := .int (address + 1)
    .object (.cell address) do
      return "Ref#" ++ (← (givenOr w (onRef place.text) (.cell address) "ref_id" own).str?)
  | .scripted address =>
    .object (.scripted address) do
      let remaining ← w.length? (w.consoleAt address).pending
      let written ← w.length? (w.consoleAt address).written
      return "ScriptedConsole(remaining=" ++ remaining.repr ++ ", written=" ++ written.repr ++ ")"
  | .stream stamp input output => .object (.stream stamp input output) (.ok "<StreamConsole>")
  | .closure c =>
    .object (.closure c) do
      let kind := if c.isGenerator then "<function " else "<fn "
      return kind ++ (← w.callableText (onRef place.text) (.closure c)) ++ ">"
  | .callback stamp c => .object (.callback stamp c) (.ok ("<function " ++ c.name ++ ">"))
  | .operation .length => .object (.operation .length) (.ok "<built-in function len>")
  | .operation op => .object (.operation op) (.ok ("<function " ++ op.name ++ ">"))
  | .blueprint cls => .object (.blueprint cls) (.ok ("<class '" ++ cls.path ++ "'>"))
  | .program stamp target =>
    .object (.program stamp target) (programText w (onRef place.text) (.program stamp target) target)
  | .preset stamp target args keywords =>
    enter place.text (Identity.ofStamp? stamp) .record fun place =>
      .object (.preset stamp target args keywords) do
        let head ← (spellWith w onRef place target).repr?
        let rest ← Datum.reprAll? (spellAll w onRef place args)
        let named ← match w.given? (.preset stamp target args keywords) "keywords" with
          | some (.dict address) => (onRef place (.dict address)).keywordTexts?
          | _ => keywordTexts w onRef place keywords
        return Datum.bracketed "functools.partial(" ")" (head :: rest ++ named)
  | .method stamp receiver m =>
    .object (.method stamp receiver m) do
      if m.isBuiltin then return "<built-in method " ++ m.word ++ " of " ++ m.owner ++ " object>"
      else return "<bound method " ++ m.name ++ " of " ++
        (← (spellWith w onRef place.text receiver).repr?) ++ ">"
  | .unbound m =>
    .object (.unbound m) (.ok (
      if m.isBuiltin then
        (if m.isOperator then "<slot wrapper '" else "<method '") ++ m.word ++ "' of '" ++
          m.ownerPath ++ "' objects>"
      else "<function " ++ m.name ++ ">"))
  | .generator address => .object (.generator address) (.ok "<generator>")
  | .iterator address => .object (.iterator address) (.ok "<lazy>")
  | .walker typeName address => .object (.walker typeName address) (.ok ("<" ++ typeName ++ ">"))
  | .relazy stamp count f => .object (.relazy stamp count f) (.ok "<relazy>")
  | .deque address => .object (.deque address) (onRef place.text (.deque address)).repr?
  | .view stamp kind source =>
    enter place.text (Identity.ofStamp? stamp) .record fun place =>
      .object (.view stamp kind source) do
        let shown : Datum := match source with
          | .dict address => onRef place (.entries address kind)
          | .frozenDict _ entries => .list ((spellEntries w onRef place entries).map kind.part)
          | _ => .list []
        return kind.builtinType.name ++ "(" ++ (← shown.repr?) ++ ")"
  | .constant c => .object (.constant c) (.ok c.text)
  | .inert typeName => .object (.inert typeName) (.ok ("<" ++ typeName ++ " object>"))

/-- The spellings of some values. -/
def spellAll (w : World) (onRef : Place → Reference → Datum) (place : Place) :
    List Value → List Datum
  | [] => []
  | v :: rest => spellWith w onRef place v :: spellAll w onRef place rest

/-- The spellings of the entries of a dictionary. -/
def spellEntries (w : World) (onRef : Place → Reference → Datum) (place : Place) :
    List (Value × Value) → List (Datum × Datum)
  | [] => []
  | (k, v) :: rest =>
    (spellWith w onRef place k, spellWith w onRef place v) :: spellEntries w onRef place rest

/-- The texts of keyword arguments. -/
def keywordTexts (w : World) (onRef : Place → Reference → Datum) (place : Place) :
    List (String × Value) → Except Complaint (List String)
  | [] => .ok []
  | (name, v) :: rest => do
    return (name ++ "=" ++ (← (spellWith w onRef place v).repr?)) :: (← keywordTexts w onRef place rest)

/-- The spelling of a fault from its arguments and details. -/
def spellFault (w : World) (onRef : Place → Reference → Datum) (place : Place)
    (v : Value) (kind : FaultKind) (args : Datum) : FaultDetail Value → Datum
  | .suspended cause label step discarded =>
    .fault kind args
      [givenOr w (onRef place) v "cause" (spellWith w onRef place cause),
        givenOr w (onRef place) v "label" (spellWith w onRef place label),
        givenOr w (onRef place) v "step" (spellWith w onRef place step),
        givenOr w (onRef place) v "discarded" (spellWith w onRef place discarded)]
      (Datum.message? kind args)
  | .system number text files =>
    let place := place.text
    let given (name : String) := (w.given? v name).isSome
    let file (name : String) (own : List Datum) : List Datum :=
      if given name then [givenOr w (onRef place) v name .none] else own
    let own := spellAll w onRef place files
    .fault kind args []
      (faultMessage kind args (givenOr w (onRef place) v "errno" (spellWith w onRef place number))
        (givenOr w (onRef place) v "strerror" (spellWith w onRef place text))
        (file "filename" (own.take 1)) (file "filename2" ((own.drop 1).take 1)) true)
  | _ =>
    let place := place.text
    let given (name : String) : List Datum :=
      if (w.given? v name).isSome then [givenOr w (onRef place) v name .none] else []
    let number := given "errno"
    let text := given "strerror"
    .fault kind args []
      (faultMessage kind args (number.head?.getD .none) (text.head?.getD .none)
        (given "filename") (given "filename2") (!number.isEmpty && !text.isEmpty))

/-- The text of a node.  The graph below it is named by its variants only. -/
def nodeText (w : World) (onRef : Place → Reference → Datum) (place : Place) :
    Node Value → Except Complaint String
  | .done v => do return "Done(" ++ (← (spellWith w onRef place v).repr?) ++ ")"
  | .delay thunk label =>
    if w.isTruthy label then do
      return "Delay(" ++ (← (spellWith w onRef place label).str?) ++ ")"
    else do return "Delay(" ++ (← w.callableText (onRef place) thunk) ++ ")"
  | .flatMap source f => do
    return "FlatMap(" ++ source.typeName ++ ", " ++ (← w.callableText (onRef place) f) ++ ")"
  | .recover source handler => do
    return "Recover(" ++ source.typeName ++ ", " ++ (← w.callableText (onRef place) handler) ++ ")"
  | .foreign variant => .ok (if variant == "Alien" then "<alien>" else "<" ++ variant ++ ">")

/-- The text of a frame. -/
def frameText (w : World) (onRef : Place → Reference → Datum) (place : Place) :
    Frame Value → Except Complaint String
  | .continuation f => do
    return Datum.recordText "ContinuationFrame"
      [("continuation", ← (spellWith w onRef place f).repr?)]
  | .boundary f => do
    return Datum.recordText "RecoverFrame" [("handler", ← (spellWith w onRef place f).repr?)]

end

/-- The spelling of the counters of a run. -/
def spellStats (s : Stats Value) (inner : Value → Datum) : Datum :=
  match s.duration with
  | .ok elapsed => .stats (s.toList.map inner) (inner elapsed) none
  | .error c => .stats (s.toList.map inner) .none (some c)

/-- The spelling of what is referred to: entered if it is not being spelled out already, while the
supply lasts. -/
def spellReference (w : World) : Nat → Place → Reference → Datum
  | 0, _, _ => .again .list
  | supply + 1, place, r =>
    let inner (place : Place) : Value → Datum := spellWith w (spellReference w supply) place
    match r with
    | .list address => enter place (some (.list address)) .list fun place =>
      .list ((w.listItems address).toList.map (inner place))
    | .dict address => enter place (some (.dict address)) .dict fun place =>
      .dict ((w.dictEntries address).map fun (k, v) => (inner place k, inner place v))
    | .stats address => enter place (some (.stats address)) .record fun place =>
      spellStats (w.statsAt address) (inner place)
    | .runState address => enter place (some (.runState address)) .record fun place =>
      let s := w.runStateAt address
      .runState (inner place s.current) (inner place s.stack) (inner place s.stats)
    | .deque address => enter place (some (.deque address)) .list fun place =>
      let items := (w.dequeAt address).items
      .object (.deque address) do
        return "deque(" ++ (← (Datum.list (items.map (inner place))).repr?) ++ ")"
    | .entries address kind =>
      .list ((w.dictEntries address).map fun (k, v) => kind.part (inner place k, inner place v))
    | .given owner name =>
      match w.attributes.lookup (owner, name) with
      | some (.tuple _ [v]) => .tuple [inner place v]
      | some v => inner place v
      | none => .none

/-- How many things there are that a value can refer to. -/
def referenceCount (w : World) : Nat :=
  w.lists.size + w.dicts.size + w.deques.size + w.stats.size + w.runStates.size + w.stamps +
    w.attributes.length

/-- A value spelled out at the outermost place, its parts listed or written as one text. -/
def spellOut (w : World) (listed : Bool) (v : Value) : Datum :=
  spellWith w (spellReference w (2 * w.referenceCount)) ⟨[], listed⟩ v

/-- **A value spelled out in full,** part by part. -/
def spell (w : World) (v : Value) : Datum := w.spellOut true v

/-- The text that shows a value. -/
def repr? (w : World) (v : Value) : Except Complaint String := (w.spellOut false v).repr?

/-- The text that is printed for a value. -/
def str? (w : World) (v : Value) : Except Complaint String := (w.spellOut false v).str?

/-- The name of a cell. -/
def cellName (address : Nat) : Eff String := do Eff.ofExcept ((← get).str? (.cell address))

/-- A text cut to a length: a longer one loses its end and three characters more, for three points. -/
def shorten (limit : Int) (text : String) : String :=
  let size : Int := text.length
  if size > limit then
    let keep := limit - 3
    let kept := if keep < 0 then max 0 (size + keep) else keep
    String.ofList (text.toList.take kept.toNat) ++ "..."
  else text

/-- The most characters of a description in a message. -/
def descriptionLimit : Int := 80

/-- **The short text that names a node in messages.** -/
def describe? (w : World) (v : Value) : Except Complaint String :=
  (w.repr? v).map (shorten descriptionLimit)

end World
end EffectGraph
