import EffectGraph.Equality
import EffectGraph.Script.Settling

/-!
# Items by index and entries by key

An item of a row is found by a whole number, counted from the end if it is negative; an entry of a
dictionary by any key that can be one.  What can change is no key.  Every kind of row complains about
a bad index in words of its own.
-/

namespace EffectGraph
namespace Script

/-! ## Rows -/

/-- What complains about an index in a row. -/
structure RowWording where
  /-- The index is no whole number. -/
  notInteger : String → Complaint
  /-- There is no item at the index. -/
  outOfRange : Complaint
  /-- Has an index to be of the size of a machine word? -/
  bounded : Bool

/-- The wording for a row of the given name. -/
def RowWording.named (what : String) : RowWording :=
  ⟨.indexNotInteger what, .indexOutOfRange what, true⟩

/-- The wording for assigning to an item of a list. -/
def RowWording.listAssignment : RowWording :=
  ⟨.indexNotInteger "list", .indexOutOfRange "list assignment", true⟩

/-- The wording for texts. -/
def RowWording.text : RowWording := ⟨.textIndexNotInteger, .indexOutOfRange "string", true⟩

/-- The wording for rows that grow and shrink at both ends. -/
def RowWording.deque : RowWording := ⟨.dequeIndexNotInteger, .indexOutOfRange "deque", true⟩

/-- The wording for ranges. -/
def RowWording.range : RowWording :=
  ⟨.indexNotInteger "range", .indexOutOfRange "range object", false⟩

/-- Is a whole number too large for a machine word? -/
def exceedsWord (i : Int) : Bool := i > longestRow || i < -(longestRow : Int) - 1

/-- The place that an index means in a row of the given size, counted from the end if negative. -/
def placeOf (wording : RowWording) (size : Nat) (index : Value) : Except Complaint Nat :=
  match Number.ofCounting? index with
  | some (.int i) =>
    if wording.bounded && exceedsWord i then .error .indexTooLarge
    else
      let place := if i < 0 then i + size else i
      if 0 ≤ place && place < size then .ok place.toNat else .error wording.outOfRange
  | _ => .error (wording.notInteger index.typePath)

/-- The item of a row at an index. -/
def itemOf (wording : RowWording) (items : List Value) (index : Value) : Eff Value := do
  let place ← Eff.ofExcept (placeOf wording items.length index)
  return items[place]?.getD .none

/-- A whole number of the size of a machine word. -/
def wordOf (v : Value) : Except Complaint Int :=
  match Number.ofCounting? v with
  | some (.int i) => if exceedsWord i then .error .lengthTooLarge else .ok i
  | _ => .error (.notAnInteger v.typePath)

/-- A whole number of half the size of a machine word. -/
def halfWordOf (v : Value) : Except Complaint Int :=
  match Number.ofCounting? v with
  | some (.int i) => if i ≥ Int.pow 2 31 || i < -(Int.pow 2 31) then .error .exceedsWord else .ok i
  | _ => .error (.notAnInteger v.typePath)

/-! ## Dictionaries -/

/-- The first of some values that cannot be the key of a dictionary, by the name of its type.  What
cannot change can be a key if its parts can. -/
def unhashable? : Value → Option String
  | .list _ => some "list"
  | .dict _ => some "dict"
  | .stats _ => some "InterpretationStats"
  | .runState _ => some "InterpreterState"
  | .deque _ => some "collections.deque"
  | .view _ kind _ => if kind == .values then none else some kind.builtinType.name
  | .tuple _ items => unhashableAmong? items
  | .frozenDict _ entries => unhashableIn? entries
  | .ok _ v => unhashable? v
  | .err _ v => unhashable? v
  | .runResult _ r s f => (unhashable? r).or ((unhashable? s).or (unhashable? f))
  | _ => none
where
  /-- The first of some values that cannot be a key. -/
  unhashableAmong? : List Value → Option String
  | [] => none
  | v :: rest => (unhashable? v).or (unhashableAmong? rest)
  /-- The first value of some entries that cannot be a key. -/
  unhashableIn? : List (Value × Value) → Option String
  | [] => none
  | (_, v) :: rest => (unhashable? v).or (unhashableIn? rest)

/-- The entry of a key among some entries; what can change is no key. -/
def entryAmong? (w : World) (entries : List (Value × Value)) (key : Value) :
    Except Complaint (Option (Value × Value)) :=
  match unhashable? key with
  | some got => .error (.unhashable got)
  | none => World.findEntry (w.equalWithin World.comparisonDepth) key entries

/-- A dictionary with one more entry: a key given again keeps its place and takes the new value. -/
def putEntry (w : World) (d : Dictionary) (key value : Value) : Except Complaint Dictionary := do
  match ← entryAmong? w d.entries key with
  | some (known, _) => return d.replace known value
  | none => return d.add key value

/-- A dictionary with other entries put into it in order. -/
def putEntries (w : World) (d : Dictionary) : List (Value × Value) → Except Complaint Dictionary
  | [] => .ok d
  | (key, value) :: rest => do putEntries w (← putEntry w d key value) rest

/-- The entry of a key among some entries. -/
def entryOf? (entries : List (Value × Value)) (key : Value) : Eff (Option (Value × Value)) := do
  Eff.ofExcept (entryAmong? (← get) entries key)

/-- Refuses a key that a dictionary does not hold. -/
def noEntry {α : Type} (key : Value) : Eff α := Eff.raise ⟨.keyError, [key], .plain, 0⟩

/-- The value of a key, or else a given one. -/
def valueOr (entries : List (Value × Value)) (key absent : Value) : Eff Value := do
  return ((← entryOf? entries key).map (·.2)).getD absent

/-- The value of a key, which has to be there. -/
def valueOf (entries : List (Value × Value)) (key : Value) : Eff Value := do
  match ← entryOf? entries key with
  | some (_, value) => return value
  | none => noEntry key

/-! ## Any value -/

/-- **The item of a value at an index.** -/
def indexValue (v index : Value) : Eff Value := do
  match v with
  | .list address => itemOf (.named "list") (← settledItems address).toList index
  | .tuple _ items => itemOf (.named "tuple") items index
  | .str s =>
    let place ← Eff.ofExcept (placeOf .text s.length index)
    return .str (String.ofList ((s.toList.drop place).take 1))
  | .range _ a b =>
    return .int (a + (← Eff.ofExcept (placeOf .range (b - a).toNat index)))
  | .dict address => valueOf ((← get).dictEntries address) index
  | .frozenDict _ entries => valueOf entries index
  | .deque address => itemOf .deque ((← get).dequeAt address).items index
  | v => Eff.complain (.notSubscriptable v.typePath)

end Script
end EffectGraph
