import EffectGraph.Script.Classes
import EffectGraph.Script.RowMethods

/-!
# Methods of dictionaries

What the methods of dictionaries, frozen or not, and of the views of them do.  A frozen dictionary
stays as it is: what would change it makes another one or is refused.
-/

namespace EffectGraph
namespace Script

/-! ## Dictionaries that can change -/

/-- Takes the entry of a key out of a dictionary; without one there, a given value stands in. -/
def takeEntry (address : Nat) (key : Value) (absent : Option Value) : Eff Value := do
  let d := (← get).dictAt address
  let found ← if d.size == 0 then pure none else entryOf? d.entries key
  match found, absent with
  | some (known, value), _ =>
    World.setDict address (d.erase known)
    return value
  | none, some v => return v
  | none, none => noEntry key

/-- Takes the last entry out of a dictionary. -/
def takeLastEntry (address : Nat) : Eff Value := do
  let d := (← get).dictAt address
  match d.entries.getLast? with
  | some (key, value) =>
    World.setDict address d.dropLast
    return .ofItems [key, value]
  | none => noEntry (.str "popitem(): dictionary is empty")

/-- The value of a key, put into the dictionary if there is none. -/
def valueOrPut (address : Nat) (key absent : Value) : Eff Value := do
  let d := (← get).dictAt address
  match ← entryOf? d.entries key with
  | some (_, value) => return value
  | none =>
    World.setDict address (d.add key absent)
    return absent

/-- A new dictionary that holds one value under all keys that an iterable gives. -/
def dictOfKeys (h : Host) (fuel : Nat) (keys value : Value) : Eff Nat := do
  let address ← World.newDictAddress
  forEachPulled h (← h.openIterator keys) (fun key => putInto address key value) fuel
  return address

/-- **Runs a method of a dictionary** on its arguments. -/
def runDictMethod (h : Host) (fuel : Nat) (word : String) (address : Nat)
    (places : List (Option Value)) (named : Keywords) : Eff Value := do
  let dict := Value.dict address
  match word, places with
  | "get", [some key, absent] => valueOr ((← get).dictEntries address) key (absent.getD .none)
  | "copy", _ => World.newDict ((← get).dictEntries address)
  | "pop", [some key, absent] => takeEntry address key absent
  | "popitem", _ => takeLastEntry address
  | "clear", _ =>
    World.setDict address .empty
    return .none
  | "setdefault", [some key, absent] => valueOrPut address key (absent.getD .none)
  | "update", [source] =>
    updateDict h fuel address source named
    return .none
  | "fromkeys", [some keys, value] =>
    return .dict (← dictOfKeys h fuel keys (value.getD .none))
  | "keys", _ => return .view 0 .keys dict
  | "values", _ => return .view 0 .values dict
  | "items", _ => return .view 0 .items dict
  | word, _ => missing dict word

/-! ## Frozen dictionaries -/

/-- Some entries without the one of a known key. -/
def withoutKey (entries : List (Value × Value)) (known : Value) : List (Value × Value) :=
  entries.filter fun e => !e.1.isSame known

/-- The key, value or entry of a frozen dictionary at an index, the first one if none is given. -/
def partAt (kind : View) (entries : List (Value × Value)) (index : Option Value) : Eff Value := do
  let index := index.getD (.int 0)
  match ← Eff.attempt (itemOf (.named "tuple") (entries.map (partOf kind)) index) with
  | .ok found => return found
  | .error f =>
    if !f.kind.isA .indexError then Eff.raise f
    let shown ← Eff.ofExcept ((← get).str? index)
    Eff.complain (.noEntryAt shown (entries.length - 1))

/-- Runs a method that frozen dictionaries have instead of those that would change them. -/
def runFrozenMethod (m : Method) (v : Value) (places : List (Option Value)) : Eff Value := do
  let entries := ((← get).entriesOf? v).getD []
  match m, places with
  | .putFrozen, [some key, some value] =>
    let d ← Eff.ofExcept (putEntry (← get) (.ofEntries entries) key value)
    return .frozenDict 0 d.entries
  | .deleteFrozen, [some key] =>
    match ← entryOf? entries key with
    | some (known, _) => return .frozenDict 0 (withoutKey entries known)
    | none => noEntry key
  | .setDefaultFrozen, [some key, absent] =>
    match ← entryOf? entries key with
    | some _ => return v
    | none => return .frozenDict 0 (entries ++ [(key, absent.getD .none)])
  | .copyFrozen, _ => return v
  | .keyAt, [index] => partAt .keys entries index
  | .valueAt, [index] => partAt .values entries index
  | .itemAt, [index] => partAt .items entries index
  | m, _ => if m.isRefusal then Eff.complain .frozenObject else missing v m.word

/-- Runs a method that frozen dictionaries share with others. -/
def runSharedMethod (h : Host) (fuel : Nat) (word : String) (v : Value)
    (places : List (Option Value)) : Eff Value := do
  let entries := ((← get).entriesOf? v).getD []
  match word, places with
  | "get", [some key, absent] => valueOr entries key (absent.getD .none)
  | "fromkeys", [some keys, value] =>
    let address ← dictOfKeys h fuel keys (value.getD .none)
    return .frozenDict 0 ((← get).dictEntries address)
  | "keys", _ => return .view 0 .keys v
  | "values", _ => return .view 0 .values v
  | "items", _ => return .view 0 .items v
  | word, _ => missing v word

/-! ## Views -/

/-- Does a view of keys or entries show a value? -/
def shows (kind : View) (entries : List (Value × Value)) (v : Value) : Eff Bool := do
  match kind, v with
  | .items, .tuple _ [key, value] =>
    match ← entryOf? entries key with
    | none => return false
    | some (_, there) =>
      let equal := (← get).equalWithin World.comparisonDepth
      Eff.ofExcept (World.partsEqual equal there value)
  | .items, _ => return false
  | _, v => return (← entryOf? entries v).isSome

/-- Do some entries show nothing that an iterator gives, `left` bounding the number of pulls? -/
def showsNone (h : Host) (kind : View) (entries : List (Value × Value)) (iterator : Value) :
    Nat → Eff Bool
  | 0 => Eff.exhausted
  | left + 1 => do
    match ← h.pull iterator with
    | none => return true
    | some v => if ← shows kind entries v then return false else showsNone h kind entries iterator left

/-- **Runs a method of a view** on its arguments.  Of two views the larger one is asked for what the
smaller one shows. -/
def runViewMethod (h : Host) (fuel : Nat) (word : String) (v : Value) (places : List (Option Value)) :
    Eff Value := do
  match word, places, (← get).viewOf? v with
  | "isdisjoint", [some other], some (kind, entries) =>
    if v.isSame other then return .bool entries.isEmpty
    match (← get).viewOf? other with
    | some (otherKind, others) =>
      if others.length > entries.length then
        return .bool (← showsNone h otherKind others (← h.openIterator v) fuel)
    | none => pure ()
    return .bool (← showsNone h kind entries (← h.openIterator other) fuel)
  | word, _, _ => missing v word

end Script
end EffectGraph
