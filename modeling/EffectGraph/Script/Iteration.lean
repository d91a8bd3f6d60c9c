import EffectGraph.Arithmetic
import EffectGraph.Host
import EffectGraph.Script.Indexing

/-!
# Iterating

Opening an iterable makes an iterator in the world; pulling moves it on.  A list is followed as it
is when an element is pulled, up to the first time that there is none; a dictionary has to keep its
size meanwhile, and a row that grows at both ends may not change at all; everything else is as it was
when it was opened.  A lazy iterator counts a pull before it computes the element, and ends when the
computation raises the end of iteration.  A generator is an iterator of what it yields.
-/

namespace EffectGraph
namespace Script

/-- The characters of a text, each as a text. -/
def characters (s : String) : List Value := s.toList.map fun c => .str (String.singleton c)

/-- The part of an entry that a view of a dictionary shows. -/
def partOf (kind : View) (entry : Value × Value) : Value :=
  match kind with
  | .keys => entry.1
  | .values => entry.2
  | .items => .ofItems [entry.1, entry.2]

/-- The elements of an iterable that can be listed without pulling. -/
def snapshot? (v : Value) : Eff (Option (List Value)) := do
  match v with
  | .list address => return some (← settledItems address).toList
  | .tuple _ items => return some items
  | .str s => return some (characters s)
  | .dict address => return some (((← get).dictEntries address).map (·.1))
  | .frozenDict _ entries => return some (entries.map (·.1))
  | .view _ kind source =>
    return some ((((← get).entriesOf? source).getD []).map (partOf kind))
  | .range _ a b =>
    let size := (b - a).toNat
    if size > longestRow then Eff.complain .lengthTooLarge
    return some ((List.range size).map fun (k : Nat) => .int (a + k))
  | .deque address => return some ((← get).dequeAt address).items
  | _ => return none

/-- A walk through a dictionary from its first entry. -/
def walkThrough (address : Nat) (kind : View) : Eff Value := do
  let size := ((← get).dictAt address).size
  World.newIterator (.entryAt address kind 0 size size)

/-- **Opens an iterable.** -/
def openIterable (v : Value) : Eff Value := do
  match v with
  | .list address => World.newIterator (.listAt address 0)
  | .dict address => walkThrough address .keys
  | .view _ kind (.dict address) => walkThrough address kind
  | .deque address => World.newIterator (.dequeAt address 0 ((← get).dequeAt address).changes)
  | .range _ a b => World.newIterator (.numbers a b)
  | .relazy _ count f => World.newIterator (.lazy 0 count f)
  | .iterator address => return .iterator address
  | .walker typeName address => return .walker typeName address
  | .generator address => return .generator address
  | v =>
    match ← snapshot? v with
    | some items => World.newIterator (.items items)
    | none => Eff.complain (.notIterable v.typePath)

/-- The next entry of a dictionary that is walked through, which has to have kept its size.  When all
entries that there were at first have been met, there may be no other. -/
def pullEntry (iterator address : Nat) (kind : View) (place left size : Nat) :
    Eff (Option Value) := do
  let d := (← get).dictAt address
  if d.size != size then
    World.setIterator iterator .lost
    Eff.complain .changedSize
  match d.nextFrom place, left with
  | none, _ =>
    World.setIterator iterator .finished
    return none
  | some _, 0 =>
    World.setIterator iterator .finished
    Eff.complain .changedKeys
  | some (entry, next), left + 1 =>
    World.setIterator iterator (.entryAt address kind next left size)
    return some (partOf kind entry)

/-- The value of a function at the next position. -/
def pullLazy (h : Host) (iterator position : Nat) (count f : Value) : Eff (Option Value) := do
  if ← Eff.ofExcept (Arithmetic.isAtLeast (.int position) count) then return none
  World.setIterator iterator (.lazy (position + 1) count f)
  match ← Eff.attempt (h.call f [.int position] []) with
  | .ok item => return some item
  | .error fault => if fault.kind.isA .stopIteration then return none else Eff.raise fault

/-- **Pulls the next element of an iterator.** -/
def pullIterator (h : Host) (iterator : Value) : Eff (Option Value) := do
  match iterator with
  | .iterator address | .walker _ address =>
    match (← get).iterators[address]?.getD .finished with
    | .finished => return none
    | .lost => Eff.complain .changedSize
    | .items [] => return none
    | .items (item :: rest) =>
      World.setIterator address (.items rest)
      return some item
    | .listAt list position =>
      match (← settledItems list)[position]? with
      | none =>
        World.setIterator address .finished
        return none
      | some item =>
        World.setIterator address (.listAt list (position + 1))
        return some item
    | .entryAt dict kind place left size => pullEntry address dict kind place left size
    | .dequeAt deque position changes =>
      let d := (← get).dequeAt deque
      if d.changes != changes then Eff.complain .changedRow
      match d.items[position]? with
      | none => return none
      | some item =>
        World.setIterator address (.dequeAt deque (position + 1) changes)
        return some item
    | .numbers next stop =>
      if next < stop then
        World.setIterator address (.numbers (next + 1) stop)
        return some (.int next)
      else return none
    | .lazy position count f => pullLazy h address position count f
    | .indexed source position size =>
      if position < size then
        World.setIterator address (.indexed source (position + 1) size)
        return some (← indexValue source (.int position))
      else return none
  | .generator address => do
    match ← h.send (.generator address) .none with
    | .yielded v => return some v
    | .returned _ => return none
  | v => Eff.complain (.notIterable v.typePath)

end Script
end EffectGraph
