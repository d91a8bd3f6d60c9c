import EffectGraph.Order
import EffectGraph.Sorting
import EffectGraph.Script.Functions
import EffectGraph.Script.Windows

/-!
# Methods of rows

What the methods of lists, tuples, ranges and rows that grow at both ends do.  What is added from an
iterable is added item by item as it comes, so what was added stays if the iterable fails.
-/

namespace EffectGraph
namespace Script

/-! ## What all rows offer -/

/-- The place of a value in a window of a row, which has to be there. -/
def findItem (absent : Eff String) (v : Value) (items : List Value) (first last : Option Value) :
    Eff Nat := do
  match ← Eff.ofExcept (placeWithin? (← get) v items first last) with
  | some place => return place
  | none => Eff.complain (.badValue (← absent))

/-- What is said of a value that is not in a row of a given name. -/
def notIn (row : String) (v : Value) : Eff String := do
  return (← Eff.ofExcept ((← get).repr? v)) ++ " is not in " ++ row

/-- How often a value stands in a row. -/
def countItem (v : Value) (items : List Value) : Eff Value := do
  return .int (← Eff.ofExcept (countIn (← get) v items))

/-- Does something with each item that an iterator gives, `left` bounding their number. -/
def forEachPulled (h : Host) (iterator : Value) (act : Value → Eff Unit) : Nat → Eff Unit
  | 0 => Eff.exhausted
  | left + 1 => do
    match ← h.pull iterator with
    | none => return ()
    | some item =>
      act item
      forEachPulled h iterator act left

/-! ## Lists -/

/-- Adds the items of an iterable to a list. -/
def extendList (h : Host) (fuel address : Nat) (source : Value) : Eff Unit := do
  match source with
  | .list _ | .tuple _ _ =>
    let added ← elements h fuel source
    World.setItems address ((← settledItems address) ++ added.toArray)
  | source => forEachPulled h (← h.openIterator source) (World.pushItem address) fuel

/-- The items of a list in order, by themselves or by what a function makes of them, or a refusal with
the items as far as they are sorted. -/
def sortedItems (h : Host) (key : Value) (descending : Bool) (items : List Value) :
    Eff (Except (Complaint × List Value) (List Value)) := do
  let keys ← match key with
    | .none => pure items
    | f => items.mapM fun item => h.call f [item] []
  let w ← get
  let turned {α : Type} (row : List α) : List α := if descending then row.reverse else row
  let itemsOf (row : List (Value × Value)) : List Value := turned (row.map (·.2))
  return match Sorting.sort (fun a b => w.less? a.1 b.1) (turned (keys.zip items)) with
    | .ok row => .ok (itemsOf row)
    | .error (c, row) => .error (c, itemsOf row)

/-- Sorts a list.  Meanwhile it is empty, and has to stay so. -/
def sortList (h : Host) (address : Nat) (key descending : Option Value) : Eff Value := do
  let descending ← Eff.ofExcept (halfWordOf (descending.getD (.int 0)))
  let items ← settledItems address
  World.setItems address #[]
  let sorted ← Eff.attempt (sortedItems h (key.getD .none) (descending != 0) items.toList)
  let kept := (← World.listSize address) == 0
  match sorted with
  | .ok (.ok sorted) =>
    World.setItems address sorted.toArray
    if kept then return .none else Eff.complain (.badValue "list modified during sort")
  | .ok (.error (c, items)) =>
    World.setItems address items.toArray
    Eff.complain c
  | .error fault =>
    World.setItems address items
    Eff.raise fault

/-- **Runs a method of a list** on its arguments. -/
def runListMethod (h : Host) (fuel : Nat) (word : String) (address : Nat)
    (places : List (Option Value)) : Eff Value := do
  let items ← settledItems address
  match word, places with
  | "append", [some v] =>
    World.pushItem address v
    return .none
  | "clear", _ =>
    World.setItems address #[]
    return .none
  | "copy", _ => World.newList items
  | "count", [some v] => countItem v items.toList
  | "extend", [some v] =>
    extendList h fuel address v
    return .none
  | "index", [some v, first, last] =>
    return .int (← findItem (notIn "list" v) v items.toList first last)
  | "insert", [some index, some v] =>
    let place := min items.size (placeFromEnd items.size (← Eff.ofExcept (wordOf index)))
    World.setItems address (items.insertIdxIfInBounds place v)
    return .none
  | "pop", [index] => popItem address (index.getD (.int (-1)))
  | "remove", [some v] =>
    let place ← findItem (pure "list.remove(x): x not in list") v items.toList none none
    World.setItems address (items.eraseIdxIfInBounds place)
    return .none
  | "reverse", _ =>
    World.setItems address items.reverse
    return .none
  | "sort", [key, descending] => sortList h address key descending
  | word, _ => missing (.list address) word

/-! ## Rows that grow at both ends -/

/-- A row turned by some places, the last items coming to its front. -/
def rotated (items : List Value) (places : Int) : List Value :=
  let cut := ((items.length : Int) - places) % items.length
  items.drop cut.toNat ++ items.take cut.toNat

/-- Adds the items of an iterable to a row, one by one. -/
def extendDeque (h : Host) (fuel address : Nat) (source : Value)
    (add : List Value → Value → List Value) : Eff Unit := do
  let source ← match source with
    | .deque other =>
      if other == address then World.newList ((← get).dequeAt address).items.toArray
      else pure source
    | source => pure source
  forEachPulled h (← h.openIterator source)
    (fun item => do World.changeDeque address (add ((← get).dequeAt address).items item)) fuel

/-- **Runs a method of a row** that grows at both ends on its arguments. -/
def runDequeMethod (h : Host) (fuel : Nat) (word : String) (address : Nat)
    (places : List (Option Value)) : Eff Value := do
  let items := ((← get).dequeAt address).items
  let change (items : List Value) : Eff Value := do
    World.changeDeque address items
    return .none
  match word, places with
  | "append", [some v] => change (items ++ [v])
  | "appendleft", [some v] => change (v :: items)
  | "clear", _ => if items.isEmpty then return .none else change []
  | "copy", _ => World.newDeque items
  | "count", [some v] => countItem v items
  | "extend", [some v] =>
    extendDeque h fuel address v fun items item => items ++ [item]
    return .none
  | "extendleft", [some v] =>
    extendDeque h fuel address v fun items item => item :: items
    return .none
  | "index", [some v, first, last] =>
    return .int (← findItem (notIn "deque" v) v items first last)
  | "insert", [some index, some v] =>
    let place := min items.length (placeFromEnd items.length (← Eff.ofExcept (wordOf index)))
    change (items.insertIdx place v)
  | "pop", _ =>
    match items.getLast? with
    | none => Eff.complain .emptyDequePop
    | some item =>
      let _ ← change items.dropLast
      return item
  | "popleft", _ => Console.takeFirst h (.deque address)
  | "remove", [some v] =>
    let place ← findItem (notIn "deque" v) v items none none
    change (items.eraseIdx place)
  | "reverse", _ =>
    World.setDequeItems address items.reverse
    return .none
  | "rotate", [places] =>
    let places ← Eff.ofExcept (wordOf (places.getD (.int 1)))
    if items.length ≤ 1 then return .none else change (rotated items places)
  | word, _ => missing (.deque address) word

/-! ## Rows that cannot change -/

/-- Runs a method of a tuple on its arguments. -/
def runTupleMethod (word : String) (v : Value) (items : List Value) (places : List (Option Value)) :
    Eff Value := do
  match word, places with
  | "count", [some x] => countItem x items
  | "index", [some x, first, last] =>
    return .int (← findItem (pure "tuple.index(x): x not in tuple") x items first last)
  | word, _ => missing v word

/-- The number that equals a value in a range, if there is one. -/
def numberWithin? (first stop : Int) (v : Value) : Option Int :=
  let number :=
    match Number.ofCounting? v with
    | some (.int i) => some i
    | some (.float x) =>
      ((Binary64.truncate x).toOption).filter fun i => (Number.float x).equal (.int i)
    | none => none
  number.filter fun i => first ≤ i && i < stop

/-- Runs a method of a range on its arguments. -/
def runRangeMethod (word : String) (v : Value) (first stop : Int) (places : List (Option Value)) :
    Eff Value := do
  match word, places with
  | "count", [some x] => return .int (if (numberWithin? first stop x).isSome then 1 else 0)
  | "index", [some x] =>
    match numberWithin? first stop x, x with
    | some i, _ => return .int (i - first)
    | none, .int _ | none, .bool _ => Eff.complain (.badValue (← notIn "range" x))
    | none, _ => Eff.complain (.badValue "sequence.index(x): x not in sequence")
  | word, _ => missing v word

end Script
end EffectGraph
