import EffectGraph.Script.Comparing
import EffectGraph.Script.EntryMethods
import EffectGraph.Script.TextMethods

/-!
# Operators on rows and dictionaries

What the operators give that look into a row or a dictionary, change an item of it, or make a row out
of others, when they are called as methods.
-/

namespace EffectGraph
namespace Script

/-! ## Items -/

/-- The place that an index means in a row that grows at both ends. -/
def dequePlace (size : Nat) (index : Value) : Eff Nat := do
  match ← Eff.attempt (Eff.ofExcept (wordOf index)) with
  | .ok i => Eff.ofExcept (placeOf .deque size (.int i))
  | .error f => if f.kind == .overflowError then Eff.complain .indexExceedsWord else Eff.raise f

/-- The item of a row or the value of a key. -/
def itemAt (v key : Value) : Eff Value := do
  match v with
  | .deque address =>
    let items := ((← get).dequeAt address).items
    return items[← dequePlace items.length key]?.getD .none
  | v => indexValue v key

/-- Assigns to an item of a row or an entry of a dictionary. -/
def assignItem (v key value : Value) : Eff Unit := do
  match v with
  | .list address =>
    let items ← settledItems address
    let place ← Eff.ofExcept (placeOf .listAssignment items.size key)
    World.setItems address (items.setIfInBounds place value)
  | .dict address => putInto address key value
  | .deque address =>
    let items := ((← get).dequeAt address).items
    World.setDequeItems address (items.set (← dequePlace items.length key) value)
  | v => missing v "__setitem__"

/-- Removes an item of a row or an entry of a dictionary. -/
def removeItem (v key : Value) : Eff Unit := do
  match v with
  | .list address =>
    let items ← settledItems address
    World.setItems address
      (items.eraseIdxIfInBounds (← Eff.ofExcept (placeOf .listAssignment items.size key)))
  | .dict address =>
    let _ ← valueOf ((← get).dictEntries address) key
    let _ ← takeEntry address key none
  | .deque address =>
    let items := ((← get).dequeAt address).items
    World.changeDeque address (items.eraseIdx (← dequePlace items.length key))
  | v => missing v "__delitem__"

/-- Does a row or a dictionary hold a value? -/
def holdsItem (v item : Value) : Eff Bool := do
  let w ← get
  let among (items : List Value) : Eff Bool := do
    return (← Eff.ofExcept (placeIn? w item 0 items)).isSome
  match v with
  | .str s =>
    match item with
    | .str part => return (Pieces.place? part.toList s.toList).isSome
    | item => refuseType ("'in <string>' requires string as left operand, not " ++ item.typePath)
  | .list address => among (← settledItems address).toList
  | .tuple _ items => among items
  | .deque address => among (w.dequeAt address).items
  | .range _ a b => return (numberWithin? a b item).isSome
  | .view _ kind source => shows kind ((w.entriesOf? source).getD []) item
  | v =>
    match w.entriesOf? v with
    | some entries => return (← entryOf? entries item).isSome
    | none => missing v "__contains__"

/-! ## Iterators -/

/-- The name of the type of the iterators over a value. -/
def walkerName (v : Value) : String :=
  match v with
  | .list _ => "list_iterator"
  | .tuple _ _ => "tuple_iterator"
  | .str s => if s.toList.all (·.toNat < 128) then "str_ascii_iterator" else "str_iterator"
  | .range _ a b => if exceedsWord a || exceedsWord b then "longrange_iterator" else "range_iterator"
  | .deque _ => "_deque_iterator"
  | .view _ .values _ => "dict_valueiterator"
  | .view _ .items _ => "dict_itemiterator"
  | _ => "dict_keyiterator"

/-- The name of the type of the iterators over a value from its end. -/
def turnedWalkerName (v : Value) : String :=
  match v with
  | .list _ => "list_reverseiterator"
  | .deque _ => "_deque_reverse_iterator"
  | .view _ .values _ => "dict_reversevalueiterator"
  | .view _ .items _ => "dict_reverseitemiterator"
  | .range _ _ _ => walkerName v
  | _ => "dict_reversekeyiterator"

/-- An iterator over a value, which may be one itself. -/
def walkerOver (v : Value) : Eff Value := do
  let opened ← openIterable v
  match opened, v with
  | .iterator _, .iterator _ | .iterator _, .relazy _ _ _ => return opened
  | .iterator address, v => return .walker (walkerName v) address
  | opened, _ => return opened

/-- An iterator over a value from its end. -/
def turnedWalkerOver (v : Value) : Eff Value := do
  let items := (← snapshot? v).getD []
  match ← World.newIterator (.items items.reverse) with
  | .iterator address => return .walker (turnedWalkerName v) address
  | other => return other

/-- What a generator answers, as the result of a method: its end is the end of iteration. -/
def resumed (r : Resumption) : Eff Value :=
  match r with
  | .yielded v => pure v
  | .returned .none => Eff.raise ⟨.stopIteration, [], .plain, 0⟩
  | .returned v => Eff.raise ⟨.stopIteration, [v], .plain, 0⟩

/-- The next element of an iterator; its end is raised. -/
def nextOf (h : Host) (v : Value) : Eff Value := do
  match v, ← (if v matches .generator _ then pure none else h.pull v) with
  | .generator address, _ => resumed (← h.send (.generator address) .none)
  | _, some item => return item
  | _, none => Eff.raise ⟨.stopIteration, [], .plain, 0⟩

/-! ## Joining and repeating -/

/-- The most items that a row is made of. -/
def mostItems : Nat := Nat.pow 2 40

/-- How often a row is repeated; what it is repeated to has to be of a size that there can be. -/
def timesOf (v : Value) (size : Nat) (times : Value) : Eff Int := do
  match Number.ofCounting? times with
  | some (.int n) =>
    if exceedsWord n then Eff.complain (.overflow "cannot fit 'int' into an index-sized integer")
    if v matches .str _ then
      if n.toNat * size > longestRow then Eff.complain (.overflow "repeated string is too long")
    if n.toNat * size > mostItems then Eff.raise ⟨.memoryError, [], .plain, 0⟩
    return n
  | _ => Eff.complain (.notAnInteger times.typePath)

/-- A row repeated. -/
def repeatedRow (v times : Value) : Eff Value := do
  let times ← timesOf v (← Eff.ofExcept ((← get).length? v)) times
  match v with
  | .deque address =>
    World.newDeque (Arithmetic.repeated ((← get).dequeAt address).items times)
  | v => Arithmetic.multiply v (.int times)

/-- Two rows of one kind joined. -/
def joinedRows (a b : Value) : Eff Value := do
  match a, b with
  | .str s, .str t => return .str (s ++ t)
  | .list x, .list y => World.newList ((← settledItems x) ++ (← settledItems y))
  | .tuple _ xs, .tuple _ ys => return .ofItems (xs ++ ys)
  | .deque x, .deque y =>
    let w ← get
    World.newDeque ((w.dequeAt x).items ++ (w.dequeAt y).items)
  | a, b => Eff.complain (.cannotJoin a.typeName b.typePath)

/-- A row repeated in place. -/
def repeatInPlace (v times : Value) : Eff Value := do
  let times ← timesOf v (← Eff.ofExcept ((← get).length? v)) times
  match v with
  | .list address =>
    World.setItems address (Arithmetic.repeated (← settledItems address).toList times).toArray
  | .deque address =>
    World.changeDeque address (Arithmetic.repeated ((← get).dequeAt address).items times)
  | _ => pure ()
  return v

/-- A row with the items of an iterable added in place. -/
def extendInPlace (h : Host) (fuel : Nat) (v source : Value) : Eff Value := do
  match v with
  | .list address => extendList h fuel address source
  | .deque address => extendDeque h fuel address source fun items item => items ++ [item]
  | _ => pure ()
  return v

/-- A new dictionary of the entries of two others, those of the second one standing in. -/
def unitedDicts (a b : Value) : Eff Value := do
  let w ← get
  match w.entriesOf? a, w.entriesOf? b with
  | some xs, some ys =>
    let address ← World.newDictAddress
    putAllInto address (xs ++ ys)
    return .dict address
  | _, _ => return notApplied

/-! ## Sets -/

/-- Refuses values that cannot be members of a set. -/
def allHashable (items : List Value) : Eff Unit :=
  items.forM fun v =>
    match unhashable? v with
    | some got => Eff.complain (.unhashable got)
    | none => pure ()

/-- The operators that make a set of a view and another row. -/
def setOperators : List String :=
  (BuiltinType.onEitherSide ["and", "or", "xor", "sub"]).map (·.1)

/-- The set that a view makes with another row, if an operator makes one. -/
def setWith? (h : Host) (fuel : Nat) (word : String) (v : Value) (places : List (Option Value)) :
    Option (Eff Value) :=
  match v, places with
  | .view _ _ _, [some other] =>
    if setOperators.contains word then some do
      allHashable (← elements h fuel v)
      allHashable (← elements h fuel other)
      return .inert "set"
    else none
  | _, _ => none

/-! ## Running operators -/

/-- **Runs an operator of a row or a dictionary** on its operands, if there is one of that word. -/
def runRowOperator? (h : Host) (fuel : Nat) (word : String) (v : Value)
    (places : List (Option Value)) : Option (Eff Value) :=
  match word, places with
  | "__len__", _ => some do return .int (← Eff.ofExcept ((← get).length? v))
  | "__iter__", _ => some (walkerOver v)
  | "__next__", _ => some (nextOf h v)
  | "__reversed__", _ => some (turnedWalkerOver v)
  | "__contains__", [some item] => some do return .bool (← holdsItem v item)
  | "__getitem__", [some key] => some (itemAt v key)
  | "__setitem__", [some key, some value] => some do
    assignItem v key value
    return .none
  | "__delitem__", [some key] => some do
    removeItem v key
    return .none
  | "__add__", [some other] => some (joinedRows v other)
  | "__mul__", [some times] | "__rmul__", [some times] => some (repeatedRow v times)
  | "__iadd__", [some source] => some (extendInPlace h fuel v source)
  | "__imul__", [some times] => some (repeatInPlace v times)
  | "__or__", [some other] => some (unitedDicts v other)
  | "__ror__", [some other] => some (unitedDicts other v)
  | "__ior__", [some source] => some do
    if let .dict address := v then updateDict h fuel address (some source) []
    return v
  | "__copy__", _ => some do
    match v with
    | .deque address => World.newDeque ((← get).dequeAt address).items
    | v => return v
  | _, _ => none

end Script
end EffectGraph
