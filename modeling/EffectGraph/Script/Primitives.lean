import EffectGraph.Script.Library
import EffectGraph.Script.Methods

/-!
# Primitives

The built-in operations of the scripting language on values that are already computed.
-/

namespace EffectGraph
namespace Script

/-! ## Numbers and comparisons -/

/-- A list made of the items of two lists. -/
def joinLists (a b : Nat) : Eff Value := do
  World.newList ((← settledItems a) ++ (← settledItems b))

/-- An operation on two numbers, refused on anything else. -/
def onNumbers (word : String) (run : Number → Number → Except Complaint Number) (a b : Value) :
    Eff Value :=
  match Number.ofValue? a, Number.ofValue? b with
  | some x, some y => do return (← Eff.ofExcept (run x y)).toValue
  | _, _ => Eff.complain (.badOperands word)

/-- The sum of two numbers, or two texts or lists joined. -/
def addValues (a b : Value) : Eff Value :=
  match a, b with
  | .str s, .str t => pure (.str (s ++ t))
  | .list x, .list y => joinLists x y
  | a, b => onNumbers "+" Number.add a b

/-- Is the first number or text smaller? -/
def lessValues (a b : Value) : Eff Value :=
  match a, b with
  | .str s, .str t => pure (.bool (s < t))
  | a, b =>
    match Number.ofValue? a, Number.ofValue? b with
    | some x, some y => pure (.bool (x.less y))
    | _, _ => Eff.complain (.badOperands "<")

/-- An operation of division on whole numbers. -/
def divideValues (word : String) (run : Int → Int → Int) (a b : Value) : Eff Value :=
  match a, b with
  | .int _, .int 0 => Eff.complain .divisionByZero
  | .int x, .int y => pure (.int (run x y))
  | _, _ => Eff.complain (.badOperands word)

/-- The product of two nodes, or a number to the power of another; anything else has none. -/
def powerValues (a b : Value) : Eff Value := do
  let result ← match Number.ofCounting? a, Number.ofCounting? b with
    | some x, some y => do pure ((← Eff.ofExcept (x.power? y)).map Number.toValue)
    | _, _ => pure (if a.isNode then Graph.pair? a b else none)
  match result with
  | some found => return found
  | none => Eff.complain (.cannotPair a.typePath b.typePath)

/-! ## Data -/

/-- The keys and values that stand in turn in a row. -/
def inPairs : List Value → List (Value × Value)
  | key :: value :: rest => (key, value) :: inPairs rest
  | _ => []

/-- A function applied a number of times, each time to what it gave before. -/
def iterateCall (h : Host) (f : Value) : Nat → Value → Eff Value
  | 0, v => pure v
  | n + 1, v => do iterateCall h f n (← h.call f [v] [])

/-- Writes what a value is now into the log. -/
def logValue (v : Value) : Eff Unit := do
  let d := (← get).spell v
  match d.refusal? with
  | some c => Eff.complain c
  | none => modify fun w => { w with log := w.log.push d }

/-- How often something has been counted. -/
def countOf (key : Value) : Eff Value := do valueOr (← get).counters.entries key (.int 0)

/-- Counts something once more. -/
def countUp (key : Value) : Eff Value := do
  let count ← countOf key
  let next ← Eff.ofExcept (Arithmetic.addNumber "+" count (.int 1))
  let w ← get
  set { w with counters := ← Eff.ofExcept (putEntry w w.counters key next) }
  return next

/-- A value as the name of something that is looked up. -/
def nameOf (v : Value) : Eff String := do Eff.ofExcept ((← get).str? v)

/-- The kind of fault of a given name. -/
def kindOf (kind : Value) : Eff FaultKind := do
  let name ← nameOf kind
  match FaultKind.ofName? name with
  | some k => return k
  | none => Eff.complain (.unbound name)

/-- Does a value meet the contract of a given name? -/
def meetsContract (v : Value) (contract : String) : Eff Bool := do
  let asked := match contract with
    | "LineReader" => ["read_line"]
    | "LineWriter" => ["write_line"]
    | _ => ["read_line", "write_line"]
  asked.allM (offers v)

/-- Is a value an instance of what the library has under a name? -/
def isVariant (v name : Value) : Eff Bool := do
  match ← libraryValue (← nameOf name) with
  | .blueprint cls => if cls.isContract then meetsContract v cls.name else return v.isInstance cls
  | .constant .frameType =>
    return v.isInstance .continuationFrame || v.isInstance .recoverFrame
  | .constant .generatorType =>
    Eff.complain (.arguments "isinstance() argument 2 cannot be a parameterized generic")
  | _ =>
    Eff.complain (.arguments "isinstance() arg 2 must be a type, a tuple of types, or a union")

/-- The scripted console that every session has. -/
def sessionConsole : Value := .scripted 0

/-- The stream console that every session has. -/
def sessionStream : Value := .stream 2 .none .none

/-- **Runs a primitive** on values. -/
def runPrimitive (h : Host) (op : Primitive) (args : List Value) (keywords : Keywords) :
    Eff Value := do
  match op, args with
  | .add, [a, b] => addValues a b
  | .subtract, [a, b] => onNumbers "-" Number.subtract a b
  | .multiply, [a, b] => onNumbers "*" Number.multiply a b
  | .less, [a, b] => lessValues a b
  | .floorDivide, [a, b] => divideValues "//" Int.fdiv a b
  | .modulo, [a, b] => divideValues "%" Int.fmod a b
  | .equal, [a, b] => return .bool (← Eff.ofExcept ((← get).equal? a b))
  | .same, [a, b] => return .bool (a.isSame b)
  | .not, [a] => return .bool (!(← get).isTruthy a)
  | .truthy, [a] => return .bool ((← get).isTruthy a)
  | .power, [a, b] => powerValues a b
  | .list, items => World.newList items.toArray
  | .tuple, items => return .ofItems items
  | .dict, items => do
    let address ← World.newDictAddress
    putAllInto address (inPairs items)
    return .dict address
  | .range, [n] => return .range 0 0 (← Eff.ofExcept (rangeBound n))
  | .range, [a, b] =>
    return .range 0 (← Eff.ofExcept (rangeBound a)) (← Eff.ofExcept (rangeBound b))
  | .length, [v] => return .int (← Eff.ofExcept ((← get).length? v))
  | .index, [v, i] => indexValue v i
  | .append, [.list address, v] =>
    World.pushItem address v
    return v
  | .append, [v, item] =>
    let _ ← h.callMethod v "append" [item]
    return item
  | .circular, [] =>
    let address ← World.newListAddress
    World.pushItem address (.list address)
    return .list address
  | .str, [v] => return .str (← Eff.ofExcept ((← get).str? v))
  | .repr, [v] => return .str (← Eff.ofExcept ((← get).repr? v))
  | .upper, [.str s] => return .str (Capital.text s)
  | .upper, [v] => Eff.complain (.notReceiver "upper" "str" v.typePath)
  | .typeName, [v] => return .str v.typeName
  | .int, [v] => Reading.int v
  | .float, [v] => Reading.float v
  | .iter, [v] => do World.newIterator (.indexed v 0 (← Eff.ofExcept ((← get).length? v)))
  | .lazy, [n, f] => World.newIterator (.lazy 0 n f)
  | .relazy, [n, f] => return .relazy 0 n f
  | .iterate, [n, v, f] => iterateCall h f (← Eff.ofExcept (rangeBound n)).toNat v
  | .log, [v] =>
    logValue v
    return v
  | .log, [v, result] =>
    logValue v
    return result
  | .count, [key] => countUp key
  | .counted, [key] => countOf key
  | .fault, kind :: rest => do return .fault (← buildFault (← kindOf kind) rest keywords)
  | .raise, [v] => raiseValue v
  | .isInstance, [v, kind] => do
    let kind ← kindOf kind
    return .bool (match v with
      | .fault f => f.kind.isA kind
      | _ => false)
  | .isVariant, [v, name] => return .bool (← isVariant v name)
  | .isProtocol, [v, name] => return .bool (← isVariant v name)
  | .call, f :: rest => h.call f rest keywords
  | .preset, f :: rest => do Eff.ofExcept ((← get).preset f rest keywords)
  | .getAttribute, [v, name] => do readAttribute v (← attributeName name)
  | .setAttribute, [v, name, value] =>
    assignAttribute v (← attributeName name) value
    return .none
  | .setItem, [v, key, value] => do h.call (← readAttribute v "__setitem__") [key, value] []
  | .console, [] => return sessionConsole
  | .stream, [] => return sessionStream
  | .alien, [] => return .ofNode (.foreign "Alien")
  | op, args => Eff.complain (.arguments (op.word ++ " cannot take " ++ args.length.repr ++
      " argument(s)"))

end Script
end EffectGraph
