import EffectGraph.Spelling

/-!
# Equality

`World.equal?` is equality of contents: numbers and truth values by their amount, texts, sequences,
dictionaries, outcomes and reports of runs by their parts, and everything else by identity.  Two
parts are equal also when they are one and the same thing, so a container is equal to itself even if
it holds a number that is not equal to itself.  Containers that hold themselves cannot be compared
to the end, so the depth of a comparison is bounded.
-/

namespace EffectGraph
namespace World

/-- The deepest nesting of containers that is compared. -/
def comparisonDepth : Nat := 900

/-- Are two ranges the same sequence of numbers? -/
def rangesEqual (a b c d : Int) : Bool :=
  if a < b then c < d && a == c && b == d else !(c < d)

/-- Are two parts the same or equal? -/
def partsEqual (equal : Value → Value → Except Complaint Bool) (a b : Value) :
    Except Complaint Bool :=
  if a.isSame b then .ok true else equal a b

/-- Are two rows equal, part by part? -/
def rowsEqual (equal : Value → Value → Except Complaint Bool) :
    List Value → List Value → Except Complaint Bool
  | [], [] => .ok true
  | a :: as, b :: bs => do if ← partsEqual equal a b then rowsEqual equal as bs else return false
  | _, _ => .ok false

/-- The entry of a key among some entries. -/
def findEntry (equal : Value → Value → Except Complaint Bool) (key : Value) :
    List (Value × Value) → Except Complaint (Option (Value × Value))
  | [] => .ok none
  | e :: rest => do if ← partsEqual equal e.1 key then return some e else findEntry equal key rest

/-- Does every entry of the first dictionary stand in the second one too? -/
def entriesWithin (equal : Value → Value → Except Complaint Bool) (other : List (Value × Value)) :
    List (Value × Value) → Except Complaint Bool
  | [] => .ok true
  | (key, value) :: rest => do
    match ← findEntry equal key other with
    | some (_, there) =>
      if ← partsEqual equal there value then entriesWithin equal other rest else return false
    | none => return false

/-- Have two dictionaries the same entries, in any order? -/
def dictsEqual (equal : Value → Value → Except Complaint Bool) (a b : List (Value × Value)) :
    Except Complaint Bool :=
  if a.length == b.length then entriesWithin equal b a else .ok false

/-- What a view of a dictionary shows, part by part, and its own entries. -/
def viewOf? (w : World) : Value → Option (View × List (Value × Value))
  | .view _ .values _ => none
  | .view _ kind source => some (kind, (w.entriesOf? source).getD [])
  | _ => none

/-- Does every part in the first view stand in the second one too? -/
def viewWithin (equal : Value → Value → Except Complaint Bool) (kind other : View)
    (there : List (Value × Value)) : List (Value × Value) → Except Complaint Bool
  | [] => .ok true
  | (key, value) :: rest => do
    let found ← match kind, other with
      | .items, .items => entriesWithin equal there [(key, value)]
      | .items, _ => pure (← findEntry equal (.ofItems [key, value]) there).isSome
      | _, .items =>
        match key with
        | .tuple _ [k, v] => entriesWithin equal there [(k, v)]
        | _ => pure false
      | _, _ => pure (← findEntry equal key there).isSome
    if found then viewWithin equal kind other there rest else return false

/-- The fields of a record that is compared by them, under the name of its class. -/
def recordOf? (w : World) : Value → Option (String × List Value)
  | .ok _ v => some ("Ok", [v])
  | .err _ e => some ("Err", [e])
  | .stats address => some ("InterpretationStats", (w.statsAt address).toList)
  | .runState address =>
    let s := w.runStateAt address
    some ("InterpreterState", [s.current, s.stack, s.stats])
  | .runResult _ r s f => some ("RunResult", [r, s, f])
  | _ => none

/-- Are two values equal, if nesting goes no deeper than `depth`? -/
def equalWithin (w : World) : Nat → Value → Value → Except Complaint Bool
  | 0, _, _ => .error .tooDeep
  | depth + 1, a, b =>
    let equal := w.equalWithin depth
    match Number.ofCounting? a, Number.ofCounting? b with
    | some m, some n => .ok (m.equal n)
    | _, _ =>
      match a, b with
      | .tuple _ xs, .tuple _ ys => rowsEqual equal xs ys
      | .list x, .list y => rowsEqual equal (w.listItems x).toList (w.listItems y).toList
      | .deque x, .deque y => rowsEqual equal (w.dequeAt x).items (w.dequeAt y).items
      | .range _ a b, .range _ c d => .ok (rangesEqual a b c d)
      | .method _ r m, .method _ r' m' => .ok (m == m' && r.isSame r')
      | a, b =>
        match w.entriesOf? a, w.entriesOf? b with
        | some xs, some ys => dictsEqual equal xs ys
        | _, _ =>
          match w.recordOf? a, w.recordOf? b, w.viewOf? a, w.viewOf? b with
          | some (c, xs), some (d, ys), _, _ =>
            if c == d then rowsEqual equal xs ys else .ok false
          | _, _, some (kind, xs), some (other, ys) =>
            if xs.length == ys.length then viewWithin equal kind other ys xs else .ok false
          | _, _, _, _ => .ok (a.isSame b)

/-- **Are two values equal?** -/
def equal? (w : World) (a b : Value) : Except Complaint Bool :=
  w.equalWithin comparisonDepth a b

end World
end EffectGraph
