import EffectGraph.Equality

/-!
# Order

`World.compare?` is the order of the language: numbers by their amount, texts by their characters,
rows by the first items that differ, and the keys or entries of dictionaries by inclusion.  All other
values have no order, and asking for it is refused.
-/

namespace EffectGraph

/-- The ways in which one value can stand before or behind another. -/
inductive Comparison where
  | less | lessOrEqual | greater | greaterOrEqual
  deriving DecidableEq, Repr

namespace Comparison

/-- The sign of a comparison. -/
def symbol : Comparison → String
  | less => "<" | lessOrEqual => "<=" | greater => ">" | greaterOrEqual => ">="

/-- Does a comparison hold, given which of two things is less and whether they are equal? -/
def holds (c : Comparison) (isLess isGreater isEqual : Bool) : Bool :=
  match c with
  | less => isLess
  | lessOrEqual => isLess || isEqual
  | greater => isGreater
  | greaterOrEqual => isGreater || isEqual

/-- Does a comparison hold of two numbers? -/
def ofNumbers (c : Comparison) (m n : Number) : Bool := c.holds (m.less n) (n.less m) (m.equal n)

/-- Does a comparison hold of two texts? -/
def ofTexts (c : Comparison) (s t : String) : Bool := c.holds (s < t) (t < s) (s == t)

/-- Does a comparison hold of two lengths? -/
def ofLengths (c : Comparison) (m n : Nat) : Bool := c.holds (m < n) (n < m) (m == n)

/-- Is this a comparison with something larger? -/
def isUpward : Comparison → Bool
  | less | lessOrEqual => true
  | greater | greaterOrEqual => false

end Comparison

namespace World

/-- Does a comparison hold of two rows?  The first items that differ decide, or else the lengths. -/
def compareRows (c : Comparison) (equal compare : Value → Value → Except Complaint Bool) :
    List Value → List Value → Except Complaint Bool
  | a :: as, b :: bs => do
    if ← partsEqual equal a b then compareRows c equal compare as bs else compare a b
  | as, bs => .ok (c.ofLengths as.length bs.length)

/-- Does a comparison hold, if nesting goes no deeper than `depth`? -/
def compareWithin (w : World) (c : Comparison) : Nat → Value → Value → Except Complaint Bool
  | 0, _, _ => .error .tooDeep
  | depth + 1, a, b =>
    let equal := w.equalWithin depth
    let rows := compareRows c equal (w.compareWithin c depth)
    match Number.ofCounting? a, Number.ofCounting? b with
    | some m, some n => .ok (c.ofNumbers m n)
    | _, _ =>
      match a, b with
      | .str s, .str t => .ok (c.ofTexts s t)
      | .tuple _ xs, .tuple _ ys => rows xs ys
      | .list x, .list y => rows (w.listItems x).toList (w.listItems y).toList
      | .deque x, .deque y => rows (w.dequeAt x).items (w.dequeAt y).items
      | a, b =>
        match w.viewOf? a, w.viewOf? b with
        | some (kind, xs), some (other, ys) =>
          if !c.ofLengths xs.length ys.length then .ok false
          else if c.isUpward then viewWithin equal kind other ys xs
          else viewWithin equal other kind xs ys
        | _, _ => .error (.notOrdered c.symbol a.typePath b.typePath)

/-- **Does a comparison hold of two values?** -/
def compare? (w : World) (c : Comparison) (a b : Value) : Except Complaint Bool :=
  w.compareWithin c comparisonDepth a b

/-- Is the first value smaller? -/
def less? (w : World) (a b : Value) : Except Complaint Bool := w.compare? .less a b

end World
end EffectGraph
