import EffectGraph.Script.Indexing

/-!
# Windows of a row

Searching a row may be limited to a window of it, from one place to before another, both counted from
the end if they are negative.  A window that reaches beyond the row is cut off there.
-/

namespace EffectGraph
namespace Script

/-- The place that an index means in a row of the given size, which may lie behind its end. -/
def placeFromEnd (size : Nat) (index : Int) : Nat := (if index < 0 then index + size else index).toNat

/-- One end of a window; if it is left out another one stands in.  Where `orNone` says so it may also
be given as none. -/
def windowEnd (orNone : Bool) (absent : Int) (given : Option Value) : Except Complaint Int :=
  match given.filter fun v => !(orNone && v matches .none) with
  | none => .ok absent
  | some v =>
    match Number.ofCounting? v with
    | some (.int i) => .ok i
    | _ => .error (.arguments ("slice indices must be integers " ++
        (if orNone then "or None " else "") ++ "or have an __index__ method"))

/-- **The window of a row of the given size:** the place of its first item, and that after its last
one. -/
def windowOf (orNone : Bool) (size : Nat) (first last : Option Value) :
    Except Complaint (Nat × Nat) := do
  let start ← windowEnd orNone 0 first
  let stop ← windowEnd orNone size last
  return (placeFromEnd size start, min size (placeFromEnd size stop))

/-- The place of the first item that equals a value, `place` being that of the first one. -/
def placeIn? (w : World) (v : Value) : Nat → List Value → Except Complaint (Option Nat)
  | _, [] => .ok none
  | place, item :: rest => do
    if ← World.partsEqual (w.equalWithin World.comparisonDepth) item v then return some place
    else placeIn? w v (place + 1) rest

/-- The place of the first item in a window that equals a value. -/
def placeWithin? (w : World) (v : Value) (items : List Value) (first last : Option Value) :
    Except Complaint (Option Nat) := do
  let (start, stop) ← windowOf false items.length first last
  placeIn? w v start ((items.take stop).drop start)

/-- The number of items that equal a value. -/
def countIn (w : World) (v : Value) (items : List Value) : Except Complaint Nat := do
  let found ← items.filterM (World.partsEqual (w.equalWithin World.comparisonDepth) · v)
  return found.length

end Script
end EffectGraph
