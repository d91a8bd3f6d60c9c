import EffectGraph.World

/-!
# The host

The library never looks inside the functions, iterables and generators that a script gives it.  It
reaches them through a `Host`: seven operations that may do anything to the world, return any value,
raise any fault or never return.  Whatever holds for every host holds for every script.
-/

namespace EffectGraph

/-- What a generator answers when a value is sent into it. -/
inductive Resumption where
  | yielded (value : Value)
  | returned (value : Value)

/-- The operations through which the library uses what scripts give it. -/
structure Host where
  /-- Calls a callable. -/
  call : Value → List Value → Keywords → Eff Value
  /-- Reads an attribute of an object. -/
  read : Value → String → Eff Value
  /-- Opens an iterable. -/
  openIterator : Value → Eff Value
  /-- Pulls the next element of an iterator; none at its end. -/
  pull : Value → Eff (Option Value)
  /-- Sends a value into a generator. -/
  send : Value → Value → Eff Resumption
  /-- Raises a fault inside a generator, or complains there about what is no fault. -/
  throw : Value → Except Complaint (Fault Value) → Eff Resumption
  /-- Closes a generator. -/
  close : Value → Eff Unit

namespace Host

/-- The host that has no fuel left. -/
def spent : Host where
  call := fun _ _ _ => Eff.exhausted
  read := fun _ _ => Eff.exhausted
  openIterator := fun _ => Eff.exhausted
  pull := fun _ => Eff.exhausted
  send := fun _ _ => Eff.exhausted
  throw := fun _ _ => Eff.exhausted
  close := fun _ => Eff.exhausted

/-- Calls what an object has under a name. -/
def callMethod (h : Host) (v : Value) (name : String) (args : List Value) : Eff Value := do
  h.call (← h.read v name) args []

/-- All elements of an iterator, `fuel` bounding their number, after those in `items`. -/
def drain (h : Host) : Nat → Value → Array Value → Eff (Array Value)
  | 0, _, _ => Eff.exhausted
  | fuel + 1, iterator, items => do
    match ← h.pull iterator with
    | none => return items
    | some item => h.drain fuel iterator (items.push item)

end Host
end EffectGraph
