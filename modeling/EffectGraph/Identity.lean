import EffectGraph.Value

/-!
# Identity

What tells one thing from another: `Value.identity?` gives the address, the name or the stamp of a
value, and `Value.isSame` compares two of them.  Plain data have no identity and are the same when
they are alike; a value that no script has seen is the same as nothing.
-/

namespace EffectGraph

/-- What tells one thing from another. -/
inductive Identity where
  | stamp (n : Nat)
  | emptyTuple
  | emptyFrozenDict
  | list (address : Nat)
  | dict (address : Nat)
  | stats (address : Nat)
  | runState (address : Nat)
  | cell (address : Nat)
  | console (address : Nat)
  | deque (address : Nat)
  | generator (address : Nat)
  | iterator (address : Nat)
  | operation (op : Operation)
  | blueprint (cls : Blueprint)
  | constant (c : Constant)
  | inert (typeName : String)
  | method (m : Method)
  /-- A callback that there is only one of. -/
  | shared (name : String)
  /-- The arguments of a fault as a tuple. -/
  | arguments (stamp : Nat)
  deriving DecidableEq

/-- The identity that a stamp gives; 0 gives none. -/
def Identity.ofStamp? (stamp : Nat) : Option Identity :=
  if stamp == 0 then none else some (.stamp stamp)

namespace Value

/-- **The identity of a value,** if it has one. -/
def identity? : Value → Option Identity
  | .float stamp _ => Identity.ofStamp? stamp
  | .tuple _ [] => some .emptyTuple
  | .tuple stamp _ => Identity.ofStamp? stamp
  | .list address => some (.list address)
  | .dict address => some (.dict address)
  | .frozenDict _ [] => some .emptyFrozenDict
  | .frozenDict stamp _ => Identity.ofStamp? stamp
  | .range stamp _ _ => Identity.ofStamp? stamp
  | .ok stamp _ => Identity.ofStamp? stamp
  | .err stamp _ => Identity.ofStamp? stamp
  | .bareResult stamp => Identity.ofStamp? stamp
  | .fault f => Identity.ofStamp? f.stamp
  | .node stamp _ => Identity.ofStamp? stamp
  | .frame stamp _ => Identity.ofStamp? stamp
  | .stats address => some (.stats address)
  | .runState address => some (.runState address)
  | .runResult stamp _ _ _ => Identity.ofStamp? stamp
  | .interpreter stamp _ _ => Identity.ofStamp? stamp
  | .cell address => some (.cell address)
  | .scripted address => some (.console address)
  | .stream stamp _ _ => Identity.ofStamp? stamp
  | .closure c => Identity.ofStamp? c.stamp
  | .callback stamp c => if c.isShared then some (.shared c.name) else Identity.ofStamp? stamp
  | .operation op => some (.operation op)
  | .blueprint cls => some (.blueprint cls)
  | .program stamp _ => Identity.ofStamp? stamp
  | .preset stamp _ _ _ => Identity.ofStamp? stamp
  | .method stamp _ _ => Identity.ofStamp? stamp
  | .unbound m => some (.method m)
  | .generator address => some (.generator address)
  | .iterator address => some (.iterator address)
  | .walker _ address => some (.iterator address)
  | .relazy stamp _ _ => Identity.ofStamp? stamp
  | .deque address => some (.deque address)
  | .view stamp _ _ => Identity.ofStamp? stamp
  | .constant c => some (.constant c)
  | .inert typeName => some (.inert typeName)
  | _ => Option.none

/-- **Are two values one and the same thing?** -/
def isSame : Value → Value → Bool
  | .none, .none => true
  | .bool a, .bool b => a == b
  | .int a, .int b => a == b
  | .str s, .str t => s == t
  | a, b =>
    match a.identity?, b.identity? with
    | some i, some j => i == j
    | _, _ => false

/-- Has a value its identity already?  Plain data need none. -/
def isSettled (v : Value) : Bool :=
  match v with
  | .none | .bool _ | .int _ | .str _ => true
  | v => v.identity?.isSome

end Value
end EffectGraph
