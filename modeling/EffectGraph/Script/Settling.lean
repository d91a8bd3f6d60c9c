import EffectGraph.Machine.Run

/-!
# Handing values to scripts

The library makes values without a stamp.  `settle` gives a stamp of its own to a value that a
script gets hold of for the first time, and to every part of it that has none yet; a value that has
its identity already stays as it is, so one thing never gets two stamps.  Items that the library has
put on a list are settled when a script first looks at one of them.
-/

namespace EffectGraph
namespace Script

/-- The given stamp, or a fresh one in the place of 0. -/
def ownStamp (stamp : Nat) : Eff Nat := if stamp == 0 then World.freshStamp else pure stamp

mutual

/-- **Gives a value and its parts an identity** where they have none. -/
def settle : Value → Eff Value
  | .float 0 x => do return .float (← World.freshStamp) x
  | .tuple 0 items => do return .tuple (← World.freshStamp) (← settleAll items)
  | .frozenDict 0 entries => do return .frozenDict (← World.freshStamp) (← settleEntries entries)
  | .range 0 a b => do return .range (← World.freshStamp) a b
  | .ok 0 v => do return .ok (← World.freshStamp) (← settle v)
  | .err 0 e => do return .err (← World.freshStamp) (← settle e)
  | .bareResult 0 => do return .bareResult (← World.freshStamp)
  | .fault ⟨kind, args, detail, 0⟩ => do
    let args ← settleAll args
    let detail ← settleDetail detail
    return .fault ⟨kind, args, detail, ← World.freshStamp⟩
  | .node 0 n => do return .node (← World.freshStamp) (← settleNode n)
  | .frame 0 (.continuation f) => do return .frame (← World.freshStamp) (.continuation (← settle f))
  | .frame 0 (.boundary f) => do return .frame (← World.freshStamp) (.boundary (← settle f))
  | .runResult 0 r s f => do
    return .runResult (← World.freshStamp) (← settle r) (← settle s) (← settle f)
  | .interpreter 0 limit trace => do
    return .interpreter (← World.freshStamp) (← settle limit) (← settle trace)
  | .stream 0 input output => do
    return .stream (← World.freshStamp) (← settle input) (← settle output)
  | .callback 0 c => do return .callback (← World.freshStamp) c
  | .program 0 target => do return .program (← World.freshStamp) (← settle target)
  | .preset 0 target args keywords => do
    return .preset (← World.freshStamp) (← settle target) (← settleAll args)
      (← settleKeywords keywords)
  | .method 0 receiver m => do return .method (← World.freshStamp) (← settle receiver) m
  | .relazy 0 count f => do return .relazy (← World.freshStamp) (← settle count) (← settle f)
  | .view 0 kind source => do return .view (← World.freshStamp) kind (← settle source)
  | v => pure v

/-- Gives every one of some values an identity. -/
def settleAll : List Value → Eff (List Value)
  | [] => pure []
  | v :: rest => do return (← settle v) :: (← settleAll rest)

/-- Gives the keys and values of some entries an identity. -/
def settleEntries : List (Value × Value) → Eff (List (Value × Value))
  | [] => pure []
  | (k, v) :: rest => do return (← settle k, ← settle v) :: (← settleEntries rest)

/-- Gives the values of keyword arguments an identity. -/
def settleKeywords : List (String × Value) → Eff (List (String × Value))
  | [] => pure []
  | (name, v) :: rest => do return (name, ← settle v) :: (← settleKeywords rest)

/-- Gives the parts of a node an identity. -/
def settleNode : Node Value → Eff (Node Value)
  | .done v => do return .done (← settle v)
  | .delay thunk label => do return .delay (← settle thunk) (← settle label)
  | .flatMap source f => do return .flatMap (← settle source) (← settle f)
  | .recover source handler => do return .recover (← settle source) (← settle handler)
  | .foreign variant => pure (.foreign variant)

/-- Gives the details of a fault an identity. -/
def settleDetail : FaultDetail Value → Eff (FaultDetail Value)
  | .plain => pure .plain
  | .parse text refusal => do return .parse (← settle text) (← settleAll refusal)
  | .suspended cause label step discarded => do
    return .suspended (← settle cause) (← settle label) (← settle step) (← settle discarded)
  | .overflow maxDepth actualDepth => do
    return .overflow (← settle maxDepth) (← settle actualDepth)
  | .system number text files => do
    return .system (← settle number) (← settle text) (← settleAll files)
  | .lookup name object => do return .lookup name (← settleAll object)

end

/-- Gives a fault an identity. -/
def settleFault (f : Fault Value) : Eff (Fault Value) := do
  match ← settle (.fault f) with
  | .fault f => return f
  | _ => return f

/-- The items of a list, each with its identity. -/
def settledItems (address : Nat) : Eff (Array Value) := do
  let items := (← get).listItems address
  if (← get).unsettled.contains address then
    let settled := (← settleAll items.toList).toArray
    World.setItems address settled
    modify fun w => { w with unsettled := w.unsettled.filter (· != address) }
    return settled
  else return items

/-- The content of a cell, with its identity. -/
def settledCell (address : Nat) : Eff Value := do
  let content ← World.readCell address
  if content.isSettled then return content
  else
    let settled ← settle content
    World.writeCell address settled
    return settled

/-- The report of a run whose fault has an identity, so that everything that tells of it tells of the
same one. -/
def settledReport (r : Machine.Report) : Eff Machine.Report := do
  match r.outcome with
  | .failed failure => return { r with
      outcome := .failed { failure with cause := ← settleFault failure.cause } }
  | _ => return r

end Script
end EffectGraph
