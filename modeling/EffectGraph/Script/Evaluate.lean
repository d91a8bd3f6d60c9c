import EffectGraph.Script.Parameters
import EffectGraph.Script.Primitives

/-!
# Evaluating expressions

`evaluate` computes the value of an expression in a scope, over any host.  It is a recursion on the
expression: bodies of closures are reached through the host only.  What an expression gives has an
identity: literals and closures are new things each time, and what a primitive makes is settled.
-/

namespace EffectGraph
namespace Script

/-- The variables that an expression sees besides the globals, innermost first. -/
abbrev Scope := List (Layer Value)

/-- A variable in a scope. -/
def lookup? (w : World) (name : String) : Scope → Option Value
  | [] => w.globals.lookup name
  | .bound bindings :: outer =>
    match bindings.lookup name with
    | some v => some v
    | none => lookup? w name outer
  | .shared address :: outer =>
    match (w.layers[address]?.getD []).lookup name with
    | some v => some v
    | none => lookup? w name outer

/-- A literal as a value. -/
def Literal.toValue : Literal → Value
  | .none => .none
  | .bool b => .bool b
  | .int i => .int i
  | .float x => .ofFloat x
  | .str s => .str s

mutual

/-- **The value of an expression** in a scope. -/
def evaluate (h : Host) (scope : Scope) : Expr → Eff Value
  | .literal l => settle l.toValue
  | .var name => do
    match lookup? (← get) name scope with
    | some v => return v
    | none => Eff.complain (.unbound name)
  | .fn params body name => do
    Eff.ofExcept (checkParameters params)
    return .closure ⟨← World.freshStamp, name, params, .expr body, scope⟩
  | .define name value => do
    let v ← evaluate h scope value
    World.define name v
    return .none
  | .seq items => evaluateLast h scope items .none
  | .cond test yes no => do
    let t ← evaluate h scope test
    if (← get).isTruthy t then evaluate h scope yes else evaluate h scope no
  | .program name params body => do
    Eff.ofExcept (checkParameters params)
    let f := Value.closure ⟨← World.freshStamp, some name, params, .generator body, scope⟩
    wrapProgram f
  | .library name => libraryValue name
  | .invoke name args keywords => do
    let f ← libraryValue name
    let named ← evaluateNamed h scope keywords
    let values ← evaluateAll h scope args
    h.call f values named
  | .method name receiver args keywords => do
    let named ← evaluateNamed h scope keywords
    let r ← evaluate h scope receiver
    let m ← readAttribute r name
    let values ← evaluateAll h scope args
    h.call m values named
  | .primitive op args keywords => do
    let named ← evaluateNamed h scope keywords
    let values ← evaluateAll h scope args
    settle (← runPrimitive h op values named)

/-- The values of some expressions, in order. -/
def evaluateAll (h : Host) (scope : Scope) : List Expr → Eff (List Value)
  | [] => pure []
  | e :: rest => do
    let v ← evaluate h scope e
    let vs ← evaluateAll h scope rest
    return v :: vs

/-- The values of keyword arguments, in order. -/
def evaluateNamed (h : Host) (scope : Scope) : List (String × Expr) → Eff Keywords
  | [] => pure []
  | (name, e) :: rest => do
    let v ← evaluate h scope e
    let vs ← evaluateNamed h scope rest
    return (name, v) :: vs

/-- The value of the last of some expressions, all computed in order. -/
def evaluateLast (h : Host) (scope : Scope) : List Expr → Value → Eff Value
  | [], last => pure last
  | e :: rest, _ => do
    let v ← evaluate h scope e
    evaluateLast h scope rest v

end

end Script
end EffectGraph
