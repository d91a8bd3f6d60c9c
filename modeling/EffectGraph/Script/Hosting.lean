import EffectGraph.Script.Generators

/-!
# The host of scripts

`host n` is the host that a script with fuel `n` runs on.  Whatever it calls runs on the host with
less fuel, so fuel bounds the depth of nested calls; inside one call it also bounds the length of
every loop.
-/

namespace EffectGraph
namespace Script

/-- The name of a closure in complaints about how many arguments it was given. -/
def shownName (w : World) (c : Closure Value) : String :=
  if c.isGenerator then (c.name.filter (!·.isEmpty)).getD "Fn"
  else (w.str? (w.callableName (.closure c))).toOption.getD ""

/-- The complaint about a keyword given to a closure, which takes none. -/
def keywordComplaint (w : World) (c : Closure Value) (keyword : String) : Complaint :=
  if c.isGenerator then
    let name :=
      match w.given? (.closure c) "__qualname__" with
      | some (.str given) => given
      | _ => c.name.getD ""
    (Signature.plain name []).unexpected keyword
  else (Signature.plain "Fn.__call__" []).onReceiver.unexpected keyword

/-- Calls a closure: its parameters are bound in a new innermost layer.  An expression is computed
there; for a generator body a generator is made. -/
def callClosure (h : Host) (c : Closure Value) (args : List Value) (keywords : Keywords) :
    Eff Value := do
  if let (keyword, _) :: _ := keywords then Eff.complain (keywordComplaint (← get) c keyword)
  if args.length != c.params.length then
    Eff.complain (.argumentCount (shownName (← get) c) c.params.length args.length)
  let bindings := c.params.zip (← settleAll args)
  match c.body with
  | .expr body => evaluate h (.bound bindings :: c.scope) body
  | .generator body => do
    let layer ← World.newLayer bindings
    World.newGenerator (.script false none [.block body] (.shared layer :: c.scope))

/-- Calls a callback of the library, whose arguments have names. -/
def callCallback (h : Host) (c : Callback Value) (args : List Value) (keywords : Keywords) :
    Eff Value := do
  if keywords.isEmpty then c.run h args
  else
    let a ← Eff.ofExcept ((Signature.plain c.name c.parameters).bind args keywords)
    c.run h (a.places.filterMap id)

/-- Calls an effect program: the function that it wraps is called when the node is reached. -/
def callProgram (f target : Value) (args : List Value) (keywords : Keywords) : Eff Value := do
  let signature := (Signature.plain "DoFunction.__call__" []).onReceiver.withRest.withAnyKeyword
  let _ ← Eff.ofExcept (signature.bind args keywords)
  return Graph.generate ((← get).wrappedBy f target) args keywords

/-- Refuses to call what only describes generators. -/
def callGeneratorType (args : List Value) (keywords : Keywords) : Eff Value :=
  if args.isEmpty && keywords.isEmpty then
    Eff.complain (.arguments
      "Can't instantiate abstract class Generator with abstract methods send, throw")
  else Eff.complain (.takesNoArguments "Generator")

/-- **Calls a value.**  What is called runs on the host `h`. -/
def callValue (h : Host) (fuel : Nat) (f : Value) (args : List Value) (keywords : Keywords) :
    Eff Value := do
  match f with
  | .closure c => callClosure h c args keywords
  | .callback _ c => callCallback h c args keywords
  | .operation op => callOperation h fuel op args keywords
  | .blueprint cls => callBlueprint h fuel cls args keywords
  | .program _ target => callProgram f target args keywords
  | .preset _ target before named => do
    let named ← Eff.ofExcept ((← get).presetKeywords? f named)
    h.call target (before ++ args) (Keywords.merge named keywords)
  | .method _ receiver m => callMethod h fuel receiver m args keywords
  | .unbound m => callUnbound h fuel m args keywords
  | .constant .generatorType => callGeneratorType args keywords
  | v => Eff.complain (.notCallable v.typePath)

/-- **The host of scripts** with a given fuel.  Scripts get hold of what a call gives. -/
def host : Nat → Host
  | 0 => .spent
  | fuel + 1 =>
    { call := fun f args keywords => do settle (← callValue (host fuel) fuel f args keywords)
      read := readAttribute
      openIterator := openIterable
      pull := fun iterator => pullIterator (host fuel) iterator
      send := fun generator sent => sendGenerator (host fuel) fuel generator sent
      throw := fun generator thrown => throwGenerator (host fuel) fuel generator thrown
      close := fun generator => closeGenerator (host fuel) fuel generator }

end Script
end EffectGraph
