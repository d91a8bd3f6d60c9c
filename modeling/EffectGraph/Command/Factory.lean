import EffectGraph.Command.Catalog
import EffectGraph.Script.Methods

/-!
# From a symbol to a node

A path may name a node, or a factory that makes one.  A factory is called with the console if it
takes an argument at all, and without arguments otherwise.
-/

namespace EffectGraph
namespace Command

/-- The parameters that a caller can fill by position: their names, and whether more may follow. -/
structure Openings where
  names : List String
  more : Bool

/-- The openings of a signature. -/
def Openings.ofSignature (s : Script.Signature) : Openings := ⟨s.positional, s.variadic⟩

/-- The openings of a method of a built-in type. -/
def Openings.ofTaking : Taking → Openings
  | .named names => ⟨names, false⟩
  | .namedOnly _ => ⟨[], false⟩
  | .anyArguments => ⟨[], true⟩
  | taking => ⟨List.replicate taking.most "", false⟩

/-- The openings of a method on its receiver, where they are known. -/
def methodOpenings? : Method → Option Openings
  | .builtin owner word =>
    if owner.isReticent word then none else (owner.taking? word).map Openings.ofTaking
  | .special cls "__init__" => some (.ofSignature (Script.blueprintSignature cls))
  | m => some (.ofSignature (Script.Signature.ofMethod m))

/-- The openings of a method without a receiver, which comes first then. -/
def unboundOpenings? (m : Method) : Option Openings :=
  (methodOpenings? m).map fun o => { o with names := Script.Signature.receiverName :: o.names }

/-- The openings that are left when arguments are given in advance; a parameter given by name closes
itself and all after it. -/
def Openings.after (o : Openings) (args : List Value) (keywords : Keywords) : Option Openings :=
  if args.length > o.names.length && !o.more then none
  else
    let names := o.names.drop args.length
    let free := names.takeWhile fun n => !keywords.any (·.1 == n)
    some ⟨free, o.more && free.length == names.length⟩

/-- The openings of a class.  Contracts take anything, and so does the frozen dictionary; few of the
built-in types tell. -/
def blueprintOpenings? (cls : Blueprint) : Option Openings :=
  match cls with
  | .builtin .decimal | .builtin .list | .builtin .tuple => some ⟨["x"], false⟩
  | .builtin (.inert "module") => some ⟨["name", "doc"], false⟩
  | .builtin _ => none
  | .fault _ => some ⟨[], true⟩
  | .effectNode | .result | .scripted _ => some ⟨[], false⟩
  | cls => some (.ofSignature (Script.blueprintSignature cls))

/-- The openings of a callable, where they are known. -/
def openings? : Value → Option Openings
  | .closure c => some ⟨c.params, false⟩
  | .callback _ c => some ⟨c.parameters, false⟩
  | .operation op => some (.ofSignature (Script.operationSignature op))
  | .blueprint cls => blueprintOpenings? cls
  | .program _ target => openings? target
  | .preset _ target args keywords => (openings? target).bind (·.after args keywords)
  | .method _ .none m => unboundOpenings? m
  | .method _ _ m => methodOpenings? m
  | .unbound m => unboundOpenings? m
  | .constant .generatorType => some ⟨[], true⟩
  | _ => none

/-- Does a callable take an argument? -/
def acceptsArgument (f : Value) : Bool :=
  match openings? f with
  | some o => !o.names.isEmpty || o.more
  | none => false

/-- **The node that a symbol stands for.** -/
def nodeOf (h : Host) (path : String) (console : Value) (symbol : Symbol) : Eff Value := do
  match symbol with
  | .value v =>
    if v.isNode then return v
    if v.isCallable then
      let made ← h.call v (if acceptsArgument v then [console] else []) []
      if made.isNode then return made
    Problem.stop (.notNode path)
  | .barren refusal? =>
    match refusal? console.typePath with
    | some c => Eff.complain c
    | none => Problem.stop (.notNode path)
  | .group _ _ => Problem.stop (.notNode path)

end Command
end EffectGraph
