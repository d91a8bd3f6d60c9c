import EffectGraph.Equality
import EffectGraph.Script.Settings
import EffectGraph.Script.Settling
import EffectGraph.Script.Iteration

/-!
# Fields

The fields that an object was made with, and the attributes that scripts have given to it.  Most
objects hold both in one table, which can be read as a dictionary.
-/

namespace EffectGraph
namespace Script

/-- The fields of a node. -/
def nodeFields : Node Value → List (String × Value)
  | .done v => [("value", v)]
  | .delay thunk label => [("thunk", thunk), ("label", label)]
  | .flatMap source f => [("source", source), ("continuation", f)]
  | .recover source handler => [("source", source), ("handler", handler)]
  | .foreign _ => []

/-- The fields that a fault has besides its arguments. -/
def detailFields : FaultDetail Value → List (String × Value)
  | .parse text _ => [("text", text)]
  | .suspended cause label step discarded =>
    [("cause", cause), ("label", label), ("step", step), ("discarded", discarded)]
  | .overflow maxDepth actualDepth => [("max_depth", maxDepth), ("actual_depth", actualDepth)]
  | _ => []

/-- The fields of an object with their values, apart from those that scripts have given to it. -/
def ownFields (w : World) (v : Value) : List (String × Value) :=
  match v with
  | .node _ n => nodeFields n
  | .frame _ (.continuation f) => [("continuation", f)]
  | .frame _ (.boundary f) => [("handler", f)]
  | .ok _ v => [("value", v)]
  | .err _ e => [("error", e)]
  | .fault f => detailFields f.detail
  | .runResult _ result stats failure =>
    [("result", result), ("stats", stats), ("failure", failure)]
  | .stats address => Stats.fieldNames.zip (w.statsAt address).toList
  | .runState address =>
    let s := w.runStateAt address
    [("current", s.current), ("continuation_stack", s.stack), ("stats", s.stats)]
  | .interpreter _ limit trace => [("_max_stack_depth", limit), ("_trace_steps", trace)]
  | .scripted address =>
    let c := w.consoleAt address
    [("_pending", c.pending), ("written", c.written), ("reads", c.reads)]
  | .stream _ input output => [("_stdin", input), ("_stdout", output)]
  | .program _ target => [("original_func", target)]
  | _ => []

/-- The field of an object with a given name, as it is now. -/
def field? (w : World) (v : Value) (name : String) : Option Value :=
  (w.given? v name).or ((ownFields w v).lookup name)

/-- The number of items of a field of an object. -/
def fieldLength (w : World) (v : Value) (name : String) : Except Complaint Value :=
  match field? w v name with
  | some items => do return .int (← w.length? items)
  | none => .error (.noAttribute v.typePath name)

/-- The fields of an object as they are now, and behind them whatever else scripts have given to it
apart from some names. -/
def allFields (w : World) (v : Value) (hidden : List String) : List (String × Value) :=
  let own := ownFields w v
  own.map (fun (name, value) => (name, (w.given? v name).getD value)) ++
    (w.givenTo v).filter fun (name, _) => !(hidden ++ own.map (·.1)).contains name

/-- What a fault holds apart from the table of its fields. -/
def faultSlots : List String :=
  ["args", "__cause__", "__context__", "__suppress_context__", "__traceback__", "errno", "strerror",
    "filename", "filename2", "value", "code", "name", "obj"]

/-- **The table of the fields of an object,** if it has one. -/
def fieldTable? (w : World) (v : Value) : Option (List (String × Value)) :=
  match v with
  | .node _ _ | .frame _ _ | .ok _ _ | .err _ _ | .stats _ | .runState _ | .runResult _ _ _ _
  | .interpreter _ _ _ | .scripted _ | .stream _ _ _ | .program _ _ => some (allFields w v [])
  | .fault _ => some (allFields w v faultSlots)
  | .preset _ _ _ _ => some (allFields w v ("__dict__" :: World.presetNames))
  | .operation .length => none
  | .operation _ | .callback _ _ => some (allFields w v ["__name__", "__qualname__"])
  | .unbound m => if m.isBuiltin then none else some (allFields w v ["__name__", "__qualname__"])
  | .closure c =>
    if c.isGenerator then some (allFields w v ["__name__", "__qualname__"])
    else some (allFields w v [])
  | _ => none

/-! ## Refusals -/

/-- Refuses the attribute of a value that has none of that name. -/
def missing {α : Type} (v : Value) (name : String) : Eff α :=
  let complaint : Complaint :=
    match v with
    | .blueprint cls => .noClassAttribute cls.name name
    | .constant .generatorType => .noClassAttribute "Generator" name
    | v => .noAttribute v.typePath name
  Eff.raise { complaint.fault with detail := .lookup name [v] }

/-- Raises a value, which has to be a fault. -/
def raiseValue {α : Type} (v : Value) : Eff α :=
  match v with
  | .fault f => Eff.raise f
  | _ => Eff.complain .notRaisable

end Script
end EffectGraph
