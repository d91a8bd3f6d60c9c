import EffectGraph.Script.Attribute

/-!
# Assigning attributes

What happens when a script assigns to an attribute of a value.  Most values are frozen, and refuse;
so do attributes that are computed.  What can change takes the new value, and whatever has a table of
its fields takes attributes of any name.
-/

namespace EffectGraph
namespace Script

/-- The attributes of a value that can be read but not assigned. -/
def readOnly (v : Value) : List String :=
  match v with
  | .interpreter _ _ _ => ["max_stack_depth", "trace_steps"]
  | .scripted _ => ["remaining"]
  | .stream _ _ _ => ["stdin", "stdout"]
  | .stats _ => ["duration_ns"]
  | .runState _ => ["stack_depth"]
  | _ => []

/-- Assigns to a field of an object whose fields can change; any other name becomes a new one. -/
def assignField (v : Value) (name : String) (value : Value) : Eff Unit := do
  match v, name with
  | .stats address, name =>
    match ((← get).statsAt address).replace? name value with
    | some s => World.setStats address s
    | none => World.give v name value
  | .runState address, "current" =>
    World.setRunState address { (← get).runStateAt address with current := value }
  | .runState address, "continuation_stack" =>
    World.setRunState address { (← get).runStateAt address with stack := value }
  | .runState address, "stats" =>
    World.setRunState address { (← get).runStateAt address with stats := value }
  | .scripted address, "_pending" =>
    World.modifyConsole address fun c => { c with pending := value }
  | .scripted address, "written" =>
    World.modifyConsole address fun c => { c with written := value }
  | .scripted address, "reads" => World.modifyConsole address fun c => { c with reads := value }
  | v, name => World.give v name value

/-- Assigns to an attribute of a cell, which has two and takes no others. -/
def assignCell (v : Value) (address : Nat) (name : String) (value : Value) : Eff Unit :=
  if name == "_value" then World.writeCell address value
  else if name == "ref_id" then World.give v name value
  else if (v.method? name).isSome then Eff.complain (.readOnlyAttribute v.typePath name)
  else Eff.complain (.noAttribute v.typePath name)

/-- Assigns to an attribute of a fault; its arguments become a tuple, and what it refers to in the
course of faults has to be a fault. -/
def assignFault (v : Value) (name : String) (value : Value) : Eff Unit := do
  let isFault := value matches .none | .fault _
  match name with
  | "args" =>
    match value with
    | .tuple _ _ => World.give v name value
    | value =>
      match ← snapshot? value with
      | some items => World.give v name (← settle (.ofItems items))
      | none => Eff.complain (.notIterable value.typePath)
  | "__cause__" =>
    if isFault then World.give v name value else Eff.complain (.notFault "cause")
  | "__context__" =>
    if isFault then World.give v name value else Eff.complain (.notFault "context")
  | "__suppress_context__" =>
    if value matches .bool _ then World.give v name value else Eff.complain .notBoolean
  | "__traceback__" =>
    if value matches .none then World.give v name value else Eff.complain .notTraceback
  | name => World.give v name value

/-- Assigns to an attribute of a function, whose names are texts. -/
def assignFunction (v : Value) (name : String) (value : Value) : Eff Unit :=
  match value with
  | .str _ => World.give v name value
  | value =>
    if name == "__qualname__" || name == "__name__" then Eff.complain (.nameNotText name)
    else World.give v name value

/-- The complaint about assigning to an attribute that the class of a value computes or keeps. -/
def descriptorRefusal? (v : Value) (name : String) : Option Complaint :=
  v.classOf.ancestry.findSome? fun cls =>
    (descriptorType? cls name).map fun type =>
      if type == "member_descriptor" then .readOnly else .notWritable name cls.shownName

/-- Refuses to assign to an attribute; the value is known to take no such one. -/
def refuseAssignment (v : Value) (name : String) : Eff Unit :=
  match descriptorRefusal? v name with
  | some c => Eff.complain c
  | none =>
    if (v.method? name).isSome then Eff.complain (.readOnlyAttribute v.typePath name)
    else Eff.raise { (Complaint.noAttribute v.typePath name).fault with detail := .plain }

/-- Are the fields of a value fixed once and for all? -/
def isFrozen : Value → Bool
  | .node _ (.foreign _) => false
  | .node _ _ | .frame _ _ | .ok _ _ | .err _ _ | .runResult _ _ _ _ => true
  | _ => false

/-- **Assigns to an attribute of a value.** -/
def assignAttribute (v : Value) (name : String) (value : Value) : Eff Unit := do
  if isFrozen v then Eff.complain (.frozenField (Quoted.text name))
  match v with
  | .node _ (.foreign "Alien") => World.give v name value
  | .frozenDict _ _ => Eff.complain .frozenObject
  | .cell address => assignCell v address name value
  | .interpreter _ _ _ | .scripted _ | .stream _ _ _ | .stats _ | .runState _ =>
    if (readOnly v).contains name then Eff.complain (.noSetter name v.typePath)
    else assignField v name value
  | .fault _ => assignFault v name value
  | .preset _ _ _ _ =>
    if ["func", "args", "keywords"].contains name then Eff.complain .readOnly
    else World.give v name value
  | .operation .length => refuseAssignment v name
  | .operation _ | .callback _ _ | .unbound _ => assignFunction v name value
  | .blueprint (.builtin t) => Eff.complain (.immutableType t.path name)
  | .closure c => if c.isGenerator then assignFunction v name value else World.give v name value
  | .program _ _ | .blueprint _ | .iterator _ | .relazy _ _ _ =>
    World.give v name value
  | v => refuseAssignment v name

end Script
end EffectGraph
