import EffectGraph.World

/-!
# The library as scripts know it

`libraryValue?` finds what the library has under a name: a function, a class, the unit node, or one of
the types that only serve to describe others.
-/

namespace EffectGraph
namespace Script

/-- What the library has under a name. -/
def libraryValue? (name : String) : Option Value :=
  if name == "UNIT" then some .unit
  else
    ((Operation.ofWord? name).map Value.operation).or
      (((Blueprint.ofWord? name).map Value.blueprint).or ((Constant.ofWord? name).map Value.constant))

/-- What the library has under a name, which it has to know. -/
def libraryValue (name : String) : Eff Value :=
  match libraryValue? name with
  | some v => pure v
  | none => Eff.complain (.unbound name)

end Script
end EffectGraph
