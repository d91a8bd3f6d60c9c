import EffectGraph.Spelling

/-!
# Turning values into numbers

`Reading.int` and `Reading.float` turn a value into a whole or a decimal number.  A number is
converted, a text is read, and anything else is refused.
-/

namespace EffectGraph

/-- The fault for what is not a number, with the text that shows it, and the fault that refused to
read it if that was tried. -/
def Fault.notANumber (v : Value) (shown : String) (refusal : List (Fault Value)) : Fault Value :=
  ⟨.parseError, [.str ("Not a number: " ++ shown)], .parse v (refusal.map .fault), 0⟩

namespace Reading

/-- The most characters of a text that a refusal to read it repeats. -/
def shownLimit : Nat := 200

/-- **The whole number that a value is turned into.** -/
def int (v : Value) : Eff Value := do
  match v with
  | .int i => return .int i
  | .bool b => return .int (if b then 1 else 0)
  | .float _ x =>
    match Binary64.truncate x with
    | .ok i => return .int i
    | .error .nan => Eff.complain .nanToInt
    | .error .infinite => Eff.complain .infiniteToInt
  | .str s =>
    match Numeral.int s with
    | .ok i => return .int i
    | .error .malformed =>
      Eff.complain (.badInt (String.ofList ((Quoted.text s).toList.take shownLimit)))
    | .error (.tooLong digits) => Eff.complain (.tooManyDigitsRead digits)
  | v => Eff.complain (.intArgument v.typePath)

/-- **The decimal number that a value is turned into.** -/
def float (v : Value) : Eff Value := do
  match v with
  | .float stamp x => return .float stamp x
  | .str s =>
    match Numeral.float? s with
    | some x => return .ofFloat x
    | none => Eff.complain (.badFloat (Quoted.text s))
  | v =>
    match Number.ofCounting? v with
    | some n => return .ofFloat (← Eff.ofExcept n.toFloat)
    | none => Eff.complain (.floatArgument v.typePath)

end Reading
end EffectGraph
