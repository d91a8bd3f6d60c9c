import EffectGraph.Number.Binary64
import EffectGraph.Text.Blank
import EffectGraph.Text.DecimalDigit

/-!
# Reading numbers

Two grammars over the same alphabet.  A whole number is an optional sign and digits, single
underscores allowed between digits.  A decimal number may also have a point, an exponent, or be the
name of an infinity or of no number.  Digits of every script count, blanks around are ignored, and
a whole number of more than `Numeral.digitLimit` digits is refused.
-/

namespace EffectGraph
namespace Numeral

/-- The most digits that a whole number may have when it is read or written. -/
def digitLimit : Nat := 4300

/-- Blanks that may surround a number: those of a line of ASCII text, and every wider one. -/
def isSurround (c : Char) : Bool :=
  (9 ≤ c.toNat && c.toNat ≤ 13) || c == ' ' || (127 < c.toNat && Blank.isBlank c)

/-- A character with digits of every script replaced by ASCII ones. -/
def plain (c : Char) : Char :=
  match DecimalDigit.value? c with
  | some d => Nat.digitChar d
  | none => c

/-- The characters of a number: blanks around it dropped, digits in ASCII. -/
def core (text : String) : List Char :=
  (Blank.trimBoth isSurround text.toList).map plain

/-- A sign in front, if there is one: is it a minus, and what follows. -/
def sign : List Char → Bool × List Char
  | '-' :: rest => (true, rest)
  | '+' :: rest => (false, rest)
  | cs => (false, cs)

/-- Digits with single underscores between them, the underscores removed. -/
def ungroup? : List Char → Option (List Char)
  | [] => none
  | [c] => if c.isDigit then some [c] else none
  | c :: '_' :: rest => if c.isDigit then (ungroup? rest).map (c :: ·) else none
  | c :: rest => if c.isDigit then (ungroup? rest).map (c :: ·) else none

/-- The number that a row of ASCII digits writes. -/
def natOf (digits : List Char) : Nat :=
  digits.foldl (fun n c => 10 * n + (c.toNat - 48)) 0

/-- Why a text is not read as a whole number. -/
inductive Refusal where
  | malformed
  | tooLong (digits : Nat)

/-- **Reads a whole number.**  The digits in front are counted before it is seen that something else
follows them. -/
def int (text : String) : Except Refusal Int :=
  let (negative, rest) := sign (core text)
  let front := rest.takeWhile fun c => c.isDigit || c == '_'
  match ungroup? front with
  | none => .error .malformed
  | some digits =>
    if digits.length > digitLimit then .error (.tooLong digits.length)
    else if front.length < rest.length then .error .malformed
    else .ok (if negative then -(natOf digits : Int) else natOf digits)

/-- Underscores removed where each stands between two digits; none when one stands elsewhere. -/
def dropUnderscores? : Option Char → List Char → Option (List Char)
  | previous, [] => if previous == some '_' then none else some []
  | previous, '_' :: rest =>
    match previous with
    | some p => if p.isDigit then dropUnderscores? (some '_') rest else none
    | none => none
  | previous, c :: rest =>
    if previous == some '_' && !c.isDigit then none
    else (dropUnderscores? (some c) rest).map (c :: ·)

/-- The digits in front, and the rest. -/
def spanDigits (cs : List Char) : List Char × List Char :=
  (cs.takeWhile Char.isDigit, cs.dropWhile Char.isDigit)

/-- What follows the digits of a decimal number: nothing, or an exponent. -/
def exponent? : List Char → Option Int
  | [] => some 0
  | e :: rest =>
    if e == 'e' || e == 'E' then
      let (negative, digits) := sign rest
      if !digits.isEmpty && digits.all Char.isDigit then
        some (if negative then -(natOf digits : Int) else natOf digits)
      else none
    else none

/-- The double nearest to `digits · 10 ^ power`.  Far outside the range of doubles the answer is
infinity or zero without computing the power. -/
def scale (negative : Bool) (digits : List Char) (power : Int) : Float :=
  let digits := digits.dropWhile (· == '0')
  let size : Int := digits.length
  if digits.isEmpty then Binary64.ofRatio negative 0 1
  else if size + power > 400 then Binary64.ofPattern negative Binary64.infinityPattern
  else if size + power < -400 then Binary64.ofRatio negative 0 1
  else if power < 0 then Binary64.ofRatio negative (natOf digits) (Nat.pow 10 power.natAbs)
  else Binary64.ofRatio negative (natOf digits * Nat.pow 10 power.natAbs) 1

/-- The unsigned part of a decimal number: digits with a point among or around them, and an
exponent. -/
def unsigned? (negative : Bool) (cs : List Char) : Option Float :=
  let (whole, rest) := spanDigits cs
  let (fraction, rest) := match rest with
    | '.' :: more => spanDigits more
    | other => ([], other)
  if whole.isEmpty && fraction.isEmpty then none
  else
    (exponent? rest).map fun e => scale negative (whole ++ fraction) (e - (fraction.length : Int))

/-- **Reads a decimal number,** correctly rounded. -/
def float? (text : String) : Option Float := do
  let cs ← dropUnderscores? none (core text)
  let (negative, rest) := sign cs
  let word := String.ofList (rest.map Char.toLower)
  if word == "inf" || word == "infinity" then
    some (Binary64.ofPattern negative Binary64.infinityPattern)
  else if word == "nan" then
    some (Binary64.ofPattern negative (Binary64.infinityPattern + Nat.pow 2 51))
  else unsigned? negative rest

end Numeral
end EffectGraph
