import EffectGraph.Text.Printable

/-!
# Quoted texts

A quoted text stands between single quotes, or between double quotes when it holds a single quote
and no double one.  The backslash and the quote in use are escaped, line feed, carriage return and
tab have short escapes, and every other character that is not printable is written by its code
point in two, four or eight hexadecimal digits.
-/

namespace EffectGraph
namespace Quoted

/-- A number in lower-case hexadecimal with at least `width` digits. -/
def hex (width n : Nat) : List Char :=
  let digits := Nat.toDigits 16 n
  List.replicate (width - digits.length) '0' ++ digits

/-- One character as it stands between the quotes. -/
def escape (quote c : Char) : List Char :=
  if c == quote || c == '\\' then ['\\', c]
  else if c == '\n' then ['\\', 'n']
  else if c == '\r' then ['\\', 'r']
  else if c == '\t' then ['\\', 't']
  else if Printable.isPrintable c then [c]
  else
    let point := c.toNat
    if point < 0x100 then '\\' :: 'x' :: hex 2 point
    else if point < 0x10000 then '\\' :: 'u' :: hex 4 point
    else '\\' :: 'U' :: hex 8 point

/-- The quote that a text is written with. -/
def quoteFor (cs : List Char) : Char :=
  if cs.contains '\'' && !cs.contains '"' then '"' else '\''

/-- **A text in quotes,** unambiguous and printable. -/
def text (s : String) : String :=
  let cs := s.toList
  let quote := quoteFor cs
  String.ofList (quote :: cs.flatMap (escape quote) ++ [quote])

end Quoted
end EffectGraph
