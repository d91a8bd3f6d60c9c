/-!
# Strings in ASCII between double quotes

The form of a string in a JSON text that stays within ASCII: the double quote and the backslash are
escaped, five controls have short escapes, and every character outside the visible ASCII range is
written as one or two UTF-16 units of four hexadecimal digits.
-/

namespace EffectGraph
namespace AsciiString

/-- One UTF-16 unit as an escape. -/
def unit (n : Nat) : List Char :=
  let digit (k : Nat) := Nat.digitChar (n / Nat.pow 16 k % 16)
  ['\\', 'u', digit 3, digit 2, digit 1, digit 0]

/-- One character as it stands between the quotes. -/
def escape (c : Char) : List Char :=
  let point := c.toNat
  if c == '"' then ['\\', '"']
  else if c == '\\' then ['\\', '\\']
  else if c == '\n' then ['\\', 'n']
  else if c == '\r' then ['\\', 'r']
  else if c == '\t' then ['\\', 't']
  else if point == 12 then ['\\', 'f']
  else if point == 8 then ['\\', 'b']
  else if 32 ≤ point && point ≤ 126 then [c]
  else if point < 0x10000 then unit point
  else
    let above := point - 0x10000
    unit (0xD800 + above / 0x400) ++ unit (0xDC00 + above % 0x400)

/-- **A string between double quotes,** in ASCII. -/
def text (s : String) : String :=
  String.ofList ('"' :: s.toList.flatMap escape ++ ['"'])

end AsciiString
end EffectGraph
