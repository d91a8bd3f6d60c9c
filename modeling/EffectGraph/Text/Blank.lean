/-!
# Blank characters

`Blank.isBlank` holds of the characters that separate words: the ASCII blanks, the four information
separators, and the space separators and line breaks of Unicode.  `Blank.strip` removes them from
both ends of a text.
-/

namespace EffectGraph
namespace Blank

/-- Is this character white space? -/
def isBlank (c : Char) : Bool :=
  let point := c.toNat
  (9 ≤ point && point ≤ 13) || (28 ≤ point && point ≤ 32) || point == 0x85 || point == 0xA0 ||
    point == 0x1680 || (0x2000 ≤ point && point ≤ 0x200A) || point == 0x2028 || point == 0x2029 ||
    point == 0x202F || point == 0x205F || point == 0x3000

/-- The characters that satisfy `drop` removed from both ends. -/
def trimBoth (drop : Char → Bool) (cs : List Char) : List Char :=
  ((cs.dropWhile drop).reverse.dropWhile drop).reverse

/-- A text without blanks at its ends. -/
def strip (s : String) : String :=
  String.ofList (trimBoth isBlank s.toList)

end Blank
end EffectGraph
