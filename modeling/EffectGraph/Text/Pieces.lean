import EffectGraph.Text.Blank

/-!
# Pieces of texts

Finding one text in another, cutting a text into pieces, and putting others in their place.  Texts
are lists of characters here.  What is done from the end is done from the front of the reversed text.
-/

namespace EffectGraph
namespace Pieces

/-- The place of the first occurrence of a part, `place` being that of the first character. -/
def placeFrom? (part : List Char) : Nat → List Char → Option Nat
  | place, [] => if part.isEmpty then some place else none
  | place, c :: rest =>
    if part.isPrefixOf (c :: rest) then some place else placeFrom? part (place + 1) rest

/-- **The place of the first occurrence of a part.** -/
def place? (part cs : List Char) : Option Nat := placeFrom? part 0 cs

/-- The place of the last occurrence of a part. -/
def lastPlace? (part cs : List Char) : Option Nat :=
  (place? part.reverse cs.reverse).map fun place => cs.length - part.length - place

/-- A text cut at the occurrences of the part `p :: ps`, `left` bounding the number of cuts and
`piece` holding the current piece, last character first. -/
def cutFrom (p : Char) (ps : List Char) (left : Nat) (piece cs : List Char) : List (List Char) :=
  match cs, left with
  | [], _ => [piece.reverse]
  | c :: rest, 0 => [piece.reverse ++ c :: rest]
  | c :: rest, left + 1 =>
    if (p :: ps).isPrefixOf (c :: rest) then
      piece.reverse :: cutFrom p ps left [] (rest.drop ps.length)
    else cutFrom p ps (left + 1) (c :: piece) rest
termination_by cs.length
decreasing_by all_goals (simp; try omega)

/-- **A text cut at the occurrences of a part** that is not empty, at most `limit` times. -/
def cut (part : List Char) (limit : Nat) (cs : List Char) : List (List Char) :=
  match part with
  | [] => [cs]
  | p :: ps => cutFrom p ps limit [] cs

/-- A text cut at the last occurrences of a part. -/
def cutFromEnd (part : List Char) (limit : Nat) (cs : List Char) : List (List Char) :=
  ((cut part.reverse limit cs.reverse).map List.reverse).reverse

/-- The words of a text between blanks, `left` bounding the number of cuts; what is left over stays
in one piece. -/
def wordsFrom : Nat → Nat → List Char → List (List Char)
  | 0, _, _ => []
  | fuel + 1, left, cs =>
    match cs.dropWhile Blank.isBlank, left with
    | [], _ => []
    | cs, 0 => [cs]
    | cs, left + 1 =>
      cs.takeWhile (!Blank.isBlank ·) :: wordsFrom fuel left (cs.dropWhile (!Blank.isBlank ·))

/-- **The words of a text** between blanks, cut at most `limit` times. -/
def words (limit : Nat) (cs : List Char) : List (List Char) := wordsFrom (cs.length + 1) limit cs

/-- The words of a text, cut from the end. -/
def wordsFromEnd (limit : Nat) (cs : List Char) : List (List Char) :=
  ((words limit cs.reverse).map List.reverse).reverse

/-- A text put before each character of another one and at its end, at most `limit` times. -/
def spread (new : List Char) : Nat → List Char → List Char
  | 0, cs => cs
  | _ + 1, [] => new
  | limit + 1, c :: rest => new ++ c :: spread new limit rest

/-- **A text with a part replaced,** at most `limit` times. -/
def replace (part new : List Char) (limit : Nat) (cs : List Char) : List Char :=
  if part.isEmpty then spread new limit cs else List.intercalate new (cut part limit cs)

/-- How often a part occurs without overlapping. -/
def count (part cs : List Char) : Nat :=
  if part.isEmpty then cs.length + 1 else (cut part cs.length cs).length - 1

/-- A text filled up on both sides to a width; of an odd number of fillers the larger half stands on
the left if the width is odd. -/
def centred (width : Nat) (filler : Char) (cs : List Char) : List Char :=
  let missing := width - cs.length
  let left := missing / 2 + (if missing % 2 == 1 && width % 2 == 1 then 1 else 0)
  List.replicate left filler ++ cs ++ List.replicate (missing - left) filler

/-- A number's text filled up with zeros after its sign. -/
def zeroFilled (width : Nat) (cs : List Char) : List Char :=
  let zeros := List.replicate (width - cs.length) '0'
  match cs with
  | '+' :: rest => '+' :: zeros ++ rest
  | '-' :: rest => '-' :: zeros ++ rest
  | cs => zeros ++ cs

/-- A text with its tabs turned into blanks up to the next multiple of a width, `column` counting
from the last line break. -/
def expandTabs (width : Nat) : Nat → List Char → List Char
  | _, [] => []
  | column, c :: rest =>
    if c == '\t' then
      let blanks := if width == 0 then 0 else width - column % width
      List.replicate blanks ' ' ++ expandTabs width (column + blanks) rest
    else if c == '\n' || c == '\r' then c :: expandTabs width 0 rest
    else c :: expandTabs width (column + 1) rest

end Pieces
end EffectGraph
