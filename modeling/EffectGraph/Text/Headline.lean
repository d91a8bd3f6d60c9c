import EffectGraph.Text.Capital
import EffectGraph.Text.Small

/-!
# Texts in other cases

The form of a character at the head of a word is mostly its capital; `Headline.unmoved`,
`Headline.moved` and `Headline.expansions` list where it is not.  From it come texts whose words or
first letter have capitals.  Other maps swap the two cases, or remove the difference between them.
-/

namespace EffectGraph
namespace Headline

/-- Characters that begin a word as they are although they have a capital form. -/
def unmoved : Array (Nat × Nat) := #[
  (453, 453), (456, 456), (459, 459), (498, 498), (4304, 4346), (4349, 4351), (8072, 8079),
  (8088, 8095), (8104, 8111), (8124, 8124), (8140, 8140), (8188, 8188)]

/-- Characters that begin a word in a form of their own. -/
def moved : List CaseRun := [
  ⟨452, 452, 1, true, 1⟩, ⟨454, 454, 1, false, 1⟩, ⟨455, 455, 1, true, 1⟩, ⟨457, 457, 1, false, 1⟩,
  ⟨458, 458, 1, true, 1⟩, ⟨460, 460, 1, false, 1⟩, ⟨497, 497, 1, true, 1⟩, ⟨499, 499, 1, false, 1⟩,
  ⟨8064, 8071, 1, true, 8⟩, ⟨8080, 8087, 1, true, 8⟩, ⟨8096, 8103, 1, true, 8⟩,
  ⟨8115, 8115, 1, true, 9⟩, ⟨8131, 8131, 1, true, 9⟩, ⟨8179, 8179, 1, true, 9⟩]

/-- Characters that begin a word as several characters. -/
def expansions : List (Nat × List Nat) := [
  (223, [83, 115]), (1415, [1333, 1410]), (8114, [8122, 837]), (8116, [902, 837]),
  (8119, [913, 834, 837]), (8130, [8138, 837]), (8132, [905, 837]), (8135, [919, 834, 837]),
  (8178, [8186, 837]), (8180, [911, 837]), (8183, [937, 834, 837]), (64256, [70, 102]),
  (64257, [70, 105]), (64258, [70, 108]), (64259, [70, 102, 105]), (64260, [70, 102, 108]),
  (64261, [83, 116]), (64262, [83, 116]), (64275, [1348, 1398]), (64276, [1348, 1381]),
  (64277, [1348, 1387]), (64278, [1358, 1398]), (64279, [1348, 1389])]

/-- The form of a character at the head of a word. -/
def ofChar (c : Char) : List Char :=
  if c.toNat < 128 then [c.toUpper]
  else if PointTable.holds unmoved c then [c]
  else
    match expansions.lookup c.toNat, CaseRun.shifted? moved c with
    | some points, _ => points.map Char.ofNat
    | none, some head => [head]
    | none, none => Capital.ofChar c

/-- **A text whose words begin with capitals** and are small otherwise. -/
def title (s : String) : String :=
  String.ofList (Small.mapWithin (fun before c after =>
    if before.head?.any Cased.isCased then Small.within before c after else ofChar c) [] s.toList)

/-- **A text that begins with a capital** and is small otherwise. -/
def capitalize (s : String) : String :=
  String.ofList (Small.mapWithin (fun before c after =>
    if before.isEmpty then ofChar c else Small.within before c after) [] s.toList)

/-- **A text with its two cases swapped.** -/
def swapCase (s : String) : String :=
  String.ofList (Small.mapWithin (fun before c after =>
    if Cased.isCapital c then Small.within before c after
    else if Cased.isSmall c then Capital.ofChar c
    else [c]) [] s.toList)

/-- A character without its case.  The Cherokee letters become capitals. -/
def foldChar (c : Char) : List Char :=
  let point := c.toNat
  if point < 128 then [c.toLower]
  else if point == 305 then [c]
  else if (0x13A0 ≤ point && point ≤ 0x13FD) || (0xAB70 ≤ point && point ≤ 0xABBF) then
    Capital.ofChar c
  else ((Small.ofChar c).flatMap Capital.ofChar).flatMap Small.ofChar

/-- **A text without case,** for comparing. -/
def fold (s : String) : String := String.ofList (s.toList.flatMap foldChar)

/-- Is a text made of letters of one case among other characters, `wanted`, with none of the case
`refused`? -/
def isAll (wanted refused : Char → Bool) (s : String) : Bool :=
  s.toList.any wanted && !s.toList.any fun c => refused c || Cased.isHeadCapital c

/-- Do the words of a text begin with capitals and go on small, `inside` saying whether a word is
being read and `found` whether there was one? -/
def isTitleFrom : Bool → Bool → List Char → Bool
  | _, found, [] => found
  | inside, found, c :: rest =>
    if Cased.isCapital c || Cased.isHeadCapital c then !inside && isTitleFrom true true rest
    else if Cased.isSmall c then inside && isTitleFrom true true rest
    else isTitleFrom false found rest

end Headline
end EffectGraph
