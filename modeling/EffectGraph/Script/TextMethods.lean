import EffectGraph.Script.Functions
import EffectGraph.Script.Windows
import EffectGraph.Text.Headline
import EffectGraph.Text.Identifier
import EffectGraph.Text.Pieces

/-!
# Methods of texts

What the methods of texts do.  Those without arguments map a text or judge it; the others look for a
part of it, cut it, fill it up or join it.
-/

namespace EffectGraph
namespace Script

/-! ## Without arguments -/

/-- What a method without arguments makes of a text. -/
def mappedText? (word : String) (s : String) : Option String :=
  match word with
  | "capitalize" => some (Headline.capitalize s)
  | "casefold" => some (Headline.fold s)
  | "lower" => some (Small.text s)
  | "swapcase" => some (Headline.swapCase s)
  | "title" => some (Headline.title s)
  | "upper" => some (Capital.text s)
  | _ => none

/-- Are all characters of a text of one kind, and is there one? -/
def isMadeOf (kind : Char → Bool) (s : String) : Bool := !s.isEmpty && s.toList.all kind

/-- What a method without arguments says about a text. -/
def judgedText? (word : String) (s : String) : Option Bool :=
  match word with
  | "isalnum" => some (isMadeOf (fun c => Letter.isLetter c || Letter.isNumeric c) s)
  | "isalpha" => some (isMadeOf Letter.isLetter s)
  | "isascii" => some (s.toList.all fun c => c.toNat < 128)
  | "isdecimal" => some (isMadeOf Letter.isDecimal s)
  | "isdigit" => some (isMadeOf Letter.isDigit s)
  | "isidentifier" => some (Identifier.isIdentifier s)
  | "islower" => some (Headline.isAll Cased.isSmall Cased.isCapital s)
  | "isnumeric" => some (isMadeOf Letter.isNumeric s)
  | "isprintable" => some (s.toList.all Printable.isPrintable)
  | "isspace" => some (isMadeOf Blank.isBlank s)
  | "istitle" => some (Headline.isTitleFrom false false s.toList)
  | "isupper" => some (Headline.isAll Cased.isCapital Cased.isSmall s)
  | _ => none

/-! ## Arguments -/

/-- Refuses the type of an argument. -/
def refuseType {α : Type} (message : String) : Eff α := Eff.complain (.arguments message)

/-- The characters of an argument that has to be a text. -/
def textArgument (expected : String) (v : Value) : Eff (List Char) :=
  match v with
  | .str s => pure s.toList
  | v => refuseType (expected ++ v.argumentName)

/-- The characters of a part to look for. -/
def partArgument (v : Value) : Eff (List Char) :=
  match v with
  | .str s => pure s.toList
  | v => refuseType ("must be str, not " ++ v.typePath)

/-- A limit on how often something is done; there is none if it is negative. -/
def limitOf (cs : List Char) (v : Option Value) : Eff Nat := do
  match v with
  | none => return cs.length + 1
  | some v =>
    let i ← Eff.ofExcept (wordOf v)
    return if i < 0 then cs.length + 1 else i.toNat

/-- The character that a text is filled up with. -/
def fillerOf (v : Option Value) : Eff Char :=
  match v with
  | none => pure ' '
  | some (.str s) =>
    match s.toList with
    | [c] => pure c
    | _ => refuseType "The fill character must be exactly one character long"
  | some v => refuseType ("The fill character must be a unicode character, not " ++ v.typePath)

/-- A text from its characters. -/
def ofCharacters (cs : List Char) : Value := .str (String.ofList cs)

/-- A list of texts from their characters. -/
def newTexts (pieces : List (List Char)) : Eff Value :=
  World.newList (pieces.map ofCharacters).toArray

/-! ## Looking for parts -/

/-- The part of a text inside a window that a part can be looked for in; none if that is too long. -/
def windowFor? (cs part : List Char) (start stop : Nat) : Option (List Char) :=
  if stop < start + part.length then none else some ((cs.take stop).drop start)

/-- Looks for a part in a window of a text: how often it occurs, or where. -/
def lookFor (word : String) (cs : List Char) (part : Value) (first last : Option Value) :
    Eff Value := do
  let (start, stop) ← Eff.ofExcept (windowOf true cs.length first last)
  let part ← partArgument part
  let window := windowFor? cs part start stop
  if word == "count" then return .int ((window.map (Pieces.count part)).getD 0)
  let look := if word.startsWith "r" then Pieces.lastPlace? else Pieces.place?
  match window.bind (look part), word.endsWith "index" with
  | some place, _ => return .int (start + place)
  | none, false => return .int (-1)
  | none, true => Eff.complain (.badValue "substring not found")

/-- Does a window of a text begin or end with one of some parts? -/
def endsIn (word : String) (meets : List Char → List Char → Bool) (cs : List Char) (start stop : Nat) :
    List Value → Eff Bool
  | [] => pure false
  | .str part :: rest => do
    if (windowFor? cs part.toList start stop).any (meets part.toList) then return true
    else endsIn word meets cs start stop rest
  | v :: _ => refuseType ("tuple for " ++ word ++ " must only contain str, not " ++ v.typePath)

/-- Does a window of a text begin, or end, with a part or one of some parts? -/
def meetsEnd (word : String) (cs : List Char) (part : Value) (first last : Option Value) :
    Eff Value := do
  let (start, stop) ← Eff.ofExcept (windowOf true cs.length first last)
  let meets := if word == "startswith" then List.isPrefixOf else List.isSuffixOf
  match part with
  | .tuple _ parts => return .bool (← endsIn word meets cs start stop parts)
  | .str s => return .bool (← endsIn word meets cs start stop [.str s])
  | v => refuseType (word ++ " first arg must be str or a tuple of str, not " ++ v.typePath)

/-! ## Cutting and joining -/

/-- Cuts a text at a part, or between its words. -/
def cutText (word : String) (cs : List Char) (part limit : Option Value) : Eff Value := do
  let limit ← limitOf cs limit
  let fromEnd := word == "rsplit"
  match part.getD .none with
  | .none => newTexts (if fromEnd then Pieces.wordsFromEnd limit cs else Pieces.words limit cs)
  | .str "" => Eff.complain (.badValue "empty separator")
  | .str part =>
    newTexts (if fromEnd then Pieces.cutFromEnd part.toList limit cs
      else Pieces.cut part.toList limit cs)
  | v => refuseType ("must be str or None, not " ++ v.typePath)

/-- A text cut at the first or the last occurrence of a part, with that part between the pieces. -/
def parted (word : String) (cs : List Char) (part : Value) : Eff Value := do
  let part ← partArgument part
  if part.isEmpty then Eff.complain (.badValue "empty separator")
  let fromEnd := word == "rpartition"
  let place := if fromEnd then Pieces.lastPlace? part cs else Pieces.place? part cs
  let pieces :=
    match place with
    | some place => [cs.take place, part, cs.drop (place + part.length)]
    | none => if fromEnd then [[], [], cs] else [cs, [], []]
  return .ofItems (pieces.map ofCharacters)

/-- The characters of some texts with others between them, `place` being that of the first text. -/
def joined (between : List Char) : Nat → List Value → Eff (List Char)
  | _, [] => pure []
  | place, .str s :: rest => do
    let others ← joined between (place + 1) rest
    return s.toList ++ (if rest.isEmpty then [] else between) ++ others
  | place, v :: _ =>
    refuseType ("sequence item " ++ place.repr ++ ": expected str instance, " ++ v.typePath ++
      " found")

/-- The items of what is to be joined. -/
def itemsToJoin (h : Host) (fuel : Nat) (v : Value) : Eff (List Value) := do
  match v with
  | .list address => return (← settledItems address).toList
  | .tuple _ items => return items
  | v =>
    match ← Eff.attempt (h.openIterator v) with
    | .ok iterator => return (← h.drain fuel iterator #[]).toList
    | .error f =>
      if f.kind.isA .typeError then refuseType "can only join an iterable" else Eff.raise f

/-- A text without some characters at its ends. -/
def trimmed (word : String) (cs : List Char) (given : Option Value) : Eff Value := do
  let drop ← match given.getD .none with
    | .none => pure Blank.isBlank
    | .str chars => pure chars.toList.contains
    | _ => refuseType (word ++ " arg must be None or str")
  let cs := if word == "rstrip" then cs else cs.dropWhile drop
  return ofCharacters (if word == "lstrip" then cs else (cs.reverse.dropWhile drop).reverse)

/-! ## Filling up -/

/-- A text filled up to a width. -/
def filled (word : String) (cs : List Char) (width : Value) (filler : Option Value) :
    Eff Value := do
  let width := (← Eff.ofExcept (wordOf width)).toNat
  let filler ← fillerOf filler
  let missing := List.replicate (width - cs.length) filler
  return ofCharacters <|
    match word with
    | "center" => Pieces.centred width filler cs
    | "ljust" => cs ++ missing
    | _ => missing ++ cs

/-- **Runs a method of a text** on its arguments. -/
def runTextMethod (h : Host) (fuel : Nat) (word : String) (s : String)
    (places : List (Option Value)) : Eff Value := do
  let cs := s.toList
  match word, places with
  | "join", [some v] => return ofCharacters (← joined cs 0 (← itemsToJoin h fuel v))
  | "partition", [some part] => parted word cs part
  | "rpartition", [some part] => parted word cs part
  | "removeprefix", [some part] =>
    let part ← textArgument "removeprefix() argument must be str, not " part
    return ofCharacters (if part.isPrefixOf cs then cs.drop part.length else cs)
  | "removesuffix", [some part] =>
    let part ← textArgument "removesuffix() argument must be str, not " part
    return ofCharacters (if part.isSuffixOf cs then cs.take (cs.length - part.length) else cs)
  | "zfill", [some width] =>
    return ofCharacters (Pieces.zeroFilled (← Eff.ofExcept (wordOf width)).toNat cs)
  | "startswith", [some part, first, last] => meetsEnd word cs part first last
  | "endswith", [some part, first, last] => meetsEnd word cs part first last
  | word, [some part, first, last] =>
    if word != "replace" then lookFor word cs part first last
    else
      let old ← textArgument "replace() argument 1 must be str, not " part
      let new ← textArgument "replace() argument 2 must be str, not " (first.getD .none)
      return ofCharacters (Pieces.replace old new (← limitOf cs last) cs)
  | "split", [part, limit] => cutText word cs part limit
  | "rsplit", [part, limit] => cutText word cs part limit
  | "splitlines", [keep] =>
    let keep ← Eff.ofExcept (halfWordOf (keep.getD (.int 0)))
    newTexts (if keep == 0 then Lines.split cs else Lines.splitKeeping cs)
  | "expandtabs", [width] =>
    let width ← Eff.ofExcept (halfWordOf (width.getD (.int 8)))
    return ofCharacters (Pieces.expandTabs width.toNat 0 cs)
  | word, [some width, filler] => filled word cs width filler
  | word, [given] => trimmed word cs given
  | word, _ =>
    match mappedText? word s, judgedText? word s with
    | some mapped, _ => return .str mapped
    | none, some judged => return .bool judged
    | none, none => missing (.str s) word

end Script
end EffectGraph
