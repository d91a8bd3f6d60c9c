/-!
# Lines

Two ways to cut a text into lines.  A stream of lines is read one raw line at a time, each with its
terminator: `Lines.takeRaw` cuts the first one off, and `Lines.stripTerminator` removes exactly one
terminator from it.  A text read as a whole is cut at every line separator at once by `Lines.split`,
after `Lines.normalize` has turned carriage returns into line feeds.
-/

namespace EffectGraph

/-- What ends a raw line of a stream: a line feed alone, or a line feed, a carriage return, or both
together. -/
inductive LineEnding where
  | feed
  | any
  deriving DecidableEq, Repr

namespace Lines

/-- The first raw line of a text with its terminator, and what follows it; `line` holds the
characters of the line read so far, last first. -/
def takeRawOnto (ending : LineEnding) : List Char → List Char → List Char × List Char
  | line, [] => (line.reverse, [])
  | line, '\n' :: rest => (('\n' :: line).reverse, rest)
  | line, '\r' :: rest =>
    match ending, rest with
    | .any, '\n' :: more => (('\n' :: '\r' :: line).reverse, more)
    | .any, _ => (('\r' :: line).reverse, rest)
    | .feed, _ => takeRawOnto ending ('\r' :: line) rest
  | line, c :: rest => takeRawOnto ending (c :: line) rest

/-- **The first raw line of a text,** with its terminator, and what follows it.  Both are empty
exactly at the end of the text. -/
def takeRaw (ending : LineEnding) (text : List Char) : List Char × List Char :=
  takeRawOnto ending [] text

/-- A raw line without its terminator: a line feed after a carriage return goes with it, otherwise
one line feed or one carriage return goes. -/
def stripTerminator (line : List Char) : List Char :=
  match line.reverse with
  | '\n' :: '\r' :: rest => rest.reverse
  | '\n' :: rest => rest.reverse
  | '\r' :: rest => rest.reverse
  | _ => line

/-- Every carriage return, alone or before a line feed, turned into a line feed. -/
def normalize : List Char → List Char
  | '\r' :: '\n' :: rest => '\n' :: normalize rest
  | '\r' :: rest => '\n' :: normalize rest
  | c :: rest => c :: normalize rest
  | [] => []

/-- Does this character end a line of a text read as a whole? -/
def isSeparator (c : Char) : Bool :=
  let point := c.toNat
  (10 ≤ point && point ≤ 13) || (28 ≤ point && point ≤ 30) || point == 0x85 || point == 0x2028 ||
    point == 0x2029

/-- The lines of a text with their separators, `line` being the characters of the current one so far,
last first.  A carriage return and line feed count once, and no empty line is made at the end. -/
def splitOnto : List Char → List Char → List (List Char × List Char)
  | [], [] => []
  | line, [] => [(line.reverse, [])]
  | line, '\r' :: '\n' :: rest => (line.reverse, ['\r', '\n']) :: splitOnto [] rest
  | line, c :: rest =>
    if isSeparator c then (line.reverse, [c]) :: splitOnto [] rest else splitOnto (c :: line) rest

/-- **The lines of a text,** without their separators. -/
def split (cs : List Char) : List (List Char) := (splitOnto [] cs).map (·.1)

/-- The lines of a text, each with its separator. -/
def splitKeeping (cs : List Char) : List (List Char) := (splitOnto [] cs).map fun (l, s) => l ++ s

end Lines
end EffectGraph
