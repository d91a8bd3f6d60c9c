import EffectGraph.Text.DecimalDigit
import EffectGraph.Text.Quoted

/-!
# Options on a command line

A `Grammar` lists the options of a command, each with its names and whether it takes a value.  The
arguments are read in two steps.  `Grammar.tokens` says of each argument alone what it is: a word, an
option, an option that is not known.  `Grammar.settings` then gives each option its value and leaves
over what belongs to none.

A name may be cut short as long as one option remains that it can mean.  A value follows its option
as the next word, or in the same argument after an equals sign; a lone `--` there gives the option
nothing.  Negative numbers and texts with a space in them are words although they start with a dash,
and so is everything after a lone `--`.
-/

namespace EffectGraph
namespace Command

/-- The options of a command. -/
structure Grammar (α : Type) where
  options : List α
  names : α → List String
  takesValue : α → Bool

/-- What stands in the same argument as an option. -/
inductive Attachment where
  | nothing
  /-- The text after the letter of an option with one dash, without an equals sign between them. -/
  | tail (text : String)
  /-- The text after an equals sign. -/
  | value (text : String)

/-- What an option is given: a value, or nothing. -/
inductive Given (α : Type) where
  | nothing
  | just (value : α)

/-- The value that a text gives; the separator of words gives none. -/
def Given.ofText (text : String) : Given String := if text == "--" then .nothing else .just text

/-- What one argument is. -/
inductive Token (α : Type) where
  | word (text : String)
  /-- The lone `--`, after which only words come. -/
  | separator
  | option (o : α) (attached : Attachment)
  | unknown (text : String)

/-- Why options cannot be read. -/
inductive Misuse (α : Type) where
  /-- A shortened name that several options have. -/
  | ambiguous (text : String) (names : List String)
  /-- An option without the value that it takes. -/
  | missingValue (o : α)
  /-- An option with a value that it does not take. -/
  | unusedValue (o : α) (text : String)

/-- What a part of the command line settles. -/
inductive Setting (α : Type) where
  | turnOn (o : α)
  | give (o : α) (value : Given String)
  /-- An argument that belongs to no option. -/
  | extra (text : String)
  | misused (why : Misuse α)

/-- A text cut at its first equals sign, if it has one. -/
def cutAtEquals (text : String) : Option (String × String) :=
  let cs := text.toList
  let before := cs.takeWhile (· != '=')
  match cs.drop before.length with
  | _ :: after => some (String.ofList before, String.ofList after)
  | [] => none

/-- Is this the text of a negative number: a dash, digits, and perhaps a point and more digits?  A
line feed at the end does not count. -/
def isNegativeNumber (text : String) : Bool :=
  let isDigit (c : Char) := (DecimalDigit.value? c).isSome
  match text.toList with
  | '-' :: rest =>
    let rest := if rest.getLast? == some '\n' then rest.dropLast else rest
    let whole := rest.takeWhile isDigit
    match rest.drop whole.length with
    | [] => !whole.isEmpty
    | '.' :: fraction => !fraction.isEmpty && fraction.all isDigit
    | _ => false
  | _ => false

namespace Grammar

variable {α : Type}

/-- The names of all options. -/
def table (g : Grammar α) : List (String × α) :=
  g.options.flatMap fun o => (g.names o).map fun name => (name, o)

/-- The name of an option in messages: all its names. -/
def title (g : Grammar α) (o : α) : String := String.intercalate "/" (g.names o)

/-- The options that an argument can mean, its name perhaps cut short.  After one dash, text may be
attached to a letter; after two, a value follows an equals sign. -/
def candidates (g : Grammar α) (text : String) : List (String × α × Attachment) :=
  if "--".isPrefixOf text then
    let (stem, attached) : String × Attachment := match cutAtEquals text with
      | some (stem, value) => (stem, .value value)
      | none => (text, .nothing)
    g.table.filterMap fun (name, o) =>
      if stem.isPrefixOf name then some (name, o, attached) else none
  else
    let letter := String.ofList (text.toList.take 2)
    let tail := String.ofList (text.toList.drop 2)
    g.table.filterMap fun (name, o) =>
      if name == letter then some (name, o, .tail tail)
      else if text.isPrefixOf name then some (name, o, .nothing)
      else none

/-- The option of exactly the name before an equals sign, with the text after it. -/
def whole? (g : Grammar α) (text : String) : Option (Token α) := do
  let (name, value) ← cutAtEquals text
  let o ← g.table.lookup name
  return .option o (if "--".isPrefixOf name then .value value else .tail value)

/-- **What one argument is.** -/
def token (g : Grammar α) (text : String) : Except (Misuse α) (Token α) :=
  if text == "-" || !"-".isPrefixOf text then .ok (.word text)
  else
    match g.table.lookup text with
    | some o => .ok (.option o .nothing)
    | none =>
      match g.whole? text with
      | some t => .ok t
      | none =>
        match g.candidates text with
        | [] =>
          if isNegativeNumber text || text.toList.contains ' ' then .ok (.word text)
          else .ok (.unknown text)
        | [(_, o, attached)] => .ok (.option o attached)
        | many => .error (.ambiguous text (many.map (·.1)))

/-- **What each argument is.** -/
def tokens (g : Grammar α) : List String → Except (Misuse α) (List (Token α))
  | [] => .ok []
  | text :: rest =>
    if text == "--" then .ok (.separator :: rest.map .word)
    else do return (← g.token text) :: (← g.tokens rest)

/-- What options written together after one dash settle: `o`, which takes no value, and those that the
letters after it name.  The first that takes a value has the rest as its value; a letter that names
no option is refused with all that follows. -/
def together (g : Grammar α) (o : α) : List Char → Except (Misuse α) (List (Setting α))
  | [] => .error (.unusedValue o "")
  | letter :: rest =>
    match g.table.lookup (String.ofList ['-', letter]), rest with
    | none, rest => .error (.unusedValue o (String.ofList (letter :: rest)))
    | some next, [] =>
      if g.takesValue next then .error (.missingValue next) else .ok [.turnOn o, .turnOn next]
    | some next, rest =>
      if g.takesValue next then .ok [.turnOn o, .give next (.ofText (String.ofList rest))]
      else do return .turnOn o :: (← g.together next rest)

/-- What an option that takes no value settles with text attached to it. -/
def switches (g : Grammar α) (o : α) : Attachment → Except (Misuse α) (List (Setting α))
  | .nothing => .ok [.turnOn o]
  | .tail text => g.together o text.toList
  | .value text => .error (.unusedValue o text)

/-- **What the arguments settle,** in order, up to the first misuse. -/
def settings (g : Grammar α) : List (Token α) → List (Setting α)
  | [] => []
  | .word text :: rest => .extra text :: g.settings rest
  | .separator :: rest => .extra "--" :: g.settings rest
  | .unknown text :: rest => .extra text :: g.settings rest
  | .option o .nothing :: .word text :: rest =>
    if g.takesValue o then .give o (.just text) :: g.settings rest
    else .turnOn o :: g.settings (.word text :: rest)
  | .option o attached :: rest =>
    if g.takesValue o then
      match attached with
      | .nothing => [.misused (.missingValue o)]
      | .tail text => .give o (.ofText text) :: g.settings rest
      | .value text => .give o (.ofText text) :: g.settings rest
    else
      match g.switches o attached with
      | .ok all => all ++ g.settings rest
      | .error why => [.misused why]

/-- The wording of a misuse. -/
def wording (g : Grammar α) : Misuse α → String
  | .ambiguous text names =>
    "ambiguous option: " ++ text ++ " could match " ++ String.intercalate ", " names
  | .missingValue o => "argument " ++ g.title o ++ ": expected one argument"
  | .unusedValue o text =>
    "argument " ++ g.title o ++ ": ignored explicit argument " ++ Quoted.text text

end Grammar
end Command
end EffectGraph
