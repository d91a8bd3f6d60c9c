import EffectGraph.Command.Grammar
import EffectGraph.Number.Numeral

/-!
# Requests

A command line asks for one program to be run.  `Request.ofArguments` reads the request, or gives the
reason why there is none: a page of help was asked for, or the line is refused with the usage of the
part that refuses it.
-/

namespace EffectGraph
namespace Command

/-- The form in which the outcome of a run is written. -/
inductive Format where
  | text
  | json
  /-- No form: the value alone, and errors as text. -/
  | bare
  deriving DecidableEq, Repr

/-- The formats that have a name. -/
def Format.names : List (String × Format) := [("text", .text), ("json", .json)]

/-- What is to be run, and how. -/
structure Request where
  program : Given String
  /-- The file whose lines answer the program's questions. -/
  input : Option (Given String)
  format : Format
  stats : Bool
  limit : Option (Given Int)
  debug : Bool

/-- The two levels of the command line. -/
inductive Page where
  | top
  | run

namespace Page

/-- The words that lead to a level. -/
def title : Page → String
  | top => "pureio"
  | run => "pureio run"

/-- How a level is used. -/
def usage : Page → String
  | top => "usage: pureio [-h] \x7brun\x7d ...\n"
  | run =>
    "usage: pureio run [-h] --program PROGRAM [--input INPUT]\n" ++
      "                  [--format \x7btext,json\x7d] [--stats]\n" ++
      "                  [--max-stack-depth MAX_STACK_DEPTH] [--debug]\n"

/-- The help about a level. -/
def help : Page → String
  | top =>
    usage top ++ "\nUtilities for running pureio programs\n\n" ++
      "positional arguments:\n  \x7brun\x7d\n    run       Interpret an EffectNode\n\n" ++
      "options:\n  -h, --help  show this help message and exit\n"
  | run =>
    usage run ++
      "\nInterpret an EffectNode resolved from a module path. The target may be an EffectNode, " ++
      "a zero-argument factory, or a factory taking the Console.\n\n" ++
      "Examples:\n" ++
      "  pureio run --program examples.factorial_repl:main\n" ++
      "  pureio run --program examples.factorial_repl:main --input answers.txt --format json\n\n" ++
      "options:\n" ++
      "  -h, --help            show this help message and exit\n" ++
      "  --program PROGRAM     Fully-qualified path to the EffectNode or factory\n" ++
      "  --input INPUT         Replay lines from this file instead of reading the\n" ++
      "                        terminal\n" ++
      "  --format \x7btext,json\x7d  Output format (default: text)\n" ++
      "  --stats               Report interpretation statistics\n" ++
      "  --max-stack-depth MAX_STACK_DEPTH\n" ++
      "                        Limit on the continuation stack (default: unbounded)\n" ++
      "  --debug               Enable DEBUG logging and per-step tracing\n"

end Page

/-- Why a command line asks for no run. -/
inductive Stop where
  | help (page : Page)
  | refused (page : Page) (message : String)

/-- The option before the command. -/
inductive TopOption where
  | help

/-- The options before the command. -/
def topGrammar : Grammar TopOption where
  options := [.help]
  names := fun .help => ["-h", "--help"]
  takesValue := fun .help => false

/-- An option of a run. -/
inductive RunOption where
  | help | program | input | format | stats | limit | debug

/-- The options of a run. -/
def runGrammar : Grammar RunOption where
  options := [.help, .program, .input, .format, .stats, .limit, .debug]
  names
    | .help => ["-h", "--help"]
    | .program => ["--program"]
    | .input => ["--input"]
    | .format => ["--format"]
    | .stats => ["--stats"]
    | .limit => ["--max-stack-depth"]
    | .debug => ["--debug"]
  takesValue
    | .help => false
    | .program => true
    | .input => true
    | .format => true
    | .stats => false
    | .limit => true
    | .debug => false

/-- A request as far as it has been read, with the arguments that nothing has taken. -/
structure Draft where
  program : Option (Given String)
  input : Option (Given String)
  format : Format
  stats : Bool
  limit : Option (Given Int)
  debug : Bool
  extras : List String

/-- The draft of an empty command line. -/
def Draft.empty : Draft := ⟨none, none, .text, false, none, false, []⟩

/-- Refuses a value that is not among the choices. -/
def notAmong (argument value : String) (choices : List String) : String :=
  "argument " ++ argument ++ ": invalid choice: " ++ Quoted.text value ++ " (choose from " ++
    String.intercalate ", " (choices.map Quoted.text) ++ ")"

/-- A draft with one more setting. -/
def Draft.apply (d : Draft) : Setting RunOption → Except Stop Draft
  | .extra text => .ok { d with extras := d.extras ++ [text] }
  | .misused why => .error (.refused .run (runGrammar.wording why))
  | .turnOn .help => .error (.help .run)
  | .turnOn .stats => .ok { d with stats := true }
  | .turnOn .debug => .ok { d with debug := true }
  | .turnOn _ => .ok d
  | .give .program value => .ok { d with program := some value }
  | .give .input value => .ok { d with input := some value }
  | .give .format .nothing => .ok { d with format := .bare }
  | .give .format (.just value) =>
    match Format.names.lookup value with
    | some format => .ok { d with format }
    | none => .error (.refused .run (notAmong "--format" value (Format.names.map (·.1))))
  | .give .limit .nothing => .ok { d with limit := some .nothing }
  | .give .limit (.just value) =>
    match Numeral.int value with
    | .ok n => .ok { d with limit := some (.just n) }
    | .error _ =>
      .error (.refused .run
        ("argument --max-stack-depth: invalid int value: " ++ Quoted.text value))
  | .give _ _ => .ok d

/-- The complaint about arguments that are needed and missing. -/
def requiredMessage (name : String) : String := "the following arguments are required: " ++ name

/-- The request that a draft comes down to, `before` being the unknown options before the command. -/
def Draft.finish (d : Draft) (before : List String) : Except Stop Request :=
  match d.program with
  | none => .error (.refused .run (requiredMessage "--program"))
  | some program =>
    match before ++ d.extras with
    | [] => .ok ⟨program, d.input, d.format, d.stats, d.limit, d.debug⟩
    | extras =>
      .error (.refused .top ("unrecognized arguments: " ++ String.intercalate " " extras))

/-- The request that the arguments after the command make. -/
def Request.ofRunArguments (before args : List String) : Except Stop Request :=
  match runGrammar.tokens args with
  | .error why => .error (.refused .run (runGrammar.wording why))
  | .ok tokens => do
    let draft ← (runGrammar.settings tokens).foldlM Draft.apply Draft.empty
    draft.finish before

/-- What stands before the command: the unknown options, and the command with its arguments.  A lone
separator is taken for the command if anything follows it. -/
def findCommand : List String → List (Token TopOption) → List String →
    Except Stop (List String × List String)
  | _, [], before => .ok (before, [])
  | args, .word _ :: _, before => .ok (before, args)
  | args, [.separator], before => .ok (before ++ args, [])
  | args, .separator :: _, before => .ok (before, args)
  | args, .unknown text :: rest, before => findCommand (args.drop 1) rest (before ++ [text])
  | _, .option o attached :: _, _ =>
    match topGrammar.switches o attached with
    | .ok _ => .error (.help .top)
    | .error why => .error (.refused .top (topGrammar.wording why))

/-- **The request that a command line makes.** -/
def Request.ofArguments (args : List String) : Except Stop Request :=
  match topGrammar.tokens args with
  | .error why => .error (.refused .top (topGrammar.wording why))
  | .ok tokens => do
    match ← findCommand args tokens [] with
    | (_, []) => throw (.refused .top (requiredMessage "command"))
    | (before, command :: rest) =>
      if command == "run" then Request.ofRunArguments before rest
      else throw (.refused .top (notAmong "command" command ["run"]))

end Command
end EffectGraph
