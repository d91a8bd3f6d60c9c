import EffectGraph.Builtin.Methods
import EffectGraph.Fault

/-!
# The names that scripts call

`Operation` lists the functions of the library, `Blueprint` the classes that there are: those of the
library, the built-in types and the kinds of faults.  Both are values that scripts can hold and call;
each has the word that scripts use for it and the name that it is known by in labels and messages.  A
class also has the classes that it descends from.
-/

namespace EffectGraph

/-- A function of the library. -/
inductive Operation where
  | asValue | attempt | combine | doWhile | flatMap | foldM | foldMUnit | foreachM | forever
  | map2 | map | product | recover | replicateM | replicateMUnit | sequence | sequenceUnit | skip
  | traverse | unlessM | when | whileM
  | printLine | readLine | printLineAlias | readLineAlias | parseNumber
  | wrapProgram | run | runResult | delay | fail | pure | suspend | unit | newCell
  | debugStepsEnabled | defaultMaxStackDepth | describeNode | envFlag | envInt
  | factorial | factorialMain | celsius | temperatureMain
  | stripTerminator | callableName | jsonSafe | length
  deriving DecidableEq, Repr

namespace Operation

/-- The word that scripts call an operation by. -/
def word : Operation → String
  | asValue => "as_" | attempt => "attempt" | combine => "combine" | doWhile => "do_while"
  | flatMap => "flat_map" | foldM => "fold_m" | foldMUnit => "fold_m_" | foreachM => "foreach_m"
  | forever => "forever" | map2 => "map2" | map => "map_" | product => "product"
  | recover => "recover" | replicateM => "replicate_m" | replicateMUnit => "replicate_m_"
  | sequence => "sequence" | sequenceUnit => "sequence_" | skip => "skip"
  | traverse => "traverse" | unlessM => "unless" | when => "when" | whileM => "while_m"
  | printLine => "print_line" | readLine => "read_line" | printLineAlias => "PrintLine"
  | readLineAlias => "ReadLine" | parseNumber => "parse_number" | wrapProgram => "do"
  | run => "run" | runResult => "run_result" | delay => "delay" | fail => "fail" | pure => "pure"
  | suspend => "suspend" | unit => "unit" | newCell => "ref"
  | debugStepsEnabled => "debug_steps_enabled"
  | defaultMaxStackDepth => "default_max_stack_depth" | describeNode => "describe_node"
  | envFlag => "env_flag" | envInt => "env_int" | factorial => "factorial"
  | factorialMain => "factorial_main" | celsius => "f2c" | temperatureMain => "temperature_main"
  | stripTerminator => "strip_terminator" | callableName => "callable_name"
  | jsonSafe => "json_safe" | length => "len"

/-- The name of an operation in labels and messages. -/
def name : Operation → String
  | factorialMain => "main"
  | celsius => "fahrenheit_to_celsius"
  | temperatureMain => "main"
  | stripTerminator => "_strip_terminator"
  | callableName => "_callable_name"
  | jsonSafe => "_json_safe"
  | op => op.word

/-- The module that an operation is kept in. -/
def home : Operation → String
  | wrapProgram => "pureio.do"
  | run | runResult => "pureio.interpreter"
  | delay | fail | pure | suspend | unit | callableName => "pureio.node"
  | newCell => "pureio.ref"
  | debugStepsEnabled | defaultMaxStackDepth | describeNode | envFlag | envInt => "pureio.utils"
  | printLine | readLine | printLineAlias | readLineAlias | parseNumber | stripTerminator =>
    "pureio.console"
  | factorial | factorialMain => "examples.factorial_repl"
  | celsius | temperatureMain => "examples.temperature"
  | jsonSafe => "pureio.__main__"
  | length => "builtins"
  | _ => "pureio.combinators"

/-- All operations. -/
def all : List Operation :=
  [asValue, attempt, combine, doWhile, flatMap, foldM, foldMUnit, foreachM, forever, map2, map,
    product, recover, replicateM, replicateMUnit, sequence, sequenceUnit, skip, traverse, unlessM,
    when, whileM, printLine, readLine, printLineAlias, readLineAlias, parseNumber, wrapProgram, run,
    runResult, delay, fail, pure, suspend, unit, newCell, debugStepsEnabled, defaultMaxStackDepth,
    describeNode, envFlag, envInt, factorial, factorialMain, celsius, temperatureMain,
    stripTerminator, callableName, jsonSafe, length]

/-- The operation that scripts call by a given word. -/
def ofWord? (text : String) : Option Operation :=
  all.find? (·.word == text)

end Operation

/-- A class. -/
inductive Blueprint where
  -- the classes of the library
  | effectNode | done | delay | flatMap | recover
  | ok | err | result | frozenDict
  | cell | scriptedConsole | streamConsole
  | interpreter | stats | runState | runResult | program
  | continuationFrame | recoverFrame
  | console | lineReader | lineWriter
  /-- A built-in type. -/
  | builtin (t : BuiltinType)
  /-- A kind of faults. -/
  | fault (kind : FaultKind)
  /-- A class of nodes that the library does not know, by its name. -/
  | foreign (variant : String)
  /-- A class of the scripting language itself, by its name. -/
  | scripted (className : String)
  deriving DecidableEq, Repr

namespace Blueprint

/-- The name of a class. -/
def name : Blueprint → String
  | effectNode => "EffectNode" | done => "Done" | delay => "Delay" | flatMap => "FlatMap"
  | recover => "Recover" | ok => "Ok" | err => "Err" | result => "Result"
  | frozenDict => "frozendict" | cell => "Ref" | scriptedConsole => "ScriptedConsole"
  | streamConsole => "StreamConsole" | interpreter => "Interpreter"
  | stats => "InterpretationStats" | runState => "InterpreterState"
  | runResult => "RunResult" | program => "DoFunction"
  | continuationFrame => "ContinuationFrame" | recoverFrame => "RecoverFrame"
  | console => "Console" | lineReader => "LineReader" | lineWriter => "LineWriter"
  | builtin t => t.name
  | fault kind => kind.name
  | foreign variant => variant
  | scripted className => className

/-- The word that scripts use for a class. -/
def word : Blueprint → String
  | frozenDict => "FrozenDict"
  | cls => cls.name

/-- The module that a class is kept in, for a class that is not always there. -/
def home : Blueprint → String
  | effectNode | done | delay | flatMap | recover => "pureio.node"
  | ok | err | result => "pureio._vendor"
  | frozenDict => "frozendict"
  | cell => "pureio.ref"
  | scriptedConsole | streamConsole | console | lineReader | lineWriter => "pureio.console"
  | interpreter | stats | runState | runResult | continuationFrame | recoverFrame =>
    "pureio.interpreter"
  | program => "pureio.do"
  | builtin t => t.home
  | fault kind => kind.home
  | foreign _ | scripted _ => ""

/-- The full path of a class, as its text shows it. -/
def path (cls : Blueprint) : String :=
  if cls.home.isEmpty then cls.name else cls.home ++ "." ++ cls.name

/-- What a class is called in complaints. -/
def shownName : Blueprint → String
  | builtin t => t.shownName
  | cls => cls.name

/-- The type that a class itself has. -/
def kind : Blueprint → BuiltinType
  | effectNode | done | delay | flatMap | recover | foreign _ | builtin .abstract => .abstractType
  | console | lineReader | lineWriter | builtin .contract => .contractType
  | _ => .type

/-- The classes that a class descends from, itself first. -/
def ancestry : Blueprint → List Blueprint
  | effectNode => nodes
  | done => done :: nodes
  | delay => delay :: nodes
  | flatMap => flatMap :: nodes
  | recover => recover :: nodes
  | foreign variant => foreign variant :: nodes
  | result => result :: builtins [.generic, .anything]
  | ok => ok :: result :: builtins [.generic, .anything]
  | err => err :: result :: builtins [.generic, .anything]
  | frozenDict => frozenDict :: builtins [.dict, .anything]
  | cell => cell :: builtins [.generic, .anything]
  | runResult => runResult :: builtins [.generic, .anything]
  | program => program :: builtins [.generic, .anything]
  | lineReader => lineReader :: builtins [.contract, .generic, .anything]
  | lineWriter => lineWriter :: builtins [.contract, .generic, .anything]
  | console => console :: lineReader :: lineWriter :: builtins [.contract, .generic, .anything]
  | builtin t => builtins t.ancestry
  | fault kind => kind.ancestry.map fault ++ [builtin .anything]
  | cls => [cls, builtin .anything]
where
  /-- Some built-in types as classes. -/
  builtins (types : List BuiltinType) : List Blueprint := types.map builtin
  /-- The class of nodes and what it descends from. -/
  nodes : List Blueprint := effectNode :: builtins [.abstract, .generic, .anything]

/-- The classes that a class is made from directly. -/
def bases (cls : Blueprint) : List Blueprint :=
  match cls with
  | effectNode => [builtin .abstract, builtin .generic]
  | ok => [result, builtin .generic]
  | console => [lineReader, lineWriter, builtin .contract]
  | fault .inputUnavailable => [fault .graphError, fault .eofError]
  | fault .parseError => [fault .graphError, fault .valueError]
  | cls => (cls.ancestry.drop 1).take 1

/-- The class whose methods are those of a built-in type. -/
def ofBuiltin : BuiltinType → Blueprint
  | .fault => fault .baseException
  | t => builtin t

/-- Is a class a contract that has no instances of its own? -/
def isContract : Blueprint → Bool
  | console | lineReader | lineWriter => true
  | _ => false

/-- All classes that scripts know by a word. -/
def all : List Blueprint :=
  [effectNode, done, delay, flatMap, recover, ok, err, result, frozenDict, cell, scriptedConsole,
    streamConsole, interpreter, stats, runState, runResult, program, continuationFrame,
    recoverFrame, console, lineReader, lineWriter, builtin .text]

/-- The class that scripts call by a given word. -/
def ofWord? (text : String) : Option Blueprint :=
  all.find? (·.word == text)

end Blueprint

/-- Something that there is only one of and that is neither a function nor a class of the library. -/
inductive Constant where
  /-- What an operation answers that does not apply. -/
  | notImplemented
  /-- The type of generators that yield nodes. -/
  | generatorType
  /-- The type of all frames. -/
  | frameType
  deriving DecidableEq, Repr

namespace Constant

/-- The type of a constant. -/
def builtinType : Constant → BuiltinType
  | notImplemented => .notImplemented
  | generatorType => .genericAlias
  | frameType => .union

/-- The text of a constant. -/
def text : Constant → String
  | notImplemented => "NotImplemented"
  | generatorType =>
    "collections.abc.Generator[" ++ Blueprint.effectNode.path ++ "[typing.Any], typing.Any, ~T]"
  | frameType => Blueprint.continuationFrame.path ++ " | " ++ Blueprint.recoverFrame.path

/-- The constant that scripts know by a given word. -/
def ofWord? (word : String) : Option Constant :=
  match word with
  | "EffectGenerator" => some generatorType
  | "Frame" => some frameType
  | _ => none

end Constant
end EffectGraph
