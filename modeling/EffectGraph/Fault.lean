/-!
# Faults

A fault is what a computation raises: a kind, arguments, and for some kinds a few details.  Kinds
form a hierarchy; only the descendants of `FaultKind.exception` are failures that a guarded region
catches, the others are interrupts that pass through it.
-/

namespace EffectGraph

/-- The kinds of fault. -/
inductive FaultKind where
  | baseException
  | keyboardInterrupt
  | systemExit
  | generatorExit
  | exception
  | stopIteration
  | arithmeticError
  | zeroDivisionError
  | overflowError
  | assertionError
  | attributeError
  | frozenInstanceError
  | eofError
  | importError
  | moduleNotFoundError
  | lookupError
  | indexError
  | keyError
  | memoryError
  | nameError
  | osError
  | fileNotFoundError
  | fileExistsError
  | isADirectoryError
  | notADirectoryError
  | permissionError
  | interruptedError
  | childProcessError
  | processLookupError
  | blockingError
  | timeoutError
  | connectionError
  | brokenPipeError
  | connectionAbortedError
  | connectionRefusedError
  | connectionResetError
  | runtimeError
  | recursionError
  | typeError
  | valueError
  | unicodeDecodeError
  | graphError
  | inputUnavailable
  | parseError
  | suspendedEffectFailure
  | interpreterException
  | stackOverflow
  | invariantError
  deriving DecidableEq, Repr

namespace FaultKind

/-- The name that a kind is known by. -/
def name : FaultKind → String
  | baseException => "BaseException"
  | keyboardInterrupt => "KeyboardInterrupt"
  | systemExit => "SystemExit"
  | generatorExit => "GeneratorExit"
  | exception => "Exception"
  | stopIteration => "StopIteration"
  | arithmeticError => "ArithmeticError"
  | zeroDivisionError => "ZeroDivisionError"
  | overflowError => "OverflowError"
  | assertionError => "AssertionError"
  | attributeError => "AttributeError"
  | frozenInstanceError => "FrozenInstanceError"
  | eofError => "EOFError"
  | importError => "ImportError"
  | moduleNotFoundError => "ModuleNotFoundError"
  | lookupError => "LookupError"
  | indexError => "IndexError"
  | keyError => "KeyError"
  | memoryError => "MemoryError"
  | nameError => "NameError"
  | osError => "OSError"
  | fileNotFoundError => "FileNotFoundError"
  | fileExistsError => "FileExistsError"
  | isADirectoryError => "IsADirectoryError"
  | notADirectoryError => "NotADirectoryError"
  | permissionError => "PermissionError"
  | interruptedError => "InterruptedError"
  | childProcessError => "ChildProcessError"
  | processLookupError => "ProcessLookupError"
  | blockingError => "BlockingIOError"
  | timeoutError => "TimeoutError"
  | connectionError => "ConnectionError"
  | brokenPipeError => "BrokenPipeError"
  | connectionAbortedError => "ConnectionAbortedError"
  | connectionRefusedError => "ConnectionRefusedError"
  | connectionResetError => "ConnectionResetError"
  | runtimeError => "RuntimeError"
  | recursionError => "RecursionError"
  | typeError => "TypeError"
  | valueError => "ValueError"
  | unicodeDecodeError => "UnicodeDecodeError"
  | graphError => "PureIOError"
  | inputUnavailable => "InputUnavailable"
  | parseError => "ParseError"
  | suspendedEffectFailure => "SuspendedEffectFailure"
  | interpreterException => "InterpreterException"
  | stackOverflow => "ContinuationStackOverflowError"
  | invariantError => "InterpreterInvariantError"

/-- The module that a kind is kept in, for a kind that is not always there. -/
def home : FaultKind → String
  | graphError | inputUnavailable | parseError | suspendedEffectFailure | interpreterException
  | stackOverflow | invariantError => "pureio.errors"
  | frozenInstanceError => "dataclasses"
  | _ => ""

/-- All kinds. -/
def all : List FaultKind :=
  [baseException, keyboardInterrupt, systemExit, generatorExit, exception, stopIteration,
    arithmeticError, zeroDivisionError, overflowError, assertionError, attributeError,
    frozenInstanceError, eofError, importError, moduleNotFoundError, lookupError, indexError,
    keyError, memoryError, nameError, osError, fileNotFoundError, fileExistsError, isADirectoryError,
    notADirectoryError, permissionError, interruptedError, childProcessError, processLookupError,
    blockingError, timeoutError, connectionError, brokenPipeError, connectionAbortedError,
    connectionRefusedError, connectionResetError, runtimeError, recursionError, typeError,
    valueError, unicodeDecodeError, graphError, inputUnavailable, parseError,
    suspendedEffectFailure, interpreterException, stackOverflow, invariantError]

/-- The kind with a given name. -/
def ofName? (text : String) : Option FaultKind :=
  all.find? (·.name == text)

/-- The kinds that a kind descends from, itself included. -/
def ancestry : FaultKind → List FaultKind
  | baseException => [baseException]
  | keyboardInterrupt => [keyboardInterrupt, baseException]
  | systemExit => [systemExit, baseException]
  | generatorExit => [generatorExit, baseException]
  | exception => [exception, baseException]
  | stopIteration => [stopIteration, exception, baseException]
  | arithmeticError => [arithmeticError, exception, baseException]
  | zeroDivisionError => [zeroDivisionError, arithmeticError, exception, baseException]
  | overflowError => [overflowError, arithmeticError, exception, baseException]
  | assertionError => [assertionError, exception, baseException]
  | attributeError => [attributeError, exception, baseException]
  | frozenInstanceError => [frozenInstanceError, attributeError, exception, baseException]
  | eofError => [eofError, exception, baseException]
  | importError => [importError, exception, baseException]
  | moduleNotFoundError => [moduleNotFoundError, importError, exception, baseException]
  | lookupError => [lookupError, exception, baseException]
  | indexError => [indexError, lookupError, exception, baseException]
  | keyError => [keyError, lookupError, exception, baseException]
  | memoryError => [memoryError, exception, baseException]
  | nameError => [nameError, exception, baseException]
  | osError => [osError, exception, baseException]
  | fileNotFoundError => [fileNotFoundError, osError, exception, baseException]
  | fileExistsError => [fileExistsError, osError, exception, baseException]
  | isADirectoryError => [isADirectoryError, osError, exception, baseException]
  | notADirectoryError => [notADirectoryError, osError, exception, baseException]
  | permissionError => [permissionError, osError, exception, baseException]
  | interruptedError => [interruptedError, osError, exception, baseException]
  | childProcessError => [childProcessError, osError, exception, baseException]
  | processLookupError => [processLookupError, osError, exception, baseException]
  | blockingError => [blockingError, osError, exception, baseException]
  | timeoutError => [timeoutError, osError, exception, baseException]
  | connectionError => [connectionError, osError, exception, baseException]
  | brokenPipeError => [brokenPipeError, connectionError, osError, exception, baseException]
  | connectionAbortedError =>
    [connectionAbortedError, connectionError, osError, exception, baseException]
  | connectionRefusedError =>
    [connectionRefusedError, connectionError, osError, exception, baseException]
  | connectionResetError =>
    [connectionResetError, connectionError, osError, exception, baseException]
  | runtimeError => [runtimeError, exception, baseException]
  | recursionError => [recursionError, runtimeError, exception, baseException]
  | typeError => [typeError, exception, baseException]
  | valueError => [valueError, exception, baseException]
  | unicodeDecodeError => [unicodeDecodeError, valueError, exception, baseException]
  | graphError => [graphError, exception, baseException]
  | inputUnavailable => [inputUnavailable, graphError, eofError, exception, baseException]
  | parseError => [parseError, graphError, valueError, exception, baseException]
  | suspendedEffectFailure => [suspendedEffectFailure, graphError, exception, baseException]
  | interpreterException => [interpreterException, graphError, exception, baseException]
  | stackOverflow => [stackOverflow, interpreterException, graphError, exception, baseException]
  | invariantError => [invariantError, interpreterException, graphError, exception, baseException]

/-- Does a kind descend from another (or equal it)? -/
def isA (kind ancestor : FaultKind) : Bool :=
  kind.ancestry.contains ancestor

/-- Is this a failure that a guarded region catches, rather than an interrupt? -/
def isFailure (kind : FaultKind) : Bool :=
  kind.isA .exception

/-- The kind of system error that an error number stands for, where it has one of its own. -/
def ofErrorNumber? : Int → Option FaultKind
  | 1 | 13 => some permissionError
  | 2 => some fileNotFoundError
  | 3 => some processLookupError
  | 4 => some interruptedError
  | 10 => some childProcessError
  | 11 | 114 | 115 => some blockingError
  | 17 => some fileExistsError
  | 20 => some notADirectoryError
  | 21 => some isADirectoryError
  | 32 | 108 => some brokenPipeError
  | 103 => some connectionAbortedError
  | 104 => some connectionResetError
  | 110 => some timeoutError
  | 111 => some connectionRefusedError
  | _ => none

end FaultKind

/-- What some kinds of fault carry besides their arguments. -/
inductive FaultDetail (α : Type) where
  | plain
  /-- The text that is not a number, and the fault that refused to read it if that was tried. -/
  | parse (text : α) (refusal : List α)
  /-- The report of a failed run: what was raised, where, at which step, and how many pending
  continuations were dropped. -/
  | suspended (cause label step discarded : α)
  /-- The limit on the stack and the depth that exceeded it. -/
  | overflow (maxDepth actualDepth : α)
  /-- A system error: its number, its text, and the one or two files that it is about. -/
  | system (number text : α) (files : List α)
  /-- The name of an attribute, and the object that does not have it where that is known. -/
  | lookup (name : String) (object : List α)

/-- What a computation raises.  The stamp tells faults apart that scripts have got hold of; a fault
that no script has seen yet has the stamp 0. -/
structure Fault (α : Type) where
  kind : FaultKind
  args : List α
  detail : FaultDetail α
  stamp : Nat

end EffectGraph
