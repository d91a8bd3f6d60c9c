import EffectGraph.Value

/-!
# Complaints

A complaint is a reason for which the library or the language refuses to go on.  `Complaint.kind` is
the kind of fault it is raised as and `Complaint.message` its wording; `Complaint.fault` puts both
into a fault, with the name that was looked up in vain if there was one.
-/

namespace EffectGraph

/-- A reason to refuse. -/
inductive Complaint where
  -- building nodes
  | mapperNotCallable
  | binderNotCallable
  | handlerNotCallable
  | suspendNotCallable
  | stepNotCallable
  | updateNotCallable
  | thunkNotCallable
  | presetNotCallable
  | expectsNodes (operation got : String)
  | thenExpectsNode (got : String)
  | failExpectsException (got : String)
  | expectsCount (operation got : String)
  | negativeCount (operation count : String)
  | cannotPair (left right : String)
  -- running nodes
  | interpreterExpectsNode (got : String)
  | limitTooSmall
  | limitNotNumber (got : String)
  | continuationGave (got : String)
  | unknownVariant (got : String)
  | generatorYielded (got : String)
  | generatorRaisedStop
  | generatorIgnoredExit
  | generatorRunning
  | generatorNotStarted
  | notThrowable (got : String)
  | separateValue
  | notTracebackThrown
  | noInput
  | noErrorInSuccess
  | noFailureInSuccess
  | environmentNotInteger (name shown : String)
  -- calling and looking up
  | notCallable (got : String)
  | argumentCount (name : String) (takes given : Nat)
  | arguments (message : String)
  | notIterable (got : String)
  | noAttribute (typeName name : String)
  | noClassAttribute (cls name : String)
  | frozenField (shown : String)
  | frozenDeletion (shown : String)
  | frozenItemDeletion
  | frozenItem
  | noItemAssignment (typeName : String)
  | noSetter (name typeName : String)
  | readOnlyAttribute (typeName name : String)
  | notWritable (name typeName : String)
  | readOnly
  | immutableType (name field : String)
  | nameNotText (name : String)
  | attributeNotText (got : String)
  | notReceiver (word owner got : String)
  | notFault (what : String)
  | notTraceback
  | notBoolean
  | moduleName (got : String)
  | frozenObject
  | unbound (name : String)
  | cannotInstantiate
  | takesNoArguments (cls : String)
  | notRaisable
  -- numbers and texts
  | badOperands (operator : String)
  | cannotJoin (typeName other : String)
  | notRepeated (got : String)
  | unsupportedOperands (operator left right : String)
  | notOrdered (operator left right : String)
  | divisionByZero
  | zeroToNegativePower
  | powerTooLarge
  | tooLargeForFloat
  | infiniteToInt
  | nanToInt
  | tooManyDigits
  | tooManyDigitsRead (digits : Nat)
  | badInt (shown : String)
  | badFloat (shown : String)
  | intArgument (got : String)
  | floatArgument (got : String)
  | notAnInteger (got : String)
  | noLength (got : String)
  | lengthTooLarge
  | notSubscriptable (got : String)
  | indexOutOfRange (what : String)
  | indexNotInteger (what got : String)
  | textIndexNotInteger (got : String)
  | dequeIndexNotInteger (got : String)
  | indexTooLarge
  | indexExceedsWord
  | badValue (message : String)
  | zeroDivisor (message : String)
  | overflow (message : String)
  | ratioOfInfinite
  | ratioOfNan
  | exceedsWord
  | noEntryAt (index : String) (last : Int)
  | changedSize
  | changedKeys
  | changedRow
  | pairNotRow (place : Nat)
  | pairLength (place length : Nat)
  | tooDeep
  | unhashable (got : String)
  | emptyPop
  | emptyDequePop
  | badFormat
  | noFormat (got : String)
  | countFormat (got : String)

namespace Complaint

/-- The kind of fault that a complaint is raised as. -/
def kind : Complaint → FaultKind
  | negativeCount _ _ => .valueError
  | limitTooSmall => .valueError
  | unknownVariant _ => .invariantError
  | generatorRaisedStop => .runtimeError
  | generatorIgnoredExit => .runtimeError
  | generatorRunning => .valueError
  | noInput => .inputUnavailable
  | noErrorInSuccess => .valueError
  | noFailureInSuccess => .runtimeError
  | environmentNotInteger _ _ => .valueError
  | noAttribute _ _ => .attributeError
  | noClassAttribute _ _ => .attributeError
  | frozenField _ => .frozenInstanceError
  | frozenDeletion _ => .frozenInstanceError
  | noSetter _ _ => .attributeError
  | readOnlyAttribute _ _ => .attributeError
  | notWritable _ _ => .attributeError
  | readOnly => .attributeError
  | frozenObject => .attributeError
  | unbound _ => .nameError
  | divisionByZero => .zeroDivisionError
  | zeroToNegativePower => .zeroDivisionError
  | powerTooLarge => .overflowError
  | tooLargeForFloat => .overflowError
  | infiniteToInt => .overflowError
  | nanToInt => .valueError
  | tooManyDigits => .valueError
  | tooManyDigitsRead _ => .valueError
  | badInt _ => .valueError
  | badFloat _ => .valueError
  | indexOutOfRange _ => .indexError
  | noEntryAt _ _ => .indexError
  | indexTooLarge => .indexError
  | indexExceedsWord => .overflowError
  | lengthTooLarge => .overflowError
  | badValue _ => .valueError
  | zeroDivisor _ => .zeroDivisionError
  | overflow _ => .overflowError
  | ratioOfInfinite => .overflowError
  | ratioOfNan => .valueError
  | exceedsWord => .overflowError
  | changedSize => .runtimeError
  | changedKeys => .runtimeError
  | changedRow => .runtimeError
  | pairLength _ _ => .valueError
  | tooDeep => .recursionError
  | emptyPop => .indexError
  | emptyDequePop => .indexError
  | badFormat => .valueError
  | _ => .typeError

/-- The wording of a complaint. -/
def message : Complaint → String
  | mapperNotCallable => "mapper must be callable"
  | binderNotCallable => "binder must be callable returning an EffectNode"
  | handlerNotCallable => "recovery handler must be callable returning an EffectNode"
  | suspendNotCallable => "suspend expects a callable returning an EffectNode"
  | stepNotCallable => "fold_m step must be callable returning an EffectNode"
  | updateNotCallable => "Ref.modify expects a callable"
  | thunkNotCallable => "Delay thunk must be callable"
  | presetNotCallable => "the first argument must be callable"
  | expectsNodes operation got => operation ++ " expects EffectNode values, got " ++ got
  | thenExpectsNode got => "then expects an EffectNode, got " ++ got
  | failExpectsException got => "fail expects an Exception instance, got " ++ got
  | expectsCount operation got => operation ++ " count must be an int, got " ++ got
  | negativeCount operation count => operation ++ " count must be >= 0, got " ++ count
  | cannotPair left right =>
    "unsupported operand type(s) for ** or pow(): '" ++ left ++ "' and '" ++ right ++ "'"
  | interpreterExpectsNode got => "Interpreter expects an EffectNode, got " ++ got
  | limitTooSmall => "max_stack_depth must be >= 1 or None"
  | limitNotNumber got => "'<' not supported between instances of '" ++ got ++ "' and 'int'"
  | continuationGave got => "continuation must return an EffectNode; got " ++ got
  | unknownVariant got => "Unknown EffectNode variant: " ++ got
  | generatorYielded got => "@do generators must yield EffectNode values; got " ++ got
  | generatorRaisedStop => "generator raised StopIteration"
  | generatorIgnoredExit => "generator ignored GeneratorExit"
  | generatorRunning => "generator already executing"
  | generatorNotStarted => "can't send non-None value to a just-started generator"
  | notThrowable got =>
    "exceptions must be classes or instances deriving from BaseException, not " ++ got
  | separateValue => "instance exception may not have a separate value"
  | notTracebackThrown => "throw() third argument must be a traceback object"
  | noInput => "No more input available"
  | noErrorInSuccess => "Cannot access error on successful result"
  | noFailureInSuccess => "Called unwrap_err on Ok value"
  | environmentNotInteger name shown => name ++ " must be an integer, got " ++ shown
  | notCallable got => "'" ++ got ++ "' object is not callable"
  | argumentCount name takes given =>
    name ++ "() takes " ++ takes.repr ++ " argument(s) (" ++ given.repr ++ " given)"
  | arguments message => message
  | notIterable got => "'" ++ got ++ "' object is not iterable"
  | noAttribute typeName name => "'" ++ typeName ++ "' object has no attribute '" ++ name ++ "'"
  | noClassAttribute cls name => "type object '" ++ cls ++ "' has no attribute '" ++ name ++ "'"
  | frozenField shown => "cannot assign to field " ++ shown
  | frozenItem => "'frozendict' object doesn't support item assignment"
  | noItemAssignment typeName => "'" ++ typeName ++ "' object does not support item assignment"
  | noSetter name typeName =>
    "property '" ++ name ++ "' of '" ++ typeName ++ "' object has no setter"
  | readOnlyAttribute typeName name =>
    "'" ++ typeName ++ "' object attribute '" ++ name ++ "' is read-only"
  | notWritable name typeName =>
    "attribute '" ++ name ++ "' of '" ++ typeName ++ "' objects is not writable"
  | readOnly => "readonly attribute"
  | immutableType name field =>
    "cannot set '" ++ field ++ "' attribute of immutable type '" ++ name ++ "'"
  | attributeNotText got => "attribute name must be string, not '" ++ got ++ "'"
  | nameNotText name => name ++ " must be set to a string object"
  | notReceiver word owner got =>
    "descriptor '" ++ word ++ "' for '" ++ owner ++ "' objects doesn't apply to a '" ++ got ++
      "' object"
  | notFault what => "exception " ++ what ++ " must be None or derive from BaseException"
  | moduleName got => "module() argument 'name' must be str, not " ++ got
  | notBoolean => "attribute value type must be bool"
  | notTraceback => "__traceback__ must be a traceback or None"
  | frozenObject => "'frozendict' object is read-only"
  | frozenDeletion shown => "cannot delete field " ++ shown
  | frozenItemDeletion => "'frozendict' object doesn't support item deletion"
  | unbound name => "unbound " ++ name
  | cannotInstantiate => "Protocols cannot be instantiated"
  | takesNoArguments cls => cls ++ "() takes no arguments"
  | notRaisable => "exceptions must derive from BaseException"
  | badOperands operator => "bad operands for " ++ operator
  | cannotJoin typeName other =>
    "can only concatenate " ++ typeName ++ " (not \"" ++ other ++ "\") to " ++ typeName
  | notRepeated got => "can't multiply sequence by non-int of type '" ++ got ++ "'"
  | unsupportedOperands operator left right =>
    "unsupported operand type(s) for " ++ operator ++ ": '" ++ left ++ "' and '" ++ right ++ "'"
  | notOrdered operator left right =>
    "'" ++ operator ++ "' not supported between instances of '" ++ left ++ "' and '" ++ right ++ "'"
  | divisionByZero => "division by zero"
  | zeroToNegativePower => "0.0 cannot be raised to a negative power"
  | powerTooLarge => "(34, 'Numerical result out of range')"
  | tooLargeForFloat => "int too large to convert to float"
  | infiniteToInt => "cannot convert float infinity to integer"
  | nanToInt => "cannot convert float NaN to integer"
  | tooManyDigits =>
    "Exceeds the limit (4300 digits) for integer string conversion; " ++
      "use sys.set_int_max_str_digits() to increase the limit"
  | tooManyDigitsRead digits =>
    "Exceeds the limit (4300 digits) for integer string conversion: value has " ++ digits.repr ++
      " digits; use sys.set_int_max_str_digits() to increase the limit"
  | badInt shown => "invalid literal for int() with base 10: " ++ shown
  | badFloat shown => "could not convert string to float: " ++ shown
  | intArgument got =>
    "int() argument must be a string, a bytes-like object or a real number, not '" ++ got ++ "'"
  | floatArgument got =>
    "float() argument must be a string or a real number, not '" ++ got ++ "'"
  | notAnInteger got => "'" ++ got ++ "' object cannot be interpreted as an integer"
  | noLength got => "object of type '" ++ got ++ "' has no len()"
  | lengthTooLarge => "Python int too large to convert to C ssize_t"
  | notSubscriptable got => "'" ++ got ++ "' object is not subscriptable"
  | indexOutOfRange what => what ++ " index out of range"
  | indexNotInteger what got => what ++ " indices must be integers or slices, not " ++ got
  | textIndexNotInteger got => "string indices must be integers, not '" ++ got ++ "'"
  | dequeIndexNotInteger got => "sequence index must be integer, not '" ++ got ++ "'"
  | indexTooLarge | indexExceedsWord => "cannot fit 'int' into an index-sized integer"
  | badValue message | zeroDivisor message | overflow message => message
  | ratioOfInfinite => "cannot convert Infinity to integer ratio"
  | ratioOfNan => "cannot convert NaN to integer ratio"
  | exceedsWord => "Python int too large to convert to C int"
  | noEntryAt index last => "frozendict index " ++ index ++ " out of range " ++ last.repr
  | changedSize => "dictionary changed size during iteration"
  | changedKeys => "dictionary keys changed during iteration"
  | changedRow => "deque mutated during iteration"
  | pairNotRow place =>
    "cannot convert dictionary update sequence element #" ++ place.repr ++ " to a sequence"
  | pairLength place length =>
    "dictionary update sequence element #" ++ place.repr ++ " has length " ++ length.repr ++
      "; 2 is required"
  | tooDeep => "maximum recursion depth exceeded in comparison"
  | unhashable got => "unhashable type: '" ++ got ++ "'"
  | emptyPop => "pop from empty list"
  | emptyDequePop => "pop from an empty deque"
  | badFormat => "Unknown format code 'f' for object of type 'str'"
  | countFormat got => "%d format: a real number is required, not " ++ got
  | noFormat got => "unsupported format string passed to " ++ got ++ ".__format__"

/-- What a complaint carries besides its wording: the name that was looked up in vain. -/
def detail : Complaint → FaultDetail Value
  | noAttribute _ name => .lookup name []
  | noClassAttribute _ name => .lookup name []
  | _ => .plain

/-- A complaint as a fault. -/
def fault (c : Complaint) : Fault Value := ⟨c.kind, [.str c.message], c.detail, 0⟩

end Complaint
end EffectGraph
