import EffectGraph.Complaint
import EffectGraph.Json
import EffectGraph.Text.PathText
import EffectGraph.Text.Utf8

/-!
# Problems of a command

The reasons for which a command cannot do what a request asks, apart from what the program itself
does: the program is not found, the input cannot be read, the report cannot be written.
-/

namespace EffectGraph
namespace Command

/-- Why a file cannot be read. -/
inductive FileProblem where
  | missing
  | directory
  /-- A part of the path that should be a directory is none. -/
  | notDirectory
  | nameTooLong
  | other (reason : String)

namespace FileProblem

/-- The kind of fault that an unreadable file is raised as. -/
def kind : FileProblem → FaultKind
  | missing => .fileNotFoundError
  | directory => .isADirectoryError
  | notDirectory => .notADirectoryError
  | nameTooLong => .osError
  | other _ => .osError

/-- The reason why a file cannot be read, in words. -/
def reason : FileProblem → String
  | missing => "[Errno 2] No such file or directory"
  | directory => "[Errno 21] Is a directory"
  | notDirectory => "[Errno 20] Not a directory"
  | nameTooLong => "[Errno 36] File name too long"
  | other reason => reason

end FileProblem

/-- The character that no path holds. -/
def forbiddenInPath : Char := Char.ofNat 0

/-- A reason why a command stops. -/
inductive Problem where
  | noProgram
  | noInputPath
  | forbiddenPath
  | notQualified (path : String)
  | emptyModuleName
  | relativeModuleName (name : String)
  | noModule (name : String)
  | notPackage (name parent : String)
  | noMember (moduleName name : String)
  | notNode (path : String)
  | unreadable (path : String) (why : FileProblem)
  | malformedText (found : Utf8.Malformed)
  | notWritable (why : Datum.JsonRefusal)

namespace Problem

/-- The kind of fault that a problem is raised as. -/
def kind : Problem → FaultKind
  | noProgram => .typeError
  | noInputPath => .typeError
  | forbiddenPath => .valueError
  | notQualified _ => .valueError
  | emptyModuleName => .valueError
  | relativeModuleName _ => .typeError
  | noModule _ => .moduleNotFoundError
  | notPackage _ _ => .moduleNotFoundError
  | noMember _ _ => .attributeError
  | notNode _ => .typeError
  | unreadable _ why => why.kind
  | malformedText _ => .unicodeDecodeError
  | notWritable (.notSerializable _) => .typeError
  | notWritable (.badKey _) => .typeError
  | notWritable .circular => .valueError
  | notWritable .tooManyDigits => .valueError

/-- The wording of a problem. -/
def message : Problem → String
  | noProgram => "unhashable type: 'list'"
  | noInputPath => "expected str, bytes or os.PathLike object, not list"
  | forbiddenPath => "embedded null byte"
  | notQualified path =>
    "'" ++ path ++ "' is not a fully-qualified symbol. Use module.symbol or module:symbol format."
  | emptyModuleName => "Empty module name"
  | relativeModuleName name =>
    "the 'package' argument is required to perform a relative import for " ++ Quoted.text name
  | noModule name => "No module named " ++ Quoted.text name
  | notPackage name parent =>
    "No module named " ++ Quoted.text name ++ "; " ++ Quoted.text parent ++ " is not a package"
  | noMember moduleName name => "module '" ++ moduleName ++ "' has no attribute '" ++ name ++ "'"
  | notNode path => "'" ++ path ++ "' did not resolve to an EffectNode."
  | unreadable path why => why.reason ++ ": " ++ Quoted.text (PathText.shortest path)
  | malformedText m => m.message
  | notWritable (.notSerializable typeName) =>
    "Object of type " ++ typeName ++ " is not JSON serializable"
  | notWritable (.badKey typeName) =>
    "keys must be str, int, float, bool or None, not " ++ typeName
  | notWritable .circular => "Circular reference detected"
  | notWritable .tooManyDigits => Complaint.message .tooManyDigits

/-- A problem as a fault. -/
def fault (p : Problem) : Fault Value := ⟨p.kind, [.str p.message], .plain, 0⟩

/-- Stops with a problem. -/
def stop {α : Type} (p : Problem) : Eff α := Eff.raise p.fault

end Problem
end Command
end EffectGraph
