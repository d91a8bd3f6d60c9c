import EffectGraph.Builtin
import EffectGraph.Complaint

/-!
# Arguments of built-in functions and methods

`Taking.bind` distributes the arguments of a call over the places of a built-in function or method,
or complains in the way that belongs to how it takes them.
-/

namespace EffectGraph
namespace Taking

/-- A number of arguments in words. -/
def argumentsInWords (n : Nat) : String :=
  n.repr ++ (if n == 1 then " argument" else " arguments")

/-- What a built-in function is called in complaints: by its word alone, and with its type. -/
structure CallName where
  short : String
  full : String

/-- Given arguments followed by empty places, so many in all. -/
def withEmptyPlaces (args : List Value) (count : Nat) : List (Option Value) :=
  args.map some ++ List.replicate (count - args.length) none

/-- The places of a function whose arguments may be given by name, `byPlace` of them by place too. -/
def bindNamed (word : String) (names : List String) (byPlace : Nat) (args : List Value)
    (keywords : Keywords) : Except Complaint (List (Option Value)) := do
  let given := args.length + keywords.length
  if given > names.length then
    throw (.arguments (word ++ "() takes at most " ++ names.length.repr ++
      (if args.isEmpty then " keyword" else "") ++
      (if names.length == 1 then " argument (" else " arguments (") ++ given.repr ++ " given)"))
  if args.length > byPlace then
    throw (.arguments (word ++ "() takes no positional arguments"))
  let placed := names.zip (withEmptyPlaces args names.length)
  if let some (place, name) := (List.range args.length).zip names |>.find? fun (_, name) =>
      keywords.any (·.1 == name) then
    throw (.arguments ("argument for " ++ word ++ "() given by name ('" ++ name ++
      "') and position (" ++ (place + 1).repr ++ ")"))
  if let some (name, _) := keywords.find? fun e => !names.contains e.1 then
    throw (.arguments ("'" ++ name ++ "' is an invalid keyword argument for " ++ word ++ "()"))
  return placed.map fun (name, value) => value.or (keywords.lookup name)

/-- The complaint about a number of arguments that is expected to lie between two others. -/
def unexpectedCount (word : String) (least most given : Nat) : Complaint :=
  let range :=
    if least == most then argumentsInWords least
    else if given < least then "at least " ++ argumentsInWords least
    else "at most " ++ argumentsInWords most
  .arguments (word ++ " expected " ++ range ++ ", got " ++ given.repr)

/-- The complaint about a number of arguments that is counted. -/
def miscounted (word : String) (least most given : Nat) : Complaint :=
  let range :=
    if least == most then "exactly " ++ argumentsInWords least
    else if given < least then "at least " ++ argumentsInWords least
    else "at most " ++ argumentsInWords most
  .arguments (word ++ "() takes " ++ range ++ " (" ++ given.repr ++ " given)")

/-- **The arguments of a call in their places.** -/
def bind (taking : Taking) (called : CallName) (args : List Value)
    (keywords : Keywords) : Except Complaint (List (Option Value)) := do
  let given := args.length
  let refuseKeywords (name : String) : Except Complaint Unit :=
    if keywords.isEmpty then .ok ()
    else .error (.arguments (name ++ "() takes no keyword arguments"))
  match taking with
  | .nothing =>
    refuseKeywords called.full
    if given != 0 then
      throw (.arguments (called.full ++ "() takes no arguments (" ++ given.repr ++ " given)"))
    return []
  | .one =>
    refuseKeywords called.full
    if given != 1 then
      throw (.arguments (called.full ++ "() takes exactly one argument (" ++ given.repr ++ " given)"))
    return args.map some
  | .expected least most =>
    refuseKeywords called.full
    if given < least || most < given then throw (unexpectedCount called.short least most given)
    return withEmptyPlaces args most
  | .counted least most =>
    refuseKeywords called.full
    if given < least || most < given then throw (miscounted called.short least most given)
    return withEmptyPlaces args most
  | .named names => bindNamed called.short names names.length args keywords
  | .namedOnly names => bindNamed called.short names 0 args keywords
  | .free most =>
    if most < given then throw (unexpectedCount called.short 0 most given)
    return withEmptyPlaces args most
  | .operands count =>
    refuseKeywords ("wrapper " ++ called.short)
    if given != count then
      throw (.arguments ("expected " ++ argumentsInWords count ++ ", got " ++ given.repr))
    return args.map some
  | .operandsBetween least most =>
    refuseKeywords ("wrapper " ++ called.short)
    if given < least || most < given then throw (unexpectedCount "" least most given)
    return withEmptyPlaces args most
  | .anyArguments => return args.map some

end Taking
end EffectGraph
