import EffectGraph.Complaint
import EffectGraph.Text.Listing

/-!
# Signatures

A signature says which arguments a function takes.  `Signature.bind` distributes the arguments of a
call over the parameters, or complains: about a keyword that is unknown or given twice, then about
too many arguments, then about missing ones.
-/

namespace EffectGraph
namespace Script

/-- The arguments that a function takes.  `receivers` values come before those that a call gives and
are counted with them in complaints. -/
structure Signature where
  name : String
  required : List String
  optional : List String
  receivers : Nat
  variadic : Bool
  keywordOnly : List String
  anyKeyword : Bool

namespace Signature

/-- The signature of a function of positional arguments. -/
def plain (name : String) (required : List String) : Signature :=
  ⟨name, required, [], 0, false, [], false⟩

/-- A function whose last positional arguments may be left out. -/
def withOptional (s : Signature) (optional : List String) : Signature := { s with optional }

/-- A function called on a receiver. -/
def onReceiver (s : Signature) : Signature := { s with receivers := 1 }

/-- A function that takes any number of further positional arguments. -/
def withRest (s : Signature) : Signature := { s with variadic := true }

/-- A function with arguments that are given by keyword only, all of them optional. -/
def withKeywords (s : Signature) (keywordOnly : List String) : Signature := { s with keywordOnly }

/-- A function that takes any keyword. -/
def withAnyKeyword (s : Signature) : Signature := { s with anyKeyword := true }

/-- The name of the receiver among the parameters. -/
def receiverName : String := "self"

/-- The arguments that a method takes besides its receiver. -/
def ofMethod (m : Method) : Signature :=
  { ((plain m.name m.parameters).withOptional m.optional).onReceiver with
    variadic := m.takesAny, anyKeyword := m.takesAnyKeyword }

/-- The arguments that a method takes without a receiver: the receiver is the first of them. -/
def ofUnbound (m : Method) : Signature :=
  { (plain m.name (receiverName :: m.parameters)).withOptional m.optional with
    variadic := m.takesAny, anyKeyword := m.takesAnyKeyword }

/-- The names of the positional parameters. -/
def positional (s : Signature) : List String := s.required ++ s.optional

end Signature

/-- The arguments of a call, distributed: one place for each positional parameter, further ones,
those given by keyword only, and other keywords. -/
structure Arguments where
  places : List (Option Value)
  rest : List Value
  named : Keywords
  others : Keywords

namespace Signature

/-- The complaint about too many positional arguments. -/
def tooMany (s : Signature) (given keywordOnlyGiven : Nat) : String :=
  let most := s.positional.length + s.receivers
  let least := s.required.length + s.receivers
  let takes :=
    if s.optional.isEmpty then most.repr else "from " ++ least.repr ++ " to " ++ most.repr
  let plural := !s.optional.isEmpty || most != 1
  let given := given + s.receivers
  let extra :=
    if keywordOnlyGiven == 0 then ""
    else " positional argument" ++ (if given == 1 then "" else "s") ++ " (and " ++
      keywordOnlyGiven.repr ++ " keyword-only argument" ++
      (if keywordOnlyGiven == 1 then "" else "s") ++ ")"
  let verb := if given == 1 && keywordOnlyGiven == 0 then " was given" else " were given"
  s.name ++ "() takes " ++ takes ++ " positional argument" ++ (if plural then "s" else "") ++
    " but " ++ given.repr ++ extra ++ verb

/-- The complaint about missing arguments. -/
def missing (s : Signature) (names : List String) : String :=
  s.name ++ "() missing " ++ names.length.repr ++ " required positional argument" ++
    (if names.length == 1 then "" else "s") ++ ": " ++ Listing.quoted names

/-- The complaint about an argument that is given twice. -/
def givenTwice (s : Signature) (name : String) : Complaint :=
  .arguments (s.name ++ "() got multiple values for argument '" ++ name ++ "'")

/-- The complaint about a keyword that no parameter takes. -/
def unexpected (s : Signature) (name : String) : Complaint :=
  if s.receivers > 0 && name == receiverName then s.givenTwice name
  else .arguments (s.name ++ "() got an unexpected keyword argument '" ++ name ++ "'")

/-- Puts keywords into places, one after the other. -/
def placeKeywords (s : Signature) : Keywords → Arguments → Except Complaint Arguments
  | [], a => .ok a
  | (name, value) :: more, a =>
    match s.positional.findIdx? (· == name) with
    | some i =>
      match a.places[i]? with
      | some (some _) => .error (s.givenTwice name)
      | _ => s.placeKeywords more { a with places := a.places.set i (some value) }
    | none =>
      if s.receivers > 0 && name == receiverName then .error (s.givenTwice name)
      else if s.keywordOnly.contains name then
        s.placeKeywords more { a with named := a.named ++ [(name, value)] }
      else if s.anyKeyword then
        s.placeKeywords more { a with others := a.others ++ [(name, value)] }
      else .error (s.unexpected name)

/-- **Distributes the arguments of a call.** -/
def bind (s : Signature) (args : List Value) (keywords : Keywords) : Except Complaint Arguments := do
  let count := s.positional.length
  let given := args.take count
  let places := given.map some ++ List.replicate (count - given.length) none
  let a ← s.placeKeywords keywords ⟨places, args.drop count, [], []⟩
  if !s.variadic && args.length > count then
    throw (.arguments (s.tooMany args.length a.named.length))
  let absent := (s.required.zip a.places).filterMap fun (name, place) =>
    if place.isNone then some name else none
  if !absent.isEmpty then throw (.arguments (s.missing absent))
  return a

end Signature
end Script
end EffectGraph
