import EffectGraph.Builtin.Operators

/-!
# Methods of the built-in types

The built-in types of the scripting language offer methods too.  `BuiltinType.methods` lists for each
type the words of its methods and how each of them takes its arguments; what they do is said where
values are at hand.
-/

namespace EffectGraph
namespace BuiltinType

/-- The methods of a built-in type by their words. -/
def methods : BuiltinType → List (String × Taking)
  | text =>
    (["capitalize", "casefold", "lower", "swapcase", "title", "upper", "isalnum", "isalpha",
      "isascii", "isdecimal", "isdigit", "isidentifier", "islower", "isnumeric", "isprintable",
      "isspace", "istitle", "isupper"].map fun word => (word, .nothing)) ++
    (["join", "partition", "rpartition", "removeprefix", "removesuffix", "zfill"].map
      fun word => (word, .one)) ++
    (["count", "endswith", "find", "index", "rfind", "rindex", "startswith"].map
      fun word => (word, .counted 1 3)) ++
    [("center", .expected 1 2), ("ljust", .expected 1 2), ("rjust", .expected 1 2),
      ("strip", .expected 0 1), ("lstrip", .expected 0 1), ("rstrip", .expected 0 1),
      ("replace", .expected 2 3), ("split", .named ["sep", "maxsplit"]),
      ("rsplit", .named ["sep", "maxsplit"]), ("splitlines", .named ["keepends"]),
      ("expandtabs", .named ["tabsize"])]
  | list =>
    [("append", .one), ("clear", .nothing), ("copy", .nothing), ("count", .one), ("extend", .one),
      ("index", .expected 1 3), ("insert", .expected 2 2), ("pop", .expected 0 1),
      ("remove", .one), ("reverse", .nothing), ("sort", .namedOnly ["key", "reverse"])]
  | tuple => [("count", .one), ("index", .expected 1 3)]
  | deque =>
    [("append", .one), ("appendleft", .one), ("clear", .nothing), ("copy", .nothing),
      ("count", .one), ("extend", .one), ("extendleft", .one), ("index", .counted 1 3),
      ("insert", .counted 2 2), ("pop", .nothing), ("popleft", .nothing), ("remove", .one),
      ("reverse", .nothing), ("rotate", .expected 0 1)]
  | dict =>
    [("clear", .nothing), ("copy", .nothing), ("fromkeys", .expected 1 2), ("get", .expected 1 2),
      ("items", .nothing), ("keys", .nothing), ("pop", .expected 1 2), ("popitem", .nothing),
      ("setdefault", .expected 1 2), ("update", .free 1), ("values", .nothing)]
  | whole =>
    [("as_integer_ratio", .nothing), ("bit_count", .nothing), ("bit_length", .nothing),
      ("conjugate", .nothing)]
  | decimal => [("as_integer_ratio", .nothing), ("conjugate", .nothing), ("is_integer", .nothing)]
  | range => [("count", .one), ("index", .one)]
  | generator => [("close", .nothing), ("send", .one), ("throw", .expected 1 3)]
  | keys | items => [("isdisjoint", .one)]
  | fault => [("add_note", .one), ("with_traceback", .one)]
  | type => [("mro", .nothing)]
  | _ => []

/-- How a method of a built-in type takes its arguments, if there is one of that word. -/
def taking? (t : BuiltinType) (word : String) : Option Taking :=
  (t.methods.lookup word).or (t.operators.lookup word)

/-- Does a method not tell which arguments it takes?  Operators all tell. -/
def isReticent (t : BuiltinType) (word : String) : Bool :=
  let isOperator := (t.taking? word).any Taking.isOperator
  match t with
  | deque | range | generator | keys | items | fault => !isOperator
  | text => (t.taking? word).any (· matches .counted _ _)
  | list => word == "__getitem__"
  | dict =>
    ["clear", "copy", "items", "keys", "pop", "update", "values", "__getitem__"].contains word
  | whole => ["conjugate", "__round__"].contains word
  | _ => false

end BuiltinType
end EffectGraph
