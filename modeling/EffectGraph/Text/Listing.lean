/-!
# Names in a sentence

Names joined the way a sentence lists them: with a comma between two, and an "and" before the last.
-/

namespace EffectGraph
namespace Listing

/-- Names joined as in a sentence. -/
def joined : List String → String
  | [] => ""
  | [a] => a
  | [a, b] => a ++ " and " ++ b
  | names => String.intercalate ", " names.dropLast ++ ", and " ++ names.getLast?.getD ""

/-- Names in quotes, joined as in a sentence. -/
def quoted (names : List String) : String :=
  joined (names.map fun n => "'" ++ n ++ "'")

end Listing
end EffectGraph
