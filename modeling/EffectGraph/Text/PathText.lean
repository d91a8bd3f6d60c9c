/-!
# Paths of files as texts

A path is shown without its empty parts and the parts that are a lone point.  One or more slashes in
front stay as one, except that exactly two stay two; a path of nothing is a lone point.
-/

namespace EffectGraph
namespace PathText

/-- The slashes that stay in front of a path. -/
def root (path : String) : String :=
  match (path.toList.takeWhile (· == '/')).length with
  | 0 => ""
  | 2 => "//"
  | _ => "/"

/-- The parts of a path that count. -/
def parts (path : String) : List String :=
  (path.splitOn "/").filter fun part => !part.isEmpty && part != "."

/-- **A path in its shortest form.** -/
def shortest (path : String) : String :=
  let text := root path ++ String.intercalate "/" (parts path)
  if text.isEmpty then "." else text

end PathText
end EffectGraph
