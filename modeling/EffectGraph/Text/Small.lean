import EffectGraph.Text.CaseRun
import EffectGraph.Text.Cased

/-!
# Small letters

The lower-case form of a character is one other character at a fixed distance, apart from the capital
I with a dot, which keeps its dot as a mark.  The capital sigma has two small forms: the final one
where it ends a word, that is after a character with case and not before one, marks passed over.
-/

namespace EffectGraph
namespace Small

/-- The runs, in increasing order. -/
def runs : List CaseRun := [
  ⟨65, 90, 1, true, 32⟩, ⟨192, 214, 1, true, 32⟩, ⟨216, 222, 1, true, 32⟩, ⟨256, 302, 2, true, 1⟩,
  ⟨306, 310, 2, true, 1⟩, ⟨313, 327, 2, true, 1⟩, ⟨330, 374, 2, true, 1⟩, ⟨376, 376, 1, false, 121⟩,
  ⟨377, 381, 2, true, 1⟩, ⟨385, 385, 1, true, 210⟩, ⟨386, 388, 2, true, 1⟩,
  ⟨390, 390, 1, true, 206⟩, ⟨391, 391, 1, true, 1⟩, ⟨393, 394, 1, true, 205⟩,
  ⟨395, 395, 1, true, 1⟩, ⟨398, 398, 1, true, 79⟩, ⟨399, 399, 1, true, 202⟩,
  ⟨400, 400, 1, true, 203⟩, ⟨401, 401, 1, true, 1⟩, ⟨403, 403, 1, true, 205⟩,
  ⟨404, 404, 1, true, 207⟩, ⟨406, 406, 1, true, 211⟩, ⟨407, 407, 1, true, 209⟩,
  ⟨408, 408, 1, true, 1⟩, ⟨412, 412, 1, true, 211⟩, ⟨413, 413, 1, true, 213⟩,
  ⟨415, 415, 1, true, 214⟩, ⟨416, 420, 2, true, 1⟩, ⟨422, 422, 1, true, 218⟩,
  ⟨423, 423, 1, true, 1⟩, ⟨425, 425, 1, true, 218⟩, ⟨428, 428, 1, true, 1⟩,
  ⟨430, 430, 1, true, 218⟩, ⟨431, 431, 1, true, 1⟩, ⟨433, 434, 1, true, 217⟩,
  ⟨435, 437, 2, true, 1⟩, ⟨439, 439, 1, true, 219⟩, ⟨440, 440, 1, true, 1⟩, ⟨444, 444, 1, true, 1⟩,
  ⟨452, 452, 1, true, 2⟩, ⟨453, 453, 1, true, 1⟩, ⟨455, 455, 1, true, 2⟩, ⟨456, 456, 1, true, 1⟩,
  ⟨458, 458, 1, true, 2⟩, ⟨459, 475, 2, true, 1⟩, ⟨478, 494, 2, true, 1⟩, ⟨497, 497, 1, true, 2⟩,
  ⟨498, 500, 2, true, 1⟩, ⟨502, 502, 1, false, 97⟩, ⟨503, 503, 1, false, 56⟩,
  ⟨504, 542, 2, true, 1⟩, ⟨544, 544, 1, false, 130⟩, ⟨546, 562, 2, true, 1⟩,
  ⟨570, 570, 1, true, 10795⟩, ⟨571, 571, 1, true, 1⟩, ⟨573, 573, 1, false, 163⟩,
  ⟨574, 574, 1, true, 10792⟩, ⟨577, 577, 1, true, 1⟩, ⟨579, 579, 1, false, 195⟩,
  ⟨580, 580, 1, true, 69⟩, ⟨581, 581, 1, true, 71⟩, ⟨582, 590, 2, true, 1⟩, ⟨880, 882, 2, true, 1⟩,
  ⟨886, 886, 1, true, 1⟩, ⟨895, 895, 1, true, 116⟩, ⟨902, 902, 1, true, 38⟩,
  ⟨904, 906, 1, true, 37⟩, ⟨908, 908, 1, true, 64⟩, ⟨910, 911, 1, true, 63⟩,
  ⟨913, 929, 1, true, 32⟩, ⟨931, 939, 1, true, 32⟩, ⟨975, 975, 1, true, 8⟩, ⟨984, 1006, 2, true, 1⟩,
  ⟨1012, 1012, 1, false, 60⟩, ⟨1015, 1015, 1, true, 1⟩, ⟨1017, 1017, 1, false, 7⟩,
  ⟨1018, 1018, 1, true, 1⟩, ⟨1021, 1023, 1, false, 130⟩, ⟨1024, 1039, 1, true, 80⟩,
  ⟨1040, 1071, 1, true, 32⟩, ⟨1120, 1152, 2, true, 1⟩, ⟨1162, 1214, 2, true, 1⟩,
  ⟨1216, 1216, 1, true, 15⟩, ⟨1217, 1229, 2, true, 1⟩, ⟨1232, 1326, 2, true, 1⟩,
  ⟨1329, 1366, 1, true, 48⟩, ⟨4256, 4293, 1, true, 7264⟩, ⟨4295, 4295, 1, true, 7264⟩,
  ⟨4301, 4301, 1, true, 7264⟩, ⟨5024, 5103, 1, true, 38864⟩, ⟨5104, 5109, 1, true, 8⟩,
  ⟨7312, 7354, 1, false, 3008⟩, ⟨7357, 7359, 1, false, 3008⟩, ⟨7680, 7828, 2, true, 1⟩,
  ⟨7838, 7838, 1, false, 7615⟩, ⟨7840, 7934, 2, true, 1⟩, ⟨7944, 7951, 1, false, 8⟩,
  ⟨7960, 7965, 1, false, 8⟩, ⟨7976, 7983, 1, false, 8⟩, ⟨7992, 7999, 1, false, 8⟩,
  ⟨8008, 8013, 1, false, 8⟩, ⟨8025, 8031, 2, false, 8⟩, ⟨8040, 8047, 1, false, 8⟩,
  ⟨8072, 8079, 1, false, 8⟩, ⟨8088, 8095, 1, false, 8⟩, ⟨8104, 8111, 1, false, 8⟩,
  ⟨8120, 8121, 1, false, 8⟩, ⟨8122, 8123, 1, false, 74⟩, ⟨8124, 8124, 1, false, 9⟩,
  ⟨8136, 8139, 1, false, 86⟩, ⟨8140, 8140, 1, false, 9⟩, ⟨8152, 8153, 1, false, 8⟩,
  ⟨8154, 8155, 1, false, 100⟩, ⟨8168, 8169, 1, false, 8⟩, ⟨8170, 8171, 1, false, 112⟩,
  ⟨8172, 8172, 1, false, 7⟩, ⟨8184, 8185, 1, false, 128⟩, ⟨8186, 8187, 1, false, 126⟩,
  ⟨8188, 8188, 1, false, 9⟩, ⟨8486, 8486, 1, false, 7517⟩, ⟨8490, 8490, 1, false, 8383⟩,
  ⟨8491, 8491, 1, false, 8262⟩, ⟨8498, 8498, 1, true, 28⟩, ⟨8544, 8559, 1, true, 16⟩,
  ⟨8579, 8579, 1, true, 1⟩, ⟨9398, 9423, 1, true, 26⟩, ⟨11264, 11311, 1, true, 48⟩,
  ⟨11360, 11360, 1, true, 1⟩, ⟨11362, 11362, 1, false, 10743⟩, ⟨11363, 11363, 1, false, 3814⟩,
  ⟨11364, 11364, 1, false, 10727⟩, ⟨11367, 11371, 2, true, 1⟩, ⟨11373, 11373, 1, false, 10780⟩,
  ⟨11374, 11374, 1, false, 10749⟩, ⟨11375, 11375, 1, false, 10783⟩, ⟨11376, 11376, 1, false, 10782⟩,
  ⟨11378, 11378, 1, true, 1⟩, ⟨11381, 11381, 1, true, 1⟩, ⟨11390, 11391, 1, false, 10815⟩,
  ⟨11392, 11490, 2, true, 1⟩, ⟨11499, 11501, 2, true, 1⟩, ⟨11506, 11506, 1, true, 1⟩,
  ⟨42560, 42604, 2, true, 1⟩, ⟨42624, 42650, 2, true, 1⟩, ⟨42786, 42798, 2, true, 1⟩,
  ⟨42802, 42862, 2, true, 1⟩, ⟨42873, 42875, 2, true, 1⟩, ⟨42877, 42877, 1, false, 35332⟩,
  ⟨42878, 42886, 2, true, 1⟩, ⟨42891, 42891, 1, true, 1⟩, ⟨42893, 42893, 1, false, 42280⟩,
  ⟨42896, 42898, 2, true, 1⟩, ⟨42902, 42920, 2, true, 1⟩, ⟨42922, 42922, 1, false, 42308⟩,
  ⟨42923, 42923, 1, false, 42319⟩, ⟨42924, 42924, 1, false, 42315⟩, ⟨42925, 42925, 1, false, 42305⟩,
  ⟨42926, 42926, 1, false, 42308⟩, ⟨42928, 42928, 1, false, 42258⟩, ⟨42929, 42929, 1, false, 42282⟩,
  ⟨42930, 42930, 1, false, 42261⟩, ⟨42931, 42931, 1, true, 928⟩, ⟨42932, 42946, 2, true, 1⟩,
  ⟨42948, 42948, 1, false, 48⟩, ⟨42949, 42949, 1, false, 42307⟩, ⟨42950, 42950, 1, false, 35384⟩,
  ⟨42951, 42953, 2, true, 1⟩, ⟨42960, 42960, 1, true, 1⟩, ⟨42966, 42968, 2, true, 1⟩,
  ⟨42997, 42997, 1, true, 1⟩, ⟨65313, 65338, 1, true, 32⟩, ⟨66560, 66599, 1, true, 40⟩,
  ⟨66736, 66771, 1, true, 40⟩, ⟨66928, 66938, 1, true, 39⟩, ⟨66940, 66954, 1, true, 39⟩,
  ⟨66956, 66962, 1, true, 39⟩, ⟨66964, 66965, 1, true, 39⟩, ⟨68736, 68786, 1, true, 64⟩,
  ⟨71840, 71871, 1, true, 32⟩, ⟨93760, 93791, 1, true, 32⟩, ⟨125184, 125217, 1, true, 34⟩]

/-- The lower-case form of one character on its own. -/
def ofChar (c : Char) : List Char :=
  let point := c.toNat
  if point < 128 then [c.toLower]
  else if point == 304 then ['i', Char.ofNat 775]
  else [(CaseRun.shifted? runs c).getD c]

/-- Is the nearest character that is not passed over one with case? -/
def meetsCased (cs : List Char) : Bool :=
  match cs.dropWhile Cased.isPassedOver with
  | [] => false
  | c :: _ => Cased.isCased c

/-- The lower-case form of a character between those before it, the nearest first, and those after
it. -/
def within (before : List Char) (c : Char) (after : List Char) : List Char :=
  if c == 'Σ' then [if meetsCased before && !meetsCased after then 'ς' else 'σ']
  else ofChar c

/-- Every character of a text mapped with a view of those before it, the nearest first, and those
after it. -/
def mapWithin (f : List Char → Char → List Char → List Char) : List Char → List Char → List Char
  | _, [] => []
  | before, c :: after => f before c after ++ mapWithin f (c :: before) after

/-- **The lower-case form of a text.** -/
def text (s : String) : String := String.ofList (mapWithin within [] s.toList)

end Small
end EffectGraph
