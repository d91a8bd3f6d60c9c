import EffectGraph.Identity

/-!
# Dictionaries

A dictionary keeps its entries in places, in the order in which they were put in.  An entry that is
taken out leaves its place empty, so whoever is walking through the dictionary finds the others where
they were.  When there is no room for one more, the entries move together and room is made for as
many again and more: `Dictionary.packed`.  `Dictionary.entries` is all that can be seen of a
dictionary that is not walked through meanwhile.
-/

namespace EffectGraph

/-- Entries in places. -/
structure Dictionary where
  places : List (Option (Value × Value))
  /-- How many entries can still be put in before the entries move together. -/
  room : Nat
  /-- Have all keys been texts since the dictionary was empty? -/
  textKeys : Bool
  /-- Has there been no entry since the dictionary was made or cleared? -/
  unused : Bool

namespace Dictionary

/-- The dictionary without entries. -/
def empty : Dictionary := ⟨[], 0, true, true⟩

/-- The entries, in order. -/
def entries (d : Dictionary) : List (Value × Value) := d.places.filterMap id

/-- How many entries there are. -/
def size (d : Dictionary) : Nat := d.entries.length

/-- The number of places that are made for the first entries, two thirds of eight. -/
def firstRoom : Nat := 5

/-- The number of places that are made for entries that need more room: two thirds of a power of
two. -/
def capacity (count : Nat) : Nat :=
  let needed := ((3 * count) ||| 8) - 1
  2 * Nat.pow 2 ((needed ||| 7).log2 + 1) / 3

/-- The dictionary with its entries moved together and room for more of them. -/
def packed (d : Dictionary) : Dictionary :=
  let entries := d.entries
  { d with places := entries.map some, room := capacity entries.length - entries.length }

/-- The dictionary with room for one more entry under a key that is a text or not. -/
def opened (d : Dictionary) (isText : Bool) : Dictionary :=
  if d.unused then ⟨[], firstRoom, isText, false⟩
  else
    let d := if d.textKeys && !isText then { d.packed with textKeys := false } else d
    if d.room == 0 then d.packed else d

/-- The dictionary with an entry under a new key at its end. -/
def add (d : Dictionary) (key value : Value) : Dictionary :=
  let d := d.opened (key matches .str _)
  { d with places := d.places ++ [some (key, value)], room := d.room - 1 }

/-- The dictionary with another value under a known key. -/
def replace (d : Dictionary) (known value : Value) : Dictionary :=
  { d with places := d.places.map fun place =>
      place.map fun e => if e.1.isSame known then (e.1, value) else e }

/-- The dictionary without the entry of a known key. -/
def erase (d : Dictionary) (known : Value) : Dictionary :=
  { d with places := d.places.map fun place => place.filter fun e => !e.1.isSame known }

/-- The dictionary without its last entry, whose place is given up. -/
def dropLast (d : Dictionary) : Dictionary :=
  { d with places := ((d.places.reverse.dropWhile Option.isNone).drop 1).reverse }

/-- The dictionary with given entries, all under different keys. -/
def ofEntries (entries : List (Value × Value)) : Dictionary :=
  entries.foldl (fun d e => d.add e.1 e.2) empty

/-- The first entry at a place or after it, with the place that follows. -/
def nextFrom (d : Dictionary) (place : Nat) : Option ((Value × Value) × Nat) :=
  let ahead := d.places.drop place
  let gap := (ahead.takeWhile Option.isNone).length
  match ahead[gap]? with
  | some (some e) => some (e, place + gap + 1)
  | _ => none

/-- Moving together changes no entry. -/
@[simp]
theorem entries_packed (d : Dictionary) : d.packed.entries = d.entries := by
  simp [packed, entries, List.filterMap_map]

/-- Making room changes no entry. -/
theorem entries_opened (d : Dictionary) (isText : Bool) :
    (d.opened isText).entries = if d.unused then [] else d.entries := by
  have unpacked (e : Dictionary) : (if e.room == 0 then e.packed else e).entries = e.entries := by
    split <;> simp
  unfold opened
  split
  · rfl
  · rw [unpacked]
    split
    · exact entries_packed d
    · rfl

/-- An entry under a new key stands after all others. -/
theorem entries_add (d : Dictionary) (key value : Value) :
    (d.add key value).entries = (if d.unused then [] else d.entries) ++ [(key, value)] := by
  rw [← entries_opened d (key matches .str _)]
  simp [add, entries]

end Dictionary
end EffectGraph
