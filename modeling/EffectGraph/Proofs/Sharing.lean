import EffectGraph.Proofs.JsonText
import Mathlib.Data.Finset.Card
import Mathlib.Logic.Relation

/-!
# Sharing and cycles

A value that is made of other values may hold the same one more than once, and a list or a dictionary
may even hold itself (`World.Holds`).  The first is no matter where a value is written as JSON, and the
second makes that impossible.  `World.Plain` is what can be built finitely out of none, truth values,
numbers and texts with lists, tuples and dictionaries under such keys; `World.Circular` says that a
container is met again inside itself, at any depth.  Where an identity stands for one container only,
what is built finitely is never circular (`World.Plain.not_circular`).

Spelling a value out goes down every path and remembers the containers that it is in, so the two notions
meet in `World.Fits`, which says along a path what has to hold.  The spelling of a value has a JSON text
exactly if the value is plain and not circular, and no number in it has too many digits
(`World.exists_json?_spell_iff`).
-/

namespace EffectGraph

open Relation

/-! ### JSON texts of containers -/

namespace Datum

/-- A tuple is written as a list is. -/
theorem exists_json?_tuple_iff {items : List Datum} :
    (∃ text, (tuple items).json? = .ok text) ↔ ∀ d ∈ items, ∃ t, d.json? = .ok t := by
  have hsame : (tuple items).json? = (list items).json? := by rw [json?, json?]
  rw [hsame, exists_json?_list_iff]

/-- A dictionary is written exactly if its keys and its values are. -/
theorem exists_json?_dict_iff {entries : List (Datum × Datum)} :
    (∃ text, (dict entries).json? = .ok text) ↔
      ∀ e ∈ entries, (∃ key, e.1.jsonKey? = .ok key) ∧ ∃ t, e.2.json? = .ok t := by
  have hentries : (∃ texts, jsonEntries? entries = .ok texts) ↔
      ∀ e ∈ entries, (∃ key, e.1.jsonKey? = .ok key) ∧ ∃ t, e.2.json? = .ok t := by
    induction entries with
    | nil => exact ⟨fun _ => List.forall_mem_nil _, fun _ => ⟨[], rfl⟩⟩
    | cons e rest ih =>
      obtain ⟨k, v⟩ := e
      rw [List.forall_mem_cons, ← ih]
      constructor
      · rintro ⟨texts, htexts⟩
        rw [jsonEntries?] at htexts
        obtain ⟨key, hkey, htexts⟩ := exists_of_bind_ok htexts
        obtain ⟨t, ht, htexts⟩ := exists_of_bind_ok htexts
        obtain ⟨others, hothers, -⟩ := exists_of_bind_ok htexts
        exact ⟨⟨⟨key, hkey⟩, t, ht⟩, others, hothers⟩
      · rintro ⟨⟨⟨key, hkey⟩, t, ht⟩, others, hothers⟩
        refine ⟨(AsciiString.text key ++ ": " ++ t) :: others, ?_⟩
        rw [jsonEntries?, hkey, ht, hothers]
        rfl
  rw [← hentries]
  constructor
  · rintro ⟨text, htext⟩
    rw [json?] at htext
    obtain ⟨texts, htexts, -⟩ := exists_of_bind_ok htext
    exact ⟨texts, htexts⟩
  · rintro ⟨texts, htexts⟩
    refine ⟨bracketed "\x7b" "\x7d" texts, ?_⟩
    rw [json?, htexts]
    rfl

theorem exists_jsonInt?_iff {i : Int} : (∃ text, jsonInt? i = .ok text) ↔ writable i = true := by
  unfold jsonInt?
  split
  · next hi => exact ⟨fun _ => hi, fun _ => ⟨_, rfl⟩⟩
  · next hi => exact ⟨nofun, fun h => absurd h hi⟩

end Datum

/-! ### What a value holds -/

/-- Is this a text, a number, a truth value or none? -/
def Value.isScalar : Value → Bool
  | .none | .bool _ | .int _ | .float _ _ | .str _ => true
  | _ => false

/-- Is this a list, a tuple or a dictionary? -/
def Value.isContainer : Value → Bool
  | .tuple _ _ | .list _ | .dict _ => true
  | _ => false

theorem Value.isScalar_of_isContainer {v : Value} (hv : v.isContainer = true) : v.isScalar = false := by
  cases v <;> first | rfl | cases hv

/-- Has a whole number few enough digits to be written, if this is one? -/
def Value.fewDigits : Value → Bool
  | .int i => Datum.writable i
  | _ => true

/-- Is this a dictionary that cannot change? -/
def Value.isFrozen : Value → Bool
  | .frozenDict _ _ => true
  | _ => false

namespace World

/-- **What a container holds:** its items, or its keys and its values. -/
inductive Holds (w : World) : Value → Value → Prop where
  | tuple {stamp : Nat} {items : List Value} {v : Value} (hv : v ∈ items) :
      Holds w (.tuple stamp items) v
  | list {address : Nat} {v : Value} (hv : v ∈ w.listItems address) : Holds w (.list address) v
  | key {address : Nat} {e : Value × Value} (he : e ∈ w.dictEntries address) : Holds w (.dict address) e.1
  | value {address : Nat} {e : Value × Value} (he : e ∈ w.dictEntries address) :
      Holds w (.dict address) e.2

/-- Something is held at some depth, or is the value itself. -/
abbrev Within (w : World) : Value → Value → Prop := ReflTransGen w.Holds

/-- **Built finitely** from none, truth values, numbers and texts with lists, tuples and dictionaries
that have such keys. -/
inductive Plain (w : World) : Value → Prop where
  | scalar {v} (hv : v.isScalar = true) : Plain w v
  | tuple {stamp items} (hitems : ∀ v ∈ items, Plain w v) : Plain w (.tuple stamp items)
  | list {address} (hitems : ∀ v ∈ w.listItems address, Plain w v) : Plain w (.list address)
  | dict {address} (hkeys : ∀ e ∈ w.dictEntries address, e.1.isScalar = true)
      (hvalues : ∀ e ∈ w.dictEntries address, Plain w e.2) : Plain w (.dict address)

/-- **A container is met again inside itself,** in the value or at some depth in it. -/
def Circular (w : World) (v : Value) : Prop :=
  ∃ x y i, w.Within v x ∧ TransGen w.Holds x y ∧ y.isContainer = true ∧ x.identity? = some i ∧
    y.identity? = some i

/-- No whole number in the value has too many digits. -/
def Legible (w : World) (v : Value) : Prop := ∀ i, w.Within v (.int i) → Datum.writable i = true

section plain

variable {w : World} {v u : Value}

theorem Plain.holds (hv : w.Plain v) (hu : w.Holds v u) : w.Plain u := by
  cases hu with
  | tuple hu =>
    cases hv with
    | scalar hscalar => cases hscalar
    | tuple hitems => exact hitems _ hu
  | list hu =>
    cases hv with
    | scalar hscalar => cases hscalar
    | list hitems => exact hitems _ hu
  | key he =>
    cases hv with
    | scalar hscalar => cases hscalar
    | dict hkeys _ => exact .scalar (hkeys _ he)
  | value he =>
    cases hv with
    | scalar hscalar => cases hscalar
    | dict _ hvalues => exact hvalues _ he

theorem Plain.within (hv : w.Plain v) (hu : w.Within v u) : w.Plain u := by
  induction hu with
  | refl => exact hv
  | tail _ hux ih => exact ih.holds hux

/-- **What is built finitely does not hold itself.**  A circle through a value is one through each value
that it holds on the way. -/
theorem Plain.not_transGen_self (hv : w.Plain v) : ¬ TransGen w.Holds v v := by
  have hturn {x : Value} (hx : TransGen w.Holds x x) : ∃ y, w.Holds x y ∧ TransGen w.Holds y y := by
    obtain ⟨y, hxy, hyx⟩ := TransGen.head'_iff.1 hx
    exact ⟨y, hxy, .tail' hyx hxy⟩
  have hend {x : Value} (hscalar : x.isScalar = true) : ¬ TransGen w.Holds x x := by
    intro hx
    obtain ⟨y, hxy, -⟩ := hturn hx
    cases hxy <;> cases hscalar
  induction hv with
  | scalar hscalar => exact hend hscalar
  | tuple _ ih =>
    intro hv
    obtain ⟨u, hvu, hu⟩ := hturn hv
    cases hvu with
    | tuple hvu => exact ih u hvu hu
  | list _ ih =>
    intro hv
    obtain ⟨u, hvu, hu⟩ := hturn hv
    cases hvu with
    | list hvu => exact ih u hvu hu
  | dict hkeys _ ih =>
    intro hv
    obtain ⟨u, hvu, hu⟩ := hturn hv
    cases hvu with
    | key he => exact hend (hkeys _ he) hu
    | value he => exact ih _ he hu

/-- So it is not circular, where nothing else has the identity of a container in it. -/
theorem Plain.not_circular (hv : w.Plain v) (hsame : ∀ x y i, w.Within v x → w.Within v y →
    x.identity? = some i → y.identity? = some i → x = y) : ¬ w.Circular v := by
  rintro ⟨x, y, i, hx, hxy, -, hxi, hyi⟩
  obtain rfl := hsame x y i hx (hx.trans hxy.to_reflTransGen) hxi hyi
  exact (hv.within hx).not_transGen_self hxy

end plain

/-! ### Along a path -/

/-- **A value that can be written inside some containers:** it meets none of them again. -/
inductive Fits (w : World) : List Identity → Value → Prop where
  | scalar {around v} (hv : v.isScalar = true) (hdigits : v.fewDigits = true) : Fits w around v
  | tuple {around stamp items} (hnew : ∀ i ∈ (Value.tuple stamp items).identity?, i ∉ around)
      (hitems : ∀ v ∈ items, Fits w ((Value.tuple stamp items).identity?.toList ++ around) v) :
      Fits w around (.tuple stamp items)
  | list {around address} (hnew : .list address ∉ around)
      (hitems : ∀ v ∈ w.listItems address, Fits w (.list address :: around) v) :
      Fits w around (.list address)
  | dict {around address} (hnew : .dict address ∉ around)
      (hkeys : ∀ e ∈ w.dictEntries address, e.1.isScalar = true ∧ e.1.fewDigits = true)
      (hvalues : ∀ e ∈ w.dictEntries address, Fits w (.dict address :: around) e.2) :
      Fits w around (.dict address)

section fits

variable {w : World} {v u y : Value} {around : List Identity}

theorem fits_tuple_iff {stamp : Nat} {items : List Value} : w.Fits around (.tuple stamp items) ↔
    (∀ i ∈ (Value.tuple stamp items).identity?, i ∉ around) ∧
      ∀ v ∈ items, w.Fits ((Value.tuple stamp items).identity?.toList ++ around) v := by
  refine ⟨fun h => ?_, fun h => .tuple h.1 h.2⟩
  cases h with
  | scalar hv => cases hv
  | tuple hnew hitems => exact ⟨hnew, hitems⟩

theorem fits_list_iff {address : Nat} : w.Fits around (.list address) ↔
    .list address ∉ around ∧ ∀ v ∈ w.listItems address, w.Fits (.list address :: around) v := by
  refine ⟨fun h => ?_, fun h => .list h.1 h.2⟩
  cases h with
  | scalar hv => cases hv
  | list hnew hitems => exact ⟨hnew, hitems⟩

theorem fits_dict_iff {address : Nat} : w.Fits around (.dict address) ↔
    .dict address ∉ around ∧ ∀ e ∈ w.dictEntries address,
      (e.1.isScalar = true ∧ e.1.fewDigits = true) ∧ w.Fits (.dict address :: around) e.2 := by
  refine ⟨fun h => ?_, fun h => .dict h.1 (fun e he => (h.2 e he).1) fun e he => (h.2 e he).2⟩
  cases h with
  | scalar hv => cases hv
  | dict hnew hkeys hvalues => exact ⟨hnew, fun e he => ⟨hkeys e he, hvalues e he⟩⟩

/-- A value that is no container fits if it is a scalar with few enough digits. -/
theorem fits_iff_scalar (hcontainer : v.isContainer = false) :
    w.Fits around v ↔ v.isScalar = true ∧ v.fewDigits = true := by
  refine ⟨fun h => ?_, fun h => .scalar h.1 h.2⟩
  cases h with
  | scalar hv hdigits => exact ⟨hv, hdigits⟩
  | tuple | list | dict => cases hcontainer

/-- What it holds can be written inside it. -/
theorem Fits.holds (hv : w.Fits around v) (hu : w.Holds v u) :
    w.Fits (v.identity?.toList ++ around) u := by
  cases hu with
  | tuple hu => exact (fits_tuple_iff.1 hv).2 _ hu
  | list hu => exact (fits_list_iff.1 hv).2 _ hu
  | key he =>
    obtain ⟨hscalar, hdigits⟩ := ((fits_dict_iff.1 hv).2 _ he).1
    exact .scalar hscalar hdigits
  | value he => exact ((fits_dict_iff.1 hv).2 _ he).2

/-- And so on, at every depth. -/
theorem Fits.within (hv : w.Fits around v) (hy : w.Within v y) : ∃ more, w.Fits (more ++ around) y := by
  induction hy with
  | refl => exact ⟨[], hv⟩
  | @tail u y _ huy ih =>
    obtain ⟨more, hu⟩ := ih
    refine ⟨u.identity?.toList ++ more, ?_⟩
    rw [List.append_assoc]
    exact hu.holds huy

/-- A container that can be written is none of those around it. -/
theorem Fits.not_mem (hv : w.Fits around v) (hcontainer : v.isContainer = true) {i : Identity}
    (hi : v.identity? = some i) : i ∉ around := by
  cases hv with
  | scalar hscalar _ =>
    rw [Value.isScalar_of_isContainer hcontainer] at hscalar
    cases hscalar
  | tuple hnew _ => exact hnew i hi
  | list hnew _ =>
    cases hi
    exact hnew
  | dict hnew _ _ =>
    cases hi
    exact hnew

theorem Fits.plain (hv : w.Fits around v) : w.Plain v := by
  induction hv with
  | scalar hscalar _ => exact .scalar hscalar
  | tuple _ _ ih => exact .tuple ih
  | list _ _ ih => exact .list ih
  | dict _ hkeys _ ih => exact .dict (fun e he => (hkeys e he).1) ih

theorem Fits.not_circular (hv : w.Fits around v) : ¬ w.Circular v := by
  rintro ⟨x, y, i, hx, hxy, hcontainer, hxi, hyi⟩
  obtain ⟨more, hx⟩ := hv.within hx
  obtain ⟨u, hxu, huy⟩ := TransGen.head'_iff.1 hxy
  obtain ⟨more', hy⟩ := (hx.holds hxu).within huy
  refine hy.not_mem hcontainer hyi (List.mem_append_right _ (List.mem_append_left _ ?_))
  rw [hxi]
  exact List.mem_singleton_self i

theorem Fits.legible (hv : w.Fits around v) : w.Legible v := by
  intro i hi
  obtain ⟨more, hi⟩ := hv.within hi
  cases hi with
  | scalar _ hdigits => exact hdigits

/-- Nothing in the value is one of these containers. -/
def Avoids (w : World) (v : Value) (around : List Identity) : Prop :=
  ∀ y, w.Within v y → y.isContainer = true → ∀ i, y.identity? = some i → i ∉ around

/-- What holds not itself is not met in what it holds. -/
theorem Avoids.holds (hv : w.Avoids v around) (hcircular : ¬ w.Circular v) (hu : w.Holds v u) :
    w.Avoids u (v.identity?.toList ++ around) := by
  intro y hy hcontainer i hi hmem
  rcases List.mem_append.1 hmem with hself | haround
  · have hvi : v.identity? = some i := Option.mem_toList.1 hself
    exact hcircular ⟨v, y, i, .refl, TransGen.head'_iff.2 ⟨u, hu, hy⟩, hcontainer, hvi, hi⟩
  · exact hv y (hy.head hu) hcontainer i hi haround

/-- **What is plain and not circular can be written.**  The induction is on how the value is built; the
containers around it are those that it avoids. -/
theorem Plain.fits (hv : w.Plain v) (hcircular : ¬ w.Circular v) (hlegible : w.Legible v)
    (havoids : w.Avoids v around) : w.Fits around v := by
  have hcircular' {v u : Value} (hcircular : ¬ w.Circular v) (hu : w.Holds v u) : ¬ w.Circular u :=
    fun ⟨x, y, i, hx, hrest⟩ => hcircular ⟨x, y, i, hx.head hu, hrest⟩
  have hlegible' {v u : Value} (hlegible : w.Legible v) (hu : w.Holds v u) : w.Legible u :=
    fun i hi => hlegible i (hi.head hu)
  have hdigits {v : Value} (hlegible : w.Legible v) : v.fewDigits = true := by
    cases v with
    | int i => exact hlegible i .refl
    | _ => rfl
  induction hv generalizing around with
  | scalar hscalar => exact .scalar hscalar (hdigits hlegible)
  | tuple _ ih =>
    exact .tuple (fun i hi => havoids _ .refl rfl i hi) fun u hu =>
      ih u hu (hcircular' hcircular (.tuple hu)) (hlegible' hlegible (.tuple hu))
        (havoids.holds hcircular (.tuple hu))
  | list _ ih =>
    exact .list (havoids _ .refl rfl _ rfl) fun u hu =>
      ih u hu (hcircular' hcircular (.list hu)) (hlegible' hlegible (.list hu))
        (havoids.holds hcircular (.list hu))
  | dict hkeys _ ih =>
    exact .dict (havoids _ .refl rfl _ rfl)
      (fun e he => ⟨hkeys e he, hdigits (hlegible' hlegible (.key he))⟩) fun e he =>
      ih e he (hcircular' hcircular (.value he)) (hlegible' hlegible (.value he))
        (havoids.holds hcircular (.value he))

/-- **At the outermost place** nothing is around. -/
theorem fits_iff : w.Fits [] v ↔ w.Plain v ∧ ¬ w.Circular v ∧ w.Legible v :=
  ⟨fun hv => ⟨hv.plain, hv.not_circular, hv.legible⟩, fun ⟨hv, hcircular, hlegible⟩ =>
    hv.fits hcircular hlegible fun _ _ _ _ _ => List.not_mem_nil⟩

end fits

/-! ### The supply -/

section supply

variable {mk : Nat → Identity} {size address : Nat} {i : Identity} {around : List Identity}

/-- How many addresses below a bound are not among some identities. -/
def unmet (mk : Nat → Identity) (size : Nat) (around : List Identity) : Nat :=
  ((Finset.range size).filter fun address => mk address ∉ around).card

theorem unmet_cons_le (i : Identity) (around : List Identity) :
    unmet mk size (i :: around) ≤ unmet mk size around :=
  Finset.card_le_card (Finset.monotone_filter_right _ fun _ _ h => mt (List.mem_cons_of_mem i) h)

/-- One that is met now is one less. -/
theorem unmet_cons_lt (haddress : address < size) (hnew : mk address ∉ around) :
    unmet mk size (mk address :: around) < unmet mk size around := by
  refine Finset.card_lt_card (Finset.ssubset_iff_of_subset ?_ |>.2 ⟨address, ?_, ?_⟩)
  · exact Finset.monotone_filter_right _ fun _ _ h => mt (List.mem_cons_of_mem _) h
  · exact Finset.mem_filter.2 ⟨Finset.mem_range.2 haddress, hnew⟩
  · exact fun h => (Finset.mem_filter.1 h).2 List.mem_cons_self

end supply

/-! ### What spellings look like -/

section spelling

variable {w : World} {onRef : Place → Reference → Datum} {place : Place} {v : Value}

theorem spellAll_eq_map (items : List Value) :
    spellAll w onRef place items = items.map (spellWith w onRef place) := by
  induction items with
  | nil => rw [spellAll, List.map_nil]
  | cons v rest ih => rw [spellAll, ih, List.map_cons]

/-- Whatever holds of a mark and of what is entered holds of what may be entered. -/
theorem enter_induction {P : Datum → Prop} {container : Container} {inner : Place → Datum}
    (hagain : P (.again container)) (hinner : ∀ place, P (inner place)) (place : Place)
    (identity : Option Identity) : P (enter place identity container inner) := by
  unfold enter
  split
  · split
    · exact hagain
    · exact hinner _
  · exact hinner _

/-- What may be entered is written if it is entered and what is inside is written. -/
theorem exists_json?_enter_iff {identity : Option Identity} {container : Container}
    {inner : Place → Datum} : (∃ t, (enter place identity container inner).json? = .ok t) ↔
      (∀ i ∈ identity, i ∉ place.around) ∧
        ∃ t, (inner { place with around := identity.toList ++ place.around }).json? = .ok t := by
  unfold enter
  cases identity with
  | none => exact ⟨fun h => ⟨nofun, h⟩, fun h => h.2⟩
  | some i =>
    simp only [List.contains_iff_mem]
    by_cases hi : i ∈ place.around
    · rw [if_pos hi]
      refine ⟨?_, fun h => absurd hi (h.1 i rfl)⟩
      rintro ⟨t, ht⟩
      rw [Datum.json?] at ht
      cases ht
    · rw [if_neg hi]
      exact ⟨fun h => ⟨fun _ hj => Option.some.inj hj ▸ hi, h⟩, fun h => h.2⟩

end spelling

end World

/-- Is this a text, a number, a truth value or none? -/
def Datum.isScalar : Datum → Bool
  | .none | .bool _ | .int _ | .float _ | .str _ => true
  | _ => false

/-- Is this a list, a tuple or a dictionary of one kind or the other? -/
def Datum.isContainer : Datum → Bool
  | .tuple _ | .list _ | .dict _ | .frozenDict _ => true
  | _ => false

/-- Neither the one nor the other: there is no JSON text of it. -/
def Datum.Opaque (d : Datum) : Prop := d.isScalar = false ∧ d.isContainer = false

theorem Datum.Opaque.json?_ne_ok {d : Datum} (hd : d.Opaque) (t : String) : d.json? ≠ .ok t := by
  intro ht
  obtain ⟨hscalar, hcontainer⟩ := hd
  cases d with
  | none | bool | int | float | str => cases hscalar
  | tuple | list | dict | frozenDict => cases hcontainer
  | _ => cases ht

theorem Datum.jsonKey?_ne_ok {d : Datum} (hscalar : d.isScalar = false) (key : String) :
    d.jsonKey? ≠ .ok key := by
  intro hkey
  cases d with
  | none | bool | int | float | str => cases hscalar
  | _ => cases hkey

namespace World

section spelling

variable {w : World} {place : Place} {v : Value} {supply : Nat}

/-- What is referred to by other than the address of a container is none. -/
theorem opaque_spellReference {r : Reference} (hr : match r with
      | .stats _ | .runState _ | .deque _ => True
      | _ => False) : (spellReference w supply place r).Opaque := by
  cases supply with
  | zero =>
    rw [spellReference]
    exact ⟨rfl, rfl⟩
  | succ supply =>
    cases r with
    | stats address =>
      rw [spellReference]
      refine enter_induction (P := Datum.Opaque) ⟨rfl, rfl⟩ (fun place => ?_) _ _
      unfold spellStats
      split <;> exact ⟨rfl, rfl⟩
    | runState | deque =>
      rw [spellReference]
      exact enter_induction (P := Datum.Opaque) ⟨rfl, rfl⟩ (fun _ => ⟨rfl, rfl⟩) _ _
    | _ => cases hr

/-- **What is none of the data of JSON is not spelled out as one.** -/
theorem opaque_spellWith (hscalar : v.isScalar = false) (hcontainer : v.isContainer = false)
    (hfrozen : v.isFrozen = false) : (spellWith w (w.spellReference supply) place v).Opaque := by
  cases v with
  | none | bool | int | float | str => cases hscalar
  | tuple | list | dict => cases hcontainer
  | frozenDict => cases hfrozen
  | ok | err | runResult | frame | preset | view =>
    rw [spellWith]
    exact enter_induction (P := Datum.Opaque) ⟨rfl, rfl⟩ (fun _ => ⟨rfl, rfl⟩) _ _
  | stats | runState =>
    rw [spellWith]
    exact opaque_spellReference trivial
  | fault f =>
    obtain ⟨kind, args, detail, stamp⟩ := f
    rw [spellWith]
    cases detail <;> exact ⟨rfl, rfl⟩
  | operation op => cases op <;> exact ⟨rfl, rfl⟩
  | _ => exact ⟨rfl, rfl⟩

/-- No container is spelled out as a scalar. -/
theorem isScalar_spellWith_container (hcontainer : v.isContainer = true) :
    (spellWith w (w.spellReference supply) place v).isScalar = false := by
  have hentered {identity : Option Identity} {inner : Place → Datum} {place : Place}
      {container : Container} (hinner : ∀ place, (inner place).isScalar = false) :
      (enter place identity container inner).isScalar = false :=
    enter_induction (P := fun d => d.isScalar = false) rfl hinner _ _
  cases v with
  | tuple =>
    rw [spellWith]
    exact hentered fun _ => rfl
  | list | dict =>
    rw [spellWith]
    cases supply with
    | zero => rfl
    | succ supply =>
      rw [spellReference]
      exact hentered fun _ => rfl
  | _ => cases hcontainer

/-- Scalars are spelled out as they are: they are written if they have few enough digits, and so are
the keys that they are. -/
theorem exists_json?_scalar_iff (hscalar : v.isScalar = true) :
    (∃ t, (spellWith w (w.spellReference supply) place v).json? = .ok t) ↔ v.fewDigits = true := by
  cases v with
  | none | bool | float | str => exact ⟨fun _ => rfl, fun _ => ⟨_, rfl⟩⟩
  | int i => exact Datum.exists_jsonInt?_iff
  | _ => cases hscalar

theorem exists_jsonKey?_scalar_iff (hscalar : v.isScalar = true) :
    (∃ t, (spellWith w (w.spellReference supply) place v).jsonKey? = .ok t) ↔ v.fewDigits = true := by
  cases v with
  | none | bool | float | str => exact ⟨fun _ => rfl, fun _ => ⟨_, rfl⟩⟩
  | int i => exact Datum.exists_jsonInt?_iff
  | _ => cases hscalar

/-- A key is written exactly if it is a scalar with few enough digits. -/
theorem exists_jsonKey?_iff (hfrozen : v.isFrozen = false) :
    (∃ t, (spellWith w (w.spellReference supply) place v).jsonKey? = .ok t) ↔
      v.isScalar = true ∧ v.fewDigits = true := by
  cases hscalar : v.isScalar with
  | true => exact (exists_jsonKey?_scalar_iff hscalar).trans (iff_and_self.2 fun _ => rfl)
  | false =>
    have hspelled : (spellWith w (w.spellReference supply) place v).isScalar = false := by
      cases hcontainer : v.isContainer with
      | true => exact isScalar_spellWith_container hcontainer
      | false => exact (opaque_spellWith hscalar hcontainer hfrozen).1
    exact ⟨fun ⟨t, ht⟩ => absurd ht (Datum.jsonKey?_ne_ok hspelled t), fun h => nomatch h.1⟩

end spelling

/-! ### Spelling out what is written -/

section written

variable {w : World}

/-- Everything that is held at some depth can change. -/
def Unfrozen (w : World) (v : Value) : Prop := ∀ y, w.Within v y → y.isFrozen = false

theorem Unfrozen.holds {v u : Value} (hv : w.Unfrozen v) (hu : w.Holds v u) : w.Unfrozen u :=
  fun y hy => hv y (hy.head hu)

/-- How many lists and dictionaries are not among some containers. -/
def left (w : World) (around : List Identity) : Nat :=
  unmet .list w.lists.size around + unmet .dict w.dicts.size around

theorem left_cons_le (i : Identity) (around : List Identity) : w.left (i :: around) ≤ w.left around :=
  Nat.add_le_add (unmet_cons_le i around) (unmet_cons_le i around)

/-- Past a list with items, or a dictionary with entries, there is one less. -/
theorem left_cons_list_lt {address : Nat} {around : List Identity} {v : Value}
    (hv : v ∈ w.listItems address) (hnew : .list address ∉ around) :
    w.left (.list address :: around) < w.left around := by
  have haddress : address < w.lists.size := by
    by_contra hpast
    rw [listItems, Array.getElem?_eq_none (Nat.le_of_not_lt hpast)] at hv
    exact absurd hv (Array.not_mem_empty v)
  exact Nat.add_lt_add_of_lt_of_le (unmet_cons_lt haddress hnew) (unmet_cons_le _ _)

theorem left_cons_dict_lt {address : Nat} {around : List Identity} {e : Value × Value}
    (he : e ∈ w.dictEntries address) (hnew : .dict address ∉ around) :
    w.left (.dict address :: around) < w.left around := by
  have haddress : address < w.dicts.size := by
    by_contra hpast
    rw [dictEntries, dictAt, Array.getElem?_eq_none (Nat.le_of_not_lt hpast)] at he
    exact absurd he List.not_mem_nil
  exact Nat.add_lt_add_of_le_of_lt (unmet_cons_le _ _) (unmet_cons_lt haddress hnew)

/-- A value that is no container is written exactly if it fits, wherever it stands. -/
theorem exists_json?_iff_of_not_isContainer {v : Value} (hcontainer : v.isContainer = false)
    (hfrozen : v.isFrozen = false) (supply : Nat) (place : Place) :
    (∃ t, (spellWith w (w.spellReference supply) place v).json? = .ok t) ↔ w.Fits place.around v := by
  rw [fits_iff_scalar hcontainer]
  cases hscalar : v.isScalar with
  | true => exact (exists_json?_scalar_iff hscalar).trans (iff_and_self.2 fun _ => rfl)
  | false =>
    exact ⟨fun ⟨t, ht⟩ => absurd ht ((opaque_spellWith hscalar hcontainer hfrozen).json?_ne_ok t),
      fun h => nomatch h.1⟩

/-- **While the supply lasts, a spelling is written exactly if the value fits.**  The recursion is that
of the spelling, which goes down into tuples and takes one off the supply at a list or a dictionary. -/
theorem exists_json?_iff_fits : ∀ (supply : Nat) (v : Value) (place : Place),
    w.left place.around < supply → w.Unfrozen v →
    ((∃ t, (spellWith w (w.spellReference supply) place v).json? = .ok t) ↔ w.Fits place.around v)
  | 0, _, _, hleft, _ => absurd hleft (Nat.not_lt_zero _)
  | rest + 1, v, place, hleft, hfrozen => by
    have hnew {i : Identity} : (∀ j ∈ some i, j ∉ place.around) ↔ i ∉ place.around :=
      ⟨fun h => h _ rfl, fun h _ hj => Option.some.inj hj ▸ h⟩
    cases v with
    | tuple stamp items =>
      have hleft : w.left ((Value.tuple stamp items).identity?.toList ++ place.around) < rest + 1 := by
        cases (Value.tuple stamp items).identity? with
        | none => exact hleft
        | some i => exact Nat.lt_of_le_of_lt (left_cons_le i place.around) hleft
      rw [spellWith, exists_json?_enter_iff, Datum.exists_json?_tuple_iff, spellAll_eq_map,
        List.forall_mem_map, fits_tuple_iff]
      refine and_congr_right fun _ => forall₂_congr fun u hu => ?_
      exact exists_json?_iff_fits (rest + 1) u _ hleft (hfrozen.holds (.tuple hu))
    | list address =>
      rw [spellWith, spellReference, exists_json?_enter_iff, Datum.exists_json?_list_iff, hnew,
        fits_list_iff, List.forall_mem_map]
      simp only [Array.mem_toList_iff]
      refine and_congr_right fun haround => forall₂_congr fun u hu => ?_
      have hleft : w.left (.list address :: place.around) < rest :=
        Nat.lt_of_lt_of_le (left_cons_list_lt hu haround) (Nat.le_of_lt_succ hleft)
      exact exists_json?_iff_fits rest u _ hleft (hfrozen.holds (.list hu))
    | dict address =>
      rw [spellWith, spellReference, exists_json?_enter_iff, Datum.exists_json?_dict_iff, hnew,
        fits_dict_iff, List.forall_mem_map]
      refine and_congr_right fun haround => forall₂_congr fun e he => ?_
      have hleft : w.left (.dict address :: place.around) < rest :=
        Nat.lt_of_lt_of_le (left_cons_dict_lt he haround) (Nat.le_of_lt_succ hleft)
      exact and_congr (exists_jsonKey?_iff (hfrozen _ (.single (.key he))))
        (exists_json?_iff_fits rest e.2 _ hleft (hfrozen.holds (.value he)))
    | _ => exact exists_json?_iff_of_not_isContainer rfl (hfrozen _ .refl) (rest + 1) place
termination_by supply v => (supply, sizeOf v)

/-- **The spelling of a value is written exactly if the value is plain and not circular,** and no number
in it has too many digits.  In a world in which something has been made the supply lasts. -/
theorem exists_json?_spell_iff {v : Value} (hstamps : 0 < w.stamps) (hfrozen : w.Unfrozen v) :
    (∃ t, (w.spell v).json? = .ok t) ↔ w.Plain v ∧ ¬ w.Circular v ∧ w.Legible v := by
  have hleft : w.left [] < 2 * w.referenceCount := by
    have hall {mk : Nat → Identity} {size : Nat} : unmet mk size [] ≤ size :=
      (Finset.card_filter_le _ _).trans_eq (Finset.card_range size)
    have hlists : unmet .list w.lists.size [] ≤ w.lists.size := hall
    have hdicts : unmet .dict w.dicts.size [] ≤ w.dicts.size := hall
    unfold left referenceCount
    omega
  exact (exists_json?_iff_fits _ v ⟨[], true⟩ hleft hfrozen).trans fits_iff

end written

end World
end EffectGraph
