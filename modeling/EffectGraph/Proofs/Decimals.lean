import EffectGraph.Proofs.Numerals

/-!
# Decimal numbers as they are written

A decimal number is written as an optional sign and digits, with a point among or around them and an
exponent behind them if one likes, or as the name of an infinity or of no number
(`Numeral.Decimal`).  Underscores may stand between digits and nowhere else.  Reading a text gives a
double exactly if the text writes a decimal number, and it is the double nearest to the number that
is written, however long the digits and the exponent are (`Numeral.float?_eq_some_iff`).
-/

namespace EffectGraph

/-! ### The double nearest to a decimal number -/

namespace Binary64

/-- **The double nearest to `± v · 10 ^ q`.** -/
def ofDecimal (negative : Bool) (v : Nat) (q : Int) : Float :=
  ofRatio negative (v * 10 ^ q.toNat) (10 ^ (-q).toNat)

theorem nearestPattern_zero (den : Nat) : nearestPattern 0 den = 0 := rfl

/-- A ratio far past the largest double is rounded to infinity. -/
theorem nearestPattern_of_large {num den k : Nat} (hden : 0 < den) (hk : 1100 ≤ k)
    (hlarge : den * 2 ^ k ≤ num) : nearestPattern num den = infinityPattern := by
  have hnum : num ≠ 0 := by
    have hpos : 0 < den * 2 ^ k := Nat.mul_pos hden (Nat.two_pow_pos _)
    omega
  have hlog : den.log2 + k ≤ num.log2 := by
    rw [Nat.le_log2 hnum, Nat.pow_add]
    exact Nat.le_trans (Nat.mul_le_mul_right _ (Nat.log2_self_le (Nat.ne_of_gt hden))) hlarge
  have hexponent : exponentFor num den > 971 := by
    simp only [exponentFor]
    split <;> omega
  rw [nearestPattern, beq_false_of_ne hnum, if_neg Bool.false_ne_true]
  simp only
  rw [if_pos hexponent]

/-- Less than a half is rounded to zero. -/
theorem roundRatio_eq_zero {num den : Nat} (hsmall : 2 * num < den) : roundRatio num den = 0 := by
  have hlt : num < den := by omega
  rw [roundRatio, Nat.div_eq_of_lt hlt, Nat.mod_eq_of_lt hlt, if_pos hsmall]

/-- A ratio far below the least double is rounded to zero. -/
theorem nearestPattern_of_small {num den k : Nat} (hk : 1100 ≤ k) (hsmall : num * 2 ^ k < den) :
    nearestPattern num den = 0 := by
  by_cases hnum : num = 0
  · rw [hnum]
    rfl
  have hlog : num.log2 + k ≤ den.log2 := by
    rw [Nat.le_log2 (by omega), Nat.pow_add]
    exact Nat.le_trans (Nat.mul_le_mul_right _ (Nat.log2_self_le hnum)) (Nat.le_of_lt hsmall)
  have hexponent : exponentFor num den = -1074 := by
    simp only [exponentFor]
    split <;> omega
  have hscaled (q : Int) (hq : q < 0) (hleast : q.natAbs < k) : roundScaled num den q = 0 := by
    rw [roundScaled, if_pos hq]
    refine roundRatio_eq_zero (Nat.lt_of_le_of_lt ?_ hsmall)
    rw [Nat.mul_left_comm, Nat.pow_eq, ← Nat.pow_succ']
    exact Nat.mul_le_mul_left _ (Nat.pow_le_pow_right (by decide) hleast)
  rw [nearestPattern, beq_false_of_ne hnum, if_neg Bool.false_ne_true]
  simp only
  rw [hexponent, hscaled _ (by decide) (by omega)]
  rfl

end Binary64

namespace Numeral

/-! ### Scaling -/

/-- Zeros in front change nothing. -/
theorem natOf_dropWhile_zero (ds : List Char) : natOf (ds.dropWhile (· == '0')) = natOf ds := by
  induction ds with
  | nil => rfl
  | cons c ds ih =>
    by_cases hc : c = '0'
    · subst hc
      rw [List.dropWhile_cons_of_pos (by simp), ih, ← List.singleton_append, natOf_append,
        natOf_singleton]
      have hzero : '0'.toNat - 48 = 0 := rfl
      rw [hzero, Nat.zero_mul, Nat.zero_add]
    · rw [List.dropWhile_cons_of_neg (by simpa using hc)]

/-- So many digits write a number below that power of ten. -/
theorem natOf_lt_pow {ds : List Char} (hds : ∀ c ∈ ds, c.isDigit = true) :
    natOf ds < 10 ^ ds.length := by
  induction ds with
  | nil => decide
  | cons c ds ih =>
    obtain ⟨hc, hds⟩ := List.forall_mem_cons.1 hds
    have hd := DecimalDigit.lt_of_value? (DecimalDigit.value?_of_isDigit hc)
    have hrest := ih hds
    rw [← List.singleton_append, natOf_append, natOf_singleton, List.singleton_append,
      List.length_cons, Nat.pow_succ]
    generalize 10 ^ ds.length = p at hrest
    have hmul : (c.toNat - 48) * p ≤ 9 * p := Nat.mul_le_mul_right p (by omega)
    omega

/-- With no zero in front they write no less than the power of ten before that. -/
theorem pow_le_natOf {c : Char} {ds : List Char} (hc : c.isDigit = true) (hzero : c ≠ '0') :
    10 ^ ds.length ≤ natOf (c :: ds) := by
  have hd : 1 ≤ c.toNat - 48 := by
    obtain ⟨hlow, -⟩ := Char.isDigit_iff_toNat.1 hc
    have h0 : '0'.toNat = 48 := rfl
    have hne : c.toNat ≠ '0'.toNat := fun h => hzero (Char.toNat_inj.1 h)
    omega
  rw [← List.singleton_append, natOf_append, natOf_singleton]
  exact Nat.le_trans (Nat.le_mul_of_pos_left _ hd) (Nat.le_add_right _ _)

theorem two_pow_le_ten_pow (j : Nat) : 2 ^ (3 * j) ≤ 10 ^ j := by
  rw [Nat.pow_mul]
  exact Nat.pow_le_pow_left (by decide) j

/-- A number of very many digits before the point is past all doubles. -/
theorem nearestPattern_of_many {v size : Nat} {q : Int} (hv : 10 ^ size ≤ v)
    (hmany : 400 ≤ (size : Int) + q) :
    Binary64.nearestPattern (v * 10 ^ q.toNat) (10 ^ (-q).toNat) = Binary64.infinityPattern := by
  obtain ⟨j, hj, hsum⟩ : ∃ j, 400 ≤ j ∧ size + q.toNat = (-q).toNat + j :=
    ⟨size + q.toNat - (-q).toNat, by omega, by omega⟩
  have hk : 1100 ≤ 3 * j := by omega
  refine Binary64.nearestPattern_of_large (Nat.pow_pos (by decide)) hk ?_
  calc 10 ^ (-q).toNat * 2 ^ (3 * j) ≤ 10 ^ (-q).toNat * 10 ^ j :=
        Nat.mul_le_mul_left _ (two_pow_le_ten_pow j)
    _ = 10 ^ size * 10 ^ q.toNat := by rw [← Nat.pow_add, ← Nat.pow_add, hsum]
    _ ≤ v * 10 ^ q.toNat := Nat.mul_le_mul_right _ hv

/-- A number of very many zeros behind the point is below all doubles. -/
theorem nearestPattern_of_few {v size : Nat} {q : Int} (hv : v < 10 ^ size)
    (hfew : (size : Int) + q < -400) :
    Binary64.nearestPattern (v * 10 ^ q.toNat) (10 ^ (-q).toNat) = 0 := by
  obtain ⟨j, hj, hsum⟩ : ∃ j, 400 ≤ j ∧ size + j = (-q).toNat :=
    ⟨(-q).toNat - size, by omega, by omega⟩
  have hk : 1100 ≤ 3 * j := by omega
  have hnone : q.toNat = 0 := by omega
  refine Binary64.nearestPattern_of_small hk ?_
  calc v * 10 ^ q.toNat * 2 ^ (3 * j) ≤ v * 10 ^ j := by
        rw [hnone, Nat.pow_zero, Nat.mul_one]
        exact Nat.mul_le_mul_left _ (two_pow_le_ten_pow j)
    _ < 10 ^ size * 10 ^ j := Nat.mul_lt_mul_of_pos_right hv (Nat.pow_pos (by decide))
    _ = 10 ^ (-q).toNat := by rw [← Nat.pow_add, hsum]

/-- **Far outside the range of doubles the answer is known without the power:** scaling gives the
nearest double in any case. -/
theorem scale_eq (negative : Bool) {ds : List Char} (hds : ∀ c ∈ ds, c.isDigit = true) (q : Int) :
    scale negative ds q = Binary64.ofDecimal negative (natOf ds) q := by
  have hkept : ∀ c ∈ ds.dropWhile (· == '0'), c.isDigit = true := fun c hc =>
    hds c ((List.dropWhile_suffix _).subset hc)
  have hhead : ∀ h : ds.dropWhile (· == '0') ≠ [], ((ds.dropWhile (· == '0')).head h == '0') = false :=
    fun h => List.head_dropWhile_not _ h
  rw [← natOf_dropWhile_zero ds]
  unfold scale Binary64.ofDecimal Binary64.ofRatio
  generalize ds.dropWhile (· == '0') = kept at hkept hhead
  cases kept with
  | nil =>
    have hnone : natOf [] = 0 := rfl
    simp only [List.isEmpty_nil, if_true]
    rw [hnone, Nat.zero_mul, Binary64.nearestPattern_zero, Binary64.nearestPattern_zero]
  | cons c rest =>
    have hzero : c ≠ '0' := by simpa using hhead (List.cons_ne_nil c rest)
    have hlow : 10 ^ rest.length ≤ natOf (c :: rest) :=
      pow_le_natOf (hkept c List.mem_cons_self) hzero
    have hhigh := natOf_lt_pow hkept
    simp only [List.isEmpty_cons, Bool.false_eq_true, if_false, List.length_cons, Nat.pow_eq]
    rw [List.length_cons] at hhigh
    split
    · next hmany => rw [nearestPattern_of_many hlow (by omega)]
    · split
      · next hfew => rw [nearestPattern_of_few hhigh hfew, Binary64.nearestPattern_zero]
      · split
        · next hneg =>
          have hnone : q.toNat = 0 := by omega
          have hplaces : (-q).toNat = q.natAbs := by omega
          rw [hnone, hplaces, Nat.pow_zero, Nat.mul_one]
        · next hnonneg =>
          have hnone : (-q).toNat = 0 := by omega
          have hplaces : q.toNat = q.natAbs := by omega
          rw [hnone, hplaces, Nat.pow_zero]

/-! ### Underscores between digits -/

/-- Is this a digit, and not the end of the text? -/
def IsDigit (c : Option Char) : Prop := ∃ x, c = some x ∧ (DecimalDigit.value? x).isSome = true

/-- Can the second character follow the first?  An underscore stands next to digits only; none is the
end of the text on either side. -/
def Follows (a b : Option Char) : Prop := (a = some '_' → IsDigit b) ∧ (b = some '_' → IsDigit a)

/-- **Every underscore stands between two digits.** -/
def Bridged (cs : List Char) : Prop := List.IsChain Follows (none :: (cs.map some ++ [none]))

/-- The characters besides the underscores. -/
def unbridged (cs : List Char) : List Char := cs.filter (· ≠ '_')

theorem isDigit_some_iff (c : Char) : IsDigit (some c) ↔ (plain c).isDigit = true := by
  rw [isDigit_plain]
  exact ⟨fun ⟨x, hx, hdigit⟩ => Option.some.inj hx ▸ hdigit, fun hdigit => ⟨c, rfl, hdigit⟩⟩

theorem not_isDigit_none : ¬ IsDigit none := nofun

theorem not_isDigit_underscore : ¬ IsDigit (some '_') := by
  rw [isDigit_some_iff]
  decide

theorem follows_end_iff {a : Option Char} : Follows a none ↔ a ≠ some '_' :=
  ⟨fun h ha => not_isDigit_none (h.1 ha), fun ha => ⟨fun h => absurd h ha, nofun⟩⟩

theorem follows_underscore_iff {a : Option Char} : Follows a (some '_') ↔ IsDigit a := by
  refine ⟨fun h => h.2 rfl, fun ha => ⟨fun h => ?_, fun _ => ha⟩⟩
  exact absurd (h ▸ ha) not_isDigit_underscore

theorem follows_other_iff {a : Option Char} {c : Char} (hc : c ≠ '_') :
    Follows a (some c) ↔ (a = some '_' → IsDigit (some c)) :=
  ⟨fun h => h.1, fun h => ⟨h, fun h' => absurd (Option.some.inj h') hc⟩⟩

theorem map_plain_eq_underscore {a : Option Char} : a.map plain = some '_' ↔ a = some '_' := by
  cases a with
  | none => exact Iff.rfl
  | some c =>
    rw [Option.map_some, Option.some.injEq, Option.some.injEq]
    exact plain_eq_iff rfl

/-- An underscore is dropped behind a digit. -/
theorem dropUnderscores?_underscore (a : Option Char) (rest : List Char) :
    dropUnderscores? (a.map plain) ('_' :: rest) =
      if ∃ x, a = some x ∧ (plain x).isDigit = true then dropUnderscores? (some '_') rest
      else none := by
  cases a with
  | none =>
    rw [Option.map_none, dropUnderscores?, if_neg nofun]
  | some x =>
    rw [Option.map_some, dropUnderscores?]
    refine if_congr ⟨fun hx => ⟨x, rfl, hx⟩, ?_⟩ rfl rfl
    rintro ⟨y, hy, hdigit⟩
    rwa [Option.some.inj hy]

theorem dropUnderscores?_other {c : Char} (hc : c ≠ '_') (a : Option Char) (rest : List Char) :
    dropUnderscores? a (c :: rest) =
      if a = some '_' ∧ c.isDigit = false then none
      else (dropUnderscores? (some c) rest).map (c :: ·) := by
  rw [dropUnderscores?]
  · refine if_congr ?_ rfl rfl
    rw [Bool.and_eq_true, beq_iff_eq, Bool.not_eq_true']
  · exact hc

/-- **Underscores are dropped exactly where each stands between two digits,** whatever was in front. -/
theorem dropUnderscores?_eq_some_iff {cs q : List Char} {a : Option Char} :
    dropUnderscores? (a.map plain) (cs.map plain) = some q ↔
      List.IsChain Follows (a :: (cs.map some ++ [none])) ∧ q = (unbridged cs).map plain := by
  induction cs generalizing a q with
  | nil =>
    rw [List.map_nil, dropUnderscores?, List.map_nil, List.nil_append, List.isChain_cons_cons,
      follows_end_iff]
    by_cases ha : a = some '_'
    · rw [if_pos (beq_iff_eq.2 (map_plain_eq_underscore.2 ha))]
      exact ⟨nofun, fun h => absurd ha h.1.1⟩
    · rw [if_neg (mt beq_iff_eq.1 (mt map_plain_eq_underscore.1 ha))]
      exact ⟨fun h => ⟨⟨ha, .singleton _⟩, (Option.some.inj h).symm⟩,
        fun h => congrArg some h.2.symm⟩
  | cons c cs ih =>
    rw [List.map_cons, List.map_cons, List.cons_append, List.isChain_cons_cons]
    by_cases hc : c = '_'
    · subst hc
      have hdropped : unbridged ('_' :: cs) = unbridged cs := rfl
      have hdigit : (∃ x, a = some x ∧ (plain x).isDigit = true) ↔ IsDigit a := by
        simp only [IsDigit, isDigit_plain]
      rw [plain_of_none rfl, dropUnderscores?_underscore, hdropped, follows_underscore_iff]
      by_cases ha : IsDigit a
      · rw [if_pos (hdigit.2 ha)]
        have hrest := ih (q := q) (a := some '_')
        rw [Option.map_some, plain_of_none rfl] at hrest
        rw [hrest]
        exact ⟨fun h => ⟨⟨ha, h.1⟩, h.2⟩, fun h => ⟨h.1.2, h.2⟩⟩
      · rw [if_neg (mt hdigit.1 ha)]
        exact ⟨nofun, fun h => absurd h.1.1 ha⟩
    · have hkept : unbridged (c :: cs) = c :: unbridged cs := List.filter_cons_of_pos (by simpa using hc)
      rw [dropUnderscores?_other (mt (plain_eq_iff rfl).1 hc), hkept, follows_other_iff hc,
        isDigit_some_iff]
      simp only [map_plain_eq_underscore]
      by_cases ha : a = some '_' ∧ (plain c).isDigit = false
      · rw [if_pos ha]
        exact ⟨nofun, fun h => absurd (h.1.1 ha.1) (by simp [ha.2])⟩
      · have hfits : a = some '_' → (plain c).isDigit = true := fun h => by
          simpa using fun hdigit => ha ⟨h, hdigit⟩
        rw [if_neg ha, Option.map_eq_some_iff, List.map_cons]
        constructor
        · rintro ⟨q', hq', rfl⟩
          obtain ⟨hchain, rfl⟩ := (ih (a := some c)).1 hq'
          exact ⟨⟨hfits, hchain⟩, rfl⟩
        · rintro ⟨⟨-, hchain⟩, rfl⟩
          exact ⟨_, (ih (a := some c)).2 ⟨hchain, rfl⟩, rfl⟩

/-! ### Decimal numbers as they are written -/

/-- Digits, with a point among or around them if one likes: the number without the point, and how
many digits stand behind that. -/
inductive Mantissa : List Char → Nat → Nat → Prop where
  | whole {ds v n} (hds : Digits ds v n) : Mantissa ds v 0
  | pointed {ds es v n} (hds : Digits (ds ++ es) v n) : Mantissa (ds ++ '.' :: es) v es.length

/-- The power of ten that a mantissa is multiplied by: a letter and a whole number, or nothing. -/
inductive Exponent : List Char → Int → Prop where
  | absent : Exponent [] 0
  | present {e cs q n} (he : e = 'e' ∨ e = 'E') (hcs : Whole cs q n) : Exponent (e :: cs) q

/-- **An unsigned decimal number as it is written,** and the double that it gives under a sign: the
nearest one to the number, an infinity, or no number. -/
inductive Unsigned : List Char → (Bool → Float) → Prop where
  | number {cs es v places q} (hcs : Mantissa cs v places) (hes : Exponent es q) :
      Unsigned (cs ++ es) fun negative => Binary64.ofDecimal negative v (q - places)
  | infinity {cs} (hcs : cs.map Char.toLower = "inf".toList ∨ cs.map Char.toLower = "infinity".toList) :
      Unsigned cs fun negative => Binary64.ofPattern negative Binary64.infinityPattern
  | nan {cs} (hcs : cs.map Char.toLower = "nan".toList) :
      Unsigned cs fun negative => Binary64.ofPattern negative (Binary64.infinityPattern + Nat.pow 2 51)

/-- **A decimal number as it is written,** and its double.  The underscores, each between two digits,
do not count. -/
inductive Decimal (cs : List Char) : Float → Prop where
  | unsigned {f} (hcs : Bridged cs) (hf : Unsigned (unbridged cs) f) : Decimal cs (f false)
  | plus {rest f} (hcs : Bridged cs) (hsign : unbridged cs = '+' :: rest) (hf : Unsigned rest f) :
      Decimal cs (f false)
  | minus {rest f} (hcs : Bridged cs) (hsign : unbridged cs = '-' :: rest) (hf : Unsigned rest f) :
      Decimal cs (f true)

/-! ### Reading them

With the underscores gone, each part of the reader is compared with its part of the grammar. -/

section unbridged

variable {cs ds es rest : List Char} {v n places : Nat} {q : Int} {x : Float} {f : Bool → Float}

/-- With no underscore, only digits are read as digits. -/
theorem ungroup?_eq_some_iff {p : List Char} (hp : '_' ∉ p) :
    ungroup? p = some ds ↔ p ≠ [] ∧ (∀ c ∈ p, c.isDigit = true) ∧ ds = p := by
  induction p generalizing ds with
  | nil => exact ⟨fun h => absurd h (Option.some_ne_none ds).symm, fun h => absurd rfl h.1⟩
  | cons c p ih =>
    have hp := List.not_mem_of_not_mem_cons hp
    rw [List.forall_mem_cons]
    cases p with
    | nil =>
      rw [ungroup?]
      by_cases hc : c.isDigit = true
      · rw [if_pos hc]
        exact ⟨fun h => ⟨List.cons_ne_nil _ _, ⟨hc, List.forall_mem_nil _⟩, (Option.some.inj h).symm⟩,
          fun h => congrArg some h.2.2.symm⟩
      · rw [if_neg hc]
        exact ⟨fun h => absurd h (Option.some_ne_none ds).symm, fun h => absurd h.2.1.1 hc⟩
    | cons d p =>
      have hd : d ≠ '_' := fun h => hp (h ▸ List.mem_cons_self)
      rw [ungroup?_cons hd]
      by_cases hc : c.isDigit = true
      · rw [if_pos hc, Option.map_eq_some_iff]
        constructor
        · rintro ⟨ds', hds', rfl⟩
          obtain ⟨-, hdigits, rfl⟩ := (ih hp).1 hds'
          exact ⟨List.cons_ne_nil _ _, ⟨hc, hdigits⟩, rfl⟩
        · rintro ⟨-, ⟨-, hdigits⟩, rfl⟩
          exact ⟨_, (ih hp).2 ⟨List.cons_ne_nil _ _, hdigits, rfl⟩, rfl⟩
      · rw [if_neg hc]
        exact ⟨fun h => absurd h (Option.some_ne_none ds).symm, fun h => absurd h.2.1.1 hc⟩

theorem underscore_not_mem_map_plain (hcs : '_' ∉ cs) : '_' ∉ cs.map plain := by
  intro h
  obtain ⟨c, hc, hplain⟩ := List.mem_map.1 h
  exact hcs ((plain_eq_iff rfl).1 hplain ▸ hc)

/-- With no underscore, digits are a row of them. -/
theorem digits_iff_of_unbridged (hcs : '_' ∉ cs) : Digits cs v n ↔
    cs ≠ [] ∧ (∀ c ∈ cs.map plain, c.isDigit = true) ∧ v = natOf (cs.map plain) ∧ n = cs.length := by
  rw [digits_iff]
  simp only [ungroup?_eq_some_iff (underscore_not_mem_map_plain hcs), ne_eq, List.map_eq_nil_iff]
  constructor
  · rintro ⟨_, ⟨hne, hdigits, rfl⟩, rfl, rfl⟩
    exact ⟨hne, hdigits, rfl, List.length_map _⟩
  · rintro ⟨hne, hdigits, rfl, rfl⟩
    exact ⟨_, ⟨hne, hdigits, rfl⟩, rfl, List.length_map _⟩

/-- **An exponent is read exactly if it is written.** -/
theorem exponent?_eq_some_iff (hes : '_' ∉ es) : exponent? (es.map plain) = some q ↔ Exponent es q := by
  cases es with
  | nil =>
    rw [List.map_nil, exponent?]
    refine ⟨fun h => Option.some.inj h ▸ .absent, fun h => ?_⟩
    cases h
    rfl
  | cons e cs =>
    have hcs := List.not_mem_of_not_mem_cons hes
    have hletter : (plain e == 'e' || plain e == 'E') = true ↔ e = 'e' ∨ e = 'E' := by
      rw [Bool.or_eq_true, beq_iff_eq, beq_iff_eq, plain_eq_iff rfl, plain_eq_iff rfl]
    have hbehind : '_' ∉ (sign (cs.map plain)).2 := by
      rcases sign_plain cs with ⟨rest, rfl, hs⟩ | ⟨rest, rfl, hs⟩ | ⟨-, -, hs⟩ <;> rw [hs] <;>
        refine underscore_not_mem_map_plain ?_
      · exact List.not_mem_of_not_mem_cons hcs
      · exact List.not_mem_of_not_mem_cons hcs
      · exact hcs
    rw [List.map_cons, exponent?]
    by_cases he : e = 'e' ∨ e = 'E'
    · have hwhole : Exponent (e :: cs) q ↔ ∃ n, Whole cs q n :=
        ⟨fun | .present _ hcs => ⟨_, hcs⟩, fun ⟨_, hcs⟩ => .present he hcs⟩
      rw [if_pos (hletter.2 he), hwhole]
      simp only [whole_iff, ungroup?_eq_some_iff hbehind]
      generalize sign (cs.map plain) = signed
      obtain ⟨negative, digits⟩ := signed
      simp only
      split
      · next hdigits =>
        rw [Bool.and_eq_true, Bool.not_eq_true', List.isEmpty_eq_false_iff, List.all_eq_true] at hdigits
        exact ⟨fun h => ⟨_, _, ⟨hdigits.1, hdigits.2, rfl⟩, (Option.some.inj h).symm, rfl⟩,
          fun ⟨_, _, ⟨_, _, hds⟩, hq, _⟩ => by rw [hq, hds]; rfl⟩
      · next hnone =>
        rw [Bool.and_eq_true, Bool.not_eq_true', List.isEmpty_eq_false_iff, List.all_eq_true] at hnone
        exact ⟨nofun, fun ⟨_, _, ⟨hne, hdigits, _⟩, _⟩ => absurd ⟨hne, hdigits⟩ hnone⟩
    · rw [if_neg (mt hletter.1 he)]
      exact ⟨nofun, fun | .present he' _ => absurd he' he⟩

/-- The digits in front are those before the first other character. -/
theorem spanDigits_append (hds : ∀ c ∈ ds, c.isDigit = true)
    (hrest : ∀ c ∈ rest.head?, c.isDigit = false) : spanDigits (ds ++ rest) = (ds, rest) := by
  have htake : rest.takeWhile Char.isDigit = [] ∧ rest.dropWhile Char.isDigit = rest := by
    cases rest with
    | nil => exact ⟨rfl, rfl⟩
    | cons c rest =>
      have hc : ¬ c.isDigit = true := by
        rw [hrest c rfl]
        exact Bool.false_ne_true
      exact ⟨List.takeWhile_cons_of_neg hc, List.dropWhile_cons_of_neg hc⟩
  rw [spanDigits, List.takeWhile_append_of_pos hds, List.dropWhile_append_of_pos hds, htake.1, htake.2,
    List.append_nil]

/-- Every text is split so. -/
theorem exists_spanDigits (cs : List Char) : ∃ ds rest, cs = ds ++ rest ∧
    (∀ c ∈ ds.map plain, c.isDigit = true) ∧ ∀ c ∈ (rest.map plain).head?, c.isDigit = false := by
  refine ⟨cs.takeWhile fun c => (plain c).isDigit, cs.dropWhile fun c => (plain c).isDigit,
    List.takeWhile_append_dropWhile.symm, fun c hc => ?_, fun c hc => ?_⟩
  · obtain ⟨c, hfront, rfl⟩ := List.mem_map.1 hc
    exact List.mem_takeWhile_imp (p := fun c => (plain c).isDigit) hfront
  · rw [List.head?_map] at hc
    obtain ⟨c, hbehind, rfl⟩ := Option.map_eq_some_iff.1 hc
    have hhead := List.head?_dropWhile_not (fun c => (plain c).isDigit) cs
    rw [hbehind] at hhead
    exact hhead

/-- Digits and no point. -/
theorem unsigned?_whole (negative : Bool) (hds : ∀ c ∈ ds, c.isDigit = true)
    (hrest : ∀ c ∈ rest.head?, c.isDigit = false) (hpoint : ∀ more, rest ≠ '.' :: more) :
    unsigned? negative (ds ++ rest) =
      if ds = [] then none else (exponent? rest).map fun e => scale negative ds e := by
  rw [unsigned?, spanDigits_append hds hrest]
  simp only [List.isEmpty_nil, Bool.and_true, List.isEmpty_iff, List.append_nil, List.length_nil,
    Int.ofNat_zero, Int.sub_zero]

/-- Digits among which there is a point. -/
theorem unsigned?_pointed (negative : Bool) (hds : ∀ c ∈ ds, c.isDigit = true)
    (hes : ∀ c ∈ es, c.isDigit = true) (hrest : ∀ c ∈ rest.head?, c.isDigit = false) :
    unsigned? negative (ds ++ '.' :: (es ++ rest)) =
      if ds ++ es = [] then none
      else (exponent? rest).map fun e => scale negative (ds ++ es) (e - es.length) := by
  have hpoint : ∀ c ∈ ('.' :: (es ++ rest)).head?, c.isDigit = false := by
    intro c hc
    rw [← Option.some.inj hc]
    rfl
  rw [unsigned?, spanDigits_append hds hpoint]
  simp only [spanDigits_append hes hrest, Bool.and_eq_true, List.isEmpty_iff, List.append_eq_nil_iff]

/-- A mantissa begins with a digit or a point. -/
theorem Mantissa.exists_cons (hcs : Mantissa cs v places) :
    ∃ c rest, cs = c :: rest ∧ ((DecimalDigit.value? c).isSome = true ∨ c = '.') := by
  cases hcs with
  | whole hds =>
    obtain ⟨c, rest, rfl, hc⟩ := hds.exists_cons
    exact ⟨c, rest, rfl, .inl hc⟩
  | @pointed ds es v n hds =>
    cases ds with
    | nil => exact ⟨'.', es, rfl, .inr rfl⟩
    | cons c ds =>
      obtain ⟨_, _, heq, hc⟩ := hds.exists_cons
      exact ⟨c, _, rfl, .inl ((List.cons.inj heq).1 ▸ hc)⟩

/-- An exponent begins with its letter. -/
theorem Exponent.head_plain (hes : Exponent es q) :
    ∀ c ∈ (es.map plain).head?, c.isDigit = false ∧ c ≠ '.' := by
  intro c hc
  cases hes with
  | absent => cases hc
  | present he _ =>
    rw [← Option.some.inj hc]
    rcases he with rfl | rfl <;> exact ⟨by rw [plain_of_none rfl]; rfl, by rw [plain_of_none rfl]; decide⟩

/-- A point and the digits around it, in ASCII. -/
theorem map_plain_pointed (ds es rest : List Char) : (ds ++ '.' :: es ++ rest).map plain =
    ds.map plain ++ '.' :: (es.map plain ++ rest.map plain) := by
  rw [List.append_assoc, List.cons_append, List.map_append, List.map_cons, List.map_append,
    plain_of_none rfl]

theorem mem_pointed {c : Char} (hc : c ∈ ds ++ es) (rest : List Char) : c ∈ ds ++ '.' :: es ++ rest :=
  List.mem_append_left rest ((List.mem_append.1 hc).elim (List.mem_append_left _) fun h =>
    List.mem_append_right _ (List.mem_cons_of_mem _ h))

/-- **Digits, point and exponent are read exactly as they are written.** -/
theorem unsigned?_eq_some_iff (negative : Bool) (hcs : '_' ∉ cs) :
    unsigned? negative (cs.map plain) = some x ↔ ∃ ms es v places q, cs = ms ++ es ∧
      Mantissa ms v places ∧ Exponent es q ∧ x = Binary64.ofDecimal negative v (q - places) := by
  constructor
  · intro hread
    obtain ⟨ds, rest, rfl, hds, hrest⟩ := exists_spanDigits cs
    by_cases hpoint : ∃ more, rest = '.' :: more
    · obtain ⟨more, rfl⟩ := hpoint
      obtain ⟨es, rest, rfl, hes, hrest⟩ := exists_spanDigits more
      have hparts : ds ++ '.' :: (es ++ rest) = (ds ++ '.' :: es) ++ rest := by
        rw [List.append_assoc, List.cons_append]
      rw [hparts] at hcs hread ⊢
      have hall : ∀ c ∈ ds.map plain ++ es.map plain, c.isDigit = true := fun c hc =>
        (List.mem_append.1 hc).elim (hds c) (hes c)
      have hjoined : '_' ∉ ds ++ es := fun h => hcs (mem_pointed h rest)
      rw [map_plain_pointed, unsigned?_pointed negative hds hes hrest] at hread
      split at hread
      · cases hread
      · next hne =>
        obtain ⟨q, hq, rfl⟩ := Option.map_eq_some_iff.1 hread
        rw [← List.map_append] at hall hne
        have hne' : ds ++ es ≠ [] := mt List.map_eq_nil_iff.2 hne
        refine ⟨_, rest, _, _, q, rfl,
          .pointed ((digits_iff_of_unbridged hjoined).2 ⟨hne', hall, rfl, rfl⟩),
          (exponent?_eq_some_iff fun h => hcs (List.mem_append_right _ h)).1 hq, ?_⟩
        rw [← List.map_append, scale_eq negative hall, List.length_map]
    · have hnone : ∀ more, rest.map plain ≠ '.' :: more := by
        intro more hmore
        obtain ⟨c, more', rfl, hc, -⟩ := List.map_eq_cons_iff.1 hmore
        exact hpoint ⟨more', by rw [(plain_eq_iff rfl).1 hc]⟩
      rw [List.map_append, unsigned?_whole negative hds hrest hnone] at hread
      split at hread
      · cases hread
      · next hne =>
        obtain ⟨q, hq, rfl⟩ := Option.map_eq_some_iff.1 hread
        have hne' : ds ≠ [] := mt List.map_eq_nil_iff.2 hne
        refine ⟨ds, rest, _, _, q, rfl,
          .whole ((digits_iff_of_unbridged fun h => hcs (List.mem_append_left _ h)).2
            ⟨hne', hds, rfl, rfl⟩),
          (exponent?_eq_some_iff fun h => hcs (List.mem_append_right _ h)).1 hq, ?_⟩
        rw [scale_eq negative hds, Int.ofNat_zero, Int.sub_zero]
  · rintro ⟨ms, es, v, places, q, rfl, hms, hes, rfl⟩
    have hq := (exponent?_eq_some_iff fun h => hcs (List.mem_append_right _ h)).2 hes
    have hhead := fun c hc => (hes.head_plain c hc).1
    cases hms with
    | whole hds =>
      obtain ⟨hne, hdigits, rfl, -⟩ :=
        (digits_iff_of_unbridged fun h => hcs (List.mem_append_left _ h)).1 hds
      have hpoint : ∀ more, es.map plain ≠ '.' :: more := fun more hmore =>
        (hes.head_plain '.' (by rw [hmore]; rfl)).2 rfl
      rw [List.map_append, unsigned?_whole negative hdigits hhead hpoint,
        if_neg (mt List.map_eq_nil_iff.1 hne), hq, Option.map_some, scale_eq negative hdigits,
        Int.ofNat_zero, Int.sub_zero]
    | @pointed ds fs _ _ hds =>
      have hjoined : '_' ∉ ds ++ fs := fun h => hcs (mem_pointed h es)
      obtain ⟨hne, hdigits, rfl, -⟩ := (digits_iff_of_unbridged hjoined).1 hds
      have hnone : ds.map plain ++ fs.map plain ≠ [] := by
        rw [← List.map_append]
        exact mt List.map_eq_nil_iff.1 hne
      rw [List.map_append] at hdigits
      rw [map_plain_pointed, unsigned?_pointed negative
        (fun c hc => hdigits c (List.mem_append_left _ hc))
        (fun c hc => hdigits c (List.mem_append_right _ hc)) hhead,
        if_neg hnone, hq, Option.map_some, scale_eq negative hdigits, List.map_append,
        List.length_map]

end unbridged

/-! ### Names of numbers -/

section words

variable {c x : Char} {cs w : List Char} {v places : Nat}

/-- A digit is no capital. -/
theorem toLower_of_isSome (hc : (DecimalDigit.value? c).isSome = true) : c.toLower = c := by
  rw [Char.toLower, dif_neg]
  rintro ⟨hlow, hhigh⟩
  have hlow : 65 ≤ c.toNat := UInt32.le_iff_toNat_le.1 hlow
  have hhigh : c.toNat ≤ 90 := UInt32.le_iff_toNat_le.1 hhigh
  unfold DecimalDigit.value? at hc
  simp only at hc
  rw [if_pos (by omega), if_neg (by simp only [Bool.and_eq_true, decide_eq_true_eq]; omega)] at hc
  cases hc

theorem toLower_plain_eq_iff (hx : DecimalDigit.value? x = none) :
    (plain c).toLower = x ↔ c.toLower = x := by
  cases hd : DecimalDigit.value? c with
  | none => rw [plain_of_none hd]
  | some d =>
    have hdigit : (DecimalDigit.value? c).isSome = true := by
      rw [hd]
      rfl
    have hplain : (DecimalDigit.value? (plain c)).isSome = true := by
      rw [DecimalDigit.value?_of_isDigit (by rw [isDigit_plain, hdigit])]
      rfl
    rw [toLower_of_isSome hdigit, toLower_of_isSome hplain, plain_eq_iff hx]

/-- A word reads the same with its digits in ASCII. -/
theorem map_toLower_plain_eq_iff (hw : ∀ x ∈ w, DecimalDigit.value? x = none) :
    (cs.map plain).map Char.toLower = w ↔ cs.map Char.toLower = w := by
  induction w generalizing cs with
  | nil => rw [List.map_map, List.map_eq_nil_iff, List.map_eq_nil_iff]
  | cons x w ih =>
    obtain ⟨hx, hw⟩ := List.forall_mem_cons.1 hw
    cases cs with
    | nil => exact ⟨nofun, nofun⟩
    | cons c cs =>
      simp only [List.map_cons, List.cons.injEq]
      rw [toLower_plain_eq_iff hx, ih hw]

/-- No number is a name. -/
theorem Mantissa.map_toLower_ne (hcs : Mantissa cs v places)
    (es : List Char) (hx : DecimalDigit.value? x = none) (hpoint : x ≠ '.')
    (w : List Char) : (cs ++ es).map Char.toLower ≠ x :: w := by
  obtain ⟨c, rest, rfl, hc⟩ := hcs.exists_cons
  intro heq
  have hhead : c.toLower = x := (List.cons.inj heq).1
  rcases hc with hdigit | rfl
  · rw [toLower_of_isSome hdigit] at hhead
    rw [hhead, hx] at hdigit
    cases hdigit
  · exact hpoint hhead.symm

end words

/-! ### Reading decimal numbers -/

section reading

variable {cs rest : List Char} {x : Float} {f : Bool → Float}

/-- What stands behind the sign of a decimal number, as it is read. -/
def unsignedOrName? (negative : Bool) (rest : List Char) : Option Float :=
  let word := String.ofList (rest.map Char.toLower)
  if word == "inf" || word == "infinity" then
    some (Binary64.ofPattern negative Binary64.infinityPattern)
  else if word == "nan" then
    some (Binary64.ofPattern negative (Binary64.infinityPattern + Nat.pow 2 51))
  else unsigned? negative rest

theorem float?_eq (text : String) : float? text =
    (dropUnderscores? none (core text)).bind fun cs => unsignedOrName? (sign cs).1 (sign cs).2 := rfl

/-- A word is compared letter by letter. -/
theorem ofList_beq_iff (cs : List Char) (w : String) : (String.ofList cs == w) = true ↔ cs = w.toList := by
  rw [beq_iff_eq, ← String.toList_inj, String.toList_ofList]

/-- **An unsigned number is read exactly as it is written.** -/
theorem unsignedOrName?_eq_some_iff (negative : Bool) (hcs : '_' ∉ cs) :
    unsignedOrName? negative (cs.map plain) = some x ↔ ∃ f, Unsigned cs f ∧ x = f negative := by
  have hname (w : String) (hw : (w.toList.all fun x => (DecimalDigit.value? x).isNone) = true) :
      (String.ofList ((cs.map plain).map Char.toLower) == w) = true ↔ cs.map Char.toLower = w.toList := by
    have hletters : ∀ x ∈ w.toList, DecimalDigit.value? x = none :=
      fun x hx => Option.isNone_iff_eq_none.1 (List.all_eq_true.1 hw x hx)
    rw [ofList_beq_iff, map_toLower_plain_eq_iff hletters]
  have hinf := hname "inf" (by decide)
  have hinfinity := hname "infinity" (by decide)
  have hnan := hname "nan" (by decide)
  unfold unsignedOrName?
  simp only [Bool.or_eq_true, hinf, hinfinity, hnan]
  constructor
  · intro hread
    split at hread
    · next hword => exact ⟨_, .infinity hword, (Option.some.inj hread).symm⟩
    · split at hread
      · next hword => exact ⟨_, .nan hword, (Option.some.inj hread).symm⟩
      · obtain ⟨ms, es, v, places, q, rfl, hms, hes, rfl⟩ := (unsigned?_eq_some_iff negative hcs).1 hread
        exact ⟨_, .number hms hes, rfl⟩
  · rintro ⟨f, hf, rfl⟩
    cases hf with
    | @number _ es _ _ _ hms hes =>
      have hnotInf : _ ≠ "inf".toList := hms.map_toLower_ne es rfl (by decide) _
      have hnotInfinity : _ ≠ "infinity".toList := hms.map_toLower_ne es rfl (by decide) _
      have hnotNan : _ ≠ "nan".toList := hms.map_toLower_ne es rfl (by decide) _
      rw [if_neg (not_or.2 ⟨hnotInf, hnotInfinity⟩), if_neg hnotNan]
      exact (unsigned?_eq_some_iff negative hcs).2 ⟨_, _, _, _, _, rfl, hms, hes, rfl⟩
    | infinity hword => rw [if_pos hword]
    | nan hword => rw [if_neg (by rw [hword]; decide), if_pos hword]

/-- An unsigned number begins with a digit or a point, a name with its letter. -/
theorem Unsigned.exists_cons (hcs : Unsigned cs f) : ∃ c rest, cs = c :: rest ∧
    ((DecimalDigit.value? c).isSome = true ∨ c.toLower ∈ ['.', 'i', 'n']) := by
  have hname {w : List Char} {c : Char} (hword : cs.map Char.toLower = c :: w)
      (hc : c ∈ ['.', 'i', 'n']) : ∃ c rest, cs = c :: rest ∧
        ((DecimalDigit.value? c).isSome = true ∨ c.toLower ∈ ['.', 'i', 'n']) := by
    obtain ⟨c', rest, rfl, rfl, -⟩ := List.map_eq_cons_iff.1 hword
    exact ⟨c', rest, rfl, .inr hc⟩
  cases hcs with
  | number hms _ =>
    obtain ⟨c, rest, rfl, hc⟩ := hms.exists_cons
    refine ⟨c, _, rfl, hc.imp_right ?_⟩
    rintro rfl
    exact List.mem_cons_self
  | infinity hword => exact hword.elim (hname · (by decide)) (hname · (by decide))
  | nan hword => exact hname hword (by decide)

/-- A sign in front belongs to no unsigned number. -/
theorem Unsigned.ne_sign {c : Char} (hc : c = '+' ∨ c = '-') (hcs : Unsigned cs f) : cs ≠ c :: rest := by
  obtain ⟨_, _, rfl, hhead⟩ := hcs.exists_cons
  rintro heq
  rw [(List.cons.inj heq).1] at hhead
  rcases hc with rfl | rfl <;> exact hhead.elim nofun (by decide)

/-- **A decimal number is read exactly as it is written,** to the nearest double. -/
theorem float?_eq_some_iff {text : String} : float? text = some x ↔ Decimal (inner text) x := by
  have hdropped {q : List Char} : dropUnderscores? none (core text) = some q ↔
      Bridged (inner text) ∧ q = (unbridged (inner text)).map plain :=
    dropUnderscores?_eq_some_iff (a := none)
  have hkept : '_' ∉ unbridged (inner text) := fun h => by simpa using (List.mem_filter.1 h).2
  have hsplit : float? text = some x ↔ Bridged (inner text) ∧
      unsignedOrName? (sign ((unbridged (inner text)).map plain)).1
        (sign ((unbridged (inner text)).map plain)).2 = some x := by
    rw [float?_eq, Option.bind_eq_some_iff]
    constructor
    · rintro ⟨q, hq, hread⟩
      obtain ⟨hbridged, rfl⟩ := hdropped.1 hq
      exact ⟨hbridged, hread⟩
    · rintro ⟨hbridged, hread⟩
      exact ⟨_, hdropped.2 ⟨hbridged, rfl⟩, hread⟩
  rw [hsplit]
  generalize inner text = cs at hkept
  -- A sign is taken off in the same way by both, and no unsigned number begins with one.
  rcases sign_plain (unbridged cs) with ⟨rest, hcs, hs⟩ | ⟨rest, hcs, hs⟩ | ⟨hminus, hplus, hs⟩
  · rw [hs, unsignedOrName?_eq_some_iff _ (List.not_mem_of_not_mem_cons (hcs ▸ hkept))]
    constructor
    · rintro ⟨hbridged, f, hf, rfl⟩
      exact .minus hbridged hcs hf
    · intro h
      cases h with
      | unsigned _ hf => exact absurd hcs (hf.ne_sign (.inr rfl))
      | plus _ hsign _ => cases hcs.symm.trans hsign
      | minus hbridged hsign hf =>
        cases hcs.symm.trans hsign
        exact ⟨hbridged, _, hf, rfl⟩
  · rw [hs, unsignedOrName?_eq_some_iff _ (List.not_mem_of_not_mem_cons (hcs ▸ hkept))]
    constructor
    · rintro ⟨hbridged, f, hf, rfl⟩
      exact .plus hbridged hcs hf
    · intro h
      cases h with
      | unsigned _ hf => exact absurd hcs (hf.ne_sign (.inl rfl))
      | minus _ hsign _ => cases hcs.symm.trans hsign
      | plus hbridged hsign hf =>
        cases hcs.symm.trans hsign
        exact ⟨hbridged, _, hf, rfl⟩
  · rw [hs, unsignedOrName?_eq_some_iff _ hkept]
    constructor
    · rintro ⟨hbridged, f, hf, rfl⟩
      exact .unsigned hbridged hf
    · intro h
      cases h with
      | unsigned hbridged hf => exact ⟨hbridged, _, hf, rfl⟩
      | plus _ hsign _ => exact absurd hsign (hplus _)
      | minus _ hsign _ => exact absurd hsign (hminus _)

end reading

end Numeral
end EffectGraph
