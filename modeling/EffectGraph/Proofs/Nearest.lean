import EffectGraph.Proofs.Decimals

/-!
# The nearest double

A ratio is rounded in integers: the exponent is found first, the significand is rounded at that
exponent, and both are added up as one bit pattern.  Here it is proved that this gives the nearest
double, of two that are equally near the even one.  Patterns are ordered as the numbers that they
stand for (`Binary64.magnitude_strictMono`), so that a ratio between two neighbours is nearer to one
of them than to any other pattern (`Binary64.IsNearest`), and subnormal doubles, a significand that
carries and a ratio past the largest double need no cases of their own
(`Binary64.exists_isNearest`).  Decimal numbers follow (`Binary64.exists_isNearest_ofDecimal`).
-/

namespace EffectGraph
namespace Binary64

/-! ### Patterns and what they stand for -/

/-- The number that a bit pattern without a sign stands for.  From that of infinity on it is the
number that doubles would go on with if they had larger exponents. -/
def magnitude (p : Nat) : ℚ :=
  if p / 2 ^ 52 = 0 then p * 2 ^ (-1074 : ℤ)
  else (2 ^ 52 + p % 2 ^ 52 : Nat) * 2 ^ ((p / 2 ^ 52 : Nat) - 1075 : ℤ)

/-- **A significand of 53 bits and an exponent field, added up:** a significand that is too large by
one carries into the field. -/
theorem magnitude_add_mul {s f : Nat} (hs : s ≤ 2 ^ 53) (hf : f = 0 ∨ 2 ^ 52 ≤ s) :
    magnitude (s + f * 2 ^ 52) = s * 2 ^ (f - 1074 : ℤ) := by
  rcases Nat.lt_or_ge s (2 ^ 52) with hsmall | hlarge
  · obtain rfl : f = 0 := hf.resolve_right (by omega)
    rw [magnitude, if_pos (by omega), Nat.zero_mul, Nat.add_zero]
    norm_num
  rcases Nat.lt_or_ge s (2 ^ 53) with hfits | hcarry
  · have hfield : (s + f * 2 ^ 52) / 2 ^ 52 = f + 1 := by omega
    have hrest : 2 ^ 52 + (s + f * 2 ^ 52) % 2 ^ 52 = s := by omega
    rw [magnitude, hfield, if_neg (Nat.succ_ne_zero f), hrest]
    congr 2
    push_cast
    ring
  · obtain rfl : s = 2 ^ 53 := Nat.le_antisymm hs hcarry
    have hfield : (2 ^ 53 + f * 2 ^ 52) / 2 ^ 52 = f + 2 := by omega
    have hrest : 2 ^ 52 + (2 ^ 53 + f * 2 ^ 52) % 2 ^ 52 = 2 ^ 52 := by omega
    have hexponent : ((f + 2 : Nat) - 1075 : ℤ) = (f - 1074 : ℤ) + 1 := by omega
    rw [magnitude, hfield, if_neg (Nat.succ_ne_zero _), hrest, hexponent, zpow_add_one₀ (by norm_num)]
    push_cast
    ring

/-- Every pattern is such a sum. -/
theorem exists_split (p : Nat) : ∃ s f, p = s + f * 2 ^ 52 ∧ s < 2 ^ 53 ∧ (f = 0 ∨ 2 ^ 52 ≤ s) := by
  refine ⟨p - (p / 2 ^ 52 - 1) * 2 ^ 52, p / 2 ^ 52 - 1, ?_, ?_, ?_⟩ <;> omega

/-- **Patterns are ordered as the numbers that they stand for.** -/
theorem magnitude_strictMono : StrictMono magnitude := by
  refine strictMono_nat_of_lt_succ fun p => ?_
  obtain ⟨s, f, rfl, hs, hf⟩ := exists_split p
  have hnext : s + f * 2 ^ 52 + 1 = (s + 1) + f * 2 ^ 52 := by omega
  have hf' : f = 0 ∨ 2 ^ 52 ≤ s + 1 := hf.imp_right fun h => Nat.le_succ_of_le h
  rw [hnext, magnitude_add_mul (Nat.le_of_lt hs) hf, magnitude_add_mul hs hf']
  refine mul_lt_mul_of_pos_right ?_ (zpow_pos (by norm_num) _)
  exact_mod_cast Nat.lt_succ_self s

/-! ### Between two neighbours -/

/-- **The pattern nearest to a number,** the even one of two that are equally near. -/
structure IsNearest (p : Nat) (t : ℚ) : Prop where
  nearest : ∀ p', |magnitude p - t| ≤ |magnitude p' - t|
  even : ∀ p', p' ≠ p → |magnitude p' - t| = |magnitude p - t| → p % 2 = 0

section neighbours

variable {p : Nat} {t : ℚ}

theorem isNearest_of_lower (hlow : magnitude p ≤ t)
    (hnear : t - magnitude p ≤ magnitude (p + 1) - t)
    (htie : t - magnitude p = magnitude (p + 1) - t → p % 2 = 0) : IsNearest p t := by
  have hdistance : |magnitude p - t| = t - magnitude p := by
    rw [abs_sub_comm, abs_of_nonneg (sub_nonneg.2 hlow)]
  have hbelow {p' : Nat} (hp' : p' < p) : t - magnitude p < |magnitude p' - t| := by
    have hlt := magnitude_strictMono hp'
    rw [abs_sub_comm, abs_of_nonneg (by linarith)]
    linarith
  have habove {p' : Nat} (hp' : p < p') : magnitude (p + 1) - t ≤ |magnitude p' - t| := by
    have hle := magnitude_strictMono.monotone (Nat.succ_le_of_lt hp')
    exact le_trans (sub_le_sub_right hle t) (le_abs_self _)
  refine ⟨fun p' => ?_, fun p' hne heq => ?_⟩
  · rw [hdistance]
    rcases Nat.lt_trichotomy p' p with hlt | rfl | hgt
    · exact (hbelow hlt).le
    · exact hdistance.ge
    · exact hnear.trans (habove hgt)
  · rw [hdistance] at heq
    rcases Nat.lt_or_gt_of_ne hne with hlt | hgt
    · exact absurd heq (hbelow hlt).ne'
    · exact htie (le_antisymm hnear ((habove hgt).trans heq.le))

theorem isNearest_of_upper (hhigh : t ≤ magnitude (p + 1))
    (hnear : magnitude (p + 1) - t ≤ t - magnitude p)
    (htie : t - magnitude p = magnitude (p + 1) - t → (p + 1) % 2 = 0) : IsNearest (p + 1) t := by
  have hdistance : |magnitude (p + 1) - t| = magnitude (p + 1) - t :=
    abs_of_nonneg (sub_nonneg.2 hhigh)
  have hbelow {p' : Nat} (hp' : p' < p + 1) : t - magnitude p ≤ |magnitude p' - t| := by
    have hle := magnitude_strictMono.monotone (Nat.le_of_lt_succ hp')
    rw [abs_sub_comm]
    exact le_trans (sub_le_sub_left hle t) (le_abs_self _)
  have habove {p' : Nat} (hp' : p + 1 < p') : magnitude (p + 1) - t < |magnitude p' - t| := by
    have hlt := magnitude_strictMono hp'
    exact lt_of_lt_of_le (sub_lt_sub_right hlt t) (le_abs_self _)
  refine ⟨fun p' => ?_, fun p' hne heq => ?_⟩
  · rw [hdistance]
    rcases Nat.lt_trichotomy p' (p + 1) with hlt | rfl | hgt
    · exact hnear.trans (hbelow hlt)
    · exact hdistance.ge
    · exact (habove hgt).le
  · rw [hdistance] at heq
    rcases Nat.lt_or_gt_of_ne hne with hlt | hgt
    · exact htie (le_antisymm ((hbelow hlt).trans heq.le) hnear)
    · exact absurd heq (habove hgt).ne'

end neighbours

/-! ### Rounding -/

/-- A ratio is rounded down or up, to the nearer natural and from the middle to the even one. -/
theorem roundRatio_cases (num den : Nat) :
    (roundRatio num den = num / den ∧ 2 * (num % den) ≤ den ∧
      (2 * (num % den) = den → num / den % 2 = 0)) ∨
    (roundRatio num den = num / den + 1 ∧ den ≤ 2 * (num % den) ∧
      (2 * (num % den) = den → (num / den + 1) % 2 = 0)) := by
  unfold roundRatio
  simp only [beq_iff_eq]
  split
  · exact .inl ⟨rfl, by omega, by omega⟩
  split
  · exact .inr ⟨rfl, by omega, by omega⟩
  split
  · exact .inl ⟨rfl, by omega, by omega⟩
  · exact .inr ⟨rfl, by omega, by omega⟩

/-- Rounding after scaling is rounding a ratio. -/
theorem exists_roundScaled {den : Nat} (hden : 0 < den) (num : Nat) (q : Int) :
    ∃ n d, 0 < d ∧ roundScaled num den q = roundRatio n d ∧
      (num / den : ℚ) = (n / d : ℚ) * 2 ^ q := by
  have htwo : (2 : ℚ) ≠ 0 := by norm_num
  have hden' : (den : ℚ) ≠ 0 := by exact_mod_cast hden.ne'
  rw [roundScaled]
  split
  · next hq =>
    refine ⟨_, den, hden, rfl, ?_⟩
    have hpow : (2 : ℚ) ^ q = ((2 : ℚ) ^ q.natAbs)⁻¹ := by
      rw [← zpow_natCast, ← zpow_neg, Int.ofNat_natAbs_of_nonpos hq.le, neg_neg]
    rw [hpow, Nat.pow_eq]
    push_cast
    field_simp
  · next hq =>
    refine ⟨num, _, Nat.mul_pos hden (Nat.two_pow_pos _), rfl, ?_⟩
    have hpow : (2 : ℚ) ^ q = (2 : ℚ) ^ q.natAbs := by
      rw [← zpow_natCast, Int.natAbs_of_nonneg (not_lt.1 hq)]
    rw [hpow]
    push_cast
    field_simp

section exponent

variable {num den : Nat} (hden : 0 < den)

include hden

/-- What is compared with a power of two is the ratio. -/
theorem reaches_iff (q : Int) : reaches num den q = true ↔ (2 : ℚ) ^ (52 + q) ≤ num / den := by
  have hpos : (0 : ℚ) < den := by exact_mod_cast hden
  rw [le_div_iff₀ hpos, reaches]
  split
  · next hq =>
    have hpow : (2 : ℚ) ^ (52 + q) = ((2 : ℚ) ^ (52 + q).natAbs)⁻¹ := by
      rw [← zpow_natCast, ← zpow_neg, Int.ofNat_natAbs_of_nonpos hq.le, neg_neg]
    rw [hpow, inv_mul_le_iff₀ (by positivity), mul_comm]
    simp only [decide_eq_true_eq, Nat.pow_eq]
    norm_cast
  · next hq =>
    have hpow : (2 : ℚ) ^ (52 + q) = (2 : ℚ) ^ (52 + q).natAbs := by
      rw [← zpow_natCast, Int.natAbs_of_nonneg (not_lt.1 hq)]
    rw [hpow, mul_comm]
    simp only [decide_eq_true_eq, Nat.pow_eq]
    norm_cast

/-- A ratio lies within a factor of two of the one that the lengths of its parts give. -/
theorem div_bounds_log2 (hnum : num ≠ 0) :
    (2 : ℚ) ^ (num.log2 - den.log2 - 1 : ℤ) ≤ num / den ∧
      (num / den : ℚ) < 2 ^ (num.log2 - den.log2 + 1 : ℤ) := by
  have hpos : (0 : ℚ) < den := by exact_mod_cast hden
  have htwo : (2 : ℚ) ≠ 0 := by norm_num
  have hnumlow : (2 : ℚ) ^ num.log2 ≤ num := by exact_mod_cast Nat.log2_self_le hnum
  have hnumhigh : (num : ℚ) < 2 ^ num.log2 * 2 := by
    rw [← pow_succ]
    exact_mod_cast Nat.lt_log2_self
  have hdenlow : (2 : ℚ) ^ den.log2 ≤ den := by exact_mod_cast Nat.log2_self_le hden.ne'
  have hdenhigh : (den : ℚ) < 2 ^ den.log2 * 2 := by
    rw [← pow_succ]
    exact_mod_cast Nat.lt_log2_self
  constructor
  · rw [zpow_sub₀ htwo, zpow_sub₀ htwo, zpow_natCast, zpow_natCast, zpow_one, div_div]
    exact div_le_div₀ (by positivity) hnumlow hpos hdenhigh.le
  · rw [zpow_add₀ htwo, zpow_sub₀ htwo, zpow_natCast, zpow_natCast, zpow_one, div_mul_eq_mul_div]
    exact div_lt_div₀ hnumhigh hdenlow (by positivity) (by positivity)

/-- **The exponent of a positive ratio:** the ratio has at most 53 bits before the point there, and
has them all or the exponent is the least one. -/
theorem exponentFor_spec (hnum : num ≠ 0) :
    -1074 ≤ exponentFor num den ∧ (num / den : ℚ) < 2 ^ (exponentFor num den + 53) ∧
      (exponentFor num den = -1074 ∨ (2 : ℚ) ^ (exponentFor num den + 52) ≤ num / den) := by
  obtain ⟨hlow, hhigh⟩ := div_bounds_log2 hden hnum
  obtain ⟨exact, hmax, hbelow, habove⟩ : ∃ exact : Int, exponentFor num den = max exact (-1074) ∧
      (2 : ℚ) ^ (exact + 52) ≤ num / den ∧ (num / den : ℚ) < 2 ^ (exact + 53) := by
    refine ⟨_, rfl, ?_⟩
    split
    · next hreaches =>
      refine ⟨?_, hhigh.trans_eq (by congr 1; ring)⟩
      rw [add_comm]
      exact (reaches_iff hden _).1 hreaches
    · next hmisses =>
      refine ⟨le_of_eq_of_le (by congr 1; ring) hlow, ?_⟩
      rw [reaches_iff hden, not_le] at hmisses
      exact hmisses.trans_eq (by congr 1; ring)
  rw [hmax]
  refine ⟨le_max_right _ _, habove.trans_le ?_, ?_⟩
  · exact zpow_le_zpow_right₀ (by norm_num) (by omega)
  · rcases max_cases exact (-1074) with ⟨heq, -⟩ | ⟨heq, -⟩
    · rw [heq]
      exact .inr hbelow
    · exact .inl heq

end exponent

section ratio

variable {n d f : Nat} (hd : 0 < d)

include hd

theorem div_eq_div_add_mod : (n / d : ℚ) = (n / d : Nat) + (n % d : Nat) / d := by
  have hpos : (0 : ℚ) < d := by exact_mod_cast hd
  field_simp
  exact_mod_cast (Nat.div_add_mod n d).symm

variable (hwhole : n / d < 2 ^ 53) (hnormal : f = 0 ∨ 2 ^ 52 ≤ n / d)

include hwhole hnormal

/-- A ratio lies above the pattern of its whole part by the remainder. -/
theorem sub_magnitude_div : n / d * 2 ^ (f - 1074 : ℤ) - magnitude (n / d + f * 2 ^ 52) =
    (n % d : Nat) * (2 ^ (f - 1074 : ℤ) / d) := by
  rw [magnitude_add_mul hwhole.le hnormal, div_eq_div_add_mod hd]
  ring

/-- It lies below the next pattern by what the remainder lacks of the divisor. -/
theorem magnitude_div_succ_sub : magnitude (n / d + f * 2 ^ 52 + 1) - n / d * 2 ^ (f - 1074 : ℤ) =
    (d - n % d : Nat) * (2 ^ (f - 1074 : ℤ) / d) := by
  have hpos : (0 : ℚ) < d := by exact_mod_cast hd
  rw [Nat.add_right_comm, magnitude_add_mul hwhole (hnormal.imp_right Nat.le_succ_of_le),
    div_eq_div_add_mod hd, Nat.cast_sub (Nat.mod_lt n hd).le]
  push_cast
  field_simp
  ring

/-- What a ratio is rounded to, with the pattern of the exponent added, is the nearest pattern. -/
theorem isNearest_roundRatio :
    IsNearest (roundRatio n d + f * 2 ^ 52) (n / d * 2 ^ (f - 1074 : ℤ)) := by
  have hbelow := sub_magnitude_div hd hwhole hnormal
  have habove := magnitude_div_succ_sub hd hwhole hnormal
  have hrest : n % d < d := Nat.mod_lt n hd
  have hunit : (0 : ℚ) < 2 ^ (f - 1074 : ℤ) / d := by positivity
  have htie (heq : n / d * 2 ^ (f - 1074 : ℤ) - magnitude (n / d + f * 2 ^ 52) =
      magnitude (n / d + f * 2 ^ 52 + 1) - n / d * 2 ^ (f - 1074 : ℤ)) : 2 * (n % d) = d := by
    rw [hbelow, habove, mul_left_inj' hunit.ne', Nat.cast_inj] at heq
    omega
  rcases roundRatio_cases n d with ⟨hdown, hnear, heven⟩ | ⟨hup, hnear, heven⟩
  · rw [hdown]
    refine isNearest_of_lower ?_ ?_ fun heq => ?_
    · rw [← sub_nonneg, hbelow]
      positivity
    · rw [hbelow, habove, mul_le_mul_iff_left₀ hunit, Nat.cast_le]
      omega
    · have := heven (htie heq)
      omega
  · rw [hup, Nat.add_right_comm]
    refine isNearest_of_upper ?_ ?_ fun heq => ?_
    · rw [← sub_nonneg, habove]
      positivity
    · rw [hbelow, habove, mul_le_mul_iff_left₀ hunit, Nat.cast_le]
      omega
    · have := heven (htie heq)
      omega

end ratio

theorem isNearest_zero : IsNearest 0 0 := by
  have hnone : magnitude 0 = 0 := by simp [magnitude]
  have hleast : magnitude 0 < magnitude 1 := magnitude_strictMono Nat.zero_lt_one
  rw [hnone] at hleast
  refine isNearest_of_lower hnone.le ?_ fun _ => rfl
  rw [hnone, sub_zero, sub_zero]
  exact hleast.le

/-- **The pattern of a ratio is the nearest one,** ties to even, where infinity stands for whatever
lies past the largest double. -/
theorem exists_isNearest {den : Nat} (hden : 0 < den) (num : Nat) :
    ∃ p, IsNearest p (num / den) ∧ nearestPattern num den = min p infinityPattern := by
  rw [nearestPattern]
  split
  · next hzero =>
    obtain rfl : num = 0 := eq_of_beq hzero
    refine ⟨0, ?_, rfl⟩
    rw [Nat.cast_zero, zero_div]
    exact isNearest_zero
  · next hpositive =>
    have hnum : num ≠ 0 := fun h => hpositive (beq_iff_eq.2 h)
    obtain ⟨hleast, hfits, hnormal⟩ := exponentFor_spec hden hnum
    generalize exponentFor num den = q at hleast hfits hnormal
    obtain ⟨f, rfl⟩ : ∃ f : Nat, q = f - 1074 := ⟨(q + 1074).toNat, by omega⟩
    obtain ⟨n, d, hd, hrounded, hscaled⟩ := exists_roundScaled hden num (f - 1074)
    have hpos : (0 : ℚ) < d := by exact_mod_cast hd
    have hunit : (0 : ℚ) < 2 ^ (f - 1074 : ℤ) := by positivity
    -- the bounds of the ratio, as bounds of the significand before it is rounded
    have hwhole : n / d < 2 ^ 53 := by
      rw [hscaled, add_comm _ (53 : ℤ), zpow_add₀ (by norm_num), mul_lt_mul_iff_left₀ hunit,
        div_lt_iff₀ hpos] at hfits
      rw [Nat.div_lt_iff_lt_mul hd]
      exact_mod_cast hfits
    have hfull : f = 0 ∨ 2 ^ 52 ≤ n / d := by
      rw [hscaled, add_comm _ (52 : ℤ), zpow_add₀ (by norm_num), mul_le_mul_iff_left₀ hunit,
        le_div_iff₀ hpos] at hnormal
      refine hnormal.imp (by omega) fun h => (Nat.le_div_iff_mul_le hd).2 ?_
      exact_mod_cast h
    refine ⟨roundRatio n d + f * 2 ^ 52, hscaled ▸ isNearest_roundRatio hd hwhole hfull, ?_⟩
    have hfield : (f - 1074 + 1074 : Int).toNat = f := by omega
    simp only [hfield, hrounded]
    split
    · next hlarge =>
      have hpast : infinityPattern ≤ roundRatio n d + f * 2 ^ 52 := by
        have hlow : 2 ^ 52 ≤ n / d := hfull.resolve_left (by omega)
        rw [infinityPattern, Nat.pow_eq]
        rcases roundRatio_cases n d with ⟨hdown, -⟩ | ⟨hup, -⟩ <;> omega
      exact (Nat.min_eq_right hpast).symm
    · rfl

/-! ### Doubles -/

/-- The bits of a double are the ones that it was made of, unless they say that it is no number. -/
theorem toBits_ofBits {b : UInt64}
    (hb : b.toNat / 2 ^ 52 % 2 ^ 11 = 2047 → b.toNat % 2 ^ 52 = 0) : (Float.ofBits b).toBits = b := by
  have hvalid : Float.Model.Format.binary64.Valid b.toBitVec := by
    refine ⟨fun hexponent hmantissa => absurd ?_ hmantissa⟩
    rw [Float.Model.UnpackedFloat.unpackExponent_def] at hexponent
    rw [Float.Model.UnpackedFloat.unpackMantissa_def]
    have hfield : b.toNat >>> 52 % 2 ^ 11 = 2047 := by
      simpa using congrArg BitVec.toNat hexponent
    refine BitVec.eq_of_toNat_eq ?_
    rw [BitVec.extractLsb'_toNat]
    exact hb (by rwa [← Nat.shiftRight_eq_div_pow])
  exact UInt64.toBitVec_inj.1 (Float.Model.UnpackedFloat.pack_unpack_of_valid hvalid)

theorem toBits_ofPattern {p : Nat} (hp : p ≤ infinityPattern) (negative : Bool) :
    (ofPattern negative p).toBits.toNat = p + if negative then 2 ^ 63 else 0 := by
  simp only [infinityPattern, Nat.pow_eq] at hp
  have hfits : (p + if negative then 2 ^ 63 else 0) < 2 ^ 64 := by
    split <;> omega
  have hbits : (UInt64.ofNat (p + if negative then 2 ^ 63 else 0)).toNat =
      p + if negative then 2 ^ 63 else 0 := by
    rw [UInt64.toNat_ofNat', Nat.mod_eq_of_lt hfits]
  rw [ofPattern, Nat.pow_eq, toBits_ofBits, hbits]
  rw [hbits]
  split <;> omega

/-- **A pattern below that of infinity makes the double that it stands for.** -/
theorem exists_decode_ofPattern {p : Nat} (hp : p < infinityPattern) (negative : Bool) :
    ∃ m q, decode (ofPattern negative p) = .finite negative m q ∧ (m * 2 ^ q : ℚ) = magnitude p := by
  have hbits := toBits_ofPattern hp.le negative
  simp only [infinityPattern, Nat.pow_eq] at hp
  have hsign : ((ofPattern negative p).toBits.toNat / 2 ^ 63 == 1) = negative := by
    cases negative <;> simp only [hbits, Bool.false_eq_true, if_false, if_true, beq_iff_eq,
      beq_eq_false_iff_ne] <;> omega
  have hfield : (ofPattern negative p).toBits.toNat / 2 ^ 52 % 2 ^ 11 = p / 2 ^ 52 := by
    rw [hbits]
    split <;> omega
  have hfraction : (ofPattern negative p).toBits.toNat % 2 ^ 52 = p % 2 ^ 52 := by
    rw [hbits]
    split <;> omega
  have hfinite : p / 2 ^ 52 ≠ 2047 := by omega
  simp only [decode, Nat.pow_eq, hsign, hfield, hfraction, beq_iff_eq, if_neg hfinite, magnitude]
  split
  · exact ⟨_, _, rfl, by congr 2; omega⟩
  · exact ⟨_, _, rfl, rfl⟩

theorem decode_ofPattern_infinityPattern (negative : Bool) :
    decode (ofPattern negative infinityPattern) = .infinite negative := by
  cases negative <;> rfl

/-! ### Decimal numbers -/

/-- **The double that a decimal number is read as is the nearest one,** ties to even, and infinite past
the largest double. -/
theorem exists_isNearest_ofDecimal (negative : Bool) (v : Nat) (q : Int) :
    ∃ p, IsNearest p (v * 10 ^ q) ∧
      (p < infinityPattern → ∃ m e, decode (ofDecimal negative v q) = .finite negative m e ∧
        (m * 2 ^ e : ℚ) = magnitude p) ∧
      (infinityPattern ≤ p → decode (ofDecimal negative v q) = .infinite negative) := by
  obtain ⟨p, hnearest, hpattern⟩ :=
    exists_isNearest (Nat.pow_pos (by decide) : 0 < 10 ^ (-q).toNat) (v * 10 ^ q.toNat)
  have hvalue : ((v * 10 ^ q.toNat : Nat) / (10 ^ (-q).toNat : Nat) : ℚ) = v * 10 ^ q := by
    have hten : (10 : ℚ) ≠ 0 := by norm_num
    push_cast
    rw [mul_div_assoc, ← zpow_natCast, ← zpow_natCast, ← zpow_sub₀ hten]
    congr 2
    omega
  rw [hvalue] at hnearest
  rw [ofDecimal, ofRatio, hpattern]
  refine ⟨p, hnearest, fun hfinite => ?_, fun hpast => ?_⟩
  · rw [Nat.min_eq_left hfinite.le]
    exact exists_decode_ofPattern hfinite negative
  · rw [Nat.min_eq_right hpast]
    exact decode_ofPattern_infinityPattern negative

end Binary64
end EffectGraph
