import Mathlib
import EffectGraph.Number
import EffectGraph.Proofs.Limit

/-!
# Whole numbers as they are written

A whole number is written as an optional sign and digits, of any script, with at most one underscore
between two of them (`Numeral.Whole`).  Reading a text gives a number exactly if the text writes it
in this way with no more digits than are allowed (`Numeral.int_eq_ok_iff`), and what is written by the
machine itself is read back (`Numeral.whole_toString`).
-/

namespace EffectGraph

/-! ### Blanks at the ends -/

namespace Blank

variable {drop drop' : Char → Bool} {cs : List Char}

/-- What neither begins nor ends with something to drop stays as it is. -/
theorem trimBoth_eq_self (hhead : ∀ h : cs ≠ [], drop (cs.head h) = false)
    (hlast : ∀ h : cs ≠ [], drop (cs.getLast h) = false) : trimBoth drop cs = cs := by
  have hfront : cs.dropWhile drop = cs := by
    cases cs with
    | nil => rfl
    | cons c rest => exact List.dropWhile_cons_of_neg (by simpa using hhead (List.cons_ne_nil c rest))
  rw [trimBoth, hfront]
  exact List.rdropWhile_eq_self_iff.2 fun h => by simp [hlast h]

/-- What is left begins and ends with something to keep. -/
theorem head_trimBoth (h : trimBoth drop cs ≠ []) : drop ((trimBoth drop cs).head h) = false := by
  have hstart : trimBoth drop cs <+: cs.dropWhile drop := List.rdropWhile_prefix drop _
  have hne : cs.dropWhile drop ≠ [] := fun hnil => h (List.prefix_nil.1 (hnil ▸ hstart))
  rw [hstart.head h]
  exact List.head_dropWhile_not drop hne

theorem getLast_trimBoth (h : trimBoth drop cs ≠ []) :
    drop ((trimBoth drop cs).getLast h) = false :=
  Bool.eq_false_iff.2 (List.rdropWhile_last_not drop (cs.dropWhile drop) h)

/-- What was trimmed is not trimmed again by less. -/
theorem trimBoth_trimBoth (hle : ∀ c, drop' c = true → drop c = true) :
    trimBoth drop' (trimBoth drop cs) = trimBoth drop cs := by
  have hkeep {c : Char} (hc : drop c = false) : drop' c = false := by
    cases hc' : drop' c with
    | false => rfl
    | true => exact absurd (hle c hc') (by simp [hc])
  exact trimBoth_eq_self (fun h => hkeep (head_trimBoth h)) fun h => hkeep (getLast_trimBoth h)

/-- What surrounds something to keep is dropped. -/
theorem trimBoth_surrounded {before after : List Char} (hbefore : ∀ c ∈ before, drop c = true)
    (hafter : ∀ c ∈ after, drop c = true) (hcs : ∀ c ∈ cs, drop c = false) :
    trimBoth drop (before ++ cs ++ after) = cs := by
  have hafter' : ∀ c ∈ after.reverse, drop c = true := fun c hc => hafter c (List.mem_reverse.1 hc)
  have hself : trimBoth drop cs = cs :=
    trimBoth_eq_self (fun h => hcs _ (List.head_mem h)) fun h => hcs _ (List.getLast_mem h)
  cases cs with
  | nil =>
    have hnone : (after : List Char).dropWhile drop = [] := List.dropWhile_eq_nil_iff.2 hafter
    rw [trimBoth, List.append_nil, List.dropWhile_append_of_pos hbefore, hnone]
    rfl
  | cons c rest =>
    have hkept : (c :: rest ++ after).dropWhile drop = c :: rest ++ after :=
      List.dropWhile_cons_of_neg (by simp [hcs c List.mem_cons_self])
    rw [trimBoth, List.append_assoc, List.dropWhile_append_of_pos hbefore, hkept,
      List.reverse_append, List.dropWhile_append_of_pos hafter']
    rw [trimBoth, List.dropWhile_cons_of_neg (by simp [hcs c List.mem_cons_self])] at hself
    exact hself

end Blank

/-! ### Digits of all scripts -/

namespace DecimalDigit

variable {c : Char} {d : Nat}

/-- A digit is below ten. -/
theorem lt_of_value? (hd : value? c = some d) : d < 10 := by
  unfold value? at hd
  simp only at hd
  split at hd
  · split at hd
    · next hrange =>
      cases hd
      simp only [Bool.and_eq_true, decide_eq_true_eq] at hrange
      omega
    · cases hd
  · obtain ⟨start, hstart, rfl⟩ := Option.map_eq_some_iff.1 hd
    have hrange := List.find?_some hstart
    simp only [Bool.and_eq_true, decide_eq_true_eq] at hrange
    omega

/-- The ASCII digits are digits. -/
theorem value?_of_isDigit (hc : c.isDigit = true) : value? c = some (c.toNat - 48) := by
  obtain ⟨hlow, hhigh⟩ := Char.isDigit_iff_toNat.1 hc
  have h0 : '0'.toNat = 48 := rfl
  have h9 : '9'.toNat = 57 := rfl
  unfold value?
  simp only
  rw [if_pos (by omega), if_pos (by simp only [Bool.and_eq_true, decide_eq_true_eq]; omega)]

end DecimalDigit

namespace Numeral

section plain

variable {c x : Char} {d : Nat}

/-- A digit becomes the ASCII digit of its value. -/
theorem plain_of_digit (hd : DecimalDigit.value? c = some d) : plain c = Nat.digitChar d := by
  rw [plain, hd]

theorem plain_of_none (hc : DecimalDigit.value? c = none) : plain c = c := by
  rw [plain, hc]

/-- **The digits of all scripts, and only they, become ASCII digits.** -/
theorem isDigit_plain (c : Char) : (plain c).isDigit = (DecimalDigit.value? c).isSome := by
  cases hc : DecimalDigit.value? c with
  | some d =>
    rw [plain_of_digit hc, Nat.isDigit_digitChar]
    exact decide_eq_true (DecimalDigit.lt_of_value? hc)
  | none =>
    rw [plain_of_none hc]
    cases hdigit : c.isDigit with
    | false => rfl
    | true =>
      rw [DecimalDigit.value?_of_isDigit hdigit] at hc
      cases hc

/-- Any other character stays as it is, and nothing else becomes it. -/
theorem plain_eq_iff (hx : DecimalDigit.value? x = none) : plain c = x ↔ c = x := by
  constructor
  · intro hc
    cases hd : DecimalDigit.value? c with
    | none => rwa [plain_of_none hd] at hc
    | some d =>
      have hdigit := isDigit_plain c
      rw [hc, ← plain_of_none hx, isDigit_plain, hx, hd] at hdigit
      cases hdigit
  · rintro rfl
    exact plain_of_none hx

end plain

/-! ### The number that digits write -/

theorem natOf_eq_ofDigitChars (ds : List Char) : natOf ds = Nat.ofDigitChars 10 ds 0 := rfl

/-- A row of digits is worth as much as its first part, moved up, and its second. -/
theorem natOf_append (ds es : List Char) : natOf (ds ++ es) = natOf ds * 10 ^ es.length + natOf es := by
  simp only [natOf_eq_ofDigitChars]
  rw [Nat.ofDigitChars_append, Nat.ofDigitChars_eq_ofDigitChars_zero, Nat.mul_comm]

theorem natOf_singleton (c : Char) : natOf [c] = c.toNat - 48 := by
  rw [natOf_eq_ofDigitChars, Nat.ofDigitChars_cons, Nat.ofDigitChars_nil, Nat.mul_zero, Nat.zero_add]
  rfl

theorem natOf_cons_digit {d : Nat} (hd : d < 10) (ds : List Char) :
    natOf (Nat.digitChar d :: ds) = d * 10 ^ ds.length + natOf ds := by
  rw [← List.singleton_append, natOf_append, natOf_singleton,
    Nat.toNat_digitChar_sub_48_of_lt_ten hd]

/-! ### Digits with underscores between them -/

/-- **Digits of any script with at most one underscore between two of them:** the number that they
write, and how many they are. -/
inductive Digits : List Char → Nat → Nat → Prop where
  | last {c d} (hd : DecimalDigit.value? c = some d) : Digits [c] d 1
  | digit {c d cs v n} (hd : DecimalDigit.value? c = some d) (hcs : Digits cs v n) :
      Digits (c :: cs) (d * 10 ^ n + v) (n + 1)
  | grouped {c d cs v n} (hd : DecimalDigit.value? c = some d) (hcs : Digits cs v n) :
      Digits (c :: '_' :: cs) (d * 10 ^ n + v) (n + 1)

/-- **A whole number as it is written:** an optional sign and digits; the number and how many digits
there are. -/
inductive Whole : List Char → Int → Nat → Prop where
  | unsigned {cs v n} (hcs : Digits cs v n) : Whole cs v n
  | plus {cs v n} (hcs : Digits cs v n) : Whole ('+' :: cs) v n
  | minus {cs v n} (hcs : Digits cs v n) : Whole ('-' :: cs) (-v) n

variable {c : Char} {cs : List Char} {v n : Nat}

/-- Digits begin with one. -/
theorem Digits.exists_cons (hcs : Digits cs v n) :
    ∃ c rest, cs = c :: rest ∧ (DecimalDigit.value? c).isSome = true := by
  cases hcs with
  | last hd | digit hd _ | grouped hd _ => exact ⟨_, _, rfl, by rw [hd]; rfl⟩

/-- So many digits write a number below that power of ten. -/
theorem Digits.lt_pow (hcs : Digits cs v n) : v < 10 ^ n := by
  have hstep {d v n : Nat} (hd : d < 10) (hv : v < 10 ^ n) : d * 10 ^ n + v < 10 ^ (n + 1) := by
    have hmul : d * 10 ^ n ≤ 9 * 10 ^ n := Nat.mul_le_mul_right _ (Nat.le_of_lt_succ hd)
    rw [Nat.pow_succ]
    omega
  induction hcs with
  | last hd => exact DecimalDigit.lt_of_value? hd
  | digit hd _ ih | grouped hd _ ih => exact hstep (DecimalDigit.lt_of_value? hd) ih

theorem Whole.natAbs_lt_pow {i : Int} (hcs : Whole cs i n) : i.natAbs < 10 ^ n := by
  cases hcs with
  | unsigned hcs | plus hcs => exact hcs.lt_pow
  | minus hcs =>
    rw [Int.natAbs_neg]
    exact hcs.lt_pow

theorem ungroup?_underscore (c : Char) (rest : List Char) :
    ungroup? (c :: '_' :: rest) = if c.isDigit then (ungroup? rest).map (c :: ·) else none := by
  rw [ungroup?]

theorem ungroup?_cons {c d : Char} (hd : d ≠ '_') (rest : List Char) :
    ungroup? (c :: d :: rest) =
      if c.isDigit then (ungroup? (d :: rest)).map (c :: ·) else none := by
  rw [ungroup?]
  · nofun
  · intro rest' hrest
    cases hrest
    exact hd rfl

/-- Digits are read with the underscores removed. -/
theorem Digits.ungroup?_eq (hcs : Digits cs v n) :
    ∃ ds, ungroup? (cs.map plain) = some ds ∧ natOf ds = v ∧ ds.length = n := by
  induction hcs with
  | @last c d hd =>
    have hlt := DecimalDigit.lt_of_value? hd
    refine ⟨[Nat.digitChar d], ?_, ?_, rfl⟩
    · rw [List.map_singleton, plain_of_digit hd, ungroup?, Nat.isDigit_digitChar,
        decide_eq_true hlt, if_pos rfl]
    · rw [natOf_cons_digit hlt, List.length_nil, Nat.pow_zero, Nat.mul_one]
      rfl
  | @digit c d cs v n hd hcs ih =>
    obtain ⟨ds, hds, rfl, rfl⟩ := ih
    have hlt := DecimalDigit.lt_of_value? hd
    obtain ⟨c', rest, rfl, hc'⟩ := hcs.exists_cons
    have hnext : plain c' ≠ '_' := by
      intro hunderscore
      rw [← isDigit_plain, hunderscore] at hc'
      cases hc'
    refine ⟨Nat.digitChar d :: ds, ?_, natOf_cons_digit hlt ds, rfl⟩
    rw [List.map_cons, List.map_cons, ungroup?_cons hnext, ← List.map_cons, hds, plain_of_digit hd,
      Nat.isDigit_digitChar, decide_eq_true hlt, if_pos rfl]
    rfl
  | @grouped c d cs v n hd hcs ih =>
    obtain ⟨ds, hds, rfl, rfl⟩ := ih
    have hlt := DecimalDigit.lt_of_value? hd
    have hunderscore : plain '_' = '_' := plain_of_none rfl
    refine ⟨Nat.digitChar d :: ds, ?_, natOf_cons_digit hlt ds, rfl⟩
    rw [List.map_cons, List.map_cons, hunderscore, ungroup?_underscore, hds, plain_of_digit hd,
      Nat.isDigit_digitChar, decide_eq_true hlt, if_pos rfl]
    rfl

/-- What is read with a character in front begins with a digit. -/
theorem exists_of_ungrouped {tail : Option (List Char)} {ds : List Char}
    (hds : (if (plain c).isDigit then tail.map (plain c :: ·) else none) = some ds) :
    ∃ d ds', DecimalDigit.value? c = some d ∧ tail = some ds' ∧ ds = Nat.digitChar d :: ds' := by
  rw [isDigit_plain] at hds
  cases hd : DecimalDigit.value? c with
  | none =>
    rw [hd] at hds
    cases hds
  | some d =>
    rw [hd, Option.isSome_some, if_pos rfl, plain_of_digit hd] at hds
    obtain ⟨ds', htail, rfl⟩ := Option.map_eq_some_iff.1 hds
    exact ⟨d, ds', rfl, htail, rfl⟩

/-- **Only digits are read so.**  The recursion is that of the reader, which takes one character or
two. -/
theorem digits_of_ungroup? : ∀ {cs ds : List Char}, ungroup? (cs.map plain) = some ds →
    Digits cs (natOf ds) ds.length
  | [], _, hds => nomatch hds
  | [c], ds, hds => by
    have hlone : ungroup? [plain c] =
        if (plain c).isDigit then (some []).map (plain c :: ·) else none := by rw [ungroup?]; rfl
    rw [List.map_singleton, hlone] at hds
    obtain ⟨d, ds', hd, htail, rfl⟩ := exists_of_ungrouped hds
    cases htail
    rw [natOf_singleton, Nat.toNat_digitChar_sub_48_of_lt_ten (DecimalDigit.lt_of_value? hd)]
    exact .last hd
  | c :: c' :: rest, ds, hds => by
    by_cases hc' : c' = '_'
    · subst hc'
      have hunderscore : plain '_' = '_' := plain_of_none rfl
      rw [List.map_cons, List.map_cons, hunderscore, ungroup?_underscore] at hds
      obtain ⟨d, ds', hd, htail, rfl⟩ := exists_of_ungrouped hds
      rw [natOf_cons_digit (DecimalDigit.lt_of_value? hd)]
      exact .grouped hd (digits_of_ungroup? htail)
    · have hnext : plain c' ≠ '_' := fun h => hc' ((plain_eq_iff rfl).1 h)
      rw [List.map_cons, List.map_cons, ungroup?_cons hnext, ← List.map_cons] at hds
      obtain ⟨d, ds', hd, htail, rfl⟩ := exists_of_ungrouped hds
      rw [natOf_cons_digit (DecimalDigit.lt_of_value? hd)]
      exact .digit hd (digits_of_ungroup? htail)

/-- **Digits are what is read with the underscores removed.** -/
theorem digits_iff : Digits cs v n ↔
    ∃ ds, ungroup? (cs.map plain) = some ds ∧ natOf ds = v ∧ ds.length = n := by
  refine ⟨Digits.ungroup?_eq, ?_⟩
  rintro ⟨ds, hds, rfl, rfl⟩
  exact digits_of_ungroup? hds

/-! ### Reading whole numbers -/

/-- Can this character stand in a row of digits? -/
abbrev inRow (c : Char) : Bool := c.isDigit || c == '_'

/-- Digits are nothing but digits and underscores. -/
theorem Digits.all_inRow (hcs : Digits cs v n) : ∀ c ∈ cs.map plain, inRow c = true := by
  have hdigit {c : Char} {d : Nat} (hd : DecimalDigit.value? c = some d) : inRow (plain c) = true := by
    rw [inRow, isDigit_plain, hd]
    rfl
  have hunderscore : inRow (plain '_') = true := by
    rw [plain_of_none rfl]
    rfl
  induction hcs with
  | last hd => exact List.forall_mem_singleton.2 (hdigit hd)
  | digit hd _ ih => exact List.forall_mem_cons.2 ⟨hdigit hd, ih⟩
  | grouped hd _ ih =>
    exact List.forall_mem_cons.2 ⟨hdigit hd, List.forall_mem_cons.2 ⟨hunderscore, ih⟩⟩

/-- Where there is a sign, and whether it is a minus. -/
theorem sign_plain (cs : List Char) :
    (∃ rest, cs = '-' :: rest ∧ sign (cs.map plain) = (true, rest.map plain)) ∨
      (∃ rest, cs = '+' :: rest ∧ sign (cs.map plain) = (false, rest.map plain)) ∨
      (∀ rest, cs ≠ '-' :: rest) ∧ (∀ rest, cs ≠ '+' :: rest) ∧
        sign (cs.map plain) = (false, cs.map plain) := by
  cases cs with
  | nil => exact .inr (.inr ⟨nofun, nofun, rfl⟩)
  | cons c rest =>
    by_cases hminus : c = '-'
    · subst hminus
      exact .inl ⟨rest, rfl, by rw [List.map_cons, plain_of_none rfl, sign]⟩
    · by_cases hplus : c = '+'
      · subst hplus
        exact .inr (.inl ⟨rest, rfl, by rw [List.map_cons, plain_of_none rfl, sign]⟩)
      · refine .inr (.inr ⟨fun _ h => hminus (List.cons.inj h).1, fun _ h => hplus (List.cons.inj h).1,
          ?_⟩)
        rw [List.map_cons, sign]
        · exact fun _ h => hminus ((plain_eq_iff rfl).1 (List.cons.inj h).1)
        · exact fun _ h => hplus ((plain_eq_iff rfl).1 (List.cons.inj h).1)

/-- The number that digits write under a sign. -/
def signed (negative : Bool) (v : Nat) : Int := if negative then -(v : Int) else v

/-- **A whole number is what is read as digits behind the sign.** -/
theorem whole_iff {i : Int} : Whole cs i n ↔
    ∃ ds, ungroup? (sign (cs.map plain)).2 = some ds ∧
      i = signed (sign (cs.map plain)).1 (natOf ds) ∧ ds.length = n := by
  have hsign {x : Char} (hx : DecimalDigit.value? x = none) {rest : List Char} {v n : Nat} :
      ¬ Digits (x :: rest) v n := by
    intro hcs
    obtain ⟨_, _, heq, hdigit⟩ := hcs.exists_cons
    rw [← (List.cons.inj heq).1, hx] at hdigit
    cases hdigit
  rcases sign_plain cs with ⟨rest, rfl, hs⟩ | ⟨rest, rfl, hs⟩ | ⟨hminus, hplus, hs⟩ <;>
    rw [hs] <;> constructor
  · intro h
    cases h with
    | unsigned h => exact absurd h (hsign rfl)
    | minus h =>
      obtain ⟨ds, hds, rfl, rfl⟩ := digits_iff.1 h
      exact ⟨ds, hds, rfl, rfl⟩
  · rintro ⟨ds, hds, rfl, rfl⟩
    exact .minus (digits_of_ungroup? hds)
  · intro h
    cases h with
    | unsigned h => exact absurd h (hsign rfl)
    | plus h =>
      obtain ⟨ds, hds, rfl, rfl⟩ := digits_iff.1 h
      exact ⟨ds, hds, rfl, rfl⟩
  · rintro ⟨ds, hds, rfl, rfl⟩
    exact .plus (digits_of_ungroup? hds)
  · intro h
    cases h with
    | unsigned h =>
      obtain ⟨ds, hds, rfl, rfl⟩ := digits_iff.1 h
      exact ⟨ds, hds, rfl, rfl⟩
    | plus => exact absurd rfl (hplus _)
    | minus => exact absurd rfl (hminus _)
  · rintro ⟨ds, hds, rfl, rfl⟩
    exact .unsigned (digits_of_ungroup? hds)

/-- The characters between the blanks of a text. -/
def inner (text : String) : List Char := Blank.trimBoth isSurround text.toList

/-- **A whole number is read exactly if it is written** with no more digits than are allowed. -/
theorem int_eq_ok_iff {text : String} {i : Int} :
    int text = .ok i ↔ ∃ n, Whole (inner text) i n ∧ n ≤ digitLimit := by
  obtain ⟨rest, hrest⟩ : ∃ rest : List Char, (sign (core text)).2 = rest.map plain := by
    rcases sign_plain (inner text) with ⟨rest, -, hs⟩ | ⟨rest, -, hs⟩ | ⟨-, -, hs⟩ <;>
      exact ⟨_, congrArg Prod.snd hs⟩
  simp only [whole_iff]
  change _ ↔ ∃ n, (∃ ds, ungroup? (sign (core text)).2 = some ds ∧
    i = signed (sign (core text)).1 (natOf ds) ∧ ds.length = n) ∧ n ≤ digitLimit
  unfold int
  simp only
  rw [hrest]
  constructor
  · intro hread
    split at hread
    · cases hread
    · next ds hds =>
      split at hread
      · cases hread
      · next hfew =>
        split at hread
        · cases hread
        · next hall =>
          -- The row goes on to the end, so it is the text itself that was read.
          have hfront := (List.takeWhile_prefix inRow).eq_of_length_le (Nat.not_lt.1 hall)
          rw [hfront] at hds
          cases hread
          exact ⟨_, ⟨ds, hds, rfl, rfl⟩, Nat.not_lt.1 hfew⟩
  · rintro ⟨n, ⟨ds, hds, rfl, rfl⟩, hfew⟩
    have hfront : (rest.map plain).takeWhile inRow = rest.map plain :=
      List.takeWhile_eq_self_iff.2 (digits_of_ungroup? hds).all_inRow
    rw [hfront, hds]
    simp only
    rw [if_neg (Nat.not_lt.2 hfew), if_neg (Nat.lt_irrefl _)]
    rfl

/-! ### Numbers that were written -/

/-- The digits of a number write it. -/
theorem digits_of_isDigit (ds : List Char) (hne : ds ≠ []) (hds : ∀ c ∈ ds, c.isDigit = true) :
    Digits ds (natOf ds) ds.length := by
  induction ds with
  | nil => exact absurd rfl hne
  | cons c ds ih =>
    obtain ⟨hc, hds⟩ := List.forall_mem_cons.1 hds
    have hd := DecimalDigit.value?_of_isDigit hc
    cases ds with
    | nil =>
      rw [natOf_singleton]
      exact .last hd
    | cons c' ds =>
      rw [← List.singleton_append, natOf_append, natOf_singleton, List.singleton_append]
      exact .digit hd (ih (List.cons_ne_nil _ _) hds)

theorem digits_toDigits (n : Nat) : Digits (Nat.toDigits 10 n) n (Nat.toDigits 10 n).length := by
  have hdigits := digits_of_isDigit (Nat.toDigits 10 n) Nat.toDigits_ne_nil fun c hc =>
    Nat.isDigit_of_mem_toDigits (by decide) (Nat.le_refl 10) hc
  rwa [natOf_eq_ofDigitChars, Nat.ofDigitChars_ten_toDigits] at hdigits

/-- A whole number is written as its digits, behind a minus if it is negative. -/
theorem toList_toString (i : Int) : (toString i).toList =
    (if i < 0 then ['-'] else []) ++ Nat.toDigits 10 i.natAbs := by
  cases i with
  | ofNat n => exact Nat.toList_repr
  | negSucc n =>
    have htext : toString (Int.negSucc n) = "-" ++ (n + 1).repr := rfl
    rw [htext, String.toList_append, Nat.toList_repr, if_pos (Int.negSucc_lt_zero n)]
    rfl

/-- **The text of a whole number writes it,** with no more digits than are allowed if it may be
written at all. -/
theorem whole_toString (i : Int) :
    ∃ n, Whole (toString i).toList i n ∧ (Datum.writable i = true → n ≤ digitLimit) := by
  refine ⟨(Nat.toDigits 10 i.natAbs).length, ?_, fun hw => ?_⟩
  · have hdigits := digits_toDigits i.natAbs
    rw [toList_toString]
    split
    · next hneg =>
      have hminus := Whole.minus hdigits
      rwa [Int.ofNat_natAbs_of_nonpos (Int.le_of_lt hneg), Int.neg_neg] at hminus
    · next hnonneg =>
      have hunsigned := Whole.unsigned hdigits
      rwa [Int.natAbs_of_nonneg (Int.not_lt.1 hnonneg)] at hunsigned
  · have hfew {n k : Nat} (hk : 0 < k) (hn : n < Nat.pow 10 k) : (Nat.toDigits 10 n).length ≤ k :=
      (Nat.length_toDigits_le_iff (by decide) hk).2 hn
    exact hfew (by decide) (Datum.writable_iff.1 hw)

/-! ### Texts with blanks around them -/

/-- Whatever may surround a number is blank. -/
theorem isBlank_of_isSurround {c : Char} (hc : isSurround c = true) : Blank.isBlank c = true := by
  simp only [isSurround, Bool.or_eq_true, Bool.and_eq_true, decide_eq_true_eq, beq_iff_eq] at hc
  rcases hc with (hline | rfl) | hwide
  · simp [Blank.isBlank, hline]
  · rfl
  · exact hwide.2

/-- A text without blanks at its ends has nothing around its number. -/
theorem inner_strip (text : String) :
    inner (Blank.strip text) = Blank.trimBoth Blank.isBlank text.toList := by
  rw [inner, Blank.strip, String.toList_ofList, Blank.trimBoth_trimBoth fun _ => isBlank_of_isSurround]

/-- What a whole number is written with is no blank. -/
theorem isBlank_of_mem_toString {i : Int} {c : Char} (hc : c ∈ (toString i).toList) :
    Blank.isBlank c = false := by
  have hdigits {n : Nat} (hc : c ∈ Nat.toDigits 10 n) : Blank.isBlank c = false := by
    have hdigit := Nat.isDigit_of_mem_toDigits (by decide) (Nat.le_refl 10) hc
    obtain ⟨hlow, hhigh⟩ := Char.isDigit_iff_toNat.1 hdigit
    have h0 : '0'.toNat = 48 := rfl
    have h9 : '9'.toNat = 57 := rfl
    simp only [Blank.isBlank, Bool.or_eq_false_iff, Bool.and_eq_false_iff, decide_eq_false_iff_not,
      beq_eq_false_iff_ne]
    omega
  rw [toList_toString, List.mem_append] at hc
  rcases hc with hsign | hc
  · split at hsign
    · rw [List.mem_singleton.1 hsign]
      rfl
    · cases hsign
  · exact hdigits hc

end Numeral
end EffectGraph
