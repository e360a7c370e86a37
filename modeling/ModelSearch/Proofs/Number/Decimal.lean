import ModelSearch.Proofs.Number.Shortest

/-!
# Reading what was written of a number

The text of a finite number is digits, a point, digits and perhaps an exponent, and stands for the
shortest decimal of the number.  The reader computes the fraction that it stands for and rounds it
once, which gives the number back.

    readDecimal neg t.chars = the number nearest to ±t.digits · 10 ^ t.scale    (readDecimal_numeral)
    the text of ±m · 2 ^ e is a numeral that is read as m · 2 ^ e                (exists_numeral)
-/

namespace ModelSearch

open Text (isAsciiDigit digitValue? numberOf ofDigits padded)

namespace Text

/-! ## Decimal digits -/

/-- Nothing but digits of the ASCII range. -/
def AllDigits (xs : List Char) : Prop := ∀ c ∈ xs, isAsciiDigit c = true

theorem AllDigits.append {xs ys : List Char} (h : AllDigits xs) (k : AllDigits ys) :
    AllDigits (xs ++ ys) := by
  intro c hc
  exact (List.mem_append.1 hc).elim (h c) (k c)

theorem AllDigits.of_subset {xs ys : List Char} (h : AllDigits ys) (hs : xs ⊆ ys) : AllDigits xs :=
  fun c hc => h c (hs hc)

theorem AllDigits.notMem {xs : List Char} (h : AllDigits xs) {c : Char}
    (hc : isAsciiDigit c = false) : c ∉ xs := by
  intro hm
  rw [h c hm] at hc
  cases hc

theorem allDigits_replicate (n : Nat) : AllDigits (List.replicate n '0') := by
  intro c hc
  rw [List.eq_of_mem_replicate hc]
  rfl

theorem allDigits_toString (n : Nat) : AllDigits (toString n).toList := by
  intro c hc
  rw [toList_toString] at hc
  have := Nat.isDigit_of_mem_toDigits (by decide) (by decide) hc
  rw [isAsciiDigit_iff]
  simpa [Char.isDigit, UInt32.le_iff_toNat_le] using this

theorem digitValue?_of_isAsciiDigit {c : Char} (h : isAsciiDigit c = true) :
    digitValue? c = some (c.toNat - 48) := by
  simp [digitValue?, h]

/-- The digits that characters stand for. -/
def digitsOf (xs : List Char) : List Nat := xs.map fun c => (digitValue? c).getD 0

theorem numberOf_eq (xs : List Char) : numberOf xs = ofDigits 10 (digitsOf xs) := rfl

theorem foldl_digits (ds : List Nat) (n : Nat) :
    ds.foldl (fun n d => n * 10 + d) n = n * 10 ^ ds.length + ofDigits 10 ds := by
  unfold ofDigits
  induction ds generalizing n with
  | nil => simp
  | cons d ds ih =>
    simp only [List.foldl_cons, List.length_cons]
    rw [ih, ih (0 * 10 + d), Nat.pow_succ]
    ring

theorem numberOf_append (xs ys : List Char) :
    numberOf (xs ++ ys) = numberOf xs * 10 ^ ys.length + numberOf ys := by
  rw [numberOf_eq, numberOf_eq, numberOf_eq, digitsOf, List.map_append, ofDigits, List.foldl_append,
    foldl_digits]
  simp [digitsOf, ofDigits]

theorem numberOf_replicate (n : Nat) : numberOf (List.replicate n '0') = 0 := by
  induction n with
  | zero => rfl
  | succ n ih =>
    rw [List.replicate_succ', numberOf_append, ih]
    rfl

theorem numberOf_toString (n : Nat) : numberOf (toString n).toList = n := by
  rw [toList_toString, numberOf_toDigits]

/-! ## Numbers filled with zeros -/

theorem toList_padded (width n : Nat) :
    (padded width n).toList
      = List.replicate (width - (toString n).length) '0' ++ (toString n).toList := by
  simp [padded, repeated]

theorem allDigits_padded (width n : Nat) : AllDigits (padded width n).toList := by
  rw [toList_padded]
  exact (allDigits_replicate _).append (allDigits_toString n)

theorem numberOf_padded (width n : Nat) : numberOf (padded width n).toList = n := by
  rw [toList_padded, numberOf_append, numberOf_replicate, Nat.zero_mul, Nat.zero_add,
    numberOf_toString]

theorem padded_ne_nil (width n : Nat) : (padded width n).toList ≠ [] := by
  rw [toList_padded, toList_toString]
  intro h
  exact Nat.toDigits_ne_nil (List.append_eq_nil_iff.1 h).2

end Text

open Text (AllDigits digitsOf)

namespace Binary64

/-! ## Reading digits -/

theorem leadingDigits_append {xs rest : List Char} (h : AllDigits xs)
    (hr : ∀ c, rest.head? = some c → digitValue? c = none) :
    leadingDigits (xs ++ rest) = (digitsOf xs, rest) := by
  have hcut : Text.cutWhere (fun c => (digitValue? c).isNone) (xs ++ rest) = (xs, rest) := by
    rw [Text.cutWhere_append fun c hc => by simp [Text.digitValue?_of_isAsciiDigit (h c hc)]]
    cases rest with
    | nil => simp [Text.cutWhere]
    | cons c cs => simp [Text.cutWhere, hr c rfl]
  have hvalues : xs.filterMap digitValue? = digitsOf xs := by
    rw [digitsOf, ← List.filterMap_eq_map]
    refine List.filterMap_congr fun c hc => ?_
    simp [Text.digitValue?_of_isAsciiDigit (h c hc)]
  simp only [leadingDigits, hcut, hvalues]

theorem leadingDigits_digits {xs : List Char} (h : AllDigits xs) :
    leadingDigits xs = (digitsOf xs, []) := by
  have hend : ∀ c, ([] : List Char).head? = some c → digitValue? c = none := by simp
  simpa using leadingDigits_append h hend

/-- An exponent reads as the number that it was written of. -/
theorem exponentPart_exponentText (e : Int) :
    exponentPart ('e' :: (exponentText e).toList) = some e := by
  have hdigits := Text.allDigits_padded 2 e.natAbs
  obtain ⟨d, ds, hds⟩ := List.exists_cons_of_ne_nil (Text.padded_ne_nil 2 e.natAbs)
  have hne : digitsOf (padded 2 e.natAbs).toList ≠ [] := by simp [digitsOf, hds]
  have hn := Text.numberOf_padded 2 e.natAbs
  rw [Text.numberOf_eq] at hn
  have hsplit : Text.splitSign (exponentText e).toList
      = (decide (e < 0), (padded 2 e.natAbs).toList) := by
    unfold exponentText
    by_cases h : e < 0 <;> simp [h, Text.splitSign]
  unfold exponentPart
  simp only [decide_true, Bool.true_or, if_true, hsplit, leadingDigits_digits hdigits]
  generalize digitsOf (padded 2 e.natAbs).toList = ns at hne hn
  cases ns with
  | nil => exact absurd rfl hne
  | cons n ns =>
    simp only [Option.some.injEq, hn, Text.signed, decide_eq_true_eq]
    split <;> omega

/-! ## Reading numerals -/

/-- A decimal number as text: digits, a point, digits and perhaps an exponent. -/
structure Numeral where
  whole : List Char
  part : List Char
  exponent : Option Int

namespace Numeral

def tail (t : Numeral) : List Char :=
  match t.exponent with
  | some e => 'e' :: (exponentText e).toList
  | none => []

def chars (t : Numeral) : List Char := t.whole ++ '.' :: (t.part ++ t.tail)

/-- The number that all digits stand for. -/
def digits (t : Numeral) : Nat := numberOf (t.whole ++ t.part)

/-- The power of ten that the last digit stands for. -/
def scale (t : Numeral) : Int := t.exponent.getD 0 - t.part.length

/-- Where the first digit stands, counted from the point. -/
def size (t : Numeral) : Int := t.exponent.getD 0 + t.whole.length

structure Sound (t : Numeral) : Prop where
  whole : AllDigits t.whole
  part : AllDigits t.part
  nonempty : t.whole ≠ []

theorem exponentPart_tail (t : Numeral) : exponentPart t.tail = some (t.exponent.getD 0) := by
  unfold tail
  cases t.exponent with
  | none => rfl
  | some e => exact exponentPart_exponentText e

theorem head?_tail {t : Numeral} {c : Char} (h : t.tail.head? = some c) : c = 'e' := by
  unfold tail at h
  split at h
  · cases h
    rfl
  · cases h

end Numeral

/-- Within the range that is computed, a decimal is rounded from the fraction it stands for. -/
theorem decimal_eq (neg : Bool) (ds : List Nat) (scale : Int) (hn : 0 < ofDigits 10 ds)
    (hlow : -400 ≤ (ds.length : Int) + scale) (hup : (ds.length : Int) + scale ≤ 400) :
    ∃ a b : Nat, 0 < b ∧ (a : ℚ) / b = ofDigits 10 ds * 10 ^ scale ∧
      decimal neg ds scale = fraction neg a b := by
  unfold decimal
  dsimp only
  rw [if_neg (by omega), if_neg (by omega), if_neg (by omega)]
  split
  next h => exact ⟨_, 1, one_pos, by rw [ten_zpow_nonneg h]; push_cast; ring, rfl⟩
  next h => exact ⟨_, _, by positivity, by rw [ten_zpow_neg h, div_eq_mul_inv], rfl⟩

theorem readDecimal_numeral (neg : Bool) {t : Numeral} (h : t.Sound) (hd : 0 < t.digits)
    (hlow : -400 ≤ t.size) (hup : t.size ≤ 400) :
    ∃ a b : Nat, 0 < b ∧ (a : ℚ) / b = t.digits * 10 ^ t.scale ∧
      readDecimal neg t.chars = some (fraction neg a b) := by
  have hwhole : leadingDigits t.chars = (digitsOf t.whole, '.' :: (t.part ++ t.tail)) := by
    refine leadingDigits_append h.whole fun c hc => ?_
    cases hc
    decide
  have hpart : leadingDigits (t.part ++ t.tail) = (digitsOf t.part, t.tail) := by
    refine leadingDigits_append h.part fun c hc => ?_
    rw [Numeral.head?_tail hc]
    decide
  have hne : (digitsOf t.whole).isEmpty = false := by
    rw [List.isEmpty_eq_false_iff, digitsOf]
    simpa using h.nonempty
  have hdigits : ofDigits 10 (digitsOf t.whole ++ digitsOf t.part) = t.digits := by
    rw [Numeral.digits, Text.numberOf_eq, digitsOf, digitsOf, digitsOf, List.map_append]
  have hlen : ((digitsOf t.whole ++ digitsOf t.part).length : Int)
      + (t.exponent.getD 0 - (digitsOf t.part).length) = t.size := by
    simp only [digitsOf, List.length_append, List.length_map, Numeral.size]
    push_cast
    omega
  obtain ⟨a, b, hb, hab, heq⟩ := decimal_eq neg (digitsOf t.whole ++ digitsOf t.part)
    (t.exponent.getD 0 - (digitsOf t.part).length) (by rw [hdigits]; exact hd)
    (by rw [hlen]; exact hlow) (by rw [hlen]; exact hup)
  refine ⟨a, b, hb, ?_, ?_⟩
  · rw [hab, hdigits, Numeral.scale]
    simp [digitsOf]
  · unfold readDecimal
    simp only [hwhole, hpart, hne, Bool.false_and, t.exponentPart_tail, Option.map_some, heq]
    rfl

/-! ## The numeral of a decimal -/

/-- The numeral that digits around a point are written as, when an exponent has a point in front. -/
def numeralOf (digits : List Char) (point : Int) : Numeral :=
  if -4 < point ∧ point ≤ 16 then
    if point ≤ 0 then ⟨['0'], List.replicate (-point).toNat '0' ++ digits, none⟩
    else if digits.length ≤ point.toNat then
      ⟨digits ++ List.replicate (point.toNat - digits.length) '0', ['0'], none⟩
    else ⟨digits.take point.toNat, digits.drop point.toNat, none⟩
  else
    ⟨digits.take 1, if digits.length ≤ 1 then ['0'] else digits.drop 1, some (point - 1)⟩

theorem numeralOf_sound {ds : List Char} (h : AllDigits ds) (hne : ds ≠ []) (point : Int) :
    (numeralOf ds point).Sound := by
  have hzero : AllDigits ['0'] := Text.allDigits_replicate 1
  have htake : ∀ n, AllDigits (ds.take n) := fun n => h.of_subset (List.take_subset n ds)
  have hdrop : ∀ n, AllDigits (ds.drop n) := fun n => h.of_subset (List.drop_subset n ds)
  unfold numeralOf
  split
  next hplain =>
    split
    · exact ⟨hzero, (Text.allDigits_replicate _).append h, by simp⟩
    next hpos =>
      split
      · exact ⟨h.append (Text.allDigits_replicate _), hzero, by simp [hne]⟩
      · refine ⟨htake _, hdrop _, ?_⟩
        simp only [ne_eq, List.take_eq_nil_iff, hne, or_false]
        omega
  · refine ⟨htake 1, ?_, by simp [hne]⟩
    show AllDigits (if ds.length ≤ 1 then ['0'] else ds.drop 1)
    split
    · exact hzero
    · exact hdrop 1

/-- Zeros behind digits are made up for by the power of ten. -/
theorem numberOf_append_replicate (ds : List Char) (k : Nat) (s : Int) :
    (numberOf (ds ++ List.replicate k '0') : ℚ) * 10 ^ (s - k) = numberOf ds * 10 ^ s := by
  rw [Text.numberOf_append, Text.numberOf_replicate, List.length_replicate]
  push_cast
  rw [zpow_sub₀ (by norm_num), zpow_natCast]
  field_simp
  ring

theorem numeralOf_value {ds : List Char} (hne : ds ≠ []) (point : Int) :
    ((numeralOf ds point).digits : ℚ) * 10 ^ (numeralOf ds point).scale
      = numberOf ds * 10 ^ (point - ds.length) := by
  unfold numeralOf
  split
  next hplain =>
    split
    next hle =>
      have hzeros : numberOf (['0'] ++ (List.replicate (-point).toNat '0' ++ ds)) = numberOf ds := by
        rw [← List.append_assoc, Text.numberOf_append, List.singleton_append,
          ← List.replicate_succ, Text.numberOf_replicate, Nat.zero_mul, Nat.zero_add]
      simp only [Numeral.digits, hzeros, Numeral.scale]
      congr 2
      simp
      omega
    next hpos =>
      split
      next hlen =>
        have hzeros : ds ++ List.replicate (point.toNat - ds.length) '0' ++ ['0']
            = ds ++ List.replicate (point.toNat - ds.length + 1) '0' := by
          rw [List.append_assoc, ← List.replicate_succ']
        simp only [Numeral.digits, hzeros, Numeral.scale]
        rw [← numberOf_append_replicate ds (point.toNat - ds.length + 1)]
        congr 2
        simp
        omega
      next hlen =>
        simp only [Numeral.digits, List.take_append_drop, Numeral.scale]
        congr 2
        simp
        omega
  next hexp =>
    simp only [Numeral.digits, Numeral.scale, Option.getD_some]
    split
    next hone =>
      have hlen : ds.length = 1 := by
        have := List.length_pos_iff.2 hne
        omega
      rw [List.take_of_length_le hone, hlen]
      exact numberOf_append_replicate ds 1 (point - 1)
    next hmore =>
      rw [List.take_append_drop]
      congr 2
      simp
      omega

theorem numeralOf_size {ds : List Char} (hne : ds ≠ []) (point : Int) :
    (numeralOf ds point).size = max 1 point ∨ (numeralOf ds point).size = point := by
  have hpos := List.length_pos_iff.2 hne
  unfold numeralOf Numeral.size
  split
  next hplain =>
    split
    · left
      simp
      omega
    · right
      split
      · simp
        omega
      · simp
        omega
  · right
    simp
    omega

/-! ## The text of a number -/

theorem trimmed_value {units : Nat} (hu : 0 < units) (k : Nat) (point : Int) :
    AllDigits (trimmed units k point).1 ∧ (trimmed units k point).1 ≠ [] ∧
      (numberOf (trimmed units k point).1 : ℚ)
          * 10 ^ ((trimmed units k point).2 - (trimmed units k point).1.length)
        = units * 10 ^ (point - k) := by
  obtain ⟨zs, hzs, hzero⟩ :=
    Text.dropRightWhile_append (fun c => decide (c = '0')) (toString units).toList
  have hreplicate : zs = List.replicate zs.length '0' :=
    List.eq_replicate_iff.2 ⟨rfl, fun c hc => of_decide_eq_true (hzero c hc)⟩
  have hnumber := Text.numberOf_toString units
  have hdigits := Text.allDigits_toString units
  have hlen := congrArg List.length hzs
  rw [List.length_append] at hlen
  simp only [trimmed]
  generalize Text.dropRightWhile (fun c => decide (c = '0')) (toString units).toList = ds at *
  rw [hzs] at hnumber hdigits
  refine ⟨hdigits.of_subset (List.subset_append_left ds zs), ?_, ?_⟩
  · rintro rfl
    rw [hreplicate, List.nil_append, Text.numberOf_replicate] at hnumber
    omega
  · have hvalue := numberOf_append_replicate ds zs.length
      (point + ((toString units).toList.length - k) - ds.length)
    rw [← hreplicate, hnumber] at hvalue
    rw [← hvalue]
    congr 2
    omega

theorem ten_zpow_lt_two_zpow {a b : Nat} (h : (2 : ℚ) ^ a < 10 ^ b) :
    (10 : ℚ) ^ (-(b : Int)) < 2 ^ (-(a : Int)) := by
  rw [zpow_neg, zpow_neg, zpow_natCast, zpow_natCast]
  exact inv_strictAnti₀ (by positivity) h

/-- Every positive number lies between these powers of ten. -/
theorem two_zpow_bounds {m : Nat} {e : Int} (hm : 0 < m) (hf : Fits m e) :
    (10 : ℚ) ^ (-324 : Int) < m * 2 ^ e ∧ (m * 2 ^ e : ℚ) < 10 ^ (309 : Int) := by
  obtain ⟨hleast, hgreatest, hbits, -⟩ := hf
  have hm₁ : (1 : ℚ) ≤ m := by exact_mod_cast hm
  have hm₂ : (m : ℚ) < 2 ^ 53 := by exact_mod_cast hbits
  have hgreatest' : (2 : ℚ) ^ e ≤ 2 ^ greatestExponent :=
    zpow_le_zpow_right₀ (by norm_num) hgreatest
  constructor
  · have hlow : (2 : ℚ) ^ 1074 < 10 ^ 324 := by
      exact_mod_cast (by decide +kernel : 2 ^ 1074 < 10 ^ 324)
    calc (10 : ℚ) ^ (-324 : Int) < 2 ^ leastExponent := ten_zpow_lt_two_zpow hlow
      _ ≤ 2 ^ e := zpow_le_zpow_right₀ (by norm_num) hleast
      _ ≤ m * 2 ^ e := le_mul_of_one_le_left (by positivity) hm₁
  · have hup : (2 : ℚ) ^ 53 * 2 ^ 971 < 10 ^ 309 := by
      exact_mod_cast (by decide +kernel : 2 ^ 53 * 2 ^ 971 < 10 ^ 309)
    calc (m * 2 ^ e : ℚ) < 2 ^ 53 * 2 ^ e := mul_lt_mul_of_pos_right hm₂ (by positivity)
      _ ≤ 2 ^ 53 * 2 ^ greatestExponent := mul_le_mul_of_nonneg_left hgreatest' (by positivity)
      _ < 10 ^ (309 : Int) := hup

theorem pointOf_range {m : Nat} {e : Int} (hm : 0 < m) (hf : Fits m e) :
    -324 < pointOf (shifted m 1 e).1 (shifted m 1 e).2 ∧
      pointOf (shifted m 1 e).1 (shifted m 1 e).2 ≤ 309 := by
  have hr := shifted_ratio m 1 e
  rw [Nat.cast_one, div_one] at hr
  have hn : 0 < (shifted m 1 e).1 := by
    unfold shifted
    split
    · positivity
    · exact hm
  obtain ⟨hlow, hup⟩ := pointOf_bounds hn (shifted_pos (n := m) one_pos e)
  rw [hr] at hlow hup
  obtain ⟨hleast, hgreatest⟩ := two_zpow_bounds hm hf
  have h₁ := (zpow_lt_zpow_iff_right₀ (by norm_num : (1 : ℚ) < 10)).1 (hleast.trans hup)
  have h₂ := (zpow_lt_zpow_iff_right₀ (by norm_num : (1 : ℚ) < 10)).1 (hlow.trans_lt hgreatest)
  omega

theorem fraction_sign {neg : Bool} {n d m : Nat} {e : Int} (h : fraction neg n d = .finite neg m e)
    (sign : Bool) : fraction sign n d = .finite sign m e := by
  rcases Nat.eq_zero_or_pos n with rfl | hn
  · simp only [fraction, zero, if_true, finite.injEq] at h ⊢
    exact ⟨trivial, h.2⟩
  · rw [fraction_eq neg hn] at h
    rw [fraction_eq sign hn]
    unfold carried at h ⊢
    split at h
    next hcarry =>
      rw [if_pos hcarry]
      split at h
      · cases h
      next hmax =>
        rw [if_neg hmax]
        cases h
        rfl
    next hcarry =>
      rw [if_neg hcarry]
      split at h
      · cases h
      next hmax =>
        rw [if_neg hmax]
        cases h
        rfl

/-- The text of a number is a numeral that is read as the number, but for the sign. -/
theorem exists_numeral (neg : Bool) {m : Nat} {e : Int} (hm : 0 < m) (hf : Fits m e) :
    ∃ ds point, (finite neg m e).text = (if neg then "-" else "") ++ layout ds point ∧
      AllDigits ds ∧ ds ≠ [] ∧
      readDecimal false (numeralOf ds point).chars = some (.finite false m e) := by
  obtain ⟨units, k, hshort, hk₁, hk₂, hreads, hu₁, hu₂⟩ := shortestFrom_reads neg hm hf
  obtain ⟨hpoint₁, hpoint₂⟩ := pointOf_range hm hf
  have htext : (finite neg m e).text = (if neg then "-" else "")
      ++ layout (trimmed units k (pointOf (shifted m 1 e).1 (shifted m 1 e).2)).1
        (trimmed units k (pointOf (shifted m 1 e).1 (shifted m 1 e).2)).2 := by
    unfold text
    simp only [if_neg (show ¬m = 0 by omega), hshort]
  generalize pointOf (shifted m 1 e).1 (shifted m 1 e).2 = p at *
  obtain ⟨hdigits, hne, hvalue⟩ := trimmed_value hu₁ k p
  have hrange : -345 ≤ (trimmed units k p).2 ∧ (trimmed units k p).2 ≤ 345 := by
    obtain ⟨hlow, -⟩ := length_toString_bounds units hu₁
    have hlen := length_toString_pos units
    have := (Nat.pow_le_pow_iff_right (by decide : 1 < 10)).1 (hlow.trans hu₂)
    simp only [trimmed, String.length_toList]
    omega
  generalize trimmed units k p = dp at *
  obtain ⟨ds, point⟩ := dp
  dsimp only at *
  have hsize : -400 ≤ (numeralOf ds point).size ∧ (numeralOf ds point).size ≤ 400 := by
    rcases numeralOf_size hne point with h | h <;> rw [h] <;> omega
  have hnumeral := numeralOf_value hne point
  rw [hvalue] at hnumeral
  have hpos : 0 < (numeralOf ds point).digits := by
    rcases Nat.eq_zero_or_pos (numeralOf ds point).digits with h | h
    · rw [h, Nat.cast_zero, zero_mul] at hnumeral
      have : (0 : ℚ) < units * 10 ^ (p - k) := by
        have : (0 : ℚ) < units := by exact_mod_cast hu₁
        positivity
      exact absurd hnumeral (ne_of_lt this)
    · exact h
  obtain ⟨a, b, hb, hab, hread⟩ := readDecimal_numeral false (numeralOf_sound hdigits hne point)
    hpos hsize.1 hsize.2
  refine ⟨ds, point, htext, hdigits, hne, ?_⟩
  obtain ⟨a', b', hb', hab', hunits⟩ := ofUnits_eq neg units k p
  rw [hunits, fraction_congr neg hb' hb (by rw [hab', hab, hnumeral])] at hreads
  rw [hread, fraction_sign hreads false]

end Binary64

end ModelSearch
