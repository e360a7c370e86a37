import Mathlib.Algebra.Order.Field.Power
import Mathlib.Data.Rat.Cast.Order
import Mathlib.Tactic.FieldSimp
import Mathlib.Tactic.Linarith
import Mathlib.Tactic.LinearCombination
import Mathlib.Tactic.Positivity
import Mathlib.Tactic.Ring
import ModelSearch.Number.Binary64

/-!
# Rounding to numbers of 64 bits

The number nearest to a fraction depends on the fraction's value alone, it always has a mantissa and
an exponent that numbers can have, and a fraction close enough to a number rounds to that number:
closer than the number's value times `2^-54`, which is a quarter of the distance to the next one.

    (fraction neg n d).Normal                                            (fraction_normal)
    n / d = n' / d' → fraction neg n d = fraction neg n' d'              (fraction_congr)
    |n / d - m · 2^e| · 2^54 < m · 2^e → fraction neg n d = ±m · 2^e       (fraction_near)
-/

namespace ModelSearch.Binary64

/-- A mantissa and an exponent that a number can have. -/
def Fits (m : Nat) (e : Int) : Prop :=
  leastExponent ≤ e ∧ e ≤ greatestExponent ∧ m < 2 ^ 53 ∧ (2 ^ 52 ≤ m ∨ e = leastExponent)

/-- A number as operations give it. -/
def Normal : Binary64 → Prop
  | .finite _ m e => Fits m e
  | .infinite _ => True

/-! ## Fractions -/

theorem shifted_pos {n d : Nat} (hd : 0 < d) (e : Int) : 0 < (shifted n d e).2 := by
  unfold shifted
  split
  · exact hd
  · exact Nat.mul_pos hd (by positivity)

theorem shifted_ratio (n d : Nat) (e : Int) :
    ((shifted n d e).1 : ℚ) / (shifted n d e).2 = (n : ℚ) / d * 2 ^ e := by
  unfold shifted
  split
  next h =>
    have he : (2 : ℚ) ^ e = 2 ^ e.toNat := by
      rw [← zpow_natCast, Int.toNat_of_nonneg h]
    push_cast
    rw [he]
    ring
  next h =>
    have he : (2 : ℚ) ^ e = (2 ^ (-e).toNat)⁻¹ := by
      rw [← zpow_natCast, Int.toNat_of_nonneg (by omega), zpow_neg, inv_inv]
    push_cast
    rw [he, div_mul_eq_div_div, div_eq_mul_inv]

/-! ## The nearest integer -/

theorem divideEven_near {n d : Nat} (hd : 0 < d) :
    (n : ℚ) / d - 1 / 2 ≤ divideEven n d ∧ (divideEven n d : ℚ) ≤ (n : ℚ) / d + 1 / 2 := by
  have hd' : (0 : ℚ) < d := by exact_mod_cast hd
  have hn : (n : ℚ) / d = (n / d : Nat) + ((n % d : Nat) : ℚ) / d := by
    have hdm : (n : ℚ) = (n / d : Nat) * d + (n % d : Nat) := by
      exact_mod_cast (Nat.div_add_mod' n d).symm
    rw [div_eq_iff (ne_of_gt hd'), add_mul, div_mul_cancel₀ _ (ne_of_gt hd')]
    exact hdm
  have hr₀ : (0 : ℚ) ≤ ((n % d : Nat) : ℚ) / d := by positivity
  have hr₁ : ((n % d : Nat) : ℚ) / d < 1 := by
    rw [div_lt_one hd']
    exact_mod_cast Nat.mod_lt n hd
  rw [hn]
  unfold divideEven
  dsimp only
  split
  next hlt =>
    have hhalf : ((n % d : Nat) : ℚ) / d < 1 / 2 := by
      rw [div_lt_div_iff₀ hd' two_pos]
      exact_mod_cast (by omega : n % d * 2 < 1 * d)
    constructor <;> linarith
  next hge =>
    have hhalf : 1 / 2 ≤ ((n % d : Nat) : ℚ) / d := by
      rw [div_le_div_iff₀ two_pos hd']
      exact_mod_cast (by omega : 1 * d ≤ n % d * 2)
    split
    · push_cast
      constructor <;> linarith
    next hle =>
      have htie : ((n % d : Nat) : ℚ) / d ≤ 1 / 2 := by
        rw [div_le_div_iff₀ hd' two_pos]
        exact_mod_cast (by omega : n % d * 2 ≤ 1 * d)
      split
      · constructor <;> linarith
      · push_cast
        constructor <;> linarith

/-- A fraction less than a half away from an integer rounds to it. -/
theorem divideEven_eq {n d m : Nat} (hd : 0 < d) (hl : (m : ℚ) - 1 / 2 < (n : ℚ) / d)
    (hu : (n : ℚ) / d < m + 1 / 2) : divideEven n d = m := by
  obtain ⟨h₁, h₂⟩ := divideEven_near (n := n) hd
  have hlt : (divideEven n d : ℚ) < m + 1 := by linarith
  have hgt : (m : ℚ) < divideEven n d + 1 := by linarith
  have hlt' : divideEven n d < m + 1 := by exact_mod_cast hlt
  have hgt' : m < divideEven n d + 1 := by exact_mod_cast hgt
  omega

theorem le_divideEven {n d m : Nat} (hd : 0 < d) (h : (m : ℚ) ≤ (n : ℚ) / d) :
    m ≤ divideEven n d := by
  obtain ⟨h₁, -⟩ := divideEven_near (n := n) hd
  have hlt : (m : ℚ) < divideEven n d + 1 := by linarith
  have hlt' : m < divideEven n d + 1 := by exact_mod_cast hlt
  omega

theorem divideEven_le {n d m : Nat} (hd : 0 < d) (h : (n : ℚ) / d ≤ m) : divideEven n d ≤ m := by
  obtain ⟨-, h₂⟩ := divideEven_near (n := n) hd
  have hlt : (divideEven n d : ℚ) < m + 1 := by linarith
  have hlt' : divideEven n d < m + 1 := by exact_mod_cast hlt
  omega

theorem divideEven_mul {n d c : Nat} (hc : 0 < c) :
    divideEven (n * c) (d * c) = divideEven n d := by
  unfold divideEven
  simp only [Nat.mul_div_mul_right _ _ hc, Nat.mul_mod_mul_right, ← Nat.mul_assoc,
    Nat.mul_lt_mul_right hc]

/-- The nearest integer depends on the value of the fraction alone. -/
theorem divideEven_congr {n d n' d' : Nat} (hd : 0 < d) (hd' : 0 < d')
    (h : (n : ℚ) / d = (n' : ℚ) / d') : divideEven n d = divideEven n' d' := by
  have hcross : n * d' = n' * d := by
    rw [div_eq_div_iff (by positivity) (by positivity)] at h
    exact_mod_cast h
  rw [← divideEven_mul hd', hcross, Nat.mul_comm d d', divideEven_mul hd]

/-! ## The exponent -/

theorem ratio_log2_bounds {n d : Nat} (hn : 0 < n) (hd : 0 < d) :
    (2 : ℚ) ^ ((Nat.log2 n : Int) - Nat.log2 d - 1) < (n : ℚ) / d ∧
      (n : ℚ) / d < 2 ^ ((Nat.log2 n : Int) - Nat.log2 d + 1) := by
  have hn₁ : (2 : ℚ) ^ (Nat.log2 n : Int) ≤ n := by
    rw [zpow_natCast]
    exact_mod_cast Nat.log2_self_le (by omega)
  have hn₂ : (n : ℚ) < 2 ^ ((Nat.log2 n : Int) + 1) := by
    rw [← Nat.cast_succ, zpow_natCast]
    exact_mod_cast Nat.lt_log2_self
  have hd₁ : (2 : ℚ) ^ (Nat.log2 d : Int) ≤ d := by
    rw [zpow_natCast]
    exact_mod_cast Nat.log2_self_le (by omega)
  have hd₂ : (d : ℚ) < 2 ^ ((Nat.log2 d : Int) + 1) := by
    rw [← Nat.cast_succ, zpow_natCast]
    exact_mod_cast Nat.lt_log2_self
  have hdpos : (0 : ℚ) < d := by exact_mod_cast hd
  constructor
  · rw [lt_div_iff₀ hdpos]
    calc (2 : ℚ) ^ ((Nat.log2 n : Int) - Nat.log2 d - 1) * d
        < 2 ^ ((Nat.log2 n : Int) - Nat.log2 d - 1) * 2 ^ ((Nat.log2 d : Int) + 1) := by gcongr
      _ = 2 ^ (Nat.log2 n : Int) := by
        rw [← zpow_add₀ two_ne_zero]
        congr 1
        omega
      _ ≤ n := hn₁
  · rw [div_lt_iff₀ hdpos]
    calc (n : ℚ) < 2 ^ ((Nat.log2 n : Int) + 1) := hn₂
      _ = 2 ^ ((Nat.log2 n : Int) - Nat.log2 d + 1) * 2 ^ (Nat.log2 d : Int) := by
        rw [← zpow_add₀ two_ne_zero]
        congr 1
        omega
      _ ≤ 2 ^ ((Nat.log2 n : Int) - Nat.log2 d + 1) * d := by gcongr

/-- An exponent at which a value has a mantissa of 53 bits, or the least exponent. -/
def IsExponent (x : ℚ) (e : Int) : Prop :=
  leastExponent ≤ e ∧ x < 2 ^ (e + 53) ∧ (e = leastExponent ∨ (2 : ℚ) ^ (e + 52) ≤ x)

theorem IsExponent.unique {x : ℚ} {e f : Int} (he : IsExponent x e) (hf : IsExponent x f) :
    e = f := by
  have hle : ∀ {e f : Int}, IsExponent x e → IsExponent x f → e ≤ f := by
    rintro e f ⟨hl, -, hlow⟩ ⟨hm, hup, -⟩
    rcases hlow with rfl | hlow
    · exact hm
    · have hpow : (2 : ℚ) ^ (e + 52) < 2 ^ (f + 53) := lt_of_le_of_lt hlow hup
      have := (zpow_lt_zpow_iff_right₀ (by norm_num : (1 : ℚ) < 2)).1 hpow
      omega
  exact le_antisymm (hle he hf) (hle hf he)

theorem isExponent_exponentOf {n d : Nat} (hn : 0 < n) (hd : 0 < d) :
    IsExponent ((n : ℚ) / d) (exponentOf n d) := by
  obtain ⟨hlow, hup⟩ := ratio_log2_bounds hn hd
  unfold exponentOf
  dsimp only
  generalize hg : (Nat.log2 n : Int) - Nat.log2 d - 52 = g
  have hb := shifted_pos (n := n) hd (-g)
  have hratio := shifted_ratio n d (-g)
  generalize hab : shifted n d (-g) = ab at hb hratio
  obtain ⟨a, b⟩ := ab
  dsimp only at hb hratio ⊢
  have hb' : (0 : ℚ) < b := by exact_mod_cast hb
  have hpg : (0 : ℚ) < 2 ^ (-g) := by positivity
  have hcancel : (2 : ℚ) ^ (-g) * 2 ^ g = 1 := by
    rw [← zpow_add₀ two_ne_zero]
    simp
  -- the quotient has at least 52 bits and at most 53
  have ha : (2 : ℚ) ^ 51 < (a : ℚ) / b := by
    rw [hratio]
    calc (2 : ℚ) ^ 51 = 2 ^ (g + 51) * 2 ^ (-g) := by
          rw [← zpow_add₀ two_ne_zero, add_right_comm, add_neg_cancel, zero_add]
          rfl
      _ < _ := by
          gcongr
          rwa [← hg, show (Nat.log2 n : Int) - Nat.log2 d - 52 + 51
            = (Nat.log2 n : Int) - Nat.log2 d - 1 by omega]
  have hc : (a : ℚ) / b < 2 ^ 53 := by
    rw [hratio]
    calc (n : ℚ) / d * 2 ^ (-g) < 2 ^ (g + 53) * 2 ^ (-g) := by
          gcongr
          rwa [← hg, show (Nat.log2 n : Int) - Nat.log2 d - 52 + 53
            = (Nat.log2 n : Int) - Nat.log2 d + 1 by omega]
      _ = 2 ^ 53 := by
          rw [← zpow_add₀ two_ne_zero, add_right_comm, add_neg_cancel, zero_add]
          rfl
  have hback : (n : ℚ) / d = (a : ℚ) / b * 2 ^ g := by
    rw [hratio, mul_assoc, hcancel, mul_one]
  have hnat : a / b < 2 ^ 53 := by
    rw [Nat.div_lt_iff_lt_mul hb]
    rw [div_lt_iff₀ hb'] at hc
    exact_mod_cast hc
  have hexact : ∀ e : Int, (n : ℚ) / d < 2 ^ (e + 53) → (2 : ℚ) ^ (e + 52) ≤ (n : ℚ) / d →
      IsExponent ((n : ℚ) / d) (max e leastExponent) := by
    intro e hu hl
    refine ⟨le_max_right _ _, ?_, ?_⟩
    · exact lt_of_lt_of_le hu (zpow_le_zpow_right₀ (by norm_num) (by omega))
    · rcases le_total e leastExponent with h | h
      · exact .inl (max_eq_right h)
      · rw [max_eq_left h]
        exact .inr hl
  split
  next hlt =>
    have hlt' : (a : ℚ) / b < 2 ^ 52 := by
      rw [Nat.div_lt_iff_lt_mul hb] at hlt
      rw [div_lt_iff₀ hb']
      exact_mod_cast hlt
    refine hexact _ ?_ ?_
    · rw [hback, show g - 1 + 53 = 52 + g by omega, zpow_add₀ two_ne_zero]
      gcongr
      exact hlt'
    · rw [hback, show g - 1 + 52 = 51 + g by omega, zpow_add₀ two_ne_zero]
      gcongr
      exact ha.le
  next hge =>
    rw [if_neg (by omega)]
    have hge' : (2 : ℚ) ^ 52 ≤ (a : ℚ) / b := by
      have : 2 ^ 52 * b ≤ a := (Nat.le_div_iff_mul_le hb).1 (by omega)
      rw [le_div_iff₀ hb']
      exact_mod_cast this
    refine hexact _ ?_ ?_
    · rw [hback, add_comm, zpow_add₀ two_ne_zero]
      gcongr
      exact hc
    · rw [hback, add_comm, zpow_add₀ two_ne_zero]
      gcongr
      exact hge'

theorem exponentOf_eq {n d : Nat} (hn : 0 < n) (hd : 0 < d) {e : Int}
    (h : IsExponent ((n : ℚ) / d) e) : exponentOf n d = e :=
  (isExponent_exponentOf hn hd).unique h

/-! ## Rounding -/

/-- A mantissa may be rounded up to one bit more, which goes to the exponent. -/
def carried (neg : Bool) (m : Nat) (e : Int) : Binary64 :=
  if m = 2 ^ 53 then
    if greatestExponent < e + 1 then .infinite neg else .finite neg (2 ^ 52) (e + 1)
  else if greatestExponent < e then .infinite neg else .finite neg m e

theorem fraction_eq (neg : Bool) {n : Nat} (hn : 0 < n) (d : Nat) :
    fraction neg n d = carried neg
      (divideEven (shifted n d (-exponentOf n d)).1 (shifted n d (-exponentOf n d)).2)
      (exponentOf n d) := by
  unfold fraction carried
  rw [if_neg (by omega)]
  dsimp only
  split <;> rfl

/-- The number nearest to a fraction depends on the fraction's value alone. -/
theorem fraction_congr (neg : Bool) {n d n' d' : Nat} (hd : 0 < d) (hd' : 0 < d')
    (h : (n : ℚ) / d = (n' : ℚ) / d') : fraction neg n d = fraction neg n' d' := by
  have hdq : (0 : ℚ) < d := by exact_mod_cast hd
  have hdq' : (0 : ℚ) < d' := by exact_mod_cast hd'
  rcases Nat.eq_zero_or_pos n with rfl | hn
  · have hn' : n' = 0 := by
      have hz : (n' : ℚ) / d' = 0 := by rw [← h]; simp
      rcases div_eq_zero_iff.1 hz with hz | hz
      · exact_mod_cast hz
      · exact absurd hz (ne_of_gt hdq')
    rw [hn']
    rfl
  · have hn' : 0 < n' := by
      have hpos : (0 : ℚ) < (n' : ℚ) / d' := by
        rw [← h]
        have : (0 : ℚ) < n := by exact_mod_cast hn
        positivity
      have := (div_pos_iff_of_pos_right hdq').1 hpos
      exact_mod_cast this
    have he : exponentOf n d = exponentOf n' d' :=
      exponentOf_eq hn hd (h ▸ isExponent_exponentOf hn' hd')
    rw [fraction_eq neg hn, fraction_eq neg hn', he]
    congr 1
    refine divideEven_congr (shifted_pos hd _) (shifted_pos hd' _) ?_
    rw [shifted_ratio, shifted_ratio, h]

/-- The ratio at the exponent is below `2^53`, and at least `2^52` above the least exponent. -/
theorem ratio_bounds {x : ℚ} {e : Int} (h : IsExponent x e) :
    x * 2 ^ (-e) < 2 ^ 53 ∧ (e = leastExponent ∨ (2 : ℚ) ^ 52 ≤ x * 2 ^ (-e)) := by
  obtain ⟨-, hu, hl⟩ := h
  have hp : (0 : ℚ) < 2 ^ (-e) := by positivity
  constructor
  · calc x * 2 ^ (-e) < 2 ^ (e + 53) * 2 ^ (-e) := by gcongr
      _ = 2 ^ 53 := by
        rw [← zpow_add₀ two_ne_zero, add_right_comm, add_neg_cancel, zero_add]
        rfl
  · refine hl.imp id fun hl => ?_
    calc (2 : ℚ) ^ 52 = 2 ^ (e + 52) * 2 ^ (-e) := by
          rw [← zpow_add₀ two_ne_zero, add_right_comm, add_neg_cancel, zero_add]
          rfl
      _ ≤ x * 2 ^ (-e) := by gcongr

theorem normal_zero (negative : Bool) : (zero negative).Normal :=
  ⟨le_refl _, by decide, by norm_num, .inr rfl⟩

theorem fraction_normal (neg : Bool) (n : Nat) {d : Nat} (hd : 0 < d) :
    (fraction neg n d).Normal := by
  rcases Nat.eq_zero_or_pos n with rfl | hn
  · exact normal_zero neg
  rw [fraction_eq neg hn]
  obtain ⟨hu, hl⟩ := ratio_bounds (isExponent_exponentOf hn hd)
  have hleast := (isExponent_exponentOf hn hd).1
  rw [← shifted_ratio] at hu hl
  have hb := shifted_pos (n := n) hd (-exponentOf n d)
  generalize exponentOf n d = e at *
  generalize shifted n d (-e) = ab at *
  have hle : divideEven ab.1 ab.2 ≤ 2 ^ 53 := divideEven_le hb (by exact_mod_cast hu.le)
  have hge : e = leastExponent ∨ 2 ^ 52 ≤ divideEven ab.1 ab.2 :=
    hl.imp id fun h => le_divideEven hb (by exact_mod_cast h)
  generalize divideEven ab.1 ab.2 = m at *
  unfold carried
  split
  · split
    · trivial
    next hm hmax =>
      exact ⟨by omega, by omega, by norm_num, .inl (by norm_num)⟩
  · split
    · trivial
    next hm hmax => exact ⟨hleast, by omega, by omega, hge.symm⟩

/-- A fraction that is close to a number rounds to it. -/
theorem fraction_near (neg : Bool) {n d m : Nat} {e : Int} (hd : 0 < d) (hm : 0 < m)
    (hf : Fits m e) (h : |(n : ℚ) / d - m * 2 ^ e| * 2 ^ 54 < m * 2 ^ e) :
    fraction neg n d = .finite neg m e := by
  obtain ⟨hleast, hgreatest, hbits, hnormal⟩ := hf
  have hp : (0 : ℚ) < 2 ^ (-e) := by positivity
  have hmq : (0 : ℚ) < m := by exact_mod_cast hm
  have hcancel : (2 : ℚ) ^ e * 2 ^ (-e) = 1 := by
    rw [← zpow_add₀ two_ne_zero]
    simp
  -- the same at the exponent of the number
  have ht : |(n : ℚ) / d * 2 ^ (-e) - m| * 2 ^ 54 < m := by
    have hscale : |(n : ℚ) / d * 2 ^ (-e) - m| = |(n : ℚ) / d - m * 2 ^ e| * 2 ^ (-e) := by
      rw [← abs_of_pos hp, ← abs_mul, abs_of_pos hp]
      congr 1
      linear_combination (m : ℚ) * hcancel
    have hmul := mul_lt_mul_of_pos_right h hp
    rw [mul_assoc (m : ℚ), hcancel, mul_one] at hmul
    rw [hscale]
    linarith
  generalize htdef : (n : ℚ) / d * 2 ^ (-e) = t at ht
  have hbitsq : (m : ℚ) < 2 ^ 53 := by exact_mod_cast hbits
  have habs := abs_lt.1 (lt_of_mul_lt_mul_right (ht.trans (by linarith : (m : ℚ) < 1 / 2 * 2 ^ 54))
    (by positivity))
  have hmle : (m : ℚ) ≤ 2 ^ 53 - 1 := by
    have : m + 1 ≤ 2 ^ 53 := hbits
    have hq : (m : ℚ) + 1 ≤ 2 ^ 53 := by exact_mod_cast this
    linarith
  have hn : 0 < n := by
    rcases Nat.eq_zero_or_pos n with rfl | hn
    · have hz : t = 0 := by rw [← htdef]; simp
      rw [hz, zero_sub, abs_neg, abs_of_pos hmq] at ht
      linarith
    · exact hn
  have hback : (n : ℚ) / d = t * 2 ^ e := by
    rw [← htdef, mul_assoc, mul_comm ((2 : ℚ) ^ (-e)), hcancel, mul_one]
  have hpe : (0 : ℚ) < 2 ^ e := by positivity
  rw [fraction_eq neg hn]
  by_cases hlow : e = leastExponent ∨ (2 : ℚ) ^ 52 ≤ t
  · -- the exponents agree
    have hexp : IsExponent ((n : ℚ) / d) e := by
      refine ⟨hleast, ?_, hlow.imp id fun hlow => ?_⟩
      · rw [hback, add_comm, zpow_add₀ two_ne_zero]
        gcongr
        show t < 2 ^ 53
        linarith [habs.2]
      · rw [hback, add_comm, zpow_add₀ two_ne_zero]
        gcongr
        exact hlow
    rw [exponentOf_eq hn hd hexp]
    have hratio := shifted_ratio n d (-e)
    have hdiv : divideEven (shifted n d (-e)).1 (shifted n d (-e)).2 = m := by
      refine divideEven_eq (shifted_pos hd _) ?_ ?_ <;> rw [hratio, htdef]
      · linarith [habs.1]
      · linarith [habs.2]
    rw [hdiv]
    unfold carried
    rw [if_neg (by omega), if_neg (by omega)]
  · -- the fraction is below the power of two that the number is, and is rounded up to it
    obtain ⟨hne, hlt⟩ := not_or.1 hlow
    have hlt' : t < 2 ^ 52 := not_le.1 hlt
    have hm52 : m = 2 ^ 52 := by
      have hge : 2 ^ 52 ≤ m := hnormal.resolve_right hne
      have hlt'' : (m : ℚ) < 2 ^ 52 + 1 := by linarith [habs.1]
      have : m < 2 ^ 52 + 1 := by exact_mod_cast hlt''
      omega
    have hclose : (2 : ℚ) ^ 52 - 1 / 4 < t := by
      rw [hm52] at ht
      push_cast at ht
      have habs' := abs_lt.1 (lt_of_mul_lt_mul_right
        (ht.trans_eq (by norm_num : (2 : ℚ) ^ 52 = 1 / 4 * 2 ^ 54)) (by positivity))
      linarith [habs'.1]
    have hexp : IsExponent ((n : ℚ) / d) (e - 1) := by
      refine ⟨by omega, ?_, .inr ?_⟩
      · rw [hback, show e - 1 + 53 = 52 + e by omega, zpow_add₀ two_ne_zero]
        gcongr
        exact hlt'
      · rw [hback, show e - 1 + 52 = 51 + e by omega, zpow_add₀ two_ne_zero]
        gcongr
        show (2 : ℚ) ^ 51 ≤ t
        linarith
    rw [exponentOf_eq hn hd hexp]
    have hratio := shifted_ratio n d (-(e - 1))
    have hdouble : (n : ℚ) / d * 2 ^ (-(e - 1)) = 2 * t := by
      rw [← htdef, show -(e - 1) = -e + 1 by omega, zpow_add₀ two_ne_zero, zpow_one]
      ring
    have hdiv : divideEven (shifted n d (-(e - 1))).1 (shifted n d (-(e - 1))).2 = 2 ^ 53 := by
      refine divideEven_eq (shifted_pos hd _) ?_ ?_ <;> rw [hratio, hdouble] <;> push_cast
      · linarith
      · linarith
    rw [hdiv]
    unfold carried
    rw [if_pos rfl, if_neg (by omega), sub_add_cancel, hm52]

/-! ## Operations -/

theorem Normal.negate {x : Binary64} (h : x.Normal) : x.negate.Normal := by
  cases x with
  | finite s m e => exact h
  | infinite s => trivial

theorem normal_of_add {x y z : Binary64} (h : x.add y = some z) (hx : x.Normal) (hy : y.Normal) :
    z.Normal := by
  unfold add at h
  split at h
  · split at h
    · cases h
      exact hx
    · cases h
  · cases h
    exact hx
  · cases h
    exact hy
  · split at h
    · cases h
      exact normal_zero _
    · cases h
      exact fraction_normal _ _ (shifted_pos one_pos _)

theorem normal_of_mul {x y z : Binary64} (h : x.mul y = some z) : z.Normal := by
  unfold mul at h
  split at h
  · cases h
    exact fraction_normal _ _ (shifted_pos one_pos _)
  · cases h
    trivial
  · split at h <;> cases h
    trivial
  · split at h <;> cases h
    trivial

theorem decimal_normal (neg : Bool) (digits : List Nat) (scale : Int) :
    (decimal neg digits scale).Normal := by
  unfold decimal
  dsimp only
  repeat' split
  · exact normal_zero neg
  · exact normal_zero neg
  · trivial
  · exact fraction_normal _ _ one_pos
  · exact fraction_normal _ _ (by positivity)

theorem normal_of_readDecimal {neg : Bool} {xs : List Char} {x : Binary64}
    (h : readDecimal neg xs = some x) : x.Normal := by
  have hdecimal : ∀ {c : Bool} {e : Option Int} {f : Int → Binary64}, (∀ n, (f n).Normal) →
      (if c then none else e.map f) = some x → x.Normal := by
    intro c e f hf hx
    split at hx
    · cases hx
    · obtain ⟨n, -, rfl⟩ := Option.map_eq_some_iff.1 hx
      exact hf n
  unfold readDecimal at h
  dsimp only at h
  split at h
  · exact hdecimal (fun n => decimal_normal _ _ _) h
  · exact hdecimal (fun n => decimal_normal _ _ _) h

theorem normal_of_read {xs : List Char} {x : Binary64} (h : read xs = some (.number x)) :
    x.Normal := by
  unfold read at h
  dsimp only at h
  split at h
  · cases h
    trivial
  split at h
  · cases h
  obtain ⟨y, hy, heq⟩ := Option.map_eq_some_iff.1 h
  cases heq
  exact normal_of_readDecimal hy

end ModelSearch.Binary64
