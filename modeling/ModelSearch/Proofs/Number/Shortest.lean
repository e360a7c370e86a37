import ModelSearch.Number.Shortest
import ModelSearch.Proofs.Number.Binary64
import ModelSearch.Proofs.Text.Integer

/-!
# The shortest decimal exists

Seventeen digits are always enough: the nearest decimal of seventeen digits differs from a number by
less than the number's value times `2^-54`, so it rounds back.  The search for fewer digits takes a
decimal only if it rounds back.

    10^(p - 1) ≤ n / d < 10^p                     for p = pointOf n d      (pointOf_bounds)
    ofUnits neg units k p = x                     for the shortest units   (shortestFrom_reads)
-/

namespace ModelSearch.Binary64

open Text (toList_toString)

/-! ## The decimal point -/

theorem length_toString_bounds (q : Nat) (hq : 0 < q) :
    10 ^ ((toString q).length - 1) ≤ q ∧ q < 10 ^ (toString q).length := by
  have hlen : (toString q).length = (Nat.toDigits 10 q).length := by
    rw [← String.length_toList, toList_toString]
  rw [hlen]
  have hpos : 0 < (Nat.toDigits 10 q).length := List.length_pos_iff.2 Nat.toDigits_ne_nil
  constructor
  · rcases Nat.eq_zero_or_pos ((Nat.toDigits 10 q).length - 1) with h | h
    · rw [h]
      exact Nat.one_le_iff_ne_zero.2 (by omega)
    · have hnot : ¬(Nat.toDigits 10 q).length ≤ (Nat.toDigits 10 q).length - 1 := by omega
      rw [Nat.length_toDigits_le_iff (by decide) h] at hnot
      exact Nat.le_of_not_lt hnot
  · exact (Nat.length_toDigits_le_iff (by decide) hpos).1 le_rfl

theorem length_toString_pos (q : Nat) : 0 < (toString q).length := by
  rw [← String.length_toList, toList_toString]
  exact List.length_pos_iff.2 Nat.toDigits_ne_nil

/-- The decimal point stands behind the digits of the whole part. -/
theorem pointOf_bounds {n d : Nat} (hn : 0 < n) (hd : 0 < d) :
    (10 : ℚ) ^ (pointOf n d - 1) ≤ (n : ℚ) / d ∧ (n : ℚ) / d < 10 ^ pointOf n d := by
  have hdq : (0 : ℚ) < d := by exact_mod_cast hd
  unfold pointOf
  split
  next hle =>
    have hq : 0 < n / d := Nat.div_pos hle hd
    obtain ⟨hlow, hup⟩ := length_toString_bounds (n / d) hq
    have hlen := length_toString_pos (n / d)
    generalize (toString (n / d)).length = l at hlow hup hlen
    constructor
    · rw [← Nat.cast_one, ← Nat.cast_sub hlen, zpow_natCast, le_div_iff₀ hdq]
      exact_mod_cast (Nat.le_div_iff_mul_le hd).1 hlow
    · rw [zpow_natCast, div_lt_iff₀ hdq]
      exact_mod_cast (Nat.div_lt_iff_lt_mul hd).1 hup
  next hlt =>
    have hq : 0 < (d - 1) / n := Nat.div_pos (by omega) hn
    obtain ⟨hlow, hup⟩ := length_toString_bounds ((d - 1) / n) hq
    have hlen := length_toString_pos ((d - 1) / n)
    generalize (toString ((d - 1) / n)).length = l at hlow hup hlen
    have h₁ : 10 ^ (l - 1) * n ≤ d - 1 := (Nat.le_div_iff_mul_le hn).1 hlow
    have h₂ : d - 1 < 10 ^ l * n := (Nat.div_lt_iff_lt_mul hn).1 hup
    constructor
    · rw [show (1 : Int) - l - 1 = -(l : Int) by omega, zpow_neg, zpow_natCast,
        inv_le_comm₀ (by positivity) (by positivity), inv_div, div_le_iff₀ (by exact_mod_cast hn)]
      exact_mod_cast (by omega : d ≤ 10 ^ l * n)
    · rw [show (1 : Int) - l = -((l - 1 : Nat) : Int) by omega, zpow_neg, zpow_natCast,
        lt_inv_comm₀ (by positivity) (by positivity), inv_div, lt_div_iff₀ (by exact_mod_cast hn)]
      exact_mod_cast (by omega : 10 ^ (l - 1) * n < d)

/-! ## Decimals -/

theorem unitsOf_pos {n d k : Nat} (hd : 0 < d) (point : Int) : 0 < (unitsOf n d k point).2 := by
  unfold unitsOf
  dsimp only
  split
  · exact hd
  · exact Nat.mul_pos hd (by positivity)

theorem ten_zpow_nonneg {s : Int} (h : 0 ≤ s) : (10 : ℚ) ^ s = (10 ^ s.toNat : Nat) := by
  rw [Nat.cast_pow, ← zpow_natCast, Int.toNat_of_nonneg h]
  rfl

theorem ten_zpow_neg {s : Int} (h : ¬0 ≤ s) : (10 : ℚ) ^ s = ((10 ^ (-s).toNat : Nat) : ℚ)⁻¹ := by
  rw [← ten_zpow_nonneg (by omega), zpow_neg, inv_inv]

theorem unitsOf_ratio (n d k : Nat) (point : Int) :
    ((unitsOf n d k point).1 : ℚ) / (unitsOf n d k point).2 = (n : ℚ) / d * 10 ^ (k - point) := by
  unfold unitsOf
  dsimp only
  split
  next h =>
    rw [ten_zpow_nonneg h]
    push_cast
    ring
  next h =>
    rw [ten_zpow_neg h]
    push_cast
    rw [div_mul_eq_div_div, div_eq_mul_inv]

/-- A decimal is rounded from a fraction of its value. -/
theorem ofUnits_eq (neg : Bool) (units k : Nat) (point : Int) :
    ∃ a b : Nat, 0 < b ∧ (a : ℚ) / b = units * 10 ^ (point - k) ∧
      ofUnits neg units k point = fraction neg a b := by
  unfold ofUnits
  dsimp only
  split
  next h => exact ⟨_, 1, one_pos, by rw [ten_zpow_nonneg h]; push_cast; ring, rfl⟩
  next h => exact ⟨_, _, by positivity, by rw [ten_zpow_neg h, div_eq_mul_inv], rfl⟩

/-- Seventeen digits are enough. -/
theorem decimalOf_seventeen (neg : Bool) {m : Nat} {e : Int} (hm : 0 < m) (hf : Fits m e) :
    (decimalOf (.finite neg m e) (shifted m 1 e).1 (shifted m 1 e).2
      (pointOf (shifted m 1 e).1 (shifted m 1 e).2) 17).isSome := by
  have hd := shifted_pos (n := m) one_pos e
  have hr := shifted_ratio m 1 e
  rw [Nat.cast_one, div_one] at hr
  have hmq : (0 : ℚ) < m := by exact_mod_cast hm
  have hx : (0 : ℚ) < m * 2 ^ e := by positivity
  have hn : 0 < (shifted m 1 e).1 := by
    rcases Nat.eq_zero_or_pos (shifted m 1 e).1 with h | h
    · rw [h] at hr
      simp only [Nat.cast_zero, zero_div] at hr
      exact absurd hr (ne_of_lt hx)
    · exact h
  obtain ⟨hlow, -⟩ := pointOf_bounds hn hd
  generalize pointOf (shifted m 1 e).1 (shifted m 1 e).2 = p at hlow ⊢
  rw [hr] at hlow
  have hb := unitsOf_pos (n := (shifted m 1 e).1) (k := 17) hd p
  have hratio := unitsOf_ratio (shifted m 1 e).1 (shifted m 1 e).2 17 p
  rw [hr] at hratio
  obtain ⟨hnear₁, hnear₂⟩ := divideEven_near
    (n := (unitsOf (shifted m 1 e).1 (shifted m 1 e).2 17 p).1) hb
  have hround : ofUnits neg (divideEven (unitsOf (shifted m 1 e).1 (shifted m 1 e).2 17 p).1
      (unitsOf (shifted m 1 e).1 (shifted m 1 e).2 17 p).2) 17 p = .finite neg m e := by
    rw [hratio] at hnear₁ hnear₂
    generalize divideEven _ _ = near at hnear₁ hnear₂ ⊢
    obtain ⟨a, b, hb, hab, heq⟩ := ofUnits_eq neg near 17 p
    rw [heq]
    refine fraction_near neg hb hm hf ?_
    rw [hab]
    have hpow : (0 : ℚ) < 10 ^ (p - 17) := by positivity
    have hscale : (near : ℚ) * 10 ^ (p - (17 : Nat)) - m * 2 ^ e
        = (near - m * 2 ^ e * 10 ^ ((17 : Nat) - p)) * 10 ^ (p - 17) := by
      have hone : (10 : ℚ) ^ (((17 : Nat) : Int) - p) * 10 ^ (p - 17) = 1 := by
        rw [← zpow_add₀ (by norm_num)]
        simp
      push_cast
      push_cast at hone
      linear_combination (m * 2 ^ e : ℚ) * hone
    have habs : |(near : ℚ) - m * 2 ^ e * 10 ^ ((17 : Nat) - p)| ≤ 1 / 2 := by
      rw [abs_le]
      constructor <;> linarith
    have hsmall : (10 : ℚ) ^ (p - 17) * 10 ^ 16 ≤ m * 2 ^ e := by
      calc (10 : ℚ) ^ (p - 17) * 10 ^ 16 = 10 ^ (p - 1) := by
            rw [← zpow_natCast, ← zpow_add₀ (by norm_num)]
            congr 1
            push_cast
            omega
        _ ≤ m * 2 ^ e := hlow
    rw [hscale, abs_mul, abs_of_pos hpow]
    calc |(near : ℚ) - m * 2 ^ e * 10 ^ ((17 : Nat) - p)| * 10 ^ (p - 17) * 2 ^ 54
        ≤ 1 / 2 * 10 ^ (p - 17) * 2 ^ 54 := by gcongr
      _ = 10 ^ (p - 17) * 2 ^ 53 := by ring
      _ < 10 ^ (p - 17) * 10 ^ 16 := by
        gcongr
        norm_num
      _ ≤ m * 2 ^ e := hsmall
  unfold decimalOf
  dsimp only
  rw [if_pos (show ofUnits (finite neg m e).isNegative _ 17 p = finite neg m e from hround)]
  rfl

/-- A decimal that is taken rounds back, and is one of the two next to the fraction. -/
theorem decimalOf_eq_some {x : Binary64} {n d k units : Nat} {point : Int}
    (h : decimalOf x n d point k = some units) :
    ofUnits x.isNegative units k point = x ∧
      units ≤ (unitsOf n d k point).1 / (unitsOf n d k point).2 + 1 := by
  unfold decimalOf at h
  dsimp only at h
  generalize unitsOf n d k point = ab at h ⊢
  have hnear : divideEven ab.1 ab.2 ≤ ab.1 / ab.2 + 1 := by
    unfold divideEven
    dsimp only
    repeat' split
    all_goals omega
  have hother : (if divideEven ab.1 ab.2 = ab.1 / ab.2 then ab.1 / ab.2 + 1 else ab.1 / ab.2)
      ≤ ab.1 / ab.2 + 1 := by
    split <;> omega
  generalize divideEven ab.1 ab.2 = near at h hnear hother
  generalize (if near = ab.1 / ab.2 then ab.1 / ab.2 + 1 else ab.1 / ab.2) = other at h hother
  by_cases hn : ofUnits x.isNegative near k point = x
  · rw [if_pos hn] at h
    cases h
    exact ⟨hn, hnear⟩
  · rw [if_neg hn] at h
    by_cases ho : ofUnits x.isNegative other k point = x
    · rw [if_pos ho] at h
      cases h
      exact ⟨ho, hother⟩
    · rw [if_neg ho] at h
      cases h

/-- The search finds the first decimal that rounds back, if one does within its reach. -/
theorem shortestFrom_eq {x : Binary64} {n d : Nat} {point : Int} {fuel k : Nat}
    (h : (decimalOf x n d point (k + fuel)).isSome) :
    ∃ units k', shortestFrom x n d point (fuel + 1) k = (units, k') ∧ k ≤ k' ∧ k' ≤ k + fuel ∧
      decimalOf x n d point k' = some units := by
  induction fuel generalizing k with
  | zero =>
    obtain ⟨units, hu⟩ := Option.isSome_iff_exists.1 h
    rw [Nat.add_zero] at hu
    exact ⟨units, k, by simp [shortestFrom, hu], le_rfl, le_rfl, hu⟩
  | succ fuel ih =>
    cases hk : decimalOf x n d point k with
    | some units => exact ⟨units, k, by simp [shortestFrom, hk], le_rfl, by omega, hk⟩
    | none =>
      rw [show k + (fuel + 1) = k + 1 + fuel by omega] at h
      obtain ⟨units, k', heq, hle, hup, hu⟩ := ih h
      refine ⟨units, k', ?_, by omega, by omega, hu⟩
      rw [shortestFrom, hk]
      exact heq

/-- The shortest decimal of a number: it rounds back, and it has at most as many digits as were
asked for, or is a power of ten. -/
theorem shortestFrom_reads (neg : Bool) {m : Nat} {e : Int} (hm : 0 < m) (hf : Fits m e) :
    ∃ units k, shortestFrom (.finite neg m e) (shifted m 1 e).1 (shifted m 1 e).2
        (pointOf (shifted m 1 e).1 (shifted m 1 e).2) 17 1 = (units, k) ∧ 1 ≤ k ∧ k ≤ 17 ∧
      ofUnits neg units k (pointOf (shifted m 1 e).1 (shifted m 1 e).2) = .finite neg m e ∧
      0 < units ∧ units ≤ 10 ^ k := by
  obtain ⟨units, k, heq, hlow, hup, hu⟩ :=
    shortestFrom_eq (k := 1) (show (decimalOf _ _ _ _ (1 + 16)).isSome from
      decimalOf_seventeen neg hm hf)
  obtain ⟨hreads, hle⟩ := decimalOf_eq_some hu
  replace hreads : ofUnits neg units k _ = .finite neg m e := hreads
  refine ⟨units, k, heq, hlow, hup, hreads, ?_, ?_⟩
  · rcases Nat.eq_zero_or_pos units with rfl | h
    · exfalso
      have hz : ofUnits neg 0 k (pointOf (shifted m 1 e).1 (shifted m 1 e).2) = zero neg := by
        unfold ofUnits
        dsimp only
        split <;> simp [fraction]
      rw [hz] at hreads
      injection hreads
      omega
    · exact h
  · have hd := shifted_pos (n := m) one_pos e
    have hn : 0 < (shifted m 1 e).1 := by
      unfold shifted
      split
      · positivity
      · exact hm
    obtain ⟨-, hlt⟩ := pointOf_bounds hn hd
    have hb := unitsOf_pos (n := (shifted m 1 e).1) (k := k) hd
      (pointOf (shifted m 1 e).1 (shifted m 1 e).2)
    have hratio := unitsOf_ratio (shifted m 1 e).1 (shifted m 1 e).2 k
      (pointOf (shifted m 1 e).1 (shifted m 1 e).2)
    generalize unitsOf (shifted m 1 e).1 (shifted m 1 e).2 k
      (pointOf (shifted m 1 e).1 (shifted m 1 e).2) = ab at hb hratio hle
    have hbelow : (ab.1 : ℚ) / ab.2 < 10 ^ k := by
      rw [hratio]
      calc _ < (10 : ℚ) ^ pointOf (shifted m 1 e).1 (shifted m 1 e).2
            * 10 ^ ((k : Int) - pointOf (shifted m 1 e).1 (shifted m 1 e).2) := by gcongr
        _ = 10 ^ k := by
          rw [← zpow_add₀ (by norm_num), add_sub_cancel, zpow_natCast]
    have hbq : (0 : ℚ) < ab.2 := by exact_mod_cast hb
    rw [div_lt_iff₀ hbq] at hbelow
    have hnat : ab.1 < 10 ^ k * ab.2 := by exact_mod_cast hbelow
    have := (Nat.div_lt_iff_lt_mul hb).2 hnat
    omega

end ModelSearch.Binary64
