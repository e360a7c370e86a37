import ModelSearch.Proofs.Text.Cutting
import ModelSearch.Text.Integer

/-!
# Reading what was written of an integer

A run of decimal digits of any script reads as the number that its digits stand for, unless it is
too long, and the decimal text of a natural number reads as that number.

    readInteger 10 xs = .ok (numberOf xs)            digits, at most 4300   (readInteger_digits)
    readInteger 10 (toString n).toList = .ok n       n < 10 ^ 4300          (readInteger_toString)
-/

namespace ModelSearch.Text

-- Powers are those of the core library, whatever is known of other monoids.
attribute [local instance (high)] instPowNat

/-! ## Digits -/

theorem isAsciiDigit_iff {c : Char} : isAsciiDigit c = true ↔ 48 ≤ c.toNat ∧ c.toNat ≤ 57 := by
  unfold isAsciiDigit
  rw [Bool.and_eq_true, decide_eq_true_eq, decide_eq_true_eq]
  rfl

/-- The value of a digit is below ten, and no character is both a digit and a blank. -/
theorem digitValue?_bounds {c : Char} {d : Nat} (h : digitValue? c = some d) :
    d < 10 ∧ isBlank c = false := by
  have hdisjoint : ∀ r ∈ blanks, r.2 < 0x30 ∨ 0x39 < r.1 := by decide
  have hapart : ∀ r ∈ blanks, ∀ z ∈ zeros, r.2 < z ∨ z + 10 ≤ r.1 := by decide
  have hblank : ∀ p : Nat × Nat → Prop, (∀ r ∈ blanks, p r → ¬(r.1 ≤ c.toNat ∧ c.toNat ≤ r.2)) →
      (∀ r ∈ blanks, p r) → isBlank c = false := by
    intro p hp hall
    rw [isBlank, CharSet.has, List.any_eq_false]
    intro r hr
    have := hp r hr (hall r hr)
    simpa using this
  unfold digitValue? at h
  split at h
  · next hc =>
    rw [isAsciiDigit_iff] at hc
    cases h
    exact ⟨by omega, hblank _ (fun r _ hr => by omega) hdisjoint⟩
  · obtain ⟨z, hz, rfl⟩ := Option.map_eq_some_iff.1 h
    have hm := List.mem_of_find?_eq_some hz
    have hb := List.find?_some hz
    simp only [Bool.and_eq_true, decide_eq_true_eq] at hb
    exact ⟨by omega, hblank _ (fun r _ hr => by omega) fun r hr => hapart r hr z hm⟩

/-- The number that decimal digits stand for. -/
def numberOf (xs : List Char) : Nat := ofDigits 10 (xs.map fun c => (digitValue? c).getD 0)

theorem isDigit_iff {c : Char} : isDigit c = true ↔ ∃ d, digitValue? c = some d :=
  Option.isSome_iff_exists

theorem not_isDigit_of_mem {c : Char} (h : c ∈ ['_', '-', '+', '(', ')']) : isDigit c = false := by
  have hall : ∀ c ∈ ['_', '-', '+', '(', ')'], isDigit c = false := forall_of_all (by decide)
  exact hall c h

theorem baseDigit?_ten {c : Char} {d : Nat} (h : digitValue? c = some d) :
    baseDigit? 10 c = some d := by
  simp [baseDigit?, h, (digitValue?_bounds h).1]

theorem numeralDigits_digits {xs : List Char} (hne : xs ≠ []) (h : ∀ c ∈ xs, isDigit c = true) :
    numeralDigits 10 xs = some (xs.map fun c => (digitValue? c).getD 0) := by
  induction xs with
  | nil => exact absurd rfl hne
  | cons c cs ih =>
    obtain ⟨d, hd⟩ := isDigit_iff.1 (h c List.mem_cons_self)
    cases cs with
    | nil => simp [numeralDigits, baseDigit?_ten hd, hd]
    | cons e es =>
      have he : e ≠ '_' := by
        rintro rfl
        have := h '_' (by simp)
        rw [not_isDigit_of_mem (by simp)] at this
        cases this
      rw [numeralDigits, ih (by simp) fun x hx => h x (List.mem_cons_of_mem _ hx)]
      · simp [baseDigit?_ten hd, hd]
      · simp
      · intro r hr
        cases hr
        exact he rfl

theorem isNumberBlank_of_isDigit {c : Char} (h : isDigit c = true) : isNumberBlank c = false := by
  obtain ⟨d, hd⟩ := isDigit_iff.1 h
  simp [isNumberBlank, (digitValue?_bounds hd).2]

theorem stripNumber_digits {xs : List Char} (h : ∀ c ∈ xs, isDigit c = true) :
    stripNumber xs = xs := by
  have hl : xs.dropWhile isNumberBlank = xs := by
    cases xs with
    | nil => rfl
    | cons c cs =>
      exact List.dropWhile_cons_of_neg (by simp [isNumberBlank_of_isDigit (h c (by simp))])
  rw [stripNumber, hl]
  exact dropRightWhile_of_getLast fun c hc => isNumberBlank_of_isDigit (h c (List.mem_of_getLast? hc))

theorem splitSign_digits {xs : List Char} (h : ∀ c ∈ xs, isDigit c = true) :
    splitSign xs = (false, xs) := by
  unfold splitSign
  split
  · have := h '-' (by simp)
    rw [not_isDigit_of_mem (by simp)] at this
    cases this
  · have := h '+' (by simp)
    rw [not_isDigit_of_mem (by simp)] at this
    cases this
  · rfl

theorem dropBaseMark_ten (xs : List Char) : dropBaseMark 10 xs = xs := by
  simp only [dropBaseMark, Nat.reduceEqDiff, if_false]
  split <;> simp

/-! ## Reading -/

theorem readInteger_digits {xs : List Char} (hne : xs ≠ []) (h : ∀ c ∈ xs, isDigit c = true) :
    readInteger 10 xs =
      if maxDigits < xs.length then .error (.tooLong xs.length) else .ok (numberOf xs) := by
  have hcut : cutWhere (fun c => (baseDigit? 10 c).isNone && c ≠ '_') xs = (xs, []) := by
    apply cutWhere_of_forall
    intro c hc
    obtain ⟨d, hd⟩ := isDigit_iff.1 (h c hc)
    simp [baseDigit?_ten hd]
  simp only [readInteger, stripNumber_digits h, splitSign_digits h, dropBaseMark_ten, hcut,
    numeralDigits_digits hne h]
  simp [numberOf, signed]

theorem numberOf_lt (xs : List Char) : numberOf xs < 10 ^ xs.length := by
  have hd : ∀ c : Char, (digitValue? c).getD 0 < 10 := by
    intro c
    cases hc : digitValue? c with
    | none => decide
    | some d => exact (digitValue?_bounds hc).1
  suffices hs : ∀ n k, n < 10 ^ k →
      (xs.map fun c => (digitValue? c).getD 0).foldl (fun n d => n * 10 + d) n
        < 10 ^ (k + xs.length) by
    simpa [numberOf, ofDigits] using hs 0 0 (by decide)
  induction xs with
  | nil => simp
  | cons c cs ih =>
    intro n k hn
    have hc := hd c
    have := ih (n * 10 + (digitValue? c).getD 0) (k + 1) (by rw [Nat.pow_succ]; omega)
    simp only [List.map_cons, List.foldl_cons, List.length_cons]
    rwa [show k + (cs.length + 1) = k + 1 + cs.length by omega]

/-! ## Decimal texts -/

theorem toList_toString (n : Nat) : (toString n).toList = Nat.toDigits 10 n := by
  rw [Nat.toString_eq_ofList_toDigits, String.toList_ofList]

theorem digitValue?_of_mem_toDigits {n : Nat} {c : Char} (h : c ∈ Nat.toDigits 10 n) :
    digitValue? c = some (c.toNat - 48) := by
  have hc := Nat.isDigit_of_mem_toDigits (by decide) (by decide) h
  have ha : isAsciiDigit c = true := by
    rw [isAsciiDigit_iff]
    simpa [Char.isDigit, UInt32.le_iff_toNat_le] using hc
  simp [digitValue?, ha]

theorem isDigit_of_mem_toDigits {n : Nat} {c : Char} (h : c ∈ Nat.toDigits 10 n) :
    isDigit c = true :=
  isDigit_iff.2 ⟨_, digitValue?_of_mem_toDigits h⟩

theorem numberOf_toDigits (n : Nat) : numberOf (Nat.toDigits 10 n) = n := by
  have hmap : (Nat.toDigits 10 n).map (fun c => (digitValue? c).getD 0)
      = (Nat.toDigits 10 n).map fun c => c.toNat - 48 := by
    apply List.map_congr_left
    intro c hc
    simp [digitValue?_of_mem_toDigits hc]
  have := Nat.ofDigitChars_ten_toDigits (n := n)
  rw [Nat.ofDigitChars_eq_foldl] at this
  rw [numberOf, ofDigits, hmap, List.foldl_map]
  simpa [Nat.mul_comm] using this

theorem readInteger_toString {n : Nat} (h : n < 10 ^ maxDigits) :
    readInteger 10 (toString n).toList = .ok n := by
  rw [toList_toString, readInteger_digits Nat.toDigits_ne_nil fun c => isDigit_of_mem_toDigits,
    numberOf_toDigits]
  have hlen := (Nat.length_toDigits_le_iff (b := 10) (by decide) (by decide)).2 h
  rw [if_neg (by omega)]

end ModelSearch.Text
