import ModelSearch.Proofs.Number.Decimal
import ModelSearch.Proofs.Text.Lower
import ModelSearch.Proofs.Yaml.ScalarKinds

/-!
# Reading what was written of a floating-point number

A number that was read has a mantissa and an exponent that numbers can have.  The text of such a
number is a numeral behind its sign, or an infinity, and reads as the number.

    readFloat mark text = .ok v → v is a normal number, or is not one     (normal_of_readFloat)
    readFloat mark (floatText x) = .ok (.float x)      for a normal x    (readFloat_floatText)
-/

namespace ModelSearch

open Text (isAsciiDigit AllDigits)

/-! ## Characters of numerals -/

namespace Binary64

/-- The characters that numerals are written with. -/
def IsNumeralChar (c : Char) : Prop := isAsciiDigit c = true ∨ c ∈ ['.', 'e', '+', '-']

theorem IsNumeralChar.isLow {c : Char} (h : IsNumeralChar c) : Text.IsLow c := by
  rcases h with h | h
  · rw [Text.isAsciiDigit_iff] at h
    exact ⟨by omega, by omega⟩
  · have hsigns : ∀ c ∈ ['.', 'e', '+', '-'], c.toNat < 128 ∧ ¬(65 ≤ c.toNat ∧ c.toNat ≤ 90) :=
      Text.forall_of_all (by decide)
    exact hsigns c h

theorem IsNumeralChar.ne {c d : Char} (h : IsNumeralChar c)
    (hd : d ∈ ['_', ':']) : c ≠ d := by
  have hother : ∀ d ∈ ['_', ':'], isAsciiDigit d = false ∧ d ∉ ['.', 'e', '+', '-'] :=
    Text.forall_of_all (by decide)
  rintro rfl
  obtain ⟨h₁, h₂⟩ := hother c hd
  rcases h with h | h
  · rw [h₁] at h
    cases h
  · exact h₂ h

theorem IsNumeralChar.isNumberBlank {c : Char} (h : IsNumeralChar c) :
    Text.isNumberBlank c = false := by
  rcases h with h | h
  · exact Text.isNumberBlank_of_isDigit
      (Text.isDigit_iff.2 ⟨_, Text.digitValue?_of_isAsciiDigit h⟩)
  · have hsigns : ∀ c ∈ ['.', 'e', '+', '-'], Text.isNumberBlank c = false :=
      Text.forall_of_all (by decide)
    exact hsigns c h

theorem numeralChar_exponentText (e : Int) : ∀ c ∈ (exponentText e).toList, IsNumeralChar c := by
  intro c hc
  unfold exponentText at hc
  rw [String.toList_append, List.mem_append] at hc
  rcases hc with hc | hc
  · refine .inr ?_
    split at hc <;> simp_all
  · exact .inl (Text.allDigits_padded 2 e.natAbs c hc)

theorem Numeral.Sound.numeralChar {t : Numeral} (h : t.Sound) : ∀ c ∈ t.chars, IsNumeralChar c := by
  intro c hc
  simp only [Numeral.chars, List.mem_append, List.mem_cons] at hc
  rcases hc with hc | rfl | hc | hc
  · exact .inl (h.whole c hc)
  · exact .inr (by simp)
  · exact .inl (h.part c hc)
  · unfold Numeral.tail at hc
    split at hc
    · rcases List.mem_cons.1 hc with rfl | hc
      · exact .inr (by simp)
      · exact numeralChar_exponentText _ c hc
    · cases hc

/-- A numeral begins with a digit. -/
theorem Numeral.Sound.exists_cons {t : Numeral} (h : t.Sound) :
    ∃ c cs, t.chars = c :: cs ∧ isAsciiDigit c = true := by
  obtain ⟨c, cs, hcs⟩ := List.exists_cons_of_ne_nil h.nonempty
  exact ⟨c, cs ++ '.' :: (t.part ++ t.tail), by simp [Numeral.chars, hcs], h.whole c (by simp [hcs])⟩

/-- A numeral is no word for a number, so it is read as a decimal. -/
theorem read_numeral {t : Numeral} (h : t.Sound) :
    read t.chars = (readDecimal false t.chars).map .number := by
  obtain ⟨c, cs, hcs, hc⟩ := h.exists_cons
  have hstrip : Text.stripNumber t.chars = t.chars := by
    have hblank : ∀ d ∈ t.chars, Text.isNumberBlank d = false :=
      fun d hd => (h.numeralChar d hd).isNumberBlank
    unfold Text.stripNumber
    rw [hcs] at hblank ⊢
    rw [List.dropWhile_cons_of_neg (by simp [hblank c List.mem_cons_self])]
    exact Text.dropRightWhile_of_getLast fun d hd => hblank d (List.mem_of_getLast? hd)
  have hne : ∀ d, isAsciiDigit d = false → c ≠ d := by
    rintro d hd rfl
    rw [hc] at hd
    cases hd
  have hsplit : Text.splitSign t.chars = (false, t.chars) := by
    rw [hcs]
    unfold Text.splitSign
    split
    next heq => exact absurd (List.cons.inj heq).1 (hne '-' rfl)
    next heq => exact absurd (List.cons.inj heq).1 (hne '+' rfl)
    next => rfl
  have hlow : c.toLower = c := by
    have := (IsNumeralChar.isLow (.inl hc)).2
    unfold Char.toLower
    rw [dif_neg]
    intro hup
    exact this ⟨UInt32.le_iff_toNat_le.1 hup.1, UInt32.le_iff_toNat_le.1 hup.2⟩
  have hword : ∀ w : List Char, (w.head?.any isAsciiDigit) = false →
      t.chars.map Char.toLower ≠ w := by
    rintro w hw rfl
    rw [hcs] at hw
    replace hw : isAsciiDigit c.toLower = false := hw
    rw [hlow, hc] at hw
    cases hw
  unfold read
  simp only [hstrip, hsplit]
  rw [if_neg, if_neg]
  · exact hword _ (by decide)
  · simp only [Bool.or_eq_true, decide_eq_true_eq, not_or]
    exact ⟨hword _ (by decide), hword _ (by decide)⟩

/-! ## Layouts -/

theorem toList_repeated (n : Nat) (c : Char) : (Text.repeated n c).toList = List.replicate n c := by
  simp [Text.repeated]

end Binary64

namespace Yaml

open Binary64 (Numeral numeralOf layout exponentText)

theorem pointed_of_notMem {xs : List Char} (h : 'e' ∉ xs) : pointed xs = xs := by
  unfold pointed
  rw [Text.firstCut_of_notMem h]

theorem pointed_append {xs : List Char} (h : 'e' ∉ xs) (ys : List Char) :
    pointed (xs ++ 'e' :: ys)
      = if '.' ∈ xs ++ 'e' :: ys then xs ++ 'e' :: ys else xs ++ ".0e".toList ++ ys := by
  unfold pointed
  simp only [Text.firstCut_append_sep h, List.contains_iff_mem]

/-- Behind a sign, a layout with a point in front of its exponent is a numeral. -/
theorem pointed_layout {sign ds : List Char} (hs : 'e' ∉ sign ∧ '.' ∉ sign) (h : AllDigits ds)
    (point : Int) :
    pointed (sign ++ (layout ds point).toList) = sign ++ (numeralOf ds point).chars := by
  have he : ∀ {xs : List Char}, AllDigits xs → 'e' ∉ xs := fun hx => hx.notMem rfl
  have hp : ∀ {xs : List Char}, AllDigits xs → '.' ∉ xs := fun hx => hx.notMem rfl
  have htake : ∀ n, AllDigits (ds.take n) := fun n => h.of_subset (List.take_subset n ds)
  have hdrop : ∀ n, AllDigits (ds.drop n) := fun n => h.of_subset (List.drop_subset n ds)
  have hzeros : ∀ n, AllDigits (List.replicate n '0') := Text.allDigits_replicate
  unfold layout numeralOf
  simp only [Bool.and_eq_true, decide_eq_true_eq]
  split
  next hplain =>
    split
    · rw [pointed_of_notMem]
      · simp [Numeral.chars, Numeral.tail, Binary64.toList_repeated]
      · simp [Binary64.toList_repeated, hs.1, he (hzeros _), he h]
    split
    · rw [pointed_of_notMem]
      · simp [Numeral.chars, Numeral.tail, Binary64.toList_repeated]
      · simp [Binary64.toList_repeated, hs.1, he (hzeros _), he h]
    · rw [pointed_of_notMem]
      · simp [Numeral.chars, Numeral.tail]
      · simp [hs.1, he (htake _), he (hdrop _)]
  next hexp =>
    have hexponent : '.' ∉ (exponentText (point - 1)).toList := by
      intro hm
      unfold exponentText at hm
      rw [String.toList_append, List.mem_append] at hm
      rcases hm with hm | hm
      · split at hm <;> simp at hm
      · exact hp (Text.allDigits_padded 2 _) hm
    have hempty : (ds.drop 1).isEmpty = true ↔ ds.length ≤ 1 := by
      rw [List.isEmpty_iff, List.drop_eq_nil_iff]
    by_cases hone : ds.length ≤ 1
    · rw [if_pos (hempty.2 hone), if_pos hone]
      simp only [String.toList_append, String.toList_ofList, List.append_assoc]
      rw [← List.append_assoc, ← List.append_assoc]
      simp only [String.toList_empty, List.append_nil]
      rw [show "e".toList = ['e'] from rfl, List.singleton_append, pointed_append, if_neg]
      · simp [Numeral.chars, Numeral.tail]
      · simp [hs.2, hp (htake 1), hexponent]
      · simp [hs.1, he (htake 1)]
    · rw [if_neg (fun hx => hone (hempty.1 hx)), if_neg hone]
      simp only [String.toList_append, String.toList_ofList, List.append_assoc]
      rw [show "e".toList = ['e'] from rfl, show ".".toList = ['.'] from rfl,
        List.singleton_append, List.singleton_append, ← List.cons_append, ← List.append_assoc,
        ← List.append_assoc, pointed_append, if_pos]
      · simp [Numeral.chars, Numeral.tail]
      · simp
      · have := he (hdrop 1)
        rw [List.drop_one] at this
        simp [hs.1, he (htake 1), this]

/-! ## Reading -/

/-- A numeral behind its sign is read as a decimal; the sign is taken care of at the end. -/
theorem readFloat_numeral (mark : Mark) (neg : Bool) {t : Numeral} (h : t.Sound) {x : Binary64}
    (hx : Binary64.readDecimal false t.chars = some x) :
    readFloat mark (.ofList ((if neg then ['-'] else []) ++ t.chars))
      = .ok (.float (if neg then x.negate else x)) := by
  obtain ⟨c, cs, hcs, hc⟩ := h.exists_cons
  have hchars : ∀ d ∈ (if neg then ['-'] else []) ++ t.chars, Binary64.IsNumeralChar d := by
    intro d hd
    rcases List.mem_append.1 hd with hd | hd
    · split at hd <;> simp_all [Binary64.IsNumeralChar]
    · exact h.numeralChar d hd
  have hfilter : ((if neg then ['-'] else []) ++ t.chars).filter (· ≠ '_')
      = (if neg then ['-'] else []) ++ t.chars := by
    rw [List.filter_eq_self]
    intro d hd
    simpa using (hchars d hd).ne (by simp)
  have hlower := Text.lower_of_isLow fun d hd => (hchars d hd).isLow
  have hne : ∀ d, isAsciiDigit d = false → c ≠ d := by
    rintro d hd rfl
    rw [hc] at hd
    cases hd
  have hsign : numberSign ((if neg then ['-'] else []) ++ t.chars) = .ok (neg, t.chars) := by
    cases neg with
    | true => rfl
    | false =>
      rw [hcs]
      unfold numberSign
      split
      next heq => cases heq
      next heq => exact absurd (List.cons.inj heq).1 (hne '-' rfl)
      next heq => exact absurd (List.cons.inj heq).1 (hne '+' rfl)
      next => rfl
  have hword : ∀ w : List Char, w.head? = some '.' → t.chars ≠ w := by
    rintro w hw rfl
    rw [hcs] at hw
    exact hne '.' rfl (Option.some.inj hw)
  have hcolon : t.chars.contains ':' = false := by
    rw [Bool.eq_false_iff, ne_eq, List.contains_iff_mem]
    exact fun hm => (h.numeralChar ':' hm).ne (by simp) rfl
  unfold readFloat
  simp only [String.toList_ofList, hfilter, hlower, hsign, bind, Except.bind]
  rw [if_neg (hword _ rfl), if_neg (hword _ rfl), hcolon]
  simp [readQuantity, Binary64.read_numeral h, hx, quantityValue, pure, Except.pure]

/-- What was written of a number is read as the number. -/
theorem readFloat_floatText (mark : Mark) {x : Binary64} (hx : x.Normal) :
    readFloat mark (floatText x) = .ok (.float x) := by
  cases x with
  | infinite neg => cases neg <;> rfl
  | finite neg m e =>
    rcases Nat.eq_zero_or_pos m with rfl | hm
    · obtain ⟨-, -, -, hzero | rfl⟩ := hx
      · omega
      · cases neg <;> rfl
    · obtain ⟨ds, point, htext, hdigits, hne, hread⟩ := Binary64.exists_numeral neg hm hx
      have hsign : (if neg then "-" else "").toList = if neg then ['-'] else [] := by
        cases neg <;> rfl
      have hlayout := pointed_layout (show 'e' ∉ (if neg then ['-'] else []) ∧
        '.' ∉ (if neg then ['-'] else []) from by cases neg <;> decide) hdigits point
      have hfloat : floatText (.finite neg m e)
          = .ofList ((if neg then ['-'] else []) ++ (numeralOf ds point).chars) := by
        show String.ofList (pointed (Binary64.finite neg m e).text.toList) = _
        rw [htext, String.toList_append, hsign, hlayout]
      rw [hfloat, readFloat_numeral mark neg (Binary64.numeralOf_sound hdigits hne point) hread]
      cases neg <;> rfl

/-! ## Numbers that were read -/

theorem normal_of_readQuantity {xs : List Char} {x : Binary64}
    (h : readQuantity xs = .ok (some x)) : x.Normal := by
  unfold readQuantity at h
  split at h
  next heq =>
    cases h
    exact Binary64.normal_of_read heq
  · cases h
  · cases h

theorem normal_of_sixtySum {parts : List Quantity} {weight : Nat} {sum q : Quantity} {x : Binary64}
    (h : sixtySum parts weight sum = .ok q) (hx : q = some x)
    (hs : ∀ y, sum = some y → y.Normal) : x.Normal := by
  induction parts generalizing weight sum with
  | nil =>
    cases h
    exact hs x hx
  | cons part rest ih =>
    unfold sixtySum at h
    split at h
    · cases h
    · refine ih h fun y hy => ?_
      obtain ⟨a, ha, hy⟩ := Option.bind_eq_some_iff.1 hy
      obtain ⟨b, -, hy⟩ := Option.bind_eq_some_iff.1 hy
      obtain ⟨c, hc, hy⟩ := Option.bind_eq_some_iff.1 hy
      exact Binary64.normal_of_add hy (hs a ha) (Binary64.normal_of_mul hc)

/-- A quantity that was read, with its sign. -/
theorem normal_quantityValue {mark : Mark} {neg : Bool} {q : Quantity}
    (h : ∀ x, q = some x → x.Normal) :
    (∃ x, quantityValue mark neg q = .float x ∧ x.Normal) ∨
      ∃ m, quantityValue mark neg q = .notANumber m := by
  cases q with
  | none => exact .inr ⟨mark, rfl⟩
  | some x =>
    refine .inl ⟨_, rfl, ?_⟩
    cases neg
    · exact h x rfl
    · exact (h x rfl).negate

/-- What is read under the tag of a number is a normal number, or is not a number. -/
theorem normal_of_readFloat {mark : Mark} {text : String} {v : Value}
    (h : readFloat mark text = .ok v) :
    (∃ x, v = .float x ∧ x.Normal) ∨ ∃ m, v = .notANumber m := by
  unfold readFloat at h
  obtain ⟨⟨neg, body⟩, -, h⟩ := bind_eq_ok.1 h
  dsimp only at h
  split at h
  · cases h
    exact .inl ⟨_, rfl, trivial⟩
  split at h
  · cases h
    exact .inr ⟨_, rfl⟩
  split at h
  · obtain ⟨parts, -, h⟩ := bind_eq_ok.1 h
    obtain ⟨q, hq, h⟩ := bind_eq_ok.1 h
    cases h
    refine normal_quantityValue fun x hx => normal_of_sixtySum hq hx fun y hy => ?_
    cases hy
    exact Binary64.normal_zero false
  · obtain ⟨q, hq, h⟩ := bind_eq_ok.1 h
    cases h
    refine normal_quantityValue fun x hx => ?_
    rw [hx] at hq
    exact normal_of_readQuantity hq

end Yaml

end ModelSearch
