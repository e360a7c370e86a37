import ModelSearch.Proofs.Device.Grammar

/-!
# Device names read back

A name gives the CPU or a GPU with an index of at most 4300 digits, and the text of such a device
is a name of it.  No other device is read back from its text.

    ofName name = .ok d  →  ofName d.text = .ok d                     (ofName_text)
    ofName d.text = .ok d  ↔  d is the CPU or such a GPU              (ofName_text_self_iff)
-/

-- Powers are those of the core library, whatever is known of other monoids.
attribute [local instance (high)] instPowNat

namespace ModelSearch.Device

open Text

/-- The devices that have names. -/
theorem eq_of_ofName {name : String} {d : Device} (h : ofName name = .ok d) :
    d = cpu ∨ ∃ n : Nat, n < 10 ^ maxDigits ∧ d = gpu n := by
  rcases ofName_eq_ok_iff.1 h with ⟨rfl, -⟩ | ⟨digits, rfl, -, hlength⟩
  · exact .inl rfl
  · have hpow : 10 ^ digits.length ≤ 10 ^ maxDigits := Nat.pow_le_pow_right (by decide) hlength
    exact .inr ⟨numberOf digits, Nat.lt_of_lt_of_le (numberOf_lt digits) hpow, rfl⟩

theorem text_gpu (n : Nat) :
    (gpu n).text.toList = "gpu(".toList ++ (Nat.toDigits 10 n ++ [')']) := by
  have hn : ¬((gpu n).index < 0) := by simp [gpu]
  have ht : toString ((gpu n).index) = toString n := rfl
  rw [text, if_neg hn, ht]
  simp [gpu]

/-- A character of a device's text: no capital, no blank, and of the ASCII range. -/
def IsNameChar (c : Char) : Prop :=
  c.toNat < 128 ∧ ¬(65 ≤ c.toNat ∧ c.toNat ≤ 90) ∧ isBlank c = false

instance (c : Char) : Decidable (IsNameChar c) := inferInstanceAs (Decidable (_ ∧ _))

theorem isNameChar_gpu (n : Nat) :
    ∀ c ∈ "gpu(".toList ++ (Nat.toDigits 10 n ++ [')']), IsNameChar c := by
  have hfront : ∀ c ∈ "gpu(".toList, IsNameChar c := forall_of_all (by decide)
  have hend : ∀ c ∈ [')'], IsNameChar c := forall_of_all (by decide)
  have hdigits : ∀ c ∈ Nat.toDigits 10 n, IsNameChar c := by
    intro c hc
    have hb := (digitValue?_bounds (digitValue?_of_mem_toDigits hc)).2
    have ha := Nat.isDigit_of_mem_toDigits (by decide) (by decide) hc
    simp only [Char.isDigit, Bool.and_eq_true, decide_eq_true_eq, UInt32.le_iff_toNat_le] at ha
    have hle : c.toNat ≤ 57 := ha.2
    exact ⟨by omega, by omega, hb⟩
  intro c hc
  rcases List.mem_append.1 hc with hc | hc
  · exact hfront c hc
  · rcases List.mem_append.1 hc with hc | hc
    · exact hdigits c hc
    · exact hend c hc

theorem ofName_text_gpu {n : Nat} (h : n < 10 ^ maxDigits) : ofName (gpu n).text = .ok (gpu n) := by
  have hc := isNameChar_gpu n
  have hnormal : normal (gpu n).text = "gpu(".toList ++ (Nat.toDigits 10 n ++ [')']) := by
    rw [normal, text_gpu, strip_of_trimmed (trimmed_of_forall fun c hm => (hc c hm).2.2)]
    exact lower_of_isLow fun c hm => ⟨(hc c hm).1, (hc c hm).2.1⟩
  have hindexed : Indexed (Nat.toDigits 10 n) (normal (gpu n).text) := by
    rw [hnormal]
    exact ⟨Nat.toDigits_ne_nil, fun c => isDigit_of_mem_toDigits, .inr (by simp)⟩
  have hlength := (Nat.length_toDigits_le_iff (b := 10) (by decide) (by decide)).2 h
  exact ofName_eq_gpu_iff.2 (.inr ⟨_, hindexed, hlength, (numberOf_toDigits n).symm⟩)

/-- Exactly the devices that have names are read back from their texts. -/
theorem ofName_text_self_iff {d : Device} :
    ofName d.text = .ok d ↔ d = cpu ∨ ∃ n : Nat, n < 10 ^ maxDigits ∧ d = gpu n := by
  constructor
  · exact eq_of_ofName
  · rintro (rfl | ⟨n, hn, rfl⟩)
    · rfl
    · exact ofName_text_gpu hn

/-- The text of a device that has a name is a name of it. -/
theorem ofName_text {name : String} {d : Device} (h : ofName name = .ok d) :
    ofName d.text = .ok d :=
  ofName_text_self_iff.2 (eq_of_ofName h)

/-- Devices that have names are told apart by their texts. -/
theorem text_eq_iff {name other : String} {d e : Device} (hd : ofName name = .ok d)
    (he : ofName other = .ok e) : d = e ↔ d.text = e.text := by
  constructor
  · rintro rfl
    rfl
  · intro htext
    have hsame := ofName_text hd
    rw [htext, ofName_text he] at hsame
    exact (Except.ok.inj hsame).symm

/-! ## Main result -/

/-- A device is read back from its text exactly if it is the CPU without an index or a GPU with one,
so a name is as good as the text of its device, and two names stand for one device exactly if the
texts are the same. -/
theorem ofName_text_iff :
    (∀ (kind : String) (index : Int), index.natAbs < 10 ^ maxDigits →
      (ofName (text ⟨kind, index⟩) = .ok ⟨kind, index⟩ ↔
        (kind = "cpu" ∧ index = -1) ∨ (kind = "gpu" ∧ 0 ≤ index))) ∧
    (∀ name d, ofName name = .ok d → ofName d.text = .ok d) ∧
    ∀ name other d e, ofName name = .ok d → ofName other = .ok e → (d = e ↔ d.text = e.text) := by
  refine ⟨fun kind index hlimit => ?_, fun _ _ => ofName_text, fun _ _ _ _ => text_eq_iff⟩
  rw [ofName_text_self_iff]
  constructor
  · rintro (h | ⟨n, -, h⟩)
    · cases h
      exact .inl ⟨rfl, rfl⟩
    · cases h
      exact .inr ⟨rfl, Int.natCast_nonneg n⟩
  · rintro (⟨rfl, rfl⟩ | ⟨rfl, hindex⟩)
    · exact .inl rfl
    · have hnat : (index.natAbs : Int) = index := Int.natAbs_of_nonneg hindex
      exact .inr ⟨index.natAbs, hlimit, by rw [hnat]; rfl⟩

/-- An index with zeros in front is read back, and neither a negative one of a GPU nor one of the
CPU is. -/
theorem ofName_text_iff_zeros :
    ofName (text ⟨"gpu", 7⟩) = .ok ⟨"gpu", 7⟩ ∧ ofName (text ⟨"gpu", -7⟩) ≠ .ok ⟨"gpu", -7⟩ ∧
      ofName (text ⟨"cpu", 0⟩) ≠ .ok ⟨"cpu", 0⟩ ∧
      ofName "GPU(007)" = .ok (gpu 7) ∧ ofName (gpu 7).text = .ok (gpu 7) ∧
      ofName " CPU" = .ok cpu ∧ (gpu 7 = cpu ↔ (gpu 7).text = cpu.text) := by
  obtain ⟨hself, hreread, htexts⟩ := ofName_text_iff
  have hzeros : ofName "GPU(007)" = .ok (gpu 7) := by decide +kernel
  have hcpu : ofName " CPU" = .ok cpu := by decide +kernel
  have hseven : (7 : Int).natAbs < 10 ^ maxDigits := by decide +kernel
  have hnegative : (-7 : Int).natAbs < 10 ^ maxDigits := by decide +kernel
  have hzero : (0 : Int).natAbs < 10 ^ maxDigits := by decide +kernel
  refine ⟨(hself _ _ hseven).2 (by decide), fun h => ?_, fun h => ?_, hzeros,
    hreread _ _ hzeros, hcpu, htexts _ _ _ _ hzeros hcpu⟩
  · exact absurd ((hself _ _ hnegative).1 h) (by decide)
  · exact absurd ((hself _ _ hzero).1 h) (by decide)

end ModelSearch.Device
