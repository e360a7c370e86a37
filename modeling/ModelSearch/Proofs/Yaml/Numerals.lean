import ModelSearch.Proofs.Yaml.NumberForms
import ModelSearch.Proofs.Yaml.ScalarText

/-!
# Numerals as numbers are shown

A document can spell one number in many ways: with zeros in front or behind, in four bases and in base
sixty, with underscores, a plus sign or an exponent.  A number is shown in one of them, so only that
one is shown again when it is read.

    s is read as a number that is shown as s  ↔  s is a shown numeral          (shownNumeral_iff)
-/

namespace ModelSearch.Yaml

/-- A plain text that is taken for a number. -/
def IsNumeral (s : String) : Prop := implicitTag s = .int ∨ implicitTag s = .float

/-- The way a number is shown: an integer within the limit by its decimal digits, with a minus sign
or none, and a floating-point number by its text. -/
def ShownNumeral (s : String) : Prop :=
  (implicitTag s = .int ∧ ∃ n : Int, n.natAbs < 10 ^ Text.maxDigits ∧ s = toString n) ∨
    (implicitTag s = .float ∧ ∃ x : Binary64, x.Normal ∧ s = x.text)

variable {s : String} {v : Value}

theorem looksFloat_of_implicitTag (h : implicitTag s = .float) : looksFloat s.toList = true := by
  unfold implicitTag at h
  by_contra hfloat
  simp only [hfloat, if_false] at h
  split_ifs at h

theorem looksInt_of_implicitTag (h : implicitTag s = .int) : looksInt s.toList = true := by
  unfold implicitTag at h
  by_contra hint
  simp only [hint, if_false] at h
  split_ifs at h

theorem IsNumeral.numberForm (h : IsNumeral s) : NumberForm s.toList := by
  rcases h with h | h
  · exact numberForm_of_looksInt (looksInt_of_implicitTag h)
  · exact numberForm_of_looksFloat (looksFloat_of_implicitTag h)

theorem exists_int_of_readInt (h : readInt s = .ok v) : ∃ n, v = .int n := by
  unfold readInt at h
  obtain ⟨⟨neg, body⟩, -, h⟩ := bind_eq_ok.1 h
  obtain ⟨m, -, h⟩ := bind_eq_ok.1 h
  exact ⟨_, (Except.ok.inj h).symm⟩

theorem pointed_of_mem {xs : List Char} (h : '.' ∈ xs) : pointed xs = xs := by
  unfold pointed
  split
  · exact if_pos (List.contains_iff_mem.2 h)
  · rfl

/-- A floating-point number that is shown with a point is written as it is shown. -/
theorem floatText_of_mem {x : Binary64} (h : '.' ∈ x.text.toList) : floatText x = x.text := by
  cases x with
  | infinite neg =>
    cases neg
    · exact absurd h (by decide)
    · exact absurd h (by decide)
  | finite neg m e =>
    show String.ofList (pointed (Binary64.finite neg m e).text.toList) = _
    rw [pointed_of_mem h, String.ofList_toList]

theorem shown_int_iff {n : Int} {t : String} :
    (Value.int n).shown = .ok t ↔ n.natAbs < 10 ^ Text.maxDigits ∧ toString n = t := by
  unfold Value.shown Value.withinDigits
  by_cases hn : n.natAbs < 10 ^ Text.maxDigits
  · rw [if_pos (decide_eq_true hn), Except.ok.injEq]
    exact (and_iff_right hn).symm
  · rw [if_neg (by simpa using hn)]
    exact iff_of_false (fun h => by cases h) fun h => hn h.1

/-- Reading and showing give a numeral back exactly if it is the one that its number is shown as. -/
theorem shownNumeral_iff (h : IsNumeral s) (mark : Mark) : ShownNumeral s ↔
    ∃ v, scalarValue? mark (implicitTag s) s = some (.ok v) ∧ v.shown = .ok s := by
  constructor
  · rintro (⟨htag, n, hn, rfl⟩ | ⟨htag, x, hx, rfl⟩)
    · refine ⟨.int n, ?_, shown_int_iff.2 ⟨hn, rfl⟩⟩
      rw [htag, scalarValue?, readInt_toString hn]
    · have hpoint := point_mem_of_looksFloat (looksFloat_of_implicitTag htag)
      refine ⟨.float x, ?_, rfl⟩
      rw [htag, scalarValue?, ← floatText_of_mem hpoint, readFloat_floatText mark hx]
  · rintro ⟨v, hv, hshown⟩
    rcases h with htag | htag
    · rw [htag] at hv
      obtain ⟨n, rfl⟩ := exists_int_of_readInt (Option.some.inj hv)
      obtain ⟨hn, hs⟩ := shown_int_iff.1 hshown
      exact .inl ⟨htag, n, hn, hs.symm⟩
    · have hread := hv
      rw [htag] at hread
      rcases normal_of_readFloat (Option.some.inj hread) with ⟨x, rfl, hx⟩ | ⟨m, rfl⟩
      · exact .inr ⟨htag, x, hx, (Except.ok.inj hshown).symm⟩
      · -- The word that is shown for what is not a number is no numeral.
        have hword : "nan" = s := Except.ok.inj hshown
        have htext : implicitTag "nan" = .text := by decide +kernel
        rw [← hword, htext] at htag
        cases htag

end ModelSearch.Yaml
