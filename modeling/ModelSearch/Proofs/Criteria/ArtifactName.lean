import ModelSearch.Criteria.Builder
import ModelSearch.Proofs.Text.Cutting

/-!
# Artifact ids

What an id says, by its colons: an id without one stands for itself, one colon between two texts
that are not empty qualifies it, and every other id is malformed.

    of text = .bare id          ↔ id = text, without a colon
    of text = .qualified g a    ↔ text = g ++ ":" ++ a, parts not empty and without a colon
    of text = .malformed        ↔ a colon, but no such parts
-/

namespace ModelSearch.ArtifactName

/-- An id of a group and an artifact: two texts around the one colon, neither of them empty. -/
def IsQualified (text g a : String) : Prop :=
  text = g ++ ":" ++ a ∧ g ≠ "" ∧ a ≠ "" ∧ ':' ∉ g.toList ∧ ':' ∉ a.toList

instance (text g a : String) : Decidable (IsQualified text g a) :=
  inferInstanceAs (Decidable (_ ∧ _))

theorem IsQualified.toList {text g a : String} (h : IsQualified text g a) :
    text.toList = g.toList ++ ':' :: a.toList := by
  rw [h.1]
  simp

theorem IsQualified.colon_mem {text g a : String} (h : IsQualified text g a) :
    ':' ∈ text.toList := by
  rw [h.toList]
  simp

/-- Two parts of the text make it qualified exactly when they are the pieces at its colon. -/
theorem isQualified_iff {text g a : String} :
    IsQualified text g a ↔
      Text.splitAt ':' text.toList = [g.toList, a.toList] ∧ g ≠ "" ∧ a ≠ "" := by
  rw [Text.splitAt_eq_pair_iff]
  constructor
  · intro h
    exact ⟨⟨h.toList, h.2.2.2⟩, h.2.1, h.2.2.1⟩
  · rintro ⟨⟨ht, hg, ha⟩, hg0, ha0⟩
    refine ⟨?_, hg0, ha0, hg, ha⟩
    apply String.ext
    simpa using ht

theorem of_eq_bare {text : String} (h : ':' ∉ text.toList) : of text = .bare text := by
  rw [of, Text.splitAt_of_notMem ':' text.toList h]

theorem of_eq_qualified {text g a : String} (h : IsQualified text g a) :
    of text = .qualified g a := by
  obtain ⟨hs, hg, ha⟩ := isQualified_iff.1 h
  have hg' : g.toList.isEmpty = false := by simpa using hg
  have ha' : a.toList.isEmpty = false := by simpa using ha
  rw [of, hs]
  simp [hg', ha']

theorem IsQualified.unique {text g a g' a' : String} (h : IsQualified text g a)
    (h' : IsQualified text g' a') : g = g' ∧ a = a' := by
  have hname := (of_eq_qualified h).symm.trans (of_eq_qualified h')
  cases hname
  exact ⟨rfl, rfl⟩

theorem of_eq_malformed {text : String} (hc : ':' ∈ text.toList)
    (h : ∀ g a, ¬IsQualified text g a) : of text = .malformed := by
  unfold of
  split
  · next p hp =>
    exact absurd hc (Text.splitAt_eq_singleton_iff.1 hp).2
  · next g a hp =>
    split
    · rfl
    · next he =>
      simp only [Bool.or_eq_true, List.isEmpty_iff, not_or] at he
      refine absurd (isQualified_iff.2 ⟨?_, ?_, ?_⟩) (h (.ofList g) (.ofList a))
      · simpa using hp
      · exact fun e => he.1 (String.ofList_eq_empty_iff.1 e)
      · exact fun e => he.2 (String.ofList_eq_empty_iff.1 e)
  · rfl

/-- Every id is of exactly one of the three kinds. -/
theorem of_cases (text : String) :
    (':' ∉ text.toList ∧ of text = .bare text) ∨
    (∃ g a, IsQualified text g a ∧ of text = .qualified g a) ∨
    (':' ∈ text.toList ∧ (∀ g a, ¬IsQualified text g a) ∧ of text = .malformed) := by
  by_cases hc : ':' ∈ text.toList
  · by_cases hq : ∃ g a, IsQualified text g a
    · obtain ⟨g, a, h⟩ := hq
      exact .inr (.inl ⟨g, a, h, of_eq_qualified h⟩)
    · have hn : ∀ g a, ¬IsQualified text g a := fun g a h => hq ⟨g, a, h⟩
      exact .inr (.inr ⟨hc, hn, of_eq_malformed hc hn⟩)
  · exact .inl ⟨hc, of_eq_bare hc⟩

end ModelSearch.ArtifactName
