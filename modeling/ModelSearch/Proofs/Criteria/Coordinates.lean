import ModelSearch.Proofs.Criteria.ArtifactGroup

/-!
# The coordinates of a loader

A loader is named by its group and its artifact with a colon between them.  As an artifact id its
coordinates are qualified exactly if both are parts of one: not empty and without a colon of their
own.  A builder takes the loader's group and artifact from them then, and refuses them otherwise;
and every qualified id that it takes is the coordinates of what it took.

    IsQualified l.coordinates g a ↔ l.Addressable ∧ g = l.groupId ∧ a = l.artifactId
                                                              (isQualified_coordinates_iff)
-/

namespace ModelSearch

/-- What can stand on a side of the colon. -/
def ArtifactName.IsPart (id : String) : Prop := id ≠ "" ∧ ':' ∉ id.toList

instance (id : String) : Decidable (ArtifactName.IsPart id) :=
  inferInstanceAs (Decidable (_ ∧ _))

namespace ModelLoader

open ArtifactName

variable {l m : ModelLoader} {b : Builder} {g a : String}

/-- A loader that its coordinates lead back to. -/
def Addressable (l : ModelLoader) : Prop := IsPart l.groupId ∧ IsPart l.artifactId

instance (l : ModelLoader) : Decidable l.Addressable := inferInstanceAs (Decidable (_ ∧ _))

theorem toList_coordinates (l : ModelLoader) :
    l.coordinates.toList = l.groupId.toList ++ ':' :: l.artifactId.toList := by
  simp [coordinates]

theorem isQualified_coordinates_iff :
    IsQualified l.coordinates g a ↔ l.Addressable ∧ g = l.groupId ∧ a = l.artifactId := by
  constructor
  · intro h
    obtain ⟨hsplit, hg, ha⟩ := isQualified_iff.1 h
    rw [toList_coordinates, Text.splitAt_append_cons] at hsplit
    -- each side of the colon has a piece at least, so of two pieces each is a whole side
    cases hgroup : Text.splitAt ':' l.groupId.toList with
    | nil => exact absurd hgroup (Text.splitAt_ne_nil _ _)
    | cons p ps =>
      rw [hgroup, List.cons_append, List.cons.injEq, List.append_eq_singleton_iff] at hsplit
      obtain ⟨rfl, ⟨rfl, hartifact⟩ | ⟨-, hnil⟩⟩ := hsplit
      · obtain ⟨hgl, hgc⟩ := Text.splitAt_eq_singleton_iff.1 hgroup
        obtain ⟨hal, hac⟩ := Text.splitAt_eq_singleton_iff.1 hartifact
        obtain rfl := String.toList_inj.1 hgl
        obtain rfl := String.toList_inj.1 hal
        exact ⟨⟨⟨hg, hgc⟩, ha, hac⟩, rfl, rfl⟩
      · exact absurd hnil (Text.splitAt_ne_nil _ _)
  · rintro ⟨⟨hg, ha⟩, rfl, rfl⟩
    exact ⟨rfl, hg.1, ha.1, hg.2, ha.2⟩

theorem apply_of_addressable (h : l.Addressable) :
    b.apply (.artifactId l.coordinates)
      = ⟨{ b with groupId := some l.groupId, artifactId := some l.artifactId }, none, []⟩ :=
  Builder.apply_qualified (isQualified_coordinates_iff.2 ⟨h, rfl, rfl⟩)

theorem apply_of_not_addressable (h : ¬l.Addressable) :
    b.apply (.artifactId l.coordinates) = ⟨b, some (.artifactId l.coordinates), []⟩ := by
  refine Builder.apply_malformed ?_ fun g a hq => h (isQualified_coordinates_iff.1 hq).1
  simp [toList_coordinates]

theorem fault_apply_eq_none_iff :
    (b.apply (.artifactId l.coordinates)).fault = none ↔ l.Addressable := by
  by_cases h : l.Addressable
  · simp [apply_of_addressable h, h]
  · simp [apply_of_not_addressable h, h]

/-- Of loaders that their coordinates lead back to, only those of one group and one artifact have the
same coordinates. -/
theorem coordinates_inj (hl : l.Addressable) (hm : m.Addressable) :
    l.coordinates = m.coordinates ↔ l.groupId = m.groupId ∧ l.artifactId = m.artifactId := by
  constructor
  · intro h
    have hql := isQualified_coordinates_iff.2 ⟨hl, rfl, rfl⟩
    have hqm := isQualified_coordinates_iff.2 ⟨hm, rfl, rfl⟩
    rw [h] at hql
    exact hql.unique hqm
  · rintro ⟨hgroup, hartifact⟩
    rw [coordinates, coordinates, hgroup, hartifact]

/-! ## Main result -/

/-- The coordinates of a loader and qualified ids are inverse.  A builder takes coordinates exactly if
neither the group nor the artifact is empty or has a colon: it has both of them then and is the same
otherwise, and it stays as it is when it refuses them.  What it takes tells the group and the
artifact, and every id with a colon that it takes is the coordinates of what it has then. -/
theorem coordinates_laws (l : ModelLoader) (b : Builder) :
    ((b.apply (.artifactId l.coordinates)).fault = none ↔
      (l.groupId ≠ "" ∧ ':' ∉ l.groupId.toList) ∧ (l.artifactId ≠ "" ∧ ':' ∉ l.artifactId.toList)) ∧
    ((b.apply (.artifactId l.coordinates)).fault = none →
      b.apply (.artifactId l.coordinates)
        = ⟨{ b with groupId := some l.groupId, artifactId := some l.artifactId }, none, []⟩) ∧
    ((b.apply (.artifactId l.coordinates)).fault ≠ none →
      b.apply (.artifactId l.coordinates) = ⟨b, some (.artifactId l.coordinates), []⟩) ∧
    (∀ (m : ModelLoader) (c : Builder), (b.apply (.artifactId l.coordinates)).fault = none →
      (c.apply (.artifactId m.coordinates)).fault = none →
      (l.coordinates = m.coordinates ↔ l.groupId = m.groupId ∧ l.artifactId = m.artifactId)) ∧
    ∀ text, ':' ∈ text.toList → (b.apply (.artifactId text)).fault = none →
      ∃ g a, b.apply (.artifactId text)
          = ⟨{ b with groupId := some g, artifactId := some a }, none, []⟩ ∧
        { l with groupId := g, artifactId := a }.coordinates = text := by
  refine ⟨fault_apply_eq_none_iff, fun h => ?_, fun h => ?_, fun m c hl hm => ?_,
    fun text hcolon htext => ?_⟩
  · exact apply_of_addressable (fault_apply_eq_none_iff.1 h)
  · exact apply_of_not_addressable fun ha => h (fault_apply_eq_none_iff.2 ha)
  · exact coordinates_inj (fault_apply_eq_none_iff.1 hl) (fault_apply_eq_none_iff.1 hm)
  · by_cases hq : ∃ g a, IsQualified text g a
    · obtain ⟨g, a, hq⟩ := hq
      exact ⟨g, a, Builder.apply_qualified hq, hq.1.symm⟩
    · have hnone : ∀ g a, ¬IsQualified text g a := fun g a h => hq ⟨g, a, h⟩
      rw [Builder.apply_malformed hcolon hnone] at htext
      cases htext

/-- A loader that is nothing but its group and its artifact. -/
def named (group artifact : String) : ModelLoader := ⟨group, artifact, none, []⟩

/-- A builder with an artifact of a group of its own. -/
def occupied : Builder :=
  { engine := some "PyTorch", groupId := some "own", artifactId := some "model" }

/-- Two loaders may have the same coordinates, and a builder takes them for neither. -/
theorem coordinates_laws_ambiguous :
    (named "a:b" "c").coordinates = (named "a" "b:c").coordinates ∧
      occupied.apply (.artifactId (named "a:b" "c").coordinates)
        = ⟨occupied, some (.artifactId "a:b:c"), []⟩ ∧
      occupied.apply (.artifactId (named "zoo" "bert").coordinates)
        = ⟨{ engine := some "PyTorch", groupId := some "zoo", artifactId := some "bert" }, none, []⟩ ∧
      (named "zoo" "bert").coordinates ≠ (named "zoo" "resnet").coordinates ∧
      ∃ g a, (occupied.apply (.artifactId "zoo:bert")).builder.groupId = some g ∧
        (occupied.apply (.artifactId "zoo:bert")).builder.artifactId = some a ∧
        (named g a).coordinates = "zoo:bert" := by
  obtain ⟨hiff, -, hrefused, -⟩ := coordinates_laws (named "a:b" "c") occupied
  obtain ⟨hbert, htaken, -, htold, hback⟩ := coordinates_laws (named "zoo" "bert") occupied
  have hok := hbert.2 (by decide)
  have hresnet := (coordinates_laws (named "zoo" "resnet") occupied).1.2 (by decide)
  refine ⟨by decide, hrefused fun h => absurd (hiff.1 h) (by decide), htaken hok, ?_, ?_⟩
  · exact fun h => absurd ((htold _ occupied hok hresnet).1 h).2 (by decide)
  · obtain ⟨g, a, happly, hcoordinates⟩ := hback "zoo:bert" (by decide) hok
    exact ⟨g, a, by rw [happly], by rw [happly], hcoordinates⟩

end ModelLoader

end ModelSearch
