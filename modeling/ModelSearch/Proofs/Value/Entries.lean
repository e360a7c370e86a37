import ModelSearch.Value.Basic

/-!
# Mappings and their keys

A mapping never has a key that is the same as an earlier one.  Assigning keeps that, and assigning
the entries of a mapping to an empty one, one after the other, gives the mapping again.

    (es.assign k v).Distinct            if es.Distinct        (Distinct.assign)
    assignAll [] es = es                if es.Distinct        (assignAll_nil)
-/

namespace ModelSearch.Entries

/-- No key is the same as an earlier one. -/
def Distinct (es : Entries) : Prop := es.Pairwise fun e f => f.1.sameAs e.1 = false

theorem distinct_nil : Distinct [] := List.Pairwise.nil

/-- An entry after an assignment: one of those before, or the new value under the new key or under a
key that was there. -/
theorem mem_assign {es : Entries} {k v : Value} {e : Value × Value} (h : e ∈ es.assign k v) :
    e ∈ es ∨ (e.2 = v ∧ (e.1 = k ∨ ∃ f ∈ es, f.1 = e.1)) := by
  induction es with
  | nil =>
    simp only [assign, List.mem_singleton] at h
    exact .inr ⟨by rw [h], .inl (by rw [h])⟩
  | cons f fs ih =>
    unfold assign at h
    split at h
    · rcases List.mem_cons.1 h with rfl | h
      · exact .inr ⟨rfl, .inr ⟨f, by simp⟩⟩
      · exact .inl (List.mem_cons_of_mem _ h)
    · rcases List.mem_cons.1 h with rfl | h
      · exact .inl List.mem_cons_self
      · rcases ih h with hf | ⟨hv, hk | ⟨g, hg, hk⟩⟩
        · exact .inl (List.mem_cons_of_mem _ hf)
        · exact .inr ⟨hv, .inl hk⟩
        · exact .inr ⟨hv, .inr ⟨g, List.mem_cons_of_mem _ hg, hk⟩⟩

/-- What holds of all keys and what holds of all values go on holding. -/
theorem forall_assign {es : Entries} {p q : Value → Prop} {k v : Value}
    (h : ∀ e ∈ es, p e.1 ∧ q e.2) (hk : p k) (hv : q v) :
    ∀ e ∈ es.assign k v, p e.1 ∧ q e.2 := by
  intro e he
  rcases mem_assign he with he | ⟨hq, rfl | ⟨f, hf, hp⟩⟩
  · exact h e he
  · exact ⟨hk, by rw [hq]; exact hv⟩
  · exact ⟨by rw [← hp]; exact (h f hf).1, by rw [hq]; exact hv⟩

theorem forall_assignAll {es more : Entries} {p q : Value → Prop}
    (h : ∀ e ∈ es, p e.1 ∧ q e.2) (hm : ∀ e ∈ more, p e.1 ∧ q e.2) :
    ∀ e ∈ es.assignAll more, p e.1 ∧ q e.2 := by
  induction more generalizing es with
  | nil => exact h
  | cons f more ih =>
    have hf := hm f List.mem_cons_self
    exact ih (forall_assign h hf.1 hf.2) fun e he => hm e (List.mem_cons_of_mem _ he)

theorem Distinct.assign {es : Entries} (h : es.Distinct) (k v : Value) :
    (es.assign k v).Distinct := by
  unfold Distinct at *
  induction es with
  | nil => simp [Entries.assign]
  | cons e es ih =>
    rw [List.pairwise_cons] at h
    unfold Entries.assign
    split
    · next hk => exact List.pairwise_cons.2 ⟨h.1, h.2⟩
    · next hk =>
      refine List.pairwise_cons.2 ⟨?_, ih h.2⟩
      intro f hf
      rcases mem_assign hf with hf | ⟨-, hfk | ⟨g, hg, hgk⟩⟩
      · exact h.1 f hf
      · rw [hfk]
        simpa using hk
      · rw [← hgk]
        exact h.1 g hg

theorem Distinct.assignAll {es : Entries} (h : es.Distinct) (more : Entries) :
    (es.assignAll more).Distinct := by
  induction more generalizing es with
  | nil => exact h
  | cons e more ih => exact ih (h.assign e.1 e.2)

/-- A new key goes to the end. -/
theorem assign_of_forall {es : Entries} {k : Value} (h : ∀ e ∈ es, k.sameAs e.1 = false)
    (v : Value) : es.assign k v = es ++ [(k, v)] := by
  induction es with
  | nil => rfl
  | cons e es ih =>
    have he := h e List.mem_cons_self
    simp [assign, he, ih fun f hf => h f (List.mem_cons_of_mem _ hf)]

theorem assignAll_of_distinct {es more : Entries} (h : Distinct (es ++ more)) :
    es.assignAll more = es ++ more := by
  induction more generalizing es with
  | nil => simp [assignAll]
  | cons e more ih =>
    have hnew : ∀ f ∈ es, e.1.sameAs f.1 = false := by
      intro f hf
      exact (List.pairwise_append.1 h).2.2 f hf e List.mem_cons_self
    have hstep : es.assignAll (e :: more) = (es ++ [(e.1, e.2)]).assignAll more := by
      rw [← assign_of_forall hnew]
      rfl
    rw [hstep, ih (by simpa using h)]
    simp

theorem assignAll_nil {es : Entries} (h : es.Distinct) : assignAll [] es = es :=
  assignAll_of_distinct (by simpa using h)

end ModelSearch.Entries
