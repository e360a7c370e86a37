import ModelSearch.Proofs.Value.Same

/-!
# The parts of a value

A value, its items, keys and values, and theirs.  What is said of all parts of a value is said of the
value and of all parts of what it holds.

    u ∈ v.parts        by the constructor of v        (mem_parts_list and the others)
    v.Comparable ↔ every part of v is comparable on its own               (comparable_iff_parts)
-/

namespace ModelSearch.Value

mutual

/-- A value and everything in it. -/
def parts : Value → List Value
  | .list k xs => .list k xs :: partsOfAll xs
  | .tuple k xs => .tuple k xs :: partsOfAll xs
  | .set k xs => .set k xs :: partsOfAll xs
  | .dict k es => .dict k es :: partsOfEntries es
  | v => [v]

def partsOfAll : List Value → List Value
  | [] => []
  | v :: vs => parts v ++ partsOfAll vs

def partsOfEntries : List (Value × Value) → List Value
  | [] => []
  | (k, v) :: es => parts k ++ parts v ++ partsOfEntries es

end

@[simp] theorem self_mem_parts (v : Value) : v ∈ v.parts := by cases v <;> simp [parts]

@[simp] theorem mem_partsOfAll {u : Value} {xs : List Value} :
    u ∈ partsOfAll xs ↔ ∃ x ∈ xs, u ∈ x.parts := by
  induction xs with
  | nil => simp [partsOfAll]
  | cons x xs ih => simp [partsOfAll, ih]

@[simp] theorem mem_partsOfEntries {u : Value} {es : List (Value × Value)} :
    u ∈ partsOfEntries es ↔ ∃ e ∈ es, u ∈ e.1.parts ∨ u ∈ e.2.parts := by
  induction es with
  | nil => simp [partsOfEntries]
  | cons e es ih => simp [partsOfEntries, ih, or_assoc]

/-! ## What holds of all parts -/

/-- A condition on a value and everything in it. -/
def Throughout (p : Value → Prop) (v : Value) : Prop := ∀ u ∈ v.parts, p u

variable {p q : Value → Prop}

theorem Throughout.self {v : Value} (h : v.Throughout p) : p v := h v v.self_mem_parts

theorem Throughout.and {v : Value} (h : v.Throughout p) (k : v.Throughout q) :
    v.Throughout fun u => p u ∧ q u :=
  fun u hu => ⟨h u hu, k u hu⟩

theorem Throughout.imp {v : Value} (h : v.Throughout p) (hpq : ∀ u, p u → q u) : v.Throughout q :=
  fun u hu => hpq u (h u hu)

theorem throughout_list {k : Mark} {xs : List Value} :
    (Value.list k xs).Throughout p ↔ p (.list k xs) ∧ ∀ x ∈ xs, x.Throughout p := by
  simp only [Throughout, parts, List.mem_cons, mem_partsOfAll, forall_eq_or_imp]
  exact and_congr_right fun _ => ⟨fun h x hx u hu => h u ⟨x, hx, hu⟩, fun h u ⟨x, hx, hu⟩ => h x hx u hu⟩

theorem throughout_tuple {k : Mark} {xs : List Value} :
    (Value.tuple k xs).Throughout p ↔ p (.tuple k xs) ∧ ∀ x ∈ xs, x.Throughout p := by
  simp only [Throughout, parts, List.mem_cons, mem_partsOfAll, forall_eq_or_imp]
  exact and_congr_right fun _ => ⟨fun h x hx u hu => h u ⟨x, hx, hu⟩, fun h u ⟨x, hx, hu⟩ => h x hx u hu⟩

theorem throughout_set {k : Mark} {xs : List Value} :
    (Value.set k xs).Throughout p ↔ p (.set k xs) ∧ ∀ x ∈ xs, x.Throughout p := by
  simp only [Throughout, parts, List.mem_cons, mem_partsOfAll, forall_eq_or_imp]
  exact and_congr_right fun _ => ⟨fun h x hx u hu => h u ⟨x, hx, hu⟩, fun h u ⟨x, hx, hu⟩ => h x hx u hu⟩

theorem throughout_dict {k : Mark} {es : List (Value × Value)} :
    (Value.dict k es).Throughout p ↔
      p (.dict k es) ∧ ∀ e ∈ es, e.1.Throughout p ∧ e.2.Throughout p := by
  simp only [Throughout, parts, List.mem_cons, mem_partsOfEntries, forall_eq_or_imp]
  refine and_congr_right fun _ => ⟨fun h e he => ⟨fun u hu => ?_, fun u hu => ?_⟩, ?_⟩
  · exact h u ⟨e, he, .inl hu⟩
  · exact h u ⟨e, he, .inr hu⟩
  · rintro h u ⟨e, he, hu | hu⟩
    · exact (h e he).1 u hu
    · exact (h e he).2 u hu

mutual

/-- The parts of a part are parts. -/
theorem mem_parts_trans {u : Value} : ∀ {v w : Value}, v ∈ w.parts → u ∈ v.parts → u ∈ w.parts
  | v, .null, hv, hu | v, .bool _, hv, hu | v, .int _, hv, hu | v, .float _, hv, hu
  | v, .notANumber _, hv, hu | v, .text _, hv, hu | v, .bytes _, hv, hu | v, .date _ _, hv, hu
  | v, .moment _ _, hv, hu => by rwa [List.mem_singleton.1 hv] at hu
  | v, .list k xs, hv, hu | v, .tuple k xs, hv, hu | v, .set k xs, hv, hu => by
    simp only [parts, List.mem_cons] at hv ⊢
    rcases hv with rfl | hv
    · simpa only [parts, List.mem_cons] using hu
    · exact .inr (mem_partsOfAll_trans hv hu)
  | v, .dict k es, hv, hu => by
    simp only [parts, List.mem_cons] at hv ⊢
    rcases hv with rfl | hv
    · simpa only [parts, List.mem_cons] using hu
    · exact .inr (mem_partsOfEntries_trans hv hu)

theorem mem_partsOfAll_trans {u : Value} : ∀ {v : Value} {xs : List Value},
    v ∈ partsOfAll xs → u ∈ v.parts → u ∈ partsOfAll xs
  | v, [], hv, hu => by cases hv
  | v, x :: xs, hv, hu => by
    simp only [partsOfAll, List.mem_append] at hv ⊢
    rcases hv with hv | hv
    · exact .inl (mem_parts_trans hv hu)
    · exact .inr (mem_partsOfAll_trans hv hu)

theorem mem_partsOfEntries_trans {u : Value} : ∀ {v : Value} {es : List (Value × Value)},
    v ∈ partsOfEntries es → u ∈ v.parts → u ∈ partsOfEntries es
  | v, [], hv, hu => by cases hv
  | v, (x, y) :: es, hv, hu => by
    simp only [partsOfEntries, List.mem_append] at hv ⊢
    rcases hv with (hv | hv) | hv
    · exact .inl (.inl (mem_parts_trans hv hu))
    · exact .inl (.inr (mem_parts_trans hv hu))
    · exact .inr (mem_partsOfEntries_trans hv hu)

end

mutual

theorem sizeOf_le_of_mem_parts {u : Value} : ∀ {v : Value}, u ∈ v.parts → sizeOf u ≤ sizeOf v
  | .null, h | .bool _, h | .int _, h | .float _, h | .notANumber _, h | .text _, h | .bytes _, h
  | .date _ _, h | .moment _ _, h => by
    exact Nat.le_of_eq (congrArg sizeOf (List.mem_singleton.1 h))
  | .list k xs, h => by
    rcases List.mem_cons.1 h with rfl | h
    · exact Nat.le_refl _
    · have := sizeOf_le_of_mem_partsOfAll h
      simp only [list.sizeOf_spec]
      omega
  | .tuple k xs, h => by
    rcases List.mem_cons.1 h with rfl | h
    · exact Nat.le_refl _
    · have := sizeOf_le_of_mem_partsOfAll h
      simp only [tuple.sizeOf_spec]
      omega
  | .set k xs, h => by
    rcases List.mem_cons.1 h with rfl | h
    · exact Nat.le_refl _
    · have := sizeOf_le_of_mem_partsOfAll h
      simp only [set.sizeOf_spec]
      omega
  | .dict k es, h => by
    rcases List.mem_cons.1 h with rfl | h
    · exact Nat.le_refl _
    · have := sizeOf_le_of_mem_partsOfEntries h
      simp only [dict.sizeOf_spec]
      omega

theorem sizeOf_le_of_mem_partsOfAll {u : Value} : ∀ {xs : List Value}, u ∈ partsOfAll xs →
    sizeOf u ≤ sizeOf xs
  | [], h => by cases h
  | x :: xs, h => by
    rw [List.cons.sizeOf_spec]
    rcases List.mem_append.1 h with h | h
    · have := sizeOf_le_of_mem_parts h
      omega
    · have := sizeOf_le_of_mem_partsOfAll h
      omega

theorem sizeOf_le_of_mem_partsOfEntries {u : Value} : ∀ {es : List (Value × Value)},
    u ∈ partsOfEntries es → sizeOf u ≤ sizeOf es
  | [], h => by cases h
  | (k, v) :: es, h => by
    rw [List.cons.sizeOf_spec, Prod.mk.sizeOf_spec]
    rcases List.mem_append.1 h with h | h
    · rcases List.mem_append.1 h with h | h
      · have := sizeOf_le_of_mem_parts h
        omega
      · have := sizeOf_le_of_mem_parts h
        omega
    · have := sizeOf_le_of_mem_partsOfEntries h
      omega

end

theorem Throughout.part {v u : Value} (h : v.Throughout p) (hu : u ∈ v.parts) : u.Throughout p :=
  fun _ hw => h _ (mem_parts_trans hu hw)

/-! ## Comparable values -/

/-- A value on its own keeps no comparison from being true. -/
def ComparablePart : Value → Prop
  | .notANumber _ => False
  | .dict _ es => Entries.Distinct es
  | _ => True

mutual

theorem comparable_iff_parts : ∀ v : Value, v.Comparable ↔ v.Throughout ComparablePart
  | .null | .bool _ | .int _ | .float _ | .notANumber _ | .text _ | .bytes _ | .date _ _
  | .moment _ _ => by simp [Comparable, Throughout, parts, ComparablePart]
  | .list _ xs => by
    rw [throughout_list]
    simpa [Comparable, ComparablePart] using allComparable_iff_parts xs
  | .tuple _ xs => by
    rw [throughout_tuple]
    simpa [Comparable, ComparablePart] using allComparable_iff_parts xs
  | .set _ xs => by
    rw [throughout_set]
    simpa [Comparable, ComparablePart] using allComparable_iff_parts xs
  | .dict _ es => by
    rw [throughout_dict]
    simp only [Comparable, ComparablePart, entriesComparable_iff_parts es]
    exact and_comm

theorem allComparable_iff_parts : ∀ xs : List Value,
    AllComparable xs ↔ ∀ x ∈ xs, x.Throughout ComparablePart
  | [] => by simp [AllComparable]
  | x :: xs => by
    simp only [AllComparable, comparable_iff_parts x, allComparable_iff_parts xs,
      List.forall_mem_cons]

theorem entriesComparable_iff_parts : ∀ es : List (Value × Value),
    EntriesComparable es ↔
      ∀ e ∈ es, e.1.Throughout ComparablePart ∧ e.2.Throughout ComparablePart
  | [] => by simp [EntriesComparable]
  | (k, v) :: es => by
    simp only [EntriesComparable, comparable_iff_parts k, comparable_iff_parts v,
      entriesComparable_iff_parts es, List.forall_mem_cons, and_assoc]

end

end ModelSearch.Value
