import ModelSearch.Platform
import ModelSearch.Proofs.Value.Parts

/-!
# Values with their sets in an order

A value whose sets give their items in some order has the parts of the value, each with its sets in
that order.  It is the same as what the value is the same as, and has integers as long as it.

    u ∈ (v.arranged o).parts → u is w.arranged o for a part w of v     (exists_part_of_arranged)
    (v.arranged o).sameAs w = v.sameAs w                               (sameAs_arranged)
-/

namespace ModelSearch.Value

variable {o : SetOrder}

/-! ## One value -/

theorem arrangedAll_eq (vs : List Value) : arrangedAll o vs = vs.map (arranged o) := by
  induction vs with
  | nil => rfl
  | cons v vs ih => rw [arrangedAll, ih, List.map_cons]

theorem arrangedEntries_eq (es : List (Value × Value)) :
    arrangedEntries o es = es.map fun e => (e.1.arranged o, e.2.arranged o) := by
  induction es with
  | nil => rfl
  | cons e es ih => rw [arrangedEntries, ih, List.map_cons]

theorem arranged_of_not_collection {v : Value} (h : v.isCollection = false) : v.arranged o = v := by
  cases v <;> first | rfl | cases h

@[simp] theorem isCollection_arranged (v : Value) : (v.arranged o).isCollection = v.isCollection := by
  cases v <;> rfl

@[simp] theorem mark?_arranged (v : Value) : (v.arranged o).mark? = v.mark? := by
  cases v with
  | tuple m xs => cases xs <;> rfl
  | _ => rfl

mutual

/-- The order in which the items were written changes nothing. -/
theorem arranged_written : ∀ v : Value, v.arranged .written = v
  | .null | .bool _ | .int _ | .float _ | .notANumber _ | .text _ | .bytes _ | .date _ _
  | .moment _ _ => rfl
  | .list m xs => congrArg (list m) (arrangedAll_written xs)
  | .tuple m xs => congrArg (tuple m) (arrangedAll_written xs)
  | .set m xs => congrArg (set m) (arrangedAll_written xs)
  | .dict m es => congrArg (dict m) (arrangedEntries_written es)

theorem arrangedAll_written : ∀ xs : List Value, arrangedAll .written xs = xs
  | [] => rfl
  | x :: xs => by rw [arrangedAll, arranged_written x, arrangedAll_written xs]

theorem arrangedEntries_written : ∀ es : List (Value × Value), arrangedEntries .written es = es
  | [] => rfl
  | (k, v) :: es => by
    rw [arrangedEntries, arranged_written k, arranged_written v, arrangedEntries_written es]

end

/-! ## Parts -/

mutual

theorem exists_part_of_arranged {u : Value} :
    ∀ {v : Value}, u ∈ (v.arranged o).parts → ∃ w ∈ v.parts, u = w.arranged o
  | .null, h | .bool _, h | .int _, h | .float _, h | .notANumber _, h | .text _, h | .bytes _, h
  | .date _ _, h | .moment _ _, h => ⟨_, self_mem_parts _, List.mem_singleton.1 h⟩
  | .list m xs, h => by
    rcases List.mem_cons.1 h with rfl | h
    · exact ⟨_, self_mem_parts _, rfl⟩
    · obtain ⟨w, hw, hu⟩ := exists_item_of_arranged (mem_partsOfAll.1 h)
      exact ⟨w, List.mem_cons_of_mem _ hw, hu⟩
  | .tuple m xs, h => by
    rcases List.mem_cons.1 h with rfl | h
    · exact ⟨_, self_mem_parts _, rfl⟩
    · obtain ⟨w, hw, hu⟩ := exists_item_of_arranged (mem_partsOfAll.1 h)
      exact ⟨w, List.mem_cons_of_mem _ hw, hu⟩
  | .set m xs, h => by
    rcases List.mem_cons.1 h with rfl | h
    · exact ⟨_, self_mem_parts _, rfl⟩
    · obtain ⟨x, hx, hux⟩ := mem_partsOfAll.1 h
      have hx' := (o.perm m _).mem_iff.1 hx
      obtain ⟨w, hw, hu⟩ := exists_item_of_arranged ⟨x, hx', hux⟩
      exact ⟨w, List.mem_cons_of_mem _ hw, hu⟩
  | .dict m es, h => by
    rcases List.mem_cons.1 h with rfl | h
    · exact ⟨_, self_mem_parts _, rfl⟩
    · obtain ⟨w, hw, hu⟩ := exists_entry_of_arranged (mem_partsOfEntries.1 h)
      exact ⟨w, List.mem_cons_of_mem _ hw, hu⟩

theorem exists_item_of_arranged {u : Value} : ∀ {xs : List Value},
    (∃ x ∈ arrangedAll o xs, u ∈ x.parts) → ∃ w ∈ partsOfAll xs, u = w.arranged o
  | [], ⟨_, hx, _⟩ => by cases hx
  | y :: ys, ⟨x, hx, hux⟩ => by
    rcases List.mem_cons.1 hx with rfl | hx
    · obtain ⟨w, hw, hu⟩ := exists_part_of_arranged hux
      exact ⟨w, List.mem_append_left _ hw, hu⟩
    · obtain ⟨w, hw, hu⟩ := exists_item_of_arranged ⟨x, hx, hux⟩
      exact ⟨w, List.mem_append_right _ hw, hu⟩

theorem exists_entry_of_arranged {u : Value} : ∀ {es : List (Value × Value)},
    (∃ e ∈ arrangedEntries o es, u ∈ e.1.parts ∨ u ∈ e.2.parts) →
      ∃ w ∈ partsOfEntries es, u = w.arranged o
  | [], ⟨_, he, _⟩ => by cases he
  | (k, v) :: es, ⟨e, he, hue⟩ => by
    rcases List.mem_cons.1 he with rfl | he
    · rcases hue with hue | hue
      · obtain ⟨w, hw, hu⟩ := exists_part_of_arranged hue
        exact ⟨w, List.mem_append_left _ (List.mem_append_left _ hw), hu⟩
      · obtain ⟨w, hw, hu⟩ := exists_part_of_arranged hue
        exact ⟨w, List.mem_append_left _ (List.mem_append_right _ hw), hu⟩
    · obtain ⟨w, hw, hu⟩ := exists_entry_of_arranged ⟨e, he, hue⟩
      exact ⟨w, List.mem_append_right _ hw, hu⟩

end

/-- What arranging keeps of every part, it keeps throughout. -/
theorem Throughout.arranged {p : Value → Prop} {v : Value} (h : v.Throughout p)
    (hp : ∀ u, p u → p (u.arranged o)) : (v.arranged o).Throughout p := by
  intro u hu
  obtain ⟨w, hw, rfl⟩ := exists_part_of_arranged hu
  exact hp w (h w hw)

/-! ## Equality -/

theorem containedIn_perm {xs ys zs : List Value} (h : xs.Perm ys) :
    containedIn xs zs = containedIn ys zs := by
  rw [Bool.eq_iff_iff, containedIn_iff, containedIn_iff]
  exact forall_congr' fun x => by rw [h.mem_iff]

mutual

/-- Sets are compared whatever the order of their items. -/
theorem sameAs_arranged : ∀ v w : Value, (v.arranged o).sameAs w = v.sameAs w
  | .null, _ | .bool _, _ | .int _, _ | .float _, _ | .notANumber _, _ | .text _, _ | .bytes _, _
  | .date _ _, _ | .moment _ _, _ => rfl
  | .list _ xs, w => by
    cases w with
    | list _ ys => exact sameItems_arranged xs ys
    | _ => rfl
  | .tuple _ xs, w => by
    cases w with
    | tuple _ ys => exact sameItems_arranged xs ys
    | _ => rfl
  | .set m xs, w => by
    cases w with
    | set _ ys =>
      have hp := o.perm m (arrangedAll o xs)
      simp only [arranged, sameAs, hp.length_eq, containedIn_perm hp, containedIn_arranged xs ys]
      simp only [arrangedAll_eq, List.length_map]
    | _ => rfl
  | .dict _ xs, w => by
    cases w with
    | dict _ ys =>
      simp only [arranged, sameAs, agreesWith_arranged xs ys]
      simp only [arrangedEntries_eq, List.length_map]
    | _ => rfl

theorem sameItems_arranged : ∀ xs ys : List Value,
    sameItems (arrangedAll o xs) ys = sameItems xs ys
  | [], _ => rfl
  | _ :: _, [] => rfl
  | x :: xs, y :: ys => by
    simp only [arrangedAll, sameItems, sameAs_arranged x y, sameItems_arranged xs ys]

theorem containedIn_arranged : ∀ xs ys : List Value,
    containedIn (arrangedAll o xs) ys = containedIn xs ys
  | [], _ => rfl
  | x :: xs, ys => by
    simp only [arrangedAll, containedIn, sameAs_arranged x, containedIn_arranged xs ys]

theorem agreesWith_arranged : ∀ xs ys : List (Value × Value),
    agreesWith (arrangedEntries o xs) ys = agreesWith xs ys
  | [], _ => rfl
  | (k, v) :: xs, ys => by
    simp only [arrangedEntries, agreesWith, sameAs_arranged k, sameAs_arranged v,
      agreesWith_arranged xs ys]

end

/-- A text is the same as a value exactly if it is the same as the value arranged. -/
theorem text_sameAs_arranged (s : String) (v : Value) :
    (Value.text s).sameAs (v.arranged o) = (Value.text s).sameAs v := by
  cases v <;> rfl

/-! ## Digits -/

theorem allWithinDigits_perm {xs ys : List Value} (h : xs.Perm ys) :
    allWithinDigits xs = allWithinDigits ys := by
  have hall : ∀ zs, allWithinDigits zs = zs.all withinDigits := by
    intro zs
    induction zs with
    | nil => rfl
    | cons z zs ih => rw [allWithinDigits, ih, List.all_cons]
  rw [hall, hall, h.all_eq]

mutual

@[simp] theorem withinDigits_arranged : ∀ v : Value, (v.arranged o).withinDigits = v.withinDigits
  | .null | .bool _ | .int _ | .float _ | .notANumber _ | .text _ | .bytes _ | .date _ _
  | .moment _ _ => rfl
  | .list _ xs | .tuple _ xs => allWithinDigits_arranged xs
  | .set m xs =>
    (allWithinDigits_perm (o.perm m (arrangedAll o xs))).trans (allWithinDigits_arranged xs)
  | .dict _ es => entriesWithinDigits_arranged es

theorem allWithinDigits_arranged : ∀ xs : List Value,
    allWithinDigits (arrangedAll o xs) = allWithinDigits xs
  | [] => rfl
  | x :: xs => by
    simp only [arrangedAll, allWithinDigits, withinDigits_arranged x, allWithinDigits_arranged xs]

theorem entriesWithinDigits_arranged : ∀ es : List (Value × Value),
    entriesWithinDigits (arrangedEntries o es) = entriesWithinDigits es
  | [] => rfl
  | (k, v) :: es => by
    simp only [arrangedEntries, entriesWithinDigits, withinDigits_arranged k,
      withinDigits_arranged v, entriesWithinDigits_arranged es]

end

end ModelSearch.Value
