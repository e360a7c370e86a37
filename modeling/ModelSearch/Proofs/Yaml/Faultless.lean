import ModelSearch.Proofs.Yaml.Holds

/-!
# Nodes without faults

Looking at a node that holds a readable value finds no fault: in every round, whatever waits is a
collection that holds a readable value, and what it puts on the list is one again.

    n.Holds v, every part of v readable → inspect n = .ok ()           (inspect_of_holds)
-/

namespace ModelSearch.Yaml

/-! ## Faults -/

/-- A node that holds a readable value. -/
def Node.Fine (n : Node) : Prop := ∃ v, n.Holds v ∧ v.Throughout ReadablePart

/-- A collection that holds a readable value. -/
def Node.FineCollection (n : Node) : Prop :=
  ∃ v, n.Holds v ∧ v.Throughout ReadablePart ∧ scalarForm? v = none

theorem meet_fine {m : Met} {n : Node} (hm : ∀ x ∈ m.waiting, x.FineCollection) (h : n.Fine) :
    ∃ m', meet m n = .ok m' ∧ ∀ x ∈ m'.waiting, x.FineCollection := by
  obtain ⟨v, hv, hr⟩ := h
  have hadd : scalarForm? v = none → ∃ m' : Met,
      (if m.serials.contains n.serial then Except.ok m
        else Except.ok (⟨n.serial :: m.serials, m.waiting ++ [n]⟩ : Met) : Except Fault Met) = .ok m' ∧
      ∀ x ∈ m'.waiting, x.FineCollection := by
    intro hc
    split
    · exact ⟨m, rfl, hm⟩
    · refine ⟨_, rfl, fun x hx => ?_⟩
      rcases List.mem_append.1 hx with hx | hx
      · exact hm x hx
      · rw [List.mem_singleton.1 hx]
        exact ⟨v, hv, hr, hc⟩
  cases hf : scalarForm? v with
  | some f =>
    have hrb : ReadsBack v := by
      have := hr.self
      cases v <;> first | exact this | cases hf
    obtain ⟨hs, w, hw, -⟩ := scalarNodeValue_of_holds hv hrb hf 0
    exact ⟨m, by simp [meet, hs, hw, Except.map], hm⟩
  | none =>
    have hshape : n.tag.shape = .sequence ∨ n.tag.shape = .mapping ∨ n.tag.shape = .set := by
      cases v with
      | list => obtain ⟨s, items, rfl, -⟩ := hv; exact .inl rfl
      | tuple => exact hr.self.elim
      | set => obtain ⟨s, entries, rfl, -⟩ := hv; exact .inr (.inr rfl)
      | dict => obtain ⟨s, entries, rfl, -⟩ := hv; exact .inr (.inl rfl)
      | _ => cases hf
    rcases hshape with h | h | h <;> simpa [meet, h] using hadd hf

theorem meetAll_fine {m : Met} {ns : List Node} (hm : ∀ x ∈ m.waiting, x.FineCollection)
    (h : ∀ n ∈ ns, n.Fine) :
    ∃ m', meetAll m ns = .ok m' ∧ ∀ x ∈ m'.waiting, x.FineCollection := by
  induction ns generalizing m with
  | nil => exact ⟨m, rfl, hm⟩
  | cons n ns ih =>
    obtain ⟨m₁, h₁, hm₁⟩ := meet_fine hm (h n List.mem_cons_self)
    obtain ⟨m₂, h₂, hm₂⟩ := ih hm₁ fun x hx => h x (List.mem_cons_of_mem _ hx)
    exact ⟨m₂, by simp [meetAll, h₁, h₂, bind, Except.bind], hm₂⟩

theorem meetEntries_fine {m : Met} {ns : List (Node × Node)}
    (hm : ∀ x ∈ m.waiting, x.FineCollection)
    (h : ∀ e ∈ ns, e.1.tag.shape = .scalar ∧ e.1.Fine ∧ e.2.Fine) :
    ∃ m', meetEntries m ns = .ok m' ∧ ∀ x ∈ m'.waiting, x.FineCollection := by
  induction ns generalizing m with
  | nil => exact ⟨m, rfl, hm⟩
  | cons e ns ih =>
    obtain ⟨hs, hk, hv⟩ := h e List.mem_cons_self
    obtain ⟨m₁, h₁, hm₁⟩ := meet_fine hm hk
    obtain ⟨m₂, h₂, hm₂⟩ := meet_fine hm₁ hv
    obtain ⟨m₃, h₃, hm₃⟩ := ih hm₂ fun x hx => h x (List.mem_cons_of_mem _ hx)
    exact ⟨m₃, by simp [meetEntries, h₁, h₂, h₃, hs, bind, Except.bind], hm₃⟩

theorem fine_of_allHold {ns : List Node} {vs : List Value} (h : AllHold ns vs)
    (hr : ∀ v ∈ vs, v.Throughout ReadablePart) : ∀ n ∈ ns, n.Fine := by
  induction vs generalizing ns with
  | nil =>
    cases h
    simp
  | cons v vs ih =>
    obtain ⟨m, ms, rfl, hm, hms⟩ := h
    intro n hn
    rcases List.mem_cons.1 hn with rfl | hn
    · exact ⟨v, hm, hr v List.mem_cons_self⟩
    · exact ih hms (fun x hx => hr x (List.mem_cons_of_mem _ hx)) n hn

theorem fine_of_entriesHold {ns : List (Node × Node)} {es : List (Value × Value)}
    (h : EntriesHold ns es)
    (hr : ∀ e ∈ es, e.1.Throughout ReadablePart ∧ e.2.Throughout ReadablePart) :
    ∀ n ∈ ns, n.1.Fine ∧ n.2.Fine := by
  induction es generalizing ns with
  | nil =>
    cases h
    simp
  | cons e es ih =>
    obtain ⟨a, b, rest, rfl, ha, hb, hrest⟩ := h
    have he := hr e List.mem_cons_self
    intro n hn
    rcases List.mem_cons.1 hn with rfl | hn
    · exact ⟨⟨e.1, ha, he.1⟩, e.2, hb, he.2⟩
    · exact ih hrest (fun x hx => hr x (List.mem_cons_of_mem _ hx)) n hn

theorem lookInto_fine {m : Met} {n : Node} (hm : ∀ x ∈ m.waiting, x.FineCollection)
    (h : n.FineCollection) :
    ∃ m', lookInto m n = .ok m' ∧ ∀ x ∈ m'.waiting, x.FineCollection := by
  obtain ⟨v, hv, hr, hc⟩ := h
  have hentries : ∀ {ns : List (Node × Node)} {es : List (Value × Value)}, EntriesHold ns es →
      (∀ e ∈ es, IsKey e.1) →
      (∀ e ∈ es, e.1.Throughout ReadablePart ∧ e.2.Throughout ReadablePart) →
      ∃ m', (allEntries ns >>= meetEntries m) = .ok m' ∧ ∀ x ∈ m'.waiting, x.FineCollection := by
    intro ns es he hk hes
    have hkeys := keys_of_entriesHold he fun e h => (hk e h).1
    have hfine := fine_of_entriesHold he hes
    obtain ⟨m', hm', hw⟩ := meetEntries_fine hm fun e h => ⟨(hkeys e h).1, hfine e h⟩
    refine ⟨m', ?_, hw⟩
    rw [allEntries_of_keys fun e h => (hkeys e h).2]
    exact hm'
  cases v with
  | list k xs =>
    obtain ⟨s, items, rfl, hi⟩ := hv
    exact meetAll_fine hm (fine_of_allHold hi (Value.throughout_list.1 hr).2)
  | tuple => exact hr.self.elim
  | set k xs =>
    obtain ⟨s, entries, rfl, hmem⟩ := hv
    obtain ⟨⟨hk, -⟩, hx⟩ := Value.throughout_set.1 hr
    refine hentries (membersHold_iff.1 hmem) ?_ ?_ <;> intro e he <;>
      obtain ⟨x, hx', rfl⟩ := List.mem_map.1 he
    · exact hk x hx'
    · exact ⟨hx x hx', throughout_null⟩
  | dict k es =>
    obtain ⟨s, entries, rfl, he⟩ := hv
    obtain ⟨⟨hk, -⟩, hx⟩ := Value.throughout_dict.1 hr
    exact hentries he hk hx
  | _ => cases hc

theorem lookIntoAll_fine {m : Met} {ns : List Node} (hm : ∀ x ∈ m.waiting, x.FineCollection)
    (h : ∀ n ∈ ns, n.FineCollection) :
    ∃ m', lookIntoAll m ns = .ok m' ∧ ∀ x ∈ m'.waiting, x.FineCollection := by
  induction ns generalizing m with
  | nil => exact ⟨m, rfl, hm⟩
  | cons n ns ih =>
    obtain ⟨m₁, h₁, hm₁⟩ := lookInto_fine hm (h n List.mem_cons_self)
    obtain ⟨m₂, h₂, hm₂⟩ := ih hm₁ fun x hx => h x (List.mem_cons_of_mem _ hx)
    exact ⟨m₂, by simp [lookIntoAll, h₁, h₂, bind, Except.bind], hm₂⟩

theorem rounds_fine (fuel : Nat) {m : Met} (hm : ∀ x ∈ m.waiting, x.FineCollection) :
    rounds m fuel = .ok () := by
  induction fuel generalizing m with
  | zero => rfl
  | succ fuel ih =>
    unfold rounds
    split
    · rfl
    · obtain ⟨m', h, hm'⟩ := lookIntoAll_fine (m := { m with waiting := [] }) (by simp) hm
      rw [h]
      exact ih hm'

/-- A node that holds a readable value has no fault. -/
theorem inspect_of_holds {n : Node} {v : Value} (h : n.Holds v) (hr : v.Throughout ReadablePart) :
    inspect n = .ok () := by
  obtain ⟨m, hm, hw⟩ := meet_fine (m := {}) (by simp) ⟨v, h, hr⟩
  unfold inspect
  rw [hm]
  exact rounds_fine _ hw

end ModelSearch.Yaml
