/-!
# Steps that can fail

Steps one after the other succeed when each of them does, and fail with the fault of one of them.

    x >>= k = .ok b          ↔ x = .ok a and k a = .ok b for some a                (bind_eq_ok)
    x >>= k = .error e       ↔ x = .error e, or x = .ok a and k a = .error e     (bind_eq_error)
    xs.mapM k = .ok ys       ↔ xs.map k = ys.map .ok                            (mapM_eq_ok)
-/

namespace ModelSearch

variable {α β ε : Type}

/-! ## A step after a step -/

theorem bind_eq_ok {x : Except ε α} {k : α → Except ε β} {b : β} :
    (x >>= k) = .ok b ↔ ∃ a, x = .ok a ∧ k a = .ok b := by
  cases x with
  | ok a => simp [bind, Except.bind]
  | error e => simp [bind, Except.bind]

/-- The same, where what is read first depends on a test. -/
theorem ite_bind_eq_ok {c : Bool} {x y : Except ε α} {k : α → Except ε β} {b : β} :
    (if c then x >>= k else y >>= k) = .ok b ↔
      ∃ a, (if c then x else y) = .ok a ∧ k a = .ok b := by
  cases c
  · simp [bind_eq_ok]
  · simp [bind_eq_ok]

theorem bind_eq_error {x : Except ε α} {k : α → Except ε β} {e : ε} :
    (x >>= k) = .error e ↔ x = .error e ∨ ∃ a, x = .ok a ∧ k a = .error e := by
  cases x with
  | ok a => simp [bind, Except.bind]
  | error d => simp [bind, Except.bind]

theorem map_isOk_iff {g : α → β} {x : Except ε α} : (∃ b, x.map g = .ok b) ↔ ∃ a, x = .ok a := by
  cases x <;> simp [Except.map]

theorem bind_isOk_iff {x : Except ε α} {k : α → Except ε β} :
    (∃ b, (x >>= k) = .ok b) ↔ ∃ a, x = .ok a ∧ ∃ b, k a = .ok b := by
  cases x <;> simp [bind, Except.bind]

/-! ## A step for each element of a list -/

/-- Steps for the elements of a list succeed when each does, with the results in their order. -/
theorem mapM_eq_ok {k : α → Except ε β} {xs : List α} {ys : List β} :
    xs.mapM k = .ok ys ↔ xs.map k = ys.map .ok := by
  induction xs generalizing ys with
  | nil => cases ys <;> simp [List.mapM_nil, pure, Except.pure]
  | cons x xs ih =>
    simp only [List.mapM_cons, bind_eq_ok]
    cases ys with
    | nil => simp [pure, Except.pure]
    | cons y ys => simp [pure, Except.pure, ih]

/-- Steps for one element and for those in front of it and behind it. -/
theorem mapM_append_cons_eq_ok {k : α → Except ε β} {xs zs : List α} {x : α} {ys : List β}
    (h : (xs ++ x :: zs).mapM k = .ok ys) :
    ∃ us y vs, ys = us ++ y :: vs ∧ xs.mapM k = .ok us ∧ k x = .ok y ∧ zs.mapM k = .ok vs := by
  rw [mapM_eq_ok, eq_comm, List.map_append, List.map_cons, List.map_eq_append_iff] at h
  obtain ⟨us, ws, rfl, hus, hws⟩ := h
  obtain ⟨y, vs, rfl, hy, hvs⟩ := List.map_eq_cons_iff.1 hws
  exact ⟨us, y, vs, rfl, mapM_eq_ok.2 hus.symm, hy.symm, mapM_eq_ok.2 hvs.symm⟩

theorem length_mapM {k : α → Except ε β} {xs : List α} {ys : List β} (h : xs.mapM k = .ok ys) :
    ys.length = xs.length := by
  simpa using (congrArg List.length (mapM_eq_ok.1 h)).symm

theorem exists_of_mem_mapM {k : α → Except ε β} {xs : List α} {ys : List β}
    (h : xs.mapM k = .ok ys) {y : β} (hy : y ∈ ys) : ∃ x ∈ xs, k x = .ok y := by
  have hm : .ok y ∈ xs.map k := mapM_eq_ok.1 h ▸ List.mem_map_of_mem hy
  exact List.mem_map.1 hm

theorem exists_mem_of_mapM {k : α → Except ε β} {xs : List α} {ys : List β}
    (h : xs.mapM k = .ok ys) {x : α} (hx : x ∈ xs) : ∃ y ∈ ys, k x = .ok y := by
  have hm : k x ∈ ys.map .ok := mapM_eq_ok.1 h ▸ List.mem_map_of_mem hx
  obtain ⟨y, hy, he⟩ := List.mem_map.1 hm
  exact ⟨y, hy, he.symm⟩

theorem mapM_isOk_iff {k : α → Except ε β} {xs : List α} :
    (∃ ys, xs.mapM k = .ok ys) ↔ ∀ x ∈ xs, ∃ y, k x = .ok y := by
  constructor
  · rintro ⟨ys, h⟩ x hx
    obtain ⟨y, -, hy⟩ := exists_mem_of_mapM h hx
    exact ⟨y, hy⟩
  · intro h
    induction xs with
    | nil => exact ⟨[], rfl⟩
    | cons x xs ih =>
      obtain ⟨y, hy⟩ := h x List.mem_cons_self
      obtain ⟨ys, hys⟩ := ih fun z hz => h z (List.mem_cons_of_mem _ hz)
      exact ⟨y :: ys, mapM_eq_ok.2 (by simp [hy, mapM_eq_ok.1 hys])⟩

theorem mapM_mono {f g : α → Except ε β} (hfg : ∀ x y, f x = .ok y → g x = .ok y)
    {xs : List α} {ys : List β} (h : xs.mapM f = .ok ys) : xs.mapM g = .ok ys := by
  have hg : xs.map g = xs.map f := by
    refine List.map_congr_left fun x hx => ?_
    obtain ⟨y, -, hy⟩ := exists_mem_of_mapM h hx
    rw [hy, hfg x y hy]
  rw [mapM_eq_ok, hg]
  exact mapM_eq_ok.1 h

theorem exists_of_mapM_error {k : α → Except ε β} {xs : List α} {e : ε}
    (h : xs.mapM k = .error e) : ∃ x ∈ xs, k x = .error e := by
  induction xs with
  | nil => cases h
  | cons x xs ih =>
    rw [List.mapM_cons] at h
    rcases bind_eq_error.1 h with hx | ⟨y, -, h⟩
    · exact ⟨x, List.mem_cons_self, hx⟩
    rcases bind_eq_error.1 h with hxs | ⟨ys, -, h⟩
    · obtain ⟨z, hz, he⟩ := ih hxs
      exact ⟨z, List.mem_cons_of_mem _ hz, he⟩
    · cases h

end ModelSearch
