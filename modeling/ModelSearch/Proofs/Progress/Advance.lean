import ModelSearch.Proofs.Progress.Protocol

/-!
# How far a bar has come

Where the maximum of the last reset is not negative, increments never take a bar back, whatever values
were set before them.  An end takes the bar to the maximum.  Increments do not stop at a maximum of
zero, but the end goes to it all the same, and so back from every value above it.

    0 ≤ n → p.value ≤ (p.apply (.increment n)).1.value                    (Shown.le_apply_increment)
    (p.apply .finish).1.value < p.value ↔ maxValue = 0 ∧ 0 < p.value      (lowered_iff)
-/

namespace ModelSearch.ProgressBar

variable {p : ProgressBar} {cs : List ProgressCall} {id : Nat} {message : String} {maxValue : Int}

/-! ## The maximum -/

/-- The last reset among some calls. -/
def LastReset (cs : List ProgressCall) (message : String) (maxValue : Int) : Prop :=
  ∃ before after, cs = before ++ .reset message maxValue :: after ∧ ¬HasReset after

theorem LastReset.hasReset (h : LastReset cs message maxValue) : HasReset cs := by
  obtain ⟨before, after, rfl, -⟩ := h
  exact ⟨message, maxValue, by simp⟩

theorem LastReset.maxValue_run (h : LastReset cs message maxValue) :
    (({} : ProgressBar).run cs).maxValue = maxValue := by
  obtain ⟨before, after, rfl, hn⟩ := h
  -- by the calls since the reset, none of which is another
  induction after using List.reverseRecOn with
  | nil => rw [run_concat]; rfl
  | append_singleton after c ih =>
    rw [hasReset_concat, not_or] at hn
    rw [← List.cons_append, ← List.append_assoc, run_concat, ((shown_run _).apply_fixed hn.2).2]
    exact ih hn.1

/-! ## Steps forward -/

/-- A value that keeps to the maximum is not above what the maximum leaves of a larger one. -/
theorem le_saturated {value total : Int} (hm : 0 ≤ maxValue) (hv : 0 < maxValue → value ≤ maxValue)
    (ht : value ≤ total) : value ≤ saturated maxValue total := by
  unfold saturated
  split <;> omega

theorem Shown.le_apply_increment (h : Shown p) (hc : p.current = some id) (hm : 0 ≤ p.maxValue)
    {n : Int} (hn : 0 ≤ n) : p.value ≤ (p.apply (.increment n)).1.value := by
  rw [h.apply_increment hc]
  exact le_saturated hm h.value_le (by omega)

/-- The task shows the value. -/
theorem Shown.completed (h : Shown p) (hc : p.current.isSome = true) :
    p.tasks.map (·.completed) = [p.value] := by
  obtain ⟨id, hid⟩ := Option.isSome_iff_exists.1 hc
  rw [h.tasks, hid]
  rfl

/-! ## Main result -/

/-- After any calls of which the last reset has a maximum of zero or above: what the task shows is the
value, before a call and after it; an increment by zero or more never lowers it; and an end takes it
to the maximum, and so lowers it exactly if the maximum is zero and the value was above. -/
theorem lowered_iff (h : LastReset cs message maxValue) (hm : 0 ≤ maxValue) :
    let p := ({} : ProgressBar).run cs
    p.tasks.map (·.completed) = [p.value] ∧
      (∀ c, (p.apply c).1.tasks.map (·.completed) = [(p.apply c).1.value]) ∧
      (∀ n, 0 ≤ n → p.value ≤ (p.apply (.increment n)).1.value) ∧
      (p.apply .finish).1.value = maxValue ∧
      ((p.apply .finish).1.value < p.value ↔ maxValue = 0 ∧ 0 < p.value) := by
  intro p
  have hp : Shown p := shown_run cs
  have hs : p.current.isSome = true := (current_run_iff cs).2 h.hasReset
  obtain ⟨id, hid⟩ := Option.isSome_iff_exists.1 hs
  have hmax : p.maxValue = maxValue := h.maxValue_run
  have hfull : (p.apply .finish).1.value = maxValue := by
    rw [hp.apply_finish hid, ← hmax]
    rfl
  have hbound : 0 < maxValue → p.value ≤ maxValue := hmax ▸ hp.value_le
  refine ⟨hp.completed hs, fun c => ?_, fun n hn => ?_, hfull, ?_⟩
  · exact (hp.apply c).completed ((hp.current_apply c).2 (.inl hs))
  · exact hp.le_apply_increment hid (hmax ▸ hm) hn
  · rw [hfull]
    omega

/-- Five steps towards no known maximum, and the end. -/
theorem lowered_iff_unbounded :
    let cs : List ProgressCall := [.reset "Loading" 3, .reset "Loading" 0, .update 5 none]
    let p := ({} : ProgressBar).run cs
    LastReset cs "Loading" 0 ∧ (0 : Int) ≤ 0 ∧ p.value = 5 ∧
      p.value ≤ (p.apply (.increment 2)).1.value ∧ (p.apply .finish).1.value < p.value := by
  intro cs p
  have h : LastReset cs "Loading" 0 :=
    ⟨[.reset "Loading" 3], [.update 5 none], rfl, by simp [HasReset]⟩
  have hvalue : p.value = 5 := rfl
  obtain ⟨-, -, hincrement, -, hlowered⟩ := lowered_iff h (Int.le_refl 0)
  refine ⟨h, Int.le_refl 0, hvalue, hincrement 2 (by decide), hlowered.2 ⟨rfl, ?_⟩⟩
  exact hvalue ▸ (by decide : (0 : Int) < 5)

end ModelSearch.ProgressBar
