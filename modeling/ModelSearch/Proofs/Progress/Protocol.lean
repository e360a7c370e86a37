import ModelSearch.Proofs.Progress.Increments

/-!
# The order of calls

`start`, `increment` and `update` need a task, and `reset` is what makes one.  Before the first reset
they fail, each with the fault of the check that it meets first, and leave the bar as it is; nothing
else fails.  An end fills a bar that has a task, and a second one finds nothing left to do.

    (p.apply c).2 = some f ↔ c.unmet = some f ∧ no reset before       (fault_laws)
    (p.apply c).2 = some f → (p.apply c).1 = p                  (Shown.apply_of_fault)
-/

namespace ModelSearch

/-- The fault of a call that finds no task, if it needs one. -/
def ProgressCall.unmet : ProgressCall → Option ProgressFault
  | .start _ => some .start
  | .increment _ | .update _ _ => some .update
  | .reset _ _ | .finish => none

namespace ProgressBar

variable {p : ProgressBar} {c : ProgressCall} {fault : ProgressFault} {id : Nat}

/-! ## Faults -/

theorem apply_of_unmet (hc : p.current = none) (hu : c.unmet = some fault) :
    p.apply c = (p, some fault) := by
  cases c with
  | start initial =>
    cases hu
    exact start_of_none hc initial
  | increment n =>
    cases hu
    exact update_of_none hc _ none
  | update value message =>
    cases hu
    exact update_of_none hc value message
  | reset => cases hu
  | finish => cases hu

theorem update_fault_of_some (hs : p.current.isSome = true) (value : Int)
    (message : Option String) : (p.update value message).2 = none := by
  obtain ⟨id, hc⟩ := Option.isSome_iff_exists.1 hs
  cases message <;> simp only [update, hc]

theorem Shown.apply_of_met (h : Shown p) (hm : p.current.isSome = true ∨ c.unmet = none) :
    (p.apply c).2 = none := by
  cases c with
  | reset => rfl
  | finish => rw [ProgressBar.apply, h.finish_eq]
  | start initial =>
    have hs := hm.resolve_right (Option.some_ne_none _)
    rw [ProgressBar.apply, start_of_some hs]
    exact update_fault_of_some (p := { p with running := true }) hs initial none
  | increment n => exact update_fault_of_some (hm.resolve_right (Option.some_ne_none _)) _ none
  | update value message =>
    exact update_fault_of_some (hm.resolve_right (Option.some_ne_none _)) value message

theorem Shown.apply_eq_fault_iff (h : Shown p) :
    (p.apply c).2 = some fault ↔ c.unmet = some fault ∧ p.current = none := by
  constructor
  · intro hf
    cases hc : p.current with
    | some id =>
      rw [h.apply_of_met (.inl (by rw [hc]; rfl))] at hf
      cases hf
    | none =>
      cases hu : c.unmet with
      | none =>
        rw [h.apply_of_met (.inr hu)] at hf
        cases hf
      | some met =>
        rw [apply_of_unmet hc hu] at hf
        exact ⟨hf, rfl⟩
  · rintro ⟨hu, hn⟩
    rw [apply_of_unmet hn hu]

theorem Shown.apply_of_fault (h : Shown p) (hf : (p.apply c).2 = some fault) :
    (p.apply c).1 = p := by
  obtain ⟨hu, hn⟩ := h.apply_eq_fault_iff.1 hf
  rw [apply_of_unmet hn hu]

/-! ## Ends -/

theorem saturated_self (maxValue : Int) : saturated maxValue maxValue = maxValue := by
  unfold saturated
  split
  · rfl
  · exact Int.min_self maxValue

theorem Shown.apply_finish (h : Shown p) (hc : p.current = some id) :
    p.apply .finish = ({ p.atValue id p.maxValue with running := false }, none) := by
  rw [ProgressBar.apply, h.finish_eq, h.update_none hc, saturated_self]

/-! ## Main result -/

/-- After any calls on a new bar, a call fails exactly if it needs a task and no reset is among the
calls before it, with the fault of its own check, and then the bar is what it was.  After an end that
a reset precedes, the bar is full, as its task shows, and does not run, and a second end changes
nothing. -/
theorem fault_laws (cs : List ProgressCall) (c : ProgressCall) :
    let p := ({} : ProgressBar).run cs
    (∀ fault, (p.apply c).2 = some fault ↔ c.unmet = some fault ∧ ¬HasReset cs) ∧
      ((p.apply c).2 ≠ none → (p.apply c).1 = p) ∧
      (HasReset cs →
        let q := ({} : ProgressBar).run (cs ++ [.finish])
        q.value = q.maxValue ∧ q.maxValue = p.maxValue ∧ q.running = false ∧
          q.tasks.map (·.completed) = [q.maxValue] ∧ q.apply .finish = (q, none)) := by
  intro p
  have hp : Shown p := shown_run cs
  have hnone : p.current = none ↔ ¬HasReset cs := by
    rw [← current_run_iff cs, Bool.not_eq_true, Option.isSome_eq_false_iff, Option.isNone_iff_eq_none]
  refine ⟨fun fault => by rw [hp.apply_eq_fault_iff, hnone], fun hf => ?_, fun hr => ?_⟩
  · obtain ⟨fault, hf⟩ := Option.ne_none_iff_exists'.1 hf
    exact hp.apply_of_fault hf
  · intro q
    obtain ⟨id, hid⟩ := Option.isSome_iff_exists.1 ((current_run_iff cs).2 hr)
    have hq : q = { p.atValue id p.maxValue with running := false } := by
      rw [show q = (p.apply .finish).1 from run_concat _ cs .finish, hp.apply_finish hid]
    have hqShown : Shown q := shown_run _
    have hqCurrent : q.current = some id := by rw [hq]; exact hid
    have hagain := hqShown.apply_finish hqCurrent
    rw [hq] at hagain ⊢
    exact ⟨rfl, rfl, rfl, rfl, hagain⟩

/-- An increment on a new bar, and an end after a value beyond the maximum. -/
theorem fault_laws_early :
    let p := ({} : ProgressBar)
    let q := p.run [.increment 1, .reset "Loading" 5, .start 0, .update (-2) none, .finish]
    p.apply (.increment 1) = (p, some .update) ∧ HasReset [.increment 1, .reset "Loading" 5] ∧
      q.value = 5 ∧ q.running = false ∧ q.apply .finish = (q, none) := by
  intro p q
  let cs : List ProgressCall := [.increment 1, .reset "Loading" 5, .start 0, .update (-2) none]
  have hnew : ¬HasReset [] := by simp [HasReset]
  have hreset : HasReset cs := ⟨"Loading", 5, by simp [cs]⟩
  obtain ⟨hfault, hsame, -⟩ := fault_laws [] (.increment 1)
  obtain ⟨-, -, hend⟩ := fault_laws cs .finish
  obtain ⟨hvalue, hmax, hstopped, -, hagain⟩ := hend hreset
  have hf : (p.apply (.increment 1)).2 = some .update := (hfault .update).2 ⟨rfl, hnew⟩
  have hs : (p.apply (.increment 1)).1 = p := hsame (Option.ne_none_iff_exists'.2 ⟨_, hf⟩)
  refine ⟨Prod.ext hs hf, ⟨"Loading", 5, by simp⟩, ?_, hstopped, hagain⟩
  exact hvalue.trans (hmax.trans rfl)

end ProgressBar

end ModelSearch
