import Mathlib.Algebra.Ring.Int.Defs
import ModelSearch.Proofs.Progress.Display

/-!
# Increments add up

The value is clamped at every step, and the result is the same as if it were clamped once at the end.
So after a reset the bar depends on the sum of the increments alone: neither their order nor how an
amount is split among them matters, and a start at zero in front of them only lets the bar run.

    p.value = total, saturated → p.run increments = p at total + their sum, saturated   (run_increment)
    the bar after a reset and increments                                      (run_reset_increments)
-/

namespace ModelSearch.ProgressBar

variable {p : ProgressBar} {id : Nat} {n total : Int} {ns : List Int}

/-! ## Saturation -/

/-- What a bar shows of a total: no more than its maximum, if it has one. -/
def saturated (maxValue total : Int) : Int := if maxValue = 0 then total else min maxValue total

theorem bounded_eq (value : Int) : p.bounded value = saturated p.maxValue value := by
  unfold bounded saturated
  rw [Int.min_comm]

theorem saturated_zero {maxValue : Int} (h : 0 ≤ maxValue) : saturated maxValue 0 = 0 := by
  unfold saturated
  split
  · rfl
  · exact Int.min_eq_right h

/-- What was lost to the maximum before makes no difference once more is added. -/
theorem saturated_add (maxValue total : Int) (hn : 0 ≤ n) :
    saturated maxValue (saturated maxValue total + n) = saturated maxValue (total + n) := by
  unfold saturated
  split <;> omega

/-! ## Bars at a value -/

/-- A bar at a value, which its one task shows. -/
def atValue (p : ProgressBar) (id : Nat) (value : Int) : ProgressBar :=
  { p with value := value, tasks := [⟨id, describe p.message, value, p.maxValue⟩] }

theorem Shown.atValue_value (h : Shown p) (hc : p.current = some id) : p.atValue id p.value = p := by
  have ht := h.tasks
  rw [hc] at ht
  unfold atValue
  rw [show [⟨id, describe p.message, p.value, p.maxValue⟩] = p.tasks from ht.symm]

theorem Shown.update_none (h : Shown p) (hc : p.current = some id) (value : Int) :
    p.update value none = (p.atValue id (saturated p.maxValue value), none) := by
  rw [h.update_eq hc, bounded_eq]
  rfl

theorem Shown.apply_increment (h : Shown p) (hc : p.current = some id) (n : Int) :
    p.apply (.increment n) = (p.atValue id (saturated p.maxValue (p.value + n)), none) :=
  h.update_none hc (p.value + n)

/-! ## Runs of increments -/

/-- Increments on a bar that shows a total, saturated, let it show the total and their sum. -/
theorem Shown.run_increment (h : Shown p) (hc : p.current = some id)
    (ht : p.value = saturated p.maxValue total) (hn : ∀ n ∈ ns, 0 ≤ n) :
    p.run (ns.map .increment) = p.atValue id (saturated p.maxValue (total + ns.sum)) := by
  induction ns generalizing p total with
  | nil =>
    rw [List.sum_nil, Int.add_zero, ← ht, h.atValue_value hc]
    rfl
  | cons n ns ih =>
    have happly := h.apply_increment hc n
    have hvalue : saturated p.maxValue (p.value + n) = saturated p.maxValue (total + n) := by
      rw [ht, saturated_add _ _ (hn n List.mem_cons_self)]
    have hshown : Shown (p.atValue id (saturated p.maxValue (p.value + n))) := by
      have := h.apply (.increment n)
      rwa [happly] at this
    calc p.run ((n :: ns).map .increment)
        = (p.apply (.increment n)).1.run (ns.map .increment) := rfl
      _ = (p.atValue id (saturated p.maxValue (p.value + n))).run (ns.map .increment) := by
          rw [happly]
      _ = p.atValue id (saturated p.maxValue (total + n + ns.sum)) :=
          ih hshown hc hvalue fun m hm => hn m (List.mem_cons_of_mem _ hm)
      _ = p.atValue id (saturated p.maxValue (total + (n :: ns).sum)) := by
          rw [List.sum_cons, Int.add_assoc]

/-- A start at the value zero of a bar lets it run and changes nothing else. -/
theorem Shown.apply_start (h : Shown p) (hc : p.current = some id) (hm : 0 ≤ p.maxValue)
    (hv : p.value = 0) : p.apply (.start 0) = ({ p with running := true }, none) := by
  have hs : p.current.isSome = true := by rw [hc]; rfl
  have hrun : Shown { p with running := true } := h.with_running fun _ => hs
  have hzero : saturated p.maxValue 0 = p.value := by rw [saturated_zero hm, hv]
  rw [ProgressBar.apply, start_of_some hs, hrun.update_none hc]
  exact congrArg (·, none) (by rw [hzero]; exact hrun.atValue_value hc)

/-! ## Main result -/

/-- After any calls, a reset and increments: the value is their sum, at most the maximum unless that
is zero, and the task shows it; no increment fails; increments with the same sum lead to the same
bar; and a start at zero in front of them does not fail and makes no difference but that the bar
runs. -/
theorem run_reset_increments (cs : List ProgressCall) (message : String) {maxValue : Int}
    (hm : 0 ≤ maxValue) (hn : ∀ n ∈ ns, 0 ≤ n) :
    let p := ({} : ProgressBar).run (cs ++ [.reset message maxValue])
    let q := p.run (ns.map .increment)
    q.value = (if maxValue = 0 then ns.sum else min maxValue ns.sum) ∧
      (∃ id, q.tasks = [⟨id, "[cyan]" ++ message, q.value, maxValue⟩]) ∧
      (∀ n, (q.apply (.increment n)).2 = none) ∧
      (∀ ms : List Int, (∀ m ∈ ms, 0 ≤ m) → ms.sum = ns.sum → p.run (ms.map .increment) = q) ∧
      (p.apply (.start 0)).2 = none ∧
      p.run (.start 0 :: ns.map .increment) = { q with running := true } := by
  intro p q
  have hp : Shown p := shown_run _
  have hreset : p = (({} : ProgressBar).run cs).reset message maxValue := run_concat _ cs _
  obtain ⟨id, hc⟩ : ∃ id, p.current = some id := ⟨_, by rw [hreset]; rfl⟩
  have hmax : p.maxValue = maxValue := by rw [hreset]; rfl
  have hmessage : p.message = message := by rw [hreset]; rfl
  have hzero : p.value = 0 := by rw [hreset]; rfl
  have hbegin : p.value = saturated p.maxValue 0 := by rw [hzero, hmax, saturated_zero hm]
  have hrun : ∀ {ms : List Int}, (∀ m ∈ ms, 0 ≤ m) →
      p.run (ms.map .increment) = p.atValue id (saturated p.maxValue ms.sum) := by
    intro ms hms
    rw [hp.run_increment hc hbegin hms, Int.zero_add]
  have hq : q = p.atValue id (saturated p.maxValue ns.sum) := hrun hn
  have hvalue : q.value = saturated maxValue ns.sum := by rw [← hmax, hq]; rfl
  have hqShown : Shown q := by
    have := shown_run (cs ++ [.reset message maxValue] ++ ns.map .increment)
    rwa [run, List.foldl_append] at this
  have hqCurrent : q.current = some id := by rw [hq]; exact hc
  have hstart := hp.apply_start hc (by rw [hmax]; exact hm) hzero
  refine ⟨hvalue, ⟨id, ?_⟩, fun n => ?_, fun ms hms hsum => ?_, by rw [hstart], ?_⟩
  · rw [hq, ← hmessage, ← hmax]
    rfl
  · rw [hqShown.apply_increment hqCurrent]
  · rw [hrun hms, hsum]
    exact (hrun hn).symm
  · have hstarted : Shown { p with running := true } :=
      hp.with_running fun _ => by rw [hc]; rfl
    calc p.run (.start 0 :: ns.map .increment)
        = (p.apply (.start 0)).1.run (ns.map .increment) := rfl
      _ = ({ p with running := true } : ProgressBar).run (ns.map .increment) := by rw [hstart]
      _ = { q with running := true } := by
          rw [hstarted.run_increment hc hbegin hn, Int.zero_add, hq]
          rfl

/-- Two units after one another, the second of five: two, nothing and four fill it as six does. -/
theorem run_reset_increments_second :
    (0 : Int) ≤ 5 ∧ (∀ n ∈ ([2, 0, 4] : List Int), 0 ≤ n) ∧
      let p := ({} : ProgressBar).run [.reset "First" 3, .start 1, .reset "Second" 5]
      let q := p.run [.increment 2, .increment 0, .increment 4]
      q.value = 5 ∧ (∃ id, q.tasks = [⟨id, "[cyan]Second", 5, 5⟩]) ∧ p.run [.increment 6] = q := by
  have hn : ∀ n ∈ ([2, 0, 4] : List Int), 0 ≤ n := by decide
  obtain ⟨hvalue, ⟨id, htasks⟩, -, hsame, -, -⟩ :=
    run_reset_increments [.reset "First" 3, .start 1] "Second" (show (0 : Int) ≤ 5 by decide) hn
  refine ⟨by decide, hn, hvalue, ⟨id, ?_⟩, hsame [6] (by decide) rfl⟩
  exact htasks.trans (by rw [hvalue]; rfl)

end ModelSearch.ProgressBar
