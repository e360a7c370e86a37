import ModelSearch.Progress
import Mathlib.Data.List.Induction

/-!
# What the display shows of a bar

A bar keeps its state twice, in fields of its own and in a task of the display, and its calls change
the two in different places.  The copies agree after any calls, failed ones among them, and two
questions about a bar are answered by its calls alone: whether there is a task, and whether it runs.

    p.tasks = [the task of p], or none before the first reset          (Shown)
    Shown p → Shown (p.apply c).1                                       (Shown.apply)
    p.running after calls ↔ a start among them succeeded and no end came since   (run_shown)
-/

namespace ModelSearch.ProgressBar

variable {p : ProgressBar} {c : ProgressCall} {cs : List ProgressCall}

/-! ## What calls tell -/

def HasReset (cs : List ProgressCall) : Prop :=
  ∃ message maxValue, ProgressCall.reset message maxValue ∈ cs

/-- A start succeeded and no end has come since. -/
def Started (cs : List ProgressCall) : Prop :=
  ∃ before initial after, cs = before ++ ProgressCall.start initial :: after ∧
    ((({} : ProgressBar).run before).apply (.start initial)).2 = none ∧
    ProgressCall.finish ∉ after

/-! ## The invariant -/

/-- The display has the bar's own task if it has any, and that shows the state of the bar; the value
keeps to a maximum above zero; and only a bar with a task runs. -/
structure Shown (p : ProgressBar) : Prop where
  tasks : p.tasks =
    (p.current.map fun id => ⟨id, describe p.message, p.value, p.maxValue⟩).toList
  value_le : 0 < p.maxValue → p.value ≤ p.maxValue
  current_of_running : p.running = true → p.current.isSome = true

theorem shown_new : Shown {} where
  tasks := rfl
  value_le := fun h => absurd h (Int.lt_irrefl 0)
  current_of_running := nofun

theorem Shown.reset (h : Shown p) (message : String) (maxValue : Int) :
    Shown (p.reset message maxValue) where
  tasks := by
    -- the task that goes is the only one
    have ht := h.tasks
    cases hc : p.current with
    | none => simp [ProgressBar.reset, hc, ht]
    | some id => simp [ProgressBar.reset, hc, ht]
  value_le := fun hm => Int.le_of_lt hm
  current_of_running := fun _ => rfl

theorem bounded_le (value : Int) (h : 0 < p.maxValue) : p.bounded value ≤ p.maxValue := by
  have hne : p.maxValue ≠ 0 := by omega
  rw [bounded, if_neg hne]
  exact Int.min_le_right _ _

theorem update_of_none (h : p.current = none) (value : Int) (message : Option String) :
    p.update value message = (p, some .update) := by
  simp only [update, h]

/-- With a task, an update sets the value and the message in both places. -/
theorem Shown.update_eq (h : Shown p) {id : Nat} (hc : p.current = some id) (value : Int)
    (message : Option String) :
    p.update value message =
      ({ p with
          value := p.bounded value, message := message.getD p.message,
          tasks := [⟨id, describe (message.getD p.message), p.bounded value, p.maxValue⟩] },
        none) := by
  have ht : p.tasks = [⟨id, describe p.message, p.value, p.maxValue⟩] := by
    rw [h.tasks, hc]
    rfl
  cases message <;> simp [update, hc, ht, changeTask]

theorem Shown.update (h : Shown p) (value : Int) (message : Option String) :
    Shown (p.update value message).1 := by
  cases hc : p.current with
  | none =>
    rw [update_of_none hc]
    exact h
  | some id =>
    rw [h.update_eq hc]
    exact ⟨by simp [hc], bounded_le value, fun _ => by simp [hc]⟩

theorem Shown.with_running (h : Shown p) {running : Bool}
    (hr : running = true → p.current.isSome = true) : Shown { p with running := running } :=
  ⟨h.tasks, h.value_le, hr⟩

theorem start_of_none (h : p.current = none) (initial : Int) :
    p.start initial = (p, some .start) := by
  simp only [ProgressBar.start, h, Option.isNone_none, if_true]

theorem start_of_some (h : p.current.isSome = true) (initial : Int) :
    p.start initial = { p with running := true }.update initial none := by
  obtain ⟨id, hc⟩ := Option.isSome_iff_exists.1 h
  simp only [ProgressBar.start, hc, Option.isNone_some, Bool.false_eq_true, if_false]

/-- An end fills the bar, if there is a task, and does not fail. -/
theorem Shown.finish_eq (h : Shown p) :
    p.finish = ({ (p.update p.maxValue none).1 with running := false }, none) := by
  cases hc : p.current with
  | none => simp only [ProgressBar.finish, update_of_none hc, hc, Option.isSome_none,
      Bool.false_eq_true, if_false]
  | some id => simp only [ProgressBar.finish, h.update_eq hc, hc, Option.isSome_some, if_true]

/-- What one call keeps, whether it fails or not. -/
theorem Shown.apply (h : Shown p) (c : ProgressCall) : Shown (p.apply c).1 := by
  cases c with
  | reset message maxValue => exact h.reset message maxValue
  | start initial =>
    cases hc : p.current with
    | none =>
      rw [ProgressBar.apply, start_of_none hc]
      exact h
    | some id =>
      have hs : p.current.isSome = true := by rw [hc]; rfl
      rw [ProgressBar.apply, start_of_some hs]
      exact (h.with_running fun _ => hs).update initial none
  | finish =>
    rw [ProgressBar.apply, h.finish_eq]
    exact (h.update p.maxValue none).with_running nofun
  | increment n => exact h.update (p.value + n) none
  | update value message => exact h.update value message

/-! ## What a call changes -/

/-- An update leaves the task where it is, the bar running or not, and the maximum. -/
theorem update_fixed (p : ProgressBar) (value : Int) (message : Option String) :
    (p.update value message).1.current = p.current ∧
      (p.update value message).1.running = p.running ∧
      (p.update value message).1.maxValue = p.maxValue := by
  cases hc : p.current with
  | none => simp [update_of_none hc, hc]
  | some id => cases message <;> simp [update, hc]

/-- Only a reset gives the bar another task and another maximum. -/
theorem Shown.apply_fixed (h : Shown p) (hc : ¬HasReset [c]) :
    (p.apply c).1.current = p.current ∧ (p.apply c).1.maxValue = p.maxValue := by
  cases c with
  | reset message maxValue => exact absurd ⟨message, maxValue, List.mem_cons_self⟩ hc
  | start initial =>
    cases hn : p.current with
    | none =>
      rw [ProgressBar.apply, start_of_none hn]
      exact ⟨hn, rfl⟩
    | some id =>
      obtain ⟨hcurrent, -, hmax⟩ := update_fixed { p with running := true } initial none
      rw [ProgressBar.apply, start_of_some (by rw [hn]; rfl)]
      exact ⟨hcurrent.trans hn, hmax⟩
  | finish =>
    obtain ⟨hcurrent, -, hmax⟩ := update_fixed p p.maxValue none
    rw [ProgressBar.apply, h.finish_eq]
    exact ⟨hcurrent, hmax⟩
  | increment n =>
    obtain ⟨hcurrent, -, hmax⟩ := update_fixed p (p.value + n) none
    exact ⟨hcurrent, hmax⟩
  | update value message =>
    obtain ⟨hcurrent, -, hmax⟩ := update_fixed p value message
    exact ⟨hcurrent, hmax⟩

theorem Shown.current_apply (h : Shown p) (c : ProgressCall) :
    (p.apply c).1.current.isSome = true ↔ p.current.isSome = true ∨ HasReset [c] := by
  by_cases hc : HasReset [c]
  · obtain ⟨message, maxValue, hm⟩ := hc
    obtain rfl := List.mem_singleton.1 hm
    exact iff_of_true rfl (.inr ⟨message, maxValue, hm⟩)
  · rw [(h.apply_fixed hc).1]
    exact (or_iff_left hc).symm

/-- A start that succeeds lets the bar run and an end stops it; nothing else does either. -/
theorem Shown.running_apply (h : Shown p) (c : ProgressCall) :
    (p.apply c).1.running = true ↔
      (∃ initial, c = .start initial ∧ (p.apply c).2 = none) ∨
        (p.running = true ∧ c ≠ .finish) := by
  cases c with
  | reset message maxValue => simp [ProgressBar.apply, ProgressBar.reset]
  | start initial =>
    cases hc : p.current with
    | none =>
      have hr : p.running ≠ true := fun hr => by simpa [hc] using h.current_of_running hr
      simp [ProgressBar.apply, start_of_none hc, hr]
    | some id =>
      have hs : p.current.isSome = true := by rw [hc]; rfl
      have hrun : Shown { p with running := true } := h.with_running fun _ => hs
      simp [ProgressBar.apply, start_of_some hs, hrun.update_eq hc]
  | finish => simp [ProgressBar.apply, h.finish_eq]
  | increment n => simp [ProgressBar.apply, ProgressBar.increment, (update_fixed _ _ _).2.1]
  | update value message => simp [ProgressBar.apply, (update_fixed _ _ _).2.1]

/-! ## Runs -/

theorem run_concat (p : ProgressBar) (cs : List ProgressCall) (c : ProgressCall) :
    p.run (cs ++ [c]) = ((p.run cs).apply c).1 := by
  simp [run]

theorem shown_run (cs : List ProgressCall) : Shown (({} : ProgressBar).run cs) := by
  induction cs using List.reverseRecOn with
  | nil => exact shown_new
  | append_singleton cs c ih =>
    rw [run_concat]
    exact ih.apply c

theorem hasReset_concat : HasReset (cs ++ [c]) ↔ HasReset cs ∨ HasReset [c] := by
  simp only [HasReset, List.mem_append]
  constructor
  · rintro ⟨m, n, h | h⟩
    · exact .inl ⟨m, n, h⟩
    · exact .inr ⟨m, n, h⟩
  · rintro (⟨m, n, h⟩ | ⟨m, n, h⟩)
    · exact ⟨m, n, .inl h⟩
    · exact ⟨m, n, .inr h⟩

theorem current_run_iff (cs : List ProgressCall) :
    (({} : ProgressBar).run cs).current.isSome = true ↔ HasReset cs := by
  induction cs using List.reverseRecOn with
  | nil => exact iff_of_false nofun (by simp [HasReset])
  | append_singleton cs c ih => rw [run_concat, (shown_run cs).current_apply, ih, hasReset_concat]

theorem started_concat : Started (cs ++ [c]) ↔
    (∃ initial, c = .start initial ∧ ((({} : ProgressBar).run cs).apply c).2 = none) ∨
      (Started cs ∧ c ≠ .finish) := by
  constructor
  · rintro ⟨before, initial, after, he, hs, hf⟩
    -- the start is the last call, or it stands before that
    rcases List.eq_nil_or_concat after with rfl | ⟨rest, d, rfl⟩
    · obtain ⟨rfl, hc⟩ := List.append_inj' he rfl
      cases hc
      exact .inl ⟨initial, rfl, hs⟩
    · have he' : cs ++ [c] = (before ++ ProgressCall.start initial :: rest) ++ [d] := by
        rw [he]
        simp
      obtain ⟨rfl, hd⟩ := List.append_inj' he' rfl
      cases hd
      refine .inr ⟨⟨before, initial, rest, rfl, hs, fun hm => hf ?_⟩, fun hc => hf ?_⟩
      · simp [hm]
      · simp [hc]
  · rintro (⟨initial, rfl, hs⟩ | ⟨⟨before, initial, after, rfl, hs, hf⟩, hc⟩)
    · exact ⟨cs, initial, [], rfl, hs, List.not_mem_nil⟩
    · refine ⟨before, initial, after ++ [c], by simp, hs, fun hm => ?_⟩
      rcases List.mem_append.1 hm with hm | hm
      · exact hf hm
      · exact hc (List.mem_singleton.1 hm).symm

theorem running_run_iff (cs : List ProgressCall) :
    (({} : ProgressBar).run cs).running = true ↔ Started cs := by
  induction cs using List.reverseRecOn with
  | nil => exact iff_of_false nofun (by simp [Started])
  | append_singleton cs c ih => rw [run_concat, (shown_run cs).running_apply, ih, started_concat]

/-! ## Main result -/

/-- After any calls on a new bar: the display has no task before the first reset and then exactly
one, which shows the value, the maximum and the message; the value keeps to a maximum above zero; a
bar that runs has a task; and it runs exactly if a start succeeded and no end has come since. -/
theorem run_shown (cs : List ProgressCall) :
    let p := ({} : ProgressBar).run cs
    (p.tasks = [] ↔ ¬HasReset cs) ∧
      (HasReset cs →
        ∃ id, p.tasks = [⟨id, "[cyan]" ++ p.message, p.value, p.maxValue⟩]) ∧
      (0 < p.maxValue → p.value ≤ p.maxValue) ∧
      (p.running = true → p.tasks ≠ []) ∧
      (p.running = true ↔ Started cs) := by
  intro p
  have hs : Shown p := shown_run cs
  have htasks : p.tasks = [] ↔ ¬HasReset cs := by
    rw [← current_run_iff cs, hs.tasks]
    cases p.current <;> simp
  refine ⟨htasks, fun hr => ?_, hs.value_le, fun hr => ?_, running_run_iff cs⟩
  · obtain ⟨id, hc⟩ := Option.isSome_iff_exists.1 ((current_run_iff cs).2 hr)
    refine ⟨id, ?_⟩
    rw [hs.tasks, hc]
    rfl
  · rw [Ne, htasks, not_not, ← current_run_iff cs]
    exact hs.current_of_running hr

end ModelSearch.ProgressBar
