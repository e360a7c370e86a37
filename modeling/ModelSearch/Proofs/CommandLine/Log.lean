import ModelSearch.CommandLine.Run
import ModelSearch.Proofs.ConfigFile.Records

/-!
# The log of a run

A run answers what loading gives, unless its log has to tell what cannot be put into words.  Only the
record of criteria is one that may be such, and it is shown only when details are asked for.

    a fault of loading is answered                       (loggedAnswer_of_loadFault)
    a log that is told is answered, one that is not ends the run
                                         (loggedAnswer_of_told, loggedAnswer_of_untold)
    the log of criteria is untold exactly if it shows details and a field cannot be told
                                                          (untold_criteria_iff)
-/

namespace ModelSearch.CommandLine

open Console (Verbosity logFault logText shownRecords)

/-- The log has to tell a record that cannot be put into words. -/
def Untold (v : Verbosity) (records : List LogRecord) : Prop :=
  ∃ r ∈ records, v.shows r.level = true ∧ r.fault ≠ none

/-! ## Records -/

section

variable {v : Verbosity} {records details : List LogRecord} {path : FilePath}

theorem logFault_eq_none_iff : logFault v records = none ↔ ¬Untold v records := by
  unfold logFault Untold
  rw [List.findSome?_eq_none_iff]
  constructor
  · rintro h ⟨r, hr, hshown, hf⟩
    exact hf (h r (List.mem_filter.2 ⟨hr, hshown⟩))
  · intro h r hr
    obtain ⟨hr, hshown⟩ := List.mem_filter.1 hr
    exact Decidable.not_not.1 fun hf => h ⟨r, hr, hshown, hf⟩

theorem not_untold_of_forall (h : ∀ r ∈ records, r.fault = none) : ¬Untold v records := by
  rintro ⟨r, hr, -, hf⟩
  exact hf (h r hr)

theorem told_of_details (h : Details details) : ∀ r ∈ loadRecord path :: details, r.fault = none := by
  intro r hr
  rcases List.mem_cons.1 hr with rfl | hr
  · rfl
  · exact (h r hr).2

/-- Records behind ones that are told. -/
theorem untold_append_iff {xs ys : List LogRecord} (h : ∀ r ∈ xs, r.fault = none) :
    Untold v (xs ++ ys) ↔ Untold v ys := by
  constructor
  · rintro ⟨r, hr, hs⟩
    rcases List.mem_append.1 hr with hr | hr
    · exact absurd (h r hr) hs.2
    · exact ⟨r, hr, hs⟩
  · rintro ⟨r, hr, hs⟩
    exact ⟨r, List.mem_append_right _ hr, hs⟩

/-- A field of criteria that the log cannot tell. -/
def Unsaid (reach : Reach) (c : Criteria) : Prop := ∃ e ∈ c.present, reach.fault? .log e.2 ≠ none

theorem untold_buildRecord_iff {reach : Reach} {c : Criteria} :
    Untold v [c.buildRecord reach] ↔ v = .detailed ∧ Unsaid reach c := by
  have hshown : v.shows (c.buildRecord reach).level = true ↔ v = .detailed := by
    cases v <;> simp [Criteria.buildRecord, Verbosity.shows]
  have hfault : (c.buildRecord reach).fault ≠ none ↔ Unsaid reach c := by
    unfold Criteria.buildRecord Unsaid
    simp only [← Option.isSome_iff_ne_none, List.findSome?_isSome_iff]
  simp only [Untold, List.mem_singleton, exists_eq_left, hshown, hfault]

end

/-! ## Loading -/

variable {runtime : Runtime} {tree : FileTree} {path : FilePath} {fault : CriteriaFault}
  {c : Criteria}

theorem load_of_foreign
    (h : (loadCriteria 1 tree path runtime.toPlatform).result = .error (.load .foreign)) :
    runtime.load tree path = ⟨runtime.foreign.result, runtime.foreign.records path⟩ := by
  simp only [Runtime.load, h]

theorem load_of_fault (h : (loadCriteria 1 tree path runtime.toPlatform).result = .error fault)
    (hf : fault ≠ .load .foreign) : runtime.load tree path
      = ⟨.error fault, (loadCriteria 1 tree path runtime.toPlatform).records⟩ := by
  simp only [Runtime.load, h]

theorem load_of_criteria (h : (loadCriteria 1 tree path runtime.toPlatform).result = .ok c) :
    runtime.load tree path
      = ⟨.ok (c.display runtime.reach), (loadCriteria 1 tree path runtime.toPlatform).records⟩ := by
  simp only [Runtime.load, h]

theorem records_foreign (f : Foreign) (path : FilePath) :
    (f.records path = [] ∨ ∃ details, (∀ r ∈ details, r.level = .debug) ∧
      f.records path = loadRecord path :: details) ∧
    ∀ fault, f.result = .error fault → ∀ r ∈ f.records path, r.fault = none := by
  obtain ⟨result, _ | details, hdebug, htold⟩ := f
  · exact ⟨.inl rfl, fun _ _ _ hm => absurd hm List.not_mem_nil⟩
  refine ⟨.inr ⟨details, hdebug, rfl⟩, fun g hg r hm => ?_⟩
  rcases List.mem_cons.1 hm with rfl | hm
  · rfl
  · exact htold g hg r hm

/-- Loading logs the settings first, and the rest is details; a fault leaves no record that cannot be
told. -/
theorem records_load (runtime : Runtime) (tree : FileTree) (path : FilePath) :
    ((runtime.load tree path).records = [] ∨ ∃ details, (∀ r ∈ details, r.level = .debug) ∧
      (runtime.load tree path).records = loadRecord path :: details) ∧
    ∀ fault, (runtime.load tree path).result = .error fault →
      ∀ r ∈ (runtime.load tree path).records, r.fault = none := by
  rcases records_loadCriteria 1 tree path runtime.toPlatform with
    ⟨fault, hr, hrecords⟩ | ⟨c, details, hr, hd, hrecords⟩
  · by_cases hf : fault = .load .foreign
    · rw [hf] at hr
      rw [load_of_foreign hr]
      exact records_foreign runtime.foreign path
    · rw [load_of_fault hr hf]
      dsimp only
      rcases hrecords with hrecords | ⟨details, hd, hrecords⟩
      · rw [hrecords]
        exact ⟨.inl rfl, nofun⟩
      · rw [hrecords]
        exact ⟨.inr ⟨details, fun r hm => (hd r hm).1, rfl⟩, fun _ _ => told_of_details hd⟩
  · rw [load_of_criteria hr]
    dsimp only
    rw [hrecords]
    refine ⟨.inr ⟨_, fun r hm => ?_, rfl⟩, nofun⟩
    rcases List.mem_append.1 hm with hm | hm
    · exact (hd r hm).1
    · rw [List.mem_singleton.1 hm]
      rfl

/-- Only details may be what cannot be told. -/
theorem detailed_of_untold {v : Verbosity} (h : Untold v (runtime.load tree path).records) :
    v = .detailed := by
  obtain ⟨r, hr, hs, hf⟩ := h
  have hdebug : r.level = .debug := by
    rcases (records_load runtime tree path).1 with hrecords | ⟨details, hd, hrecords⟩
    · rw [hrecords] at hr
      cases hr
    · rw [hrecords] at hr
      rcases List.mem_cons.1 hr with rfl | hr
      · exact absurd rfl hf
      · exact hd r hr
  rw [hdebug] at hs
  cases v <;> first | rfl | cases hs

/-- The log of criteria cannot be told exactly if it shows details and a field cannot be told. -/
theorem untold_criteria_iff (h : (loadCriteria 1 tree path runtime.toPlatform).result = .ok c)
    (v : Verbosity) :
    Untold v (runtime.load tree path).records ↔ v = .detailed ∧ Unsaid runtime.reach c := by
  rcases records_loadCriteria 1 tree path runtime.toPlatform with
    ⟨fault, hr, -⟩ | ⟨d, details, hr, hd, hrecords⟩
  · cases h.symm.trans hr
  · cases h.symm.trans hr
    rw [load_of_criteria h]
    dsimp only
    rw [hrecords, ← List.cons_append, untold_append_iff (told_of_details hd),
      untold_buildRecord_iff]

/-! ## Answers -/

variable {r : Request} {loaded : Logged (Except CriteriaFault Display)} {say : CriteriaFault → String}

/-- What was loaded is answered if the log can be told. -/
theorem loggedAnswer_of_told (h : ¬Untold r.verbosity loaded.records) :
    r.loggedAnswer say loaded = r.answer say loaded.result := by
  rw [Request.loggedAnswer, logFault_eq_none_iff.2 h]

/-- If it cannot, that is the answer. -/
theorem loggedAnswer_of_untold (h : Untold r.verbosity loaded.records) :
    ∃ fault, r.loggedAnswer say loaded = ⟨"", .escaped (.digits fault)⟩ := by
  unfold Request.loggedAnswer
  cases hf : logFault r.verbosity loaded.records with
  | none => exact absurd h (logFault_eq_none_iff.1 hf)
  | some fault => exact ⟨fault, rfl⟩

/-- A fault of loading is answered, whatever is logged. -/
theorem loggedAnswer_of_loadFault (h : (runtime.load tree path).result = .error fault) :
    r.loggedAnswer say (runtime.load tree path) = r.answer say (.error fault) := by
  rw [loggedAnswer_of_told (not_untold_of_forall ((records_load runtime tree path).2 fault h)), h]

theorem run_of_ofArguments {args : List String} (hr : Request.ofArguments tree args = .ok r)
    (stamp : String) (runtime : Runtime) :
    run tree stamp args runtime =
      let loaded := runtime.load tree r.file
      let answer := r.loggedAnswer runtime.message loaded
      ⟨answer.output, logText r.verbosity stamp loaded.records, answer.ending⟩ := by
  rw [run, hr]
  rfl

end ModelSearch.CommandLine
