import ModelSearch.ConfigFile

/-!
# What loading logs

The settings of a file are told as soon as they are there; the zoo and the criteria that are built
from them are details.  Only the record of the criteria may be one that cannot be put into words, and
it comes last.

    the records of loading criteria                                (records_loadCriteria)
-/

namespace ModelSearch

/-- Details that can be put into words. -/
def Details (records : List LogRecord) : Prop := ∀ r ∈ records, r.level = .debug ∧ r.fault = none

theorem details_nil : Details [] := nofun

theorem Details.append {xs ys : List LogRecord} (hx : Details xs) (hy : Details ys) :
    Details (xs ++ ys) :=
  fun r hr => (List.mem_append.1 hr).elim (hx r) (hy r)

namespace Builder

theorem details_apply (b : Builder) (c : Call) : Details (b.apply c).records := by
  cases c with
  | artifactId id =>
    simp only [apply, setArtifactId]
    cases ArtifactName.of id <;> exact details_nil
  | modelUrls mark text =>
    simp only [apply, setModelUrls]
    cases Zoo.ofUrls mark text with
    | ok z =>
      intro r hr
      rw [List.mem_singleton.1 hr]
      exact ⟨rfl, rfl⟩
    | error fault => exact details_nil
  | _ => exact details_nil

theorem details_run (b : Builder) (cs : List Call) : Details (b.run cs).records := by
  induction cs generalizing b with
  | nil => exact details_nil
  | cons c cs ih =>
    unfold run
    dsimp only
    split
    · exact b.details_apply c
    · exact (b.details_apply c).append (ih _)

end Builder

theorem Settings.details_replay {s : Settings} {source : Nat} {ms : List ModuleInfo} {b : Builder}
    {records : List LogRecord} (h : s.replay source ms = .ok (b, records)) : Details records := by
  unfold replay at h
  simp only [bind, Except.bind, pure, Except.pure] at h
  split at h
  · cases h
  split at h
  · cases h
  split at h
  · cases h
  split at h
  · cases h
  · cases h
    exact Builder.details_run _ _

/-- Building settings logs details, and then the criteria if there are any. -/
theorem records_buildSettings (source : Nat) (s : Settings) (ms : List ModuleInfo) (reach : Reach) :
    ∃ details, Details details ∧
      ((∃ fault, buildSettings source s ms reach = ⟨.error fault, details⟩) ∨
        ∃ c, buildSettings source s ms reach = ⟨.ok c, details ++ [c.buildRecord reach]⟩) := by
  unfold buildSettings
  cases hr : s.replay source ms with
  | error fault => exact ⟨[], details_nil, .inl ⟨fault, rfl⟩⟩
  | ok built =>
    obtain ⟨b, details⟩ := built
    refine ⟨details, Settings.details_replay hr, ?_⟩
    dsimp only
    cases b.build with
    | error fault => exact .inl ⟨.build fault, rfl⟩
    | ok c => exact .inr ⟨c, rfl⟩

/-- Loading logs nothing without settings, the settings and perhaps details if they build no criteria,
and otherwise the settings, details, and the criteria last. -/
theorem records_loadCriteria (source : Nat) (tree : FileTree) (path : FilePath) (p : Platform) :
    let loaded := loadCriteria source tree path p
    (∃ fault, loaded.result = .error fault ∧
      (loaded.records = [] ∨ ∃ details, Details details ∧
        loaded.records = loadRecord path :: details)) ∨
    ∃ c details, loaded.result = .ok c ∧ Details details ∧
      loaded.records = loadRecord path :: (details ++ [c.buildRecord p.reach]) := by
  unfold loadCriteria
  cases loadSettings source tree path p with
  | error fault => exact .inl ⟨_, rfl, .inl rfl⟩
  | ok s =>
    obtain ⟨details, hd, ⟨fault, h⟩ | ⟨c, h⟩⟩ := records_buildSettings source s p.modules p.reach
    · simp only [h]
      exact .inl ⟨_, rfl, .inr ⟨details, hd, rfl⟩⟩
    · simp only [h]
      exact .inr ⟨c, details, rfl, hd, rfl⟩

end ModelSearch
