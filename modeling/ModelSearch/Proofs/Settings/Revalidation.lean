import ModelSearch.Proofs.ConfigFile.Loaded
import ModelSearch.Proofs.Settings.Order

/-!
# Settings that were validated

Validation leaves settings that it keeps: what is left of a value, a path in another form or keys
that became texts, is a plain value that the same check takes as it is.  So the settings that come
out of validation are those that are valid, and they are validated again with no change.

    s.Valid → validate (.dict mark (s.entries marks)) = .ok s            (validate_of_valid)
    (∃ v, validate v = .ok s) ↔ s.Valid                                  (exists_validate_iff)
-/

namespace ModelSearch.Settings

variable {s : Settings} {marks : Setting → Mark} {es : Entries}

/-! ## Settings as entries -/

/-- A text that may be missing. -/
def textValue (o : Option String) : Value := (o.map Value.text).getD .null

/-- A mapping that may be missing. -/
def mappingValue (mark : Mark) (o : Option Entries) : Value := (o.map (Value.dict mark)).getD .null

/-- A setting as a value, null if it is missing.  The constant of an application is itself a text,
that of its path. -/
def value (s : Settings) (marks : Setting → Mark) : Setting → Value
  | .application => textValue (s.application.map Application.path)
  | .inputClass => textValue s.inputClass
  | .outputClass => textValue s.outputClass
  | .engine => textValue s.engine
  | .device => textValue s.device
  | .groupId => textValue s.groupId
  | .artifactId => textValue s.artifactId
  | .modelUrls => textValue s.modelUrls
  | .filters => mappingValue (marks .filters) s.filters
  | .arguments => mappingValue (marks .arguments) s.arguments
  | .options => mappingValue (marks .options) s.options
  | .modelName => textValue s.modelName

/-- All twelve settings under their names; `marks` are the identities of the mappings. -/
def entries (s : Settings) (marks : Setting → Mark) : Entries :=
  Setting.all.map fun f => (.text f.name, s.value marks f)

theorem textKeys_entries (s : Settings) (marks : Setting → Mark) : TextKeys (s.entries marks) := by
  intro e he
  obtain ⟨f, -, rfl⟩ := List.mem_map.1 he
  exact ⟨f.name, rfl⟩

theorem distinct_entries (s : Settings) (marks : Setting → Mark) : (s.entries marks).Distinct := by
  rw [(s.textKeys_entries marks).distinct_iff, entries, List.pairwise_map]
  have hnames : Setting.all.Pairwise fun f g => f.name ≠ g.name := by decide
  exact hnames.imp fun hne h => hne (by simpa using h)

/-- The entries in any order give each setting its value. -/
theorem given_entries (hp : (s.entries marks).Perm es) (f : Setting) :
    given es f = s.value marks f := by
  rw [given_perm (s.textKeys_entries marks) (s.distinct_entries marks) hp]
  exact given_of_mem (s.distinct_entries marks) (List.mem_map.2 ⟨f, f.mem_all, rfl⟩)

/-- Every key is a setting. -/
theorem unknownProblems_entries (hp : (s.entries marks).Perm es) : unknownProblems es = [] := by
  refine List.filterMap_eq_nil_iff.2 fun e he => ?_
  obtain ⟨f, -, rfl⟩ := List.mem_map.1 (hp.mem_iff.2 he)
  exact keyProblem?_name f

/-! ## Checks of values that were checked -/

theorem checkText_value (f : Setting) (o : Option String) : checkText f (textValue o) = .ok o :=
  checkText_text f o

theorem checkApplication_value (o : Option Application) :
    checkApplication (textValue (o.map Application.path)) = .ok o := by
  have h := checkApplication_path o
  rwa [textValue, Option.map_map]

theorem checkDevice_value {o : Option String} (h : ∃ d, deviceOf o = .ok d) :
    checkDevice (textValue o) = .ok o := by
  cases o with
  | none => rfl
  | some name =>
    obtain ⟨d, hd⟩ := h
    unfold deviceOf at hd
    cases hname : Device.ofName name with
    | error f =>
      simp only [hname] at hd
      cases hd
    | ok device =>
      simp [checkDevice, textValue, checkText, textOf, hname, bind, Except.bind, pure, Except.pure]

theorem checkFilters_value {o : Option Entries} (mark : Mark)
    (h : ∀ es, o = some es → TextEntries es ∧ es.Distinct) :
    checkFilters (mappingValue mark o) = .ok o := by
  cases o with
  | none => rfl
  | some es =>
    obtain ⟨ht, hd⟩ := h es rfl
    show checkFilters (.dict mark es) = .ok (some es)
    simp only [checkFilters, shownEntries_of_texts ht, Entries.assignAll_nil hd]

theorem checkEntries_value {o : Option Entries} (f : Setting) (mark : Mark)
    (h : ∀ es, o = some es → TextKeys es ∧ es.Distinct) :
    checkEntries f (mappingValue mark o) = .ok o := by
  cases o with
  | none => rfl
  | some es =>
    obtain ⟨hk, hd⟩ := h es rfl
    show checkEntries f (.dict mark es) = .ok (some es)
    simp only [checkEntries, textKeys_of_texts hk, Entries.assignAll_nil hd]

/-! ## Main results -/

/-- Settings that are valid are validated with no change, in any order of their entries. -/
theorem validate_of_valid (hs : s.Valid) (hp : (s.entries marks).Perm es) (mark : Mark) :
    validate (.dict mark es) = .ok s := by
  have hchecks : checks es =
      { application := .ok s.application
        inputClass := .ok s.inputClass
        outputClass := .ok s.outputClass
        engine := .ok s.engine
        device := .ok s.device
        groupId := .ok s.groupId
        artifactId := .ok s.artifactId
        modelUrls := .ok s.modelUrls
        filters := .ok s.filters
        arguments := .ok s.arguments
        options := .ok s.options
        modelName := .ok s.modelName
        unknown := [] } := by
    have hunknown := unknownProblems_entries hp
    rw [unknownProblems] at hunknown
    unfold checks
    simp only [given_entries hp, value, checkApplication_value, checkText_value,
      checkDevice_value hs.device, checkFilters_value _ hs.filters,
      checkEntries_value _ _ hs.arguments, checkEntries_value _ _ hs.options, hunknown]
  simp only [validate, hchecks]
  rfl

/-- Validation gives exactly the settings that are valid. -/
theorem exists_validate_iff : (∃ v, validate v = .ok s) ↔ s.Valid :=
  ⟨fun ⟨_, h⟩ => valid_of_validate h,
    fun h => ⟨_, validate_of_valid h (List.Perm.refl (s.entries default)) default⟩⟩

/-- Validating the settings that validation gave gives them again. -/
theorem validate_validate {v : Value} (h : validate v = .ok s) (marks : Setting → Mark)
    (hp : (s.entries marks).Perm es) (mark : Mark) : validate (.dict mark es) = .ok s :=
  validate_of_valid (valid_of_validate h) hp mark

/-- A path in capitals and with blanks around it, a text given as bytes, and two keys of the filters
that become one text. -/
def lax : Entries :=
  [(.text "application", .text " NLP/Question_Answer "), (.text "engine", .bytes [80, 121]),
   (.text "filters", .dict default [(.bool true, .text "a"), (.text "True", .null)])]

set_option maxRecDepth 20000 in
theorem validate_validate_lax :
    let s : Settings :=
      { application := some .questionAnswer, engine := some "Py",
        filters := some [(.text "True", .text "None")] }
    validate (.dict default lax) = .ok s ∧
      validate (.dict default (s.entries default)) = .ok s := by
  intro s
  have hs : validate (.dict default lax) = .ok s := by rfl
  exact ⟨hs, validate_validate hs default (List.Perm.refl _) default⟩

end ModelSearch.Settings
