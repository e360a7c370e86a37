import ModelSearch.ConfigFile
import ModelSearch.Proofs.Criteria.Reachable
import ModelSearch.Proofs.Device.Name

/-!
# Criteria as a mapping of settings

The mapping that criteria are written as has an entry for each field that is a setting and has a
value, and one for the URLs of a zoo made from them.  Looking a setting up gives that value, and
validating the mapping gives the settings of the criteria, field by field.

    given c.settingEntries s = the plain value of the field of that name      (given_of_name)
    validate (.dict mark c.settingEntries) = .ok c.toSettings                 (validate_settingEntries)
-/

namespace ModelSearch

/-! ## Names of fields -/

theorem Field.find?_name (f : Field) : (Field.all.find? fun g => g.name = f.name) = some f := by
  cases f <;> decide

theorem Field.name_injective {f g : Field} (h : f.name = g.name) : f = g := by
  have hf := find?_name f
  rw [h, find?_name g] at hf
  exact (Option.some.inj hf).symm

theorem Setting.mem_all (s : Setting) : s ∈ Setting.all := by cases s <;> decide

theorem mem_settingFields {f : Field} : f ∈ settingFields ↔ ∃ s : Setting, s.name = f.name := by
  have hf : f ∈ Field.all := List.mem_of_find?_eq_some (Field.find?_name f)
  simp only [settingFields, List.mem_filter, List.any_eq_true, decide_eq_true_eq]
  constructor
  · rintro ⟨-, s, -, hs⟩
    exact ⟨s, hs⟩
  · rintro ⟨s, hs⟩
    exact ⟨hf, s, s.mem_all, hs⟩

theorem Entries.find_cons (k l v : Value) (es : Entries) :
    Entries.find ((l, v) :: es) k = if k.sameAs l then some v else es.find k := by
  unfold Entries.find
  rw [List.find?_cons]
  cases k.sameAs l <;> rfl

namespace Criteria

/-! ## Entries -/

/-- The entry of a field, if it has a value. -/
def entryOf (c : Criteria) (f : Field) : Option (Value × Value) :=
  (c.plainField f).map fun v => (.text f.name, v)

/-- The text of the URLs of a zoo made from them. -/
def urlsText? (c : Criteria) : Option String :=
  (c.modelZoo.bind Zoo.urls?).map (Text.joinWith ",")

theorem settingEntries_eq (c : Criteria) :
    c.settingEntries = settingFields.filterMap c.entryOf
      ++ (c.urlsText?.map fun t => (Value.text Setting.modelUrls.name, Value.text t)).toList := by
  have hfields : (c.present.filterMap fun e =>
      if settingFields.contains e.1 then some (Value.text e.1.name, e.2) else none)
      = settingFields.filterMap c.entryOf := by
    have hsub : settingFields = Field.all.filter settingFields.contains := by decide
    rw [hsub, List.filterMap_filter, present, List.filterMap_filterMap, ← hsub]
    congr 1
    funext f
    unfold entryOf
    cases c.plainField f <;> simp
  unfold settingEntries urlsText?
  rw [hfields]
  cases c.modelZoo.bind Zoo.urls? <;> simp

/-- Looking up a name among the entries of some fields, which stand in front of other entries. -/
theorem find_fieldEntries (c : Criteria) (fs : List Field) (more : Entries) (name : String) :
    Entries.find (fs.filterMap c.entryOf ++ more) (.text name)
      = ((fs.find? fun f => f.name = name).bind c.plainField).or (more.find (.text name)) := by
  induction fs with
  | nil => rfl
  | cons f fs ih =>
    by_cases hn : f.name = name
    · rw [List.find?_cons_of_pos (by simpa using hn)]
      cases hv : c.plainField f with
      | some v =>
        have he : c.entryOf f = some (.text f.name, v) := by simp [entryOf, hv]
        rw [List.filterMap_cons_some he, List.cons_append, Entries.find_cons]
        simp [Value.sameAs, hn, hv]
      | none =>
        have he : c.entryOf f = none := by simp [entryOf, hv]
        rw [List.filterMap_cons_none he, ih]
        -- a field of the same name further on is the same field, so it has no value either
        have hrest : (fs.find? fun g => g.name = name).bind c.plainField = none := by
          cases hg : fs.find? fun g => g.name = name with
          | none => rfl
          | some g =>
            have hgn : g.name = name := by simpa using List.find?_some hg
            rw [Field.name_injective (hgn.trans hn.symm)]
            exact hv
        rw [hrest]
        simp [hv]
    · rw [List.find?_cons_of_neg (by simpa using hn), ← ih]
      cases hv : c.plainField f with
      | none =>
        have he : c.entryOf f = none := by simp [entryOf, hv]
        rw [List.filterMap_cons_none he]
      | some v =>
        have he : c.entryOf f = some (.text f.name, v) := by simp [entryOf, hv]
        rw [List.filterMap_cons_some he, List.cons_append, Entries.find_cons]
        have hs : (Value.text name).sameAs (.text f.name) = false := by
          simpa [Value.sameAs, eq_comm] using hn
        rw [hs, if_neg Bool.false_ne_true]

open Settings (given)

/-- The value of a setting that is a field. -/
theorem given_of_name (c : Criteria) {s : Setting} {f : Field} (h : s.name = f.name) :
    given c.settingEntries s = (c.plainField f).getD .null := by
  have hfind : (settingFields.find? fun g => g.name = f.name) = some f := by
    have hall := Field.find?_name f
    have hf : f ∈ settingFields := mem_settingFields.2 ⟨s, h⟩
    revert hf
    cases f <;> decide
  have hurls : f.name ≠ Setting.modelUrls.name := by cases f <;> decide
  have hmore : Entries.find ((c.urlsText?.map fun t =>
      (Value.text Setting.modelUrls.name, Value.text t)).toList) (.text f.name) = none := by
    cases c.urlsText? with
    | none => rfl
    | some t =>
      show Entries.find [(.text Setting.modelUrls.name, .text t)] (.text f.name) = none
      have hs : (Value.text f.name).sameAs (.text Setting.modelUrls.name) = false := by
        simpa [Value.sameAs] using hurls
      rw [Entries.find_cons, hs, if_neg Bool.false_ne_true]
      rfl
  rw [given, settingEntries_eq, h, find_fieldEntries, hfind, hmore]
  simp

theorem given_modelUrls (c : Criteria) :
    given c.settingEntries .modelUrls = (c.urlsText?.map Value.text).getD .null := by
  have hfind : (settingFields.find? fun g => g.name = Setting.modelUrls.name) = none := by decide
  rw [given, settingEntries_eq, find_fieldEntries, hfind]
  cases c.urlsText? with
  | none => rfl
  | some t =>
    show ((Entries.find [(.text Setting.modelUrls.name, .text t)] (.text Setting.modelUrls.name)).getD
      .null) = .text t
    rw [Entries.find_cons]
    simp [Value.sameAs]

/-- Every key is the name of a setting. -/
theorem key_of_mem_settingEntries {c : Criteria} {e : Value × Value} (h : e ∈ c.settingEntries) :
    ∃ s : Setting, e.1 = .text s.name := by
  rw [settingEntries_eq, List.mem_append] at h
  rcases h with h | h
  · obtain ⟨f, hf, he⟩ := List.mem_filterMap.1 h
    obtain ⟨v, -, rfl⟩ := Option.map_eq_some_iff.1 he
    obtain ⟨s, hs⟩ := mem_settingFields.1 hf
    exact ⟨s, by rw [hs]⟩
  · obtain ⟨t, -, rfl⟩ := Option.map_eq_some_iff.1 (Option.mem_toList.1 h)
    exact ⟨.modelUrls, rfl⟩

end Criteria

namespace Settings

/-! ## Checks of plain values -/

theorem checkText_text (field : Setting) (o : Option String) :
    checkText field ((o.map Value.text).getD .null) = .ok o := by
  cases o <;> rfl

theorem checkApplication_path (o : Option Application) :
    checkApplication ((o.map fun a => Value.text a.path).getD .null) = .ok o := by
  cases o with
  | none => rfl
  | some a => simp [checkApplication, Application.of?_path]

theorem checkDevice_text {o : Option Device}
    (h : ∀ d, o = some d → ∃ name, Device.ofName name = .ok d) :
    checkDevice ((o.map fun d => Value.text d.text).getD .null) = .ok (o.map Device.text) := by
  cases o with
  | none => rfl
  | some d =>
    obtain ⟨name, hn⟩ := h d rfl
    simp [checkDevice, checkText, textOf, Device.ofName_text hn, bind, Except.bind, pure, Except.pure]

/-- Keys that are texts. -/
def TextKeys (es : Entries) : Prop := ∀ e ∈ es, ∃ k, e.1 = .text k

/-- Keys and values that are texts. -/
def TextEntries (es : Entries) : Prop := ∀ e ∈ es, ∃ k v, e = (.text k, .text v)

theorem shownEntries_of_texts {es : Entries} (h : TextEntries es) : shownEntries es = .ok es := by
  induction es with
  | nil => rfl
  | cons e es ih =>
    obtain ⟨k, v, rfl⟩ := h e List.mem_cons_self
    have hes := ih fun f hf => h f (List.mem_cons_of_mem _ hf)
    simp [shownEntries, hes, Value.shown, Value.withinDigits, Value.plain, bind, Except.bind, pure,
      Except.pure]

theorem textKeys_of_texts {es : Entries} (h : TextKeys es) (field : Setting) :
    textKeys field es = (es, []) := by
  induction es with
  | nil => rfl
  | cons e es ih =>
    obtain ⟨k, hk⟩ := h e List.mem_cons_self
    have hes := ih fun f hf => h f (List.mem_cons_of_mem _ hf)
    obtain ⟨_, v⟩ := e
    cases hk
    simp [textKeys, hes, textOf]

/-- The entries that are left have texts as keys. -/
theorem textKeys_keys {field : Setting} {es fs : Entries} {problems : List Problem}
    (h : textKeys field es = (fs, problems)) : TextKeys fs := by
  induction es generalizing fs problems with
  | nil =>
    cases h
    intro e he
    cases he
  | cons e es ih =>
    have hrest : TextKeys (textKeys field es).1 := ih rfl
    unfold textKeys at h
    dsimp only at h
    split at h
    · cases h
      intro f hf
      rcases List.mem_cons.1 hf with rfl | hf
      · exact ⟨_, rfl⟩
      · exact hrest f hf
    · cases h
      exact hrest

theorem checkFilters_mapping {o : Option Entries} (ht : ∀ es, o = some es → TextEntries es)
    (hd : ∀ es, o = some es → es.Distinct) (field : Field) :
    checkFilters ((Criteria.mapping field o).getD .null) = .ok o := by
  cases o with
  | none => rfl
  | some es =>
    show checkFilters (.dict (.part field.name) es) = .ok (some es)
    simp [checkFilters, shownEntries_of_texts (ht es rfl), Entries.assignAll_nil (hd es rfl)]

theorem checkEntries_mapping {o : Option Entries} (ht : ∀ es, o = some es → TextKeys es)
    (hd : ∀ es, o = some es → es.Distinct) (setting : Setting) (field : Field) :
    checkEntries setting ((Criteria.mapping field o).getD .null) = .ok o := by
  cases o with
  | none => rfl
  | some es =>
    show checkEntries setting (.dict (.part field.name) es) = .ok (some es)
    simp [checkEntries, textKeys_of_texts (ht es rfl), Entries.assignAll_nil (hd es rfl)]

theorem keyProblem?_name (s : Setting) : keyProblem? (.text s.name) = none := by
  have hs : (Setting.all.any fun t => t.name = s.name) = true :=
    List.any_eq_true.2 ⟨s, s.mem_all, by simp⟩
  simp only [keyProblem?, hs, if_true]

end Settings

namespace Criteria

open Settings

/-! ## The settings of criteria -/

/-- What criteria say as settings. -/
def toSettings (c : Criteria) : Settings where
  application := c.application
  inputClass := some c.inputClass.name
  outputClass := some c.outputClass.name
  engine := c.engine
  device := c.device.map Device.text
  groupId := c.groupId
  artifactId := c.artifactId
  modelUrls := c.urlsText?
  filters := c.filters
  arguments := c.arguments
  options := c.options
  modelName := c.modelName

/-- Criteria that settings can hold: a device that has a name, filters of texts, and texts as the keys
of the other mappings. -/
structure Settable (c : Criteria) : Prop where
  device : ∀ d, c.device = some d → ∃ name, Device.ofName name = .ok d
  filters : ∀ es, c.filters = some es → TextEntries es
  arguments : ∀ es, c.arguments = some es → TextKeys es
  options : ∀ es, c.options = some es → TextKeys es

/-- Criteria whose fields are all plain: those that settings can hold and whose types are the ones
that their names lead to. -/
structure Plain (c : Criteria) (ms : List ModuleInfo) : Prop extends Settable c where
  inputClass : resolveType c.inputClass.name ms = .ok c.inputClass
  outputClass : resolveType c.outputClass.name ms = .ok c.outputClass

theorem unknown_settingEntries (c : Criteria) :
    (c.settingEntries.filterMap fun e => keyProblem? e.1) = [] := by
  rw [List.filterMap_eq_nil_iff]
  intro e he
  obtain ⟨s, hs⟩ := key_of_mem_settingEntries he
  rw [hs, keyProblem?_name]

/-- The checks of the mapping of criteria give their settings. -/
theorem checks_settingEntries {c : Criteria} (hs : c.Sound) (hp : c.Settable) :
    checks c.settingEntries =
      { application := .ok c.toSettings.application
        inputClass := .ok c.toSettings.inputClass
        outputClass := .ok c.toSettings.outputClass
        engine := .ok c.toSettings.engine
        device := .ok c.toSettings.device
        groupId := .ok c.toSettings.groupId
        artifactId := .ok c.toSettings.artifactId
        modelUrls := .ok c.toSettings.modelUrls
        filters := .ok c.toSettings.filters
        arguments := .ok c.toSettings.arguments
        options := .ok c.toSettings.options
        modelName := .ok c.toSettings.modelName
        unknown := [] } := by
  unfold checks
  rw [unknown_settingEntries, given_modelUrls, checkText_text,
    given_of_name c (s := .application) (f := .application) rfl,
    given_of_name c (s := .inputClass) (f := .inputClass) rfl,
    given_of_name c (s := .outputClass) (f := .outputClass) rfl,
    given_of_name c (s := .engine) (f := .engine) rfl,
    given_of_name c (s := .device) (f := .device) rfl,
    given_of_name c (s := .groupId) (f := .groupId) rfl,
    given_of_name c (s := .artifactId) (f := .artifactId) rfl,
    given_of_name c (s := .filters) (f := .filters) rfl,
    given_of_name c (s := .arguments) (f := .arguments) rfl,
    given_of_name c (s := .options) (f := .options) rfl,
    given_of_name c (s := .modelName) (f := .modelName) rfl]
  simp only [plainField, checkApplication_path, checkDevice_text hp.device, checkText_text,
    checkFilters_mapping hp.filters hs.filters, checkEntries_mapping hp.arguments hs.arguments,
    checkEntries_mapping hp.options hs.options]
  rfl

theorem validate_settingEntries {c : Criteria} (hs : c.Sound) (hp : c.Settable) (mark : Mark) :
    validate (.dict mark c.settingEntries) = .ok c.toSettings := by
  simp only [validate, checks_settingEntries hs hp]
  rfl

end Criteria

end ModelSearch
