import ModelSearch.Proofs.Settings.RoundTrip

/-!
# What holds of loaded criteria

Criteria that a file gives were built by calls whose arguments went through validation: their device
has a name, their filters are texts, the keys of their other mappings are texts, their types were
found by names, and what no file can say is missing.

    validate v = .ok s → s.Valid                                  (valid_of_validate)
    (loadCriteria source tree path p).result = .ok c → c.Loaded p.modules      (loaded_of_loadCriteria)
-/

namespace ModelSearch

namespace Settings

/-- Settings as validation leaves them. -/
structure Valid (s : Settings) : Prop where
  device : ∃ d, deviceOf s.device = .ok d
  filters : ∀ es, s.filters = some es → TextEntries es ∧ es.Distinct
  arguments : ∀ es, s.arguments = some es → TextKeys es ∧ es.Distinct
  options : ∀ es, s.options = some es → TextKeys es ∧ es.Distinct

/-! ## Validation -/

theorem shownEntries_texts {es fs : Entries} (h : shownEntries es = .ok fs) : TextEntries fs := by
  induction es generalizing fs with
  | nil =>
    cases h
    intro e he
    cases he
  | cons e es ih =>
    unfold shownEntries at h
    simp only [bind, Except.bind, pure, Except.pure] at h
    split at h
    · cases h
    next k _ =>
    split at h
    · cases h
    next v _ =>
    split at h
    · cases h
    next rest hr =>
    cases h
    intro f hf
    rcases List.mem_cons.1 hf with rfl | hf
    · exact ⟨k, v, rfl⟩
    · exact ih hr f hf

theorem textEntries_iff {es : Entries} :
    TextEntries es ↔ ∀ e ∈ es, (∃ k, e.1 = .text k) ∧ ∃ v, e.2 = .text v := by
  constructor
  · intro h e he
    obtain ⟨k, v, rfl⟩ := h e he
    exact ⟨⟨k, rfl⟩, v, rfl⟩
  · intro h e he
    obtain ⟨⟨k, hk⟩, v, hv⟩ := h e he
    exact ⟨k, v, Prod.ext hk hv⟩

theorem checkFilters_eq_ok {v : Value} {es : Entries} (h : checkFilters v = .ok (some es)) :
    TextEntries es ∧ es.Distinct := by
  unfold checkFilters at h
  split at h
  · cases h
  · split at h
    next fs hfs =>
      cases h
      refine ⟨textEntries_iff.2 ?_, Entries.distinct_nil.assignAll _⟩
      have hnone : ∀ e ∈ ([] : Entries), (∃ k, e.1 = .text k) ∧ ∃ v, e.2 = .text v := by simp
      exact Entries.forall_assignAll (p := fun k => ∃ t, k = .text t) (q := fun w => ∃ t, w = .text t)
        hnone (textEntries_iff.1 (shownEntries_texts hfs))
    · cases h
  · cases h

theorem checkEntries_eq_ok {field : Setting} {v : Value} {es : Entries}
    (h : checkEntries field v = .ok (some es)) : TextKeys es ∧ es.Distinct := by
  unfold checkEntries at h
  split at h
  · cases h
  · split at h
    next fs hfs =>
      cases h
      refine ⟨?_, Entries.distinct_nil.assignAll _⟩
      intro e he
      have hk := textKeys_keys hfs
      exact (Entries.forall_assignAll (p := fun k => ∃ t, k = .text t) (q := fun _ => True)
        (by simp) (fun f hf => ⟨hk f hf, trivial⟩) e he).1
    · cases h
  · cases h

theorem eq_ok_of_valueOf {α : Type} {c : Checked (Option α)} {a : α} (h : valueOf c = some a) :
    c = .ok (some a) := by
  cases c with
  | ok v => exact congrArg Except.ok h
  | error _ => cases h

/-- A value that is valid is a mapping, and the settings are those of its checks. -/
theorem validate_eq_ok {v : Value} {s : Settings} (h : validate v = .ok s) :
    ∃ mark es, v = .dict mark es ∧ s = (checks es).settings := by
  unfold validate at h
  split at h
  next mark es =>
    dsimp only at h
    split at h
    · exact ⟨mark, es, rfl, (Except.ok.inj h).symm⟩
    · cases h
  · cases h

theorem valid_of_validate {v : Value} {s : Settings} (h : validate v = .ok s) : s.Valid := by
  have hd := deviceOf_of_validate h
  obtain ⟨mark, es, -, rfl⟩ := validate_eq_ok h
  exact ⟨hd, fun fs hf => checkFilters_eq_ok (eq_ok_of_valueOf hf),
    fun fs hf => checkEntries_eq_ok (eq_ok_of_valueOf hf),
    fun fs hf => checkEntries_eq_ok (eq_ok_of_valueOf hf)⟩

/-! ## Replaying -/

/-- A name that stands for a type leads to it. -/
theorem TypeNamed.resolved {ms : List ModuleInfo} {name : Option String} {t : ModelType}
    (h : TypeNamed ms name (some t)) : ∃ n, name = some n ∧ resolveType n ms = .ok t := by
  rcases h with ⟨-, hn⟩ | ⟨n, u, hname, -, hr, hu⟩
  · cases hn
  · cases hu
    exact ⟨n, hname, hr⟩

theorem DeviceNamed.named {name : Option String} {o : Option Device} {d : Device}
    (h : DeviceNamed name o) (ho : o = some d) : ∃ n, Device.ofName n = .ok d := by
  rcases h with ⟨-, hn⟩ | ⟨n, e, -, hr, he⟩
  · rw [ho] at hn
    cases hn
  · rw [ho] at he
    cases he
    exact ⟨n, hr⟩

theorem Valid.proper_calls {s : Settings} (h : s.Valid) (mark : Mark) (d : Option Device) :
    ∀ c ∈ s.calls mark d, c.Proper := by
  intro c hc
  unfold calls at hc
  simp only [List.mem_append, List.mem_cons, List.not_mem_nil, or_false, Option.mem_toList,
    Option.map_eq_some_iff] at hc
  rcases hc with ((((( rfl | rfl) | ⟨_, -, rfl⟩) | rfl) | ⟨_, -, rfl⟩) | ⟨_, -, rfl⟩)
    | rfl | rfl | rfl | rfl
  case inr.inl => exact fun es he => (h.filters es he).2
  case inr.inr.inl => exact fun es he => (h.arguments es he).2
  case inr.inr.inr.inl => exact fun es he => (h.options es he).2
  all_goals trivial

theorem ZooNamed.urls {source : Nat} {text : Option String} {o : Option Zoo} {z : Zoo}
    (h : ZooNamed source text o) (ho : o = some z) : ∃ urls, z.urls? = some urls := by
  rcases h with ⟨-, hn⟩ | ⟨t, w, -, hz, hw⟩
  · rw [ho] at hn
    cases hn
  · rw [ho] at hw
    cases hw
    obtain ⟨urls, hu, -⟩ := Zoo.ofUrls_joinWith hz default
    exact ⟨urls, hu⟩

theorem reachable_replay {s : Settings} {source : Nat} {ms : List ModuleInfo} {b : Builder}
    {records : List LogRecord} (hv : s.Valid) (h : s.replay source ms = .ok (b, records)) :
    b.Reachable := by
  unfold replay at h
  simp only [bind, Except.bind, pure, Except.pure] at h
  split at h
  · cases h
  next input _ =>
  split at h
  · cases h
  next output _ =>
  split at h
  · cases h
  next d _ =>
  split at h
  · cases h
  · cases h
    exact (Builder.Reachable.create _ _).run (hv.proper_calls _ _)

end Settings

namespace Criteria

open Settings

variable {ms : List ModuleInfo}

/-! ## Loading -/

/-- Criteria as files give them. -/
structure Loaded (c : Criteria) (ms : List ModuleInfo) : Prop extends Settable c where
  built : c.Built
  inputClass : ∃ name, resolveType name ms = .ok c.inputClass
  outputClass : ∃ name, resolveType name ms = .ok c.outputClass
  /-- A zoo can only come from URLs. -/
  modelZoo : ∀ z, c.modelZoo = some z → ∃ urls, z.urls? = some urls
  translator : c.translator = none
  block : c.block = none
  progress : c.progress = none

/-- The steps of reading a document. -/
theorem readDocument_eq_ok_iff {source : Nat} {path : String} {bytes : List UInt8} {p : Platform}
    {v : Value} :
    readDocument source path bytes p = .ok v ↔
      ∃ chars w, Text.decode bytes = .ok chars ∧
        (Text.unifyBreaks chars).all Yaml.documentChars.has = true ∧
        p.reads (Text.unifyBreaks chars) = true ∧
        Yaml.read source (Text.unifyBreaks chars) = .ok w ∧ v = w.arranged p.sets := by
  unfold readDocument
  constructor
  · intro h
    cases hd : Text.decode bytes with
    | error f =>
      rw [hd] at h
      cases h
    | ok chars =>
      simp only [hd, readText] at h
      split at h
      next hprintable =>
        split at h
        · cases h
        next hreads =>
        split at h
        next w hw =>
          cases h
          exact ⟨chars, w, rfl, hprintable, by simpa using hreads, hw, rfl⟩
        · cases h
      · cases h
  · rintro ⟨chars, w, hd, hprintable, hreads, hw, rfl⟩
    simp only [hd, hprintable, if_true, readText, hreads, Bool.not_true, Bool.false_eq_true,
      if_false, hw]

/-- The steps of loading criteria. -/
theorem loadCriteria_eq_ok_iff {source : Nat} {tree : FileTree} {path : FilePath} {p : Platform}
    {c : Criteria} :
    (loadCriteria source tree path p).result = .ok c ↔
      ∃ bytes v s b records, readFile tree path = .ok bytes ∧
        readDocument source path.text bytes p = .ok v ∧ settingsOf path.text v p.reach = .ok s ∧
        s.replay source p.modules = .ok (b, records) ∧ b.build = .ok c := by
  constructor
  · intro h
    unfold loadCriteria at h
    split at h
    · cases h
    next s hs =>
    unfold buildSettings at h
    dsimp only at h
    split at h
    · cases h
    next b records hr =>
    split at h
    · cases h
    next d hd =>
    cases h
    unfold loadSettings at hs
    simp only [bind, Except.bind] at hs
    split at hs
    · cases hs
    next bytes hb =>
    split at hs
    · cases hs
    next v hv => exact ⟨bytes, v, s, b, records, hb, hv, hs, hr, hd⟩
  · rintro ⟨bytes, v, s, b, records, hb, hv, hs, hr, hd⟩
    have hl : loadSettings source tree path p = .ok s := by
      simp only [loadSettings, bind, Except.bind, hb, hv, hs]
    have hbuilt : (buildSettings source s p.modules p.reach).result = .ok c := by
      simp only [buildSettings, hr, hd]
    simp only [loadCriteria, hl, hbuilt]
    rfl

theorem loaded_of_build {s : Settings} {source : Nat} {b : Builder} {records : List LogRecord}
    {c : Criteria} (hv : s.Valid) (hr : s.replay source ms = .ok (b, records))
    (hb : b.build = .ok c) : c.Loaded ms := by
  obtain ⟨d, hd⟩ := hv.device
  rcases replay_cases hd source with ⟨f, -, hf⟩ | ⟨-, b', records', hr', hdesc⟩
  · rw [hf] at hr
    cases hr
  · rw [hr'] at hr
    cases hr
    have hbuilt : c.Built := ⟨b, reachable_replay hv hr', hb⟩
    unfold Builder.build at hb
    split at hb
    next i o hi ho =>
      cases hb
      obtain ⟨input, -, hinput⟩ := (hi ▸ hdesc.inputClass : TypeNamed ms _ (some i)).resolved
      obtain ⟨output, -, houtput⟩ := (ho ▸ hdesc.outputClass : TypeNamed ms _ (some o)).resolved
      refine ⟨⟨?_, ?_, ?_, ?_⟩, hbuilt, ⟨input, hinput⟩, ⟨output, houtput⟩, ?_, hdesc.translator, hdesc.block, hdesc.progress⟩
      · exact fun d hd => hdesc.device.named hd
      · exact fun es he => (hv.filters es (hdesc.filters ▸ he)).1
      · exact fun es he => (hv.arguments es (hdesc.arguments ▸ he)).1
      · exact fun es he => (hv.options es (hdesc.options ▸ he)).1
      · exact fun z hz => hdesc.modelZoo.urls hz
    · cases hb

theorem valid_of_settingsOf {path : String} {v : Value} {reach : Reach} {s : Settings}
    (h : settingsOf path v reach = .ok s) : s.Valid := by
  unfold settingsOf at h
  split at h
  · cases h
    refine ⟨⟨none, rfl⟩, ?_, ?_, ?_⟩ <;> intro es hes <;> cases hes
  · split at h
    · cases h
    split at h
    next hs =>
      cases h
      exact valid_of_validate hs
    · cases h
  · cases h

theorem loaded_of_loadCriteria {source : Nat} {tree : FileTree} {path : FilePath} {p : Platform}
    {c : Criteria} (h : (loadCriteria source tree path p).result = .ok c) : c.Loaded p.modules := by
  obtain ⟨bytes, v, s, b, records, -, -, hs, hr, hb⟩ := loadCriteria_eq_ok_iff.1 h
  exact loaded_of_build (valid_of_settingsOf hs) hr hb

end Criteria

end ModelSearch
