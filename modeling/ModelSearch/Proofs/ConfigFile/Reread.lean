import ModelSearch.Proofs.ConfigFile.Loaded
import ModelSearch.Proofs.Settings.Arranged

/-!
# Criteria from the same mapping made of other objects

A document that was written and read again gives the same mapping with other objects in it, and its
sets may give their items in another order.  Validating looks at neither, so the settings are the
same but for these in the arguments and the options, and criteria replayed from them agree with those
that were written: they are equal, zoos being compared by their URLs.

    validate (.dict mark es) = .ok (c.remade a o).toSettings          (validate_reread)
    some d that is loaded agrees with c ↔ c.LeadsBack p.modules       (agrees_iff_leadsBack)
-/

namespace ModelSearch

open Settings (TextKeys TextEntries given checkText checkApplication checkDevice checkFilters
  checkEntries textOf keyProblem? checks validate)

/-! ## Lookups -/

namespace Value

theorem unmarked_eq_text_iff {v : Value} {t : String} : v.unmarked = .text t ↔ v = .text t := by
  cases v <;> simp [unmarked]

/-- Mappings that are the same but for marks have the same entries but for marks. -/
theorem exists_of_mem_unmarked {es fs : Entries} (h : unmarkedEntries es = unmarkedEntries fs)
    {e : Value × Value} (he : e ∈ es) :
    ∃ f ∈ fs, f.1.unmarked = e.1.unmarked ∧ f.2.unmarked = e.2.unmarked := by
  rw [unmarkedEntries_eq, unmarkedEntries_eq] at h
  have hm := List.mem_map_of_mem (f := fun e : Value × Value => (e.1.unmarked, e.2.unmarked)) he
  rw [h] at hm
  obtain ⟨f, hf, heq⟩ := List.mem_map.1 hm
  exact ⟨f, hf, (Prod.mk.inj heq).1, (Prod.mk.inj heq).2⟩

theorem find?_unmarked {k : Value} (h : k.Comparable) (es : Entries) :
    (unmarkedEntries es).find? (fun e => k.unmarked.sameAs e.1)
      = (es.find? fun e => k.sameAs e.1).map fun e => (e.1.unmarked, e.2.unmarked) := by
  rw [unmarkedEntries_eq, List.find?_map]
  congr 2
  funext e
  exact sameAs_unmarked k e.1 h

end Value

open Value (unmarkedEntries unmarkedEntries_eq unmarked_eq_text_iff arrangedEntries
  arrangedEntries_eq)

theorem Settings.given_unmarked (es : Entries) (s : Setting) :
    given (unmarkedEntries es) s = (given es s).unmarked := by
  have hk : (Value.text s.name).Comparable := trivial
  have hf := Value.find?_unmarked hk es
  have hu : (Value.text s.name).unmarked = .text s.name := rfl
  rw [hu] at hf
  unfold given Entries.find
  rw [hf]
  cases es.find? fun e => (Value.text s.name).sameAs e.1 <;> rfl

/-- The same value of every setting, but for marks. -/
theorem Settings.given_congr {es fs : Entries} (h : unmarkedEntries es = unmarkedEntries fs)
    (s : Setting) : (given es s).unmarked = (given fs s).unmarked := by
  rw [← given_unmarked, ← given_unmarked, h]

/-! ## Texts in mappings -/

namespace Settings

theorem TextKeys.of_unmarked {es fs : Entries} (ht : TextKeys es)
    (h : unmarkedEntries fs = unmarkedEntries es) : TextKeys fs := by
  intro f hf
  obtain ⟨e, he, hu, -⟩ := Value.exists_of_mem_unmarked h hf
  obtain ⟨t, hk⟩ := ht e he
  rw [hk] at hu
  replace hu := hu.symm
  exact ⟨t, unmarked_eq_text_iff.1 hu⟩

/-- Texts have no marks. -/
theorem TextEntries.eq_of_unmarked {es fs : Entries} (ht : TextEntries es)
    (h : unmarkedEntries fs = unmarkedEntries es) : fs = es := by
  rw [unmarkedEntries_eq, unmarkedEntries_eq] at h
  induction es generalizing fs with
  | nil => simpa using h
  | cons e es ih =>
    cases fs with
    | nil => simp at h
    | cons f fs =>
      obtain ⟨k, v, rfl⟩ := ht e List.mem_cons_self
      simp only [List.map_cons, List.cons.injEq, Prod.mk.injEq] at h
      obtain ⟨⟨hk, hv⟩, hrest⟩ := h
      have hfk : f.1 = .text k := unmarked_eq_text_iff.1 hk
      have hfv : f.2 = .text v := unmarked_eq_text_iff.1 hv
      have hfe : f = (.text k, .text v) := Prod.ext hfk hfv
      rw [ih (fun e he => ht e (List.mem_cons_of_mem _ he)) hrest, hfe]

theorem TextKeys.distinct_unmarked_iff {es : Entries} (h : TextKeys es) :
    Entries.Distinct (unmarkedEntries es) ↔ es.Distinct :=
  Value.distinct_unmarked_iff fun e he => by
    obtain ⟨t, ht⟩ := h e he
    rw [ht]
    trivial

/-! ## Checks -/

theorem checkText_unmarked (field : Setting) (v : Value) :
    checkText field v.unmarked = checkText field v := by
  cases v <;> rfl

theorem checkApplication_unmarked (v : Value) : checkApplication v.unmarked = checkApplication v := by
  cases v <;> rfl

theorem checkDevice_unmarked (v : Value) : checkDevice v.unmarked = checkDevice v := by
  unfold checkDevice
  rw [checkText_unmarked]

theorem checkFilters_of_unmarked {v : Value} {o : Option Entries} (field : Field)
    (ht : ∀ es, o = some es → TextEntries es) (hd : ∀ es, o = some es → es.Distinct)
    (h : v.unmarked = ((Criteria.mapping field o).getD .null).unmarked) :
    checkFilters v = .ok o := by
  rw [← checkFilters_mapping ht hd field]
  cases o with
  | none =>
    have hv : v = .null := by cases v <;> simp_all [Value.unmarked, Criteria.mapping]
    rw [hv]
    rfl
  | some es =>
    cases v with
    | dict mark fs =>
      have hu : unmarkedEntries fs = unmarkedEntries es := by
        simpa [Value.unmarked, Criteria.mapping] using h
      rw [(ht es rfl).eq_of_unmarked hu]
      rfl
    | _ => simp [Value.unmarked, Criteria.mapping] at h

theorem TextKeys.arranged {es : Entries} (h : TextKeys es) (o : SetOrder) :
    TextKeys (arrangedEntries o es) := by
  rw [arrangedEntries_eq]
  intro e he
  obtain ⟨f, hf, rfl⟩ := List.mem_map.1 he
  obtain ⟨t, ht⟩ := h f hf
  exact ⟨t, by rw [ht]; rfl⟩

theorem TextKeys.distinct_arranged {es : Entries} (h : TextKeys es) (hd : es.Distinct)
    (o : SetOrder) : Entries.Distinct (arrangedEntries o es) := by
  unfold Entries.Distinct
  rw [arrangedEntries_eq, List.pairwise_map]
  refine List.Pairwise.imp_of_mem (fun {e f} _ hf hef => ?_) hd
  obtain ⟨t, ht⟩ := h f hf
  rw [Value.sameAs_arranged, ht, Value.text_sameAs_arranged, ← ht]
  exact hef

/-- Filters that are texts have no order. -/
theorem arranged_of_filters {v : Value} {o : Option Entries} {field : Field}
    (ht : ∀ es, o = some es → TextEntries es)
    (h : v.unmarked = ((Criteria.mapping field o).getD .null).unmarked) (order : SetOrder) :
    v.arranged order = v := by
  cases v with
  | dict mark fs =>
    cases o with
    | none => cases h
    | some es =>
      have hu : unmarkedEntries fs = unmarkedEntries es := by
        simpa [Value.unmarked, Criteria.mapping] using h
      have hid : ∀ e ∈ es, (e.1.arranged order, e.2.arranged order) = e := by
        intro e he
        obtain ⟨k, w, rfl⟩ := ht es rfl e he
        rfl
      rw [(ht es rfl).eq_of_unmarked hu, Value.arranged, arrangedEntries_eq,
        List.map_congr_left hid, List.map_id']
  | list | tuple | set => cases o <;> cases h
  | _ => rfl

/-- Filters that are texts are put into words. -/
theorem filterFault?_of_filters {v : Value} {o : Option Entries} {field : Field}
    (ht : ∀ es, o = some es → TextEntries es)
    (h : v.unmarked = ((Criteria.mapping field o).getD .null).unmarked) (reach : Reach) :
    filterFault? reach v = none := by
  cases v with
  | dict mark fs =>
    cases o with
    | none => cases h
    | some es =>
      have hu : unmarkedEntries fs = unmarkedEntries es := by
        simpa [Value.unmarked, Criteria.mapping] using h
      rw [(ht es rfl).eq_of_unmarked hu, filterFault?, List.findSome?_eq_none_iff]
      intro w hw
      obtain ⟨e, he, hwe⟩ := List.mem_flatMap.1 hw
      obtain ⟨k, x, rfl⟩ := ht es rfl e he
      rcases List.mem_pair.1 hwe with rfl | rfl <;> rfl
  | _ => rfl

/-- The check of a mapping made of other objects. -/
theorem checkEntries_of_unmarked {v : Value} {o : Option Entries} (field : Field)
    (ht : ∀ es, o = some es → TextKeys es) (hd : ∀ es, o = some es → es.Distinct)
    (h : v.unmarked = ((Criteria.mapping field o).getD .null).unmarked) (setting : Setting) :
    ∃ p, checkEntries setting v = .ok p ∧ p.map unmarkedEntries = o.map unmarkedEntries ∧
      (∀ es, p = some es → TextKeys es) ∧ ∀ es, p = some es → es.Distinct := by
  cases o with
  | none =>
    have hv : v = .null := by cases v <;> simp_all [Value.unmarked, Criteria.mapping]
    rw [hv]
    exact ⟨none, rfl, rfl, nofun, nofun⟩
  | some es =>
    cases v with
    | dict mark fs =>
      have hu : unmarkedEntries fs = unmarkedEntries es := by
        simpa [Value.unmarked, Criteria.mapping] using h
      have hk : TextKeys fs := (ht es rfl).of_unmarked hu
      have hf : Entries.Distinct fs := by
        rw [← hk.distinct_unmarked_iff, hu, (ht es rfl).distinct_unmarked_iff]
        exact hd es rfl
      refine ⟨some fs, ?_, by simp [hu], ?_, ?_⟩
      · simp [checkEntries, textKeys_of_texts hk, Entries.assignAll_nil hf]
      · rintro _ ⟨⟩
        exact hk
      · rintro _ ⟨⟩
        exact hf
    | _ => simp [Value.unmarked, Criteria.mapping] at h

end Settings

namespace Criteria

/-! ## Criteria of other objects -/

/-- Criteria with other arguments and options. -/
def remade (c : Criteria) (arguments options : Option Entries) : Criteria :=
  { c with arguments := arguments, options := options }

/-- Validating the mapping of criteria that is made of other objects. -/
theorem validate_reread {c : Criteria} (hs : c.Sound) (hp : c.Settable) {es : Entries} (mark : Mark)
    (h : unmarkedEntries es = unmarkedEntries c.settingEntries) :
    ∃ a o, validate (.dict mark es) = .ok (c.remade a o).toSettings ∧
      a.map unmarkedEntries = c.arguments.map unmarkedEntries ∧
      o.map unmarkedEntries = c.options.map unmarkedEntries ∧
      (c.remade a o).Sound ∧ (c.remade a o).Settable := by
  have hc := checks_settingEntries hs hp
  have hg := Settings.given_congr h
  have hfield : ∀ s f, Setting.name s = Field.name f →
      (given es s).unmarked = ((c.plainField f).getD .null).unmarked := by
    intro s f hsf
    rw [hg s, given_of_name c hsf]
  obtain ⟨a, ha, hau, hak, had⟩ := Settings.checkEntries_of_unmarked .arguments
    hp.arguments hs.arguments (hfield .arguments .arguments rfl) .arguments
  obtain ⟨o, ho, hou, hok, hod⟩ := Settings.checkEntries_of_unmarked .options
    hp.options hs.options (hfield .options .options rfl) .options
  have hf := Settings.checkFilters_of_unmarked .filters hp.filters hs.filters
    (hfield .filters .filters rfl)
  have htext : ∀ s, checkText s (given es s) = checkText s (given c.settingEntries s) := by
    intro s
    rw [← Settings.checkText_unmarked, hg, Settings.checkText_unmarked]
  have happ : checkApplication (given es .application)
      = checkApplication (given c.settingEntries .application) := by
    rw [← Settings.checkApplication_unmarked, hg, Settings.checkApplication_unmarked]
  have hdev : checkDevice (given es .device) = checkDevice (given c.settingEntries .device) := by
    rw [← Settings.checkDevice_unmarked, hg, Settings.checkDevice_unmarked]
  have hunknown : (es.filterMap fun e => keyProblem? e.1) = [] := by
    rw [List.filterMap_eq_nil_iff]
    intro e he
    obtain ⟨f, hf, hu, -⟩ := Value.exists_of_mem_unmarked h he
    obtain ⟨s, hk⟩ := key_of_mem_settingEntries hf
    rw [hk] at hu
    replace hu := hu.symm
    rw [unmarked_eq_text_iff.1 hu, Settings.keyProblem?_name]
  have hall : checks es = { checks c.settingEntries with
      arguments := .ok a, options := .ok o } := by
    unfold checks at hc ⊢
    rw [Settings.Checks.mk.injEq] at hc
    rw [ha, ho, hf, happ, hdev, hunknown]
    simp only [htext]
    rw [hc.2.2.2.2.2.2.2.2.1, hc.2.2.2.2.2.2.2.2.2.2.2.2]
    rfl
  refine ⟨a, o, ?_, hau, hou, ?_, ?_⟩
  · simp only [validate, hall, hc]
    rfl
  · exact { hs with arguments := had, options := hod }
  · exact { hp with arguments := hak, options := hok }

/-! ## Agreement -/

/-- The arguments and the options hold nothing that is not a number, and no key twice. -/
def Comparable (c : Criteria) : Prop :=
  ∀ es, c.arguments = some es ∨ c.options = some es → Value.EntriesComparable es

/-- Criteria that are equal, zoos being compared by their URLs. -/
def Agrees (d c : Criteria) : Prop :=
  ({ d with modelZoo := c.modelZoo } : Criteria).sameAs c = true ∧
    d.modelZoo.map Zoo.urls? = c.modelZoo.map Zoo.urls?

/-- The names of both types lead back to them. -/
structure LeadsBack (c : Criteria) (ms : List ModuleInfo) : Prop where
  inputClass : resolveType c.inputClass.name ms = .ok c.inputClass
  outputClass : resolveType c.outputClass.name ms = .ok c.outputClass

theorem sameEntries_of_unmarked {o p : Option Entries}
    (h : p.map unmarkedEntries = o.map unmarkedEntries)
    (hd : ∀ es, p = some es → es.Distinct)
    (hc : ∀ es, o = some es → Value.EntriesComparable es) : sameEntries p o = true := by
  cases o with
  | none =>
    rw [Option.map_eq_none_iff.1 h]
    rfl
  | some es =>
    cases p with
    | none => cases h
    | some fs =>
      have hu : unmarkedEntries fs = unmarkedEntries es := Option.some.inj h
      have hfs : Value.EntriesComparable fs := by
        rw [← Value.entriesComparable_unmarked, hu, Value.entriesComparable_unmarked]
        exact hc es rfl
      have hv : (Value.dict default fs).unmarked = (Value.dict default es).unmarked := by
        simp only [Value.unmarked, hu]
      exact Value.sameAs_of_unmarked ⟨hfs, hd fs rfl⟩ hv

theorem sameEntries_self {o : Option Entries} (hd : ∀ es, o = some es → es.Distinct)
    (hc : ∀ es, o = some es → Value.EntriesComparable es) : sameEntries o o = true :=
  sameEntries_of_unmarked rfl hd hc

variable {ms : List ModuleInfo}

/-- The same with the sets in an order. -/
theorem sameEntries_of_arranged {o p : Option Entries} (order : SetOrder)
    (h : p.map unmarkedEntries = o.map unmarkedEntries)
    (hd : ∀ es, p = some es → es.Distinct)
    (hc : ∀ es, o = some es → Value.EntriesComparable es) :
    sameEntries (p.map (arrangedEntries order)) o = true := by
  rw [← sameEntries_of_unmarked h hd hc]
  cases p with
  | none => rfl
  | some fs =>
    cases o with
    | none => rfl
    | some es => exact Value.sameAs_arranged (.dict default fs) (.dict default es)

/-- Criteria made of other objects, with their sets in an order. -/
def rearranged (c : Criteria) (order : SetOrder) (arguments options : Option Entries) : Criteria :=
  c.remade (arguments.map (arrangedEntries order)) (options.map (arrangedEntries order))

theorem sound_rearranged {c : Criteria} {a o : Option Entries} (h : (c.remade a o).Sound)
    (hp : (c.remade a o).Settable) (order : SetOrder) : (c.rearranged order a o).Sound := by
  refine { h with arguments := fun es he => ?_, options := fun es he => ?_ }
  · obtain ⟨fs, hf, rfl⟩ := Option.map_eq_some_iff.1 he
    exact (hp.arguments fs hf).distinct_arranged (h.arguments fs hf) order
  · obtain ⟨fs, hf, rfl⟩ := Option.map_eq_some_iff.1 he
    exact (hp.options fs hf).distinct_arranged (h.options fs hf) order

theorem settable_rearranged {c : Criteria} {a o : Option Entries} (h : (c.remade a o).Settable)
    (order : SetOrder) : (c.rearranged order a o).Settable := by
  refine { h with arguments := fun es he => ?_, options := fun es he => ?_ }
  · obtain ⟨fs, hf, rfl⟩ := Option.map_eq_some_iff.1 he
    exact (h.arguments fs hf).arranged order
  · obtain ⟨fs, hf, rfl⟩ := Option.map_eq_some_iff.1 he
    exact (h.options fs hf).arranged order

/-- The settings of the mapping of criteria that is made of other objects, with its sets in an
order. -/
theorem settingsOf_reread {c : Criteria} (hs : c.Sound) (hp : c.Settable) {w : Value} {mark : Mark}
    (hw : w.unmarked = (Value.dict mark c.settingEntries).unmarked) (order : SetOrder)
    (path : String) (reach : Reach) :
    ∃ a o, settingsOf path (w.arranged order) reach = .ok (c.rearranged order a o).toSettings ∧
      a.map unmarkedEntries = c.arguments.map unmarkedEntries ∧
      o.map unmarkedEntries = c.options.map unmarkedEntries ∧
      (c.remade a o).Sound ∧ (c.remade a o).Settable := by
  cases w with
  | dict mw es =>
    have hes : unmarkedEntries es = unmarkedEntries c.settingEntries := by
      simpa [Value.unmarked] using hw
    obtain ⟨a, o, hv, ha, ho, hs', hp'⟩ := validate_reread hs hp mw hes
    refine ⟨a, o, ?_, ha, ho, hs', hp'⟩
    have hu : (given es .filters).unmarked = ((c.plainField .filters).getD .null).unmarked := by
      rw [Settings.given_congr hes, given_of_name c (f := .filters) rfl]
    have horder := Settings.arranged_of_filters hp.filters hu order
    have hfault := Settings.filterFault?_of_filters hp.filters hu reach
    have hfilters : Settings.valueOf (checkFilters (given es .filters)) = c.filters := by
      obtain ⟨_, _, heq, hsettings⟩ := Settings.validate_eq_ok hv
      cases heq
      exact (congrArg Settings.filters hsettings).symm
    have hvalid : validate ((Value.dict mw es).arranged order)
        = .ok (c.rearranged order a o).toSettings := by
      rw [Settings.validate_arranged (Settings.plainSettings_of_validate hv), hv, horder, hfilters]
      rfl
    rw [Value.arranged] at hvalid ⊢
    simp only [settingsOf, Settings.given_arranged, horder, hfault, reduceCtorEq, if_false, hvalid]
  | _ => simp [Value.unmarked] at hw

/-- What the settings of loaded criteria build, made of other objects, agrees with them. -/
theorem agrees_of_rereads {c d : Criteria} {a o : Option Entries} {order : SetOrder}
    (hl : c.Loaded ms) (hc : c.Comparable)
    (ha : a.map unmarkedEntries = c.arguments.map unmarkedEntries)
    (ho : o.map unmarkedEntries = c.options.map unmarkedEntries) (hs : (c.remade a o).Sound)
    (hd : d.Rereads (c.rearranged order a o)) : d.Agrees c := by
  constructor
  · have hf : sameEntries d.filters c.filters = true := by
      rw [hd.filters]
      refine sameEntries_self hs.filters fun es he => ?_
      rw [Value.entriesComparable_iff]
      intro e hm
      obtain ⟨k, v, rfl⟩ := hl.filters es he e hm
      exact ⟨trivial, trivial⟩
    have harg : sameEntries d.arguments c.arguments = true := by
      rw [hd.arguments]
      exact sameEntries_of_arranged order ha hs.arguments fun es he => hc es (.inl he)
    have hopt : sameEntries d.options c.options = true := by
      rw [hd.options]
      exact sameEntries_of_arranged order ho hs.options fun es he => hc es (.inr he)
    simp [sameAs, hd.inputClass, hd.outputClass, hd.application, hd.engine, hd.device, hd.groupId,
      hd.artifactId, hd.translator, hd.block, hd.modelName, hd.progress, hl.translator, hl.block,
      hl.progress, hf, harg, hopt, sameZoo_self, rearranged, remade]
  · cases hz : c.modelZoo with
    | none => rw [hd.noZoo (by simp [rearranged, remade, hz])]
    | some z =>
      obtain ⟨urls, hu⟩ := hl.modelZoo z hz
      obtain ⟨w, hw, hwu, -⟩ := hd.urlZoo z urls hz hu
      simp [hw, hwu, hu]

/-- Reading the mapping of loaded criteria again, made of other objects, gives criteria that agree
with them if and only if their types lead back. -/
theorem agrees_iff_leadsBack {c : Criteria} {p : Platform} (hm : NamedMembers p.modules)
    (hl : c.Loaded ms) (hc : c.Comparable) {source : Nat} {tree : FileTree} {path : FilePath}
    {bytes : List UInt8} {w : Value} (hf : readFile tree path = .ok bytes)
    (hr : readDocument source path.text bytes p = .ok (w.arranged p.sets)) {mark : Mark}
    (hw : w.unmarked = (Value.dict mark c.settingEntries).unmarked) :
    (∃ d, (loadCriteria source tree path p).result = .ok d ∧ d.Agrees c) ↔
      c.LeadsBack p.modules := by
  obtain ⟨a, o, hset, ha, ho, hs, hp⟩ :=
    settingsOf_reread hl.built.sound hl.toSettable hw p.sets path.text p.reach
  constructor
  · rintro ⟨d, hd, ⟨hsame, -⟩⟩
    obtain ⟨bytes', v', s', b, records, hb, hv', hs', hrep, hbuild⟩ := loadCriteria_eq_ok_iff.1 hd
    cases hf.symm.trans hb
    cases hr.symm.trans hv'
    cases hset.symm.trans hs'
    obtain ⟨device, hdev⟩ := (valid_of_settingsOf hset).device
    rcases Settings.replay_cases hdev source with ⟨f, -, hfault⟩ | ⟨-, b', records', hrep', hdesc⟩
    · rw [hfault] at hrep
      cases hrep
    · rw [hrep'] at hrep
      cases hrep
      have hin := hdesc.inputClass
      have hout := hdesc.outputClass
      unfold Builder.build at hbuild
      split at hbuild
      next i t hi ht =>
        cases hbuild
        simp only [sameAs, Bool.and_eq_true, decide_eq_true_eq] at hsame
        have hic : i = c.inputClass := by simp only [hsame]
        have hoc : t = c.outputClass := by simp only [hsame]
        rw [hi, hic] at hin
        rw [ht, hoc] at hout
        obtain ⟨n, hn, hni⟩ := hin.resolved
        obtain ⟨m, hm, hmo⟩ := hout.resolved
        cases hn
        cases hm
        exact ⟨hni, hmo⟩
      · cases hbuild
  · intro hback
    have hplain : (c.rearranged p.sets a o).Plain p.modules :=
      ⟨settable_rearranged hp p.sets, hback.inputClass, hback.outputClass⟩
    obtain ⟨records, hrep⟩ := replay_toSettings hm (sound_rearranged hs hp p.sets) hplain source
    have hbuild : ((c.rearranged p.sets a o).reread source).build
        = .ok { ((c.rearranged p.sets a o).reread source).toSelection with
                inputClass := c.inputClass, outputClass := c.outputClass } := rfl
    exact ⟨_, loadCriteria_eq_ok_iff.2 ⟨bytes, _, _, _, records, hf, hr, hset, hrep, hbuild⟩,
      agrees_of_rereads hl hc ha ho hs (rereads_of_build hbuild)⟩

end Criteria

end ModelSearch
