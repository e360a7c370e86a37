import ModelSearch.Proofs.Settings.Entries
import ModelSearch.Proofs.Settings.Replay

/-!
# Criteria read back from their settings

The mapping of built criteria, validated, replayed and built again, gives the same criteria but for
what no setting can say: collaborators, and zoos that were not made from URLs.  A zoo made from URLs
comes back as another object with the same URLs and loaders.

    c.toSettings.replay source ms = .ok (c.reread source, _)           (replay_toSettings)
    validate, replay and build of c.settingEntries give d, and d.Rereads c
                                                                       (rebuild_settingEntries)
-/

namespace ModelSearch

/-- The zoo that the URLs of a zoo make; zoos that were not made from URLs have none. -/
def Zoo.reread (z : Zoo) (mark : Mark) : Option Zoo := z.urls?.map fun _ => { z with mark := mark }

theorem Zoo.Made.ofUrls_of_urls? {z : Zoo} (h : z.Made) {urls : List String}
    (hu : z.urls? = some urls) (mark : Mark) :
    ofUrls mark (Text.joinWith "," urls) = .ok { z with mark := mark } := by
  cases h with
  | urls hz =>
    obtain ⟨vs, hv, hj⟩ := Zoo.ofUrls_joinWith hz mark
    rw [hv] at hu
    rw [← Option.some.inj hu]
    exact hj
  | listing => cases hu

namespace Criteria

open Settings

variable {ms : List ModuleInfo}

/-- Members of modules have names that are not empty. -/
def NamedMembers (ms : List ModuleInfo) : Prop := ∀ m ∈ ms, ∀ e ∈ m.members, e.1 ≠ ""

instance (ms : List ModuleInfo) : Decidable (NamedMembers ms) :=
  inferInstanceAs (Decidable (∀ m ∈ ms, ∀ e ∈ m.members, e.1 ≠ ""))

/-- The builder that the settings of criteria describe. -/
def reread (c : Criteria) (source : Nat) : Builder where
  inputClass := some c.inputClass
  outputClass := some c.outputClass
  application := c.application
  engine := c.engine
  device := c.device
  groupId := c.groupId
  artifactId := c.artifactId
  modelZoo := c.modelZoo.bind fun z => z.reread (.own source 0)
  filters := c.filters
  arguments := c.arguments
  options := c.options
  modelName := c.modelName

/-- A name that leads to a type is not empty: an empty one asks for a member without a name. -/
theorem name_ne_empty (hm : NamedMembers ms) {name : String} {t : ModelType}
    (h : resolveType name ms = .ok t) : name ≠ "" := by
  rintro rfl
  have hname : Text.stripped "" = "" := by decide
  have htarget : nameTarget "" = ("builtins", "") := by decide
  have hwalk : dottedPrefixes (Text.splitAt '.' "builtins".toList) = ["builtins"] := by decide
  have hhome : ("builtins".isEmpty || "builtins".toList.head? = some '.') = false := by decide
  unfold resolveType at h
  simp only [hname, htarget, hwalk, hhome, walkModules, Bool.false_eq_true, if_false] at h
  cases hf : findModule ms "builtins" with
  | none => simp [hf, bind, Except.bind] at h
  | some info =>
    have hmem : info ∈ ms := List.mem_of_find?_eq_some hf
    have hnone : (info.members.find? fun e => e.1 = "") = none := by
      rw [List.find?_eq_none]
      intro e he
      simpa using hm info hmem e he
    cases hi : info.fault <;> simp [hf, hi, hnone, bind, Except.bind] at h

theorem zooNamed_reread {c : Criteria} (hs : c.Sound) (source : Nat) :
    ZooNamed source c.urlsText? (c.modelZoo.bind fun z => z.reread (.own source 0)) := by
  unfold urlsText?
  cases hz : c.modelZoo with
  | none => exact .inl ⟨rfl, rfl⟩
  | some z =>
    cases hu : z.urls? with
    | none => exact .inl ⟨by simp [hu], by simp [Zoo.reread, hu]⟩
    | some urls =>
      exact .inr ⟨Text.joinWith "," urls, { z with mark := .own source 0 }, by simp [hu],
        (hs.modelZoo z hz).ofUrls_of_urls? hu _, by simp [Zoo.reread, hu]⟩

theorem describes_reread {c : Criteria} (hm : NamedMembers ms) (hs : c.Sound) (hp : c.Plain ms)
    (source : Nat) :
    c.toSettings.Describes ms source (c.reread source) where
  inputClass := .inr ⟨_, _, rfl, name_ne_empty hm hp.inputClass, hp.inputClass, rfl⟩
  outputClass := .inr ⟨_, _, rfl, name_ne_empty hm hp.outputClass, hp.outputClass, rfl⟩
  application := rfl
  engine := rfl
  device := by
    show DeviceNamed (c.device.map Device.text) c.device
    cases hd : c.device with
    | none => exact .inl ⟨rfl, rfl⟩
    | some d =>
      obtain ⟨name, hn⟩ := hp.device d hd
      exact .inr ⟨d.text, d, rfl, Device.ofName_text hn, rfl⟩
  ids := .inr ⟨hs.artifactId, rfl, rfl⟩
  modelZoo := zooNamed_reread hs source
  filters := rfl
  arguments := rfl
  options := rfl
  modelName := rfl
  translator := rfl
  block := rfl
  progress := rfl

theorem faultless_toSettings {c : Criteria} (hs : c.Sound) (hp : c.Plain ms) :
    c.toSettings.Faultless ms where
  input := by
    rintro f ⟨n, hn, -, hr⟩
    cases hn
    rw [hp.inputClass] at hr
    cases hr
  output := by
    rintro f ⟨n, hn, -, hr⟩
    cases hn
    rw [hp.outputClass] at hr
    cases hr
  artifactId := by
    rintro t ⟨ht, hc, -⟩
    exact hs.artifactId t ht hc
  modelUrls := by
    intro f hf
    obtain ⟨text, ht, hz⟩ := (urlsRefused_iff default).1 hf
    obtain ⟨urls, hu, rfl⟩ := Option.map_eq_some_iff.1 (show c.urlsText? = some text from ht)
    obtain ⟨z, hm, hu⟩ := Option.bind_eq_some_iff.1 hu
    rw [(hs.modelZoo z hm).ofUrls_of_urls? hu] at hz
    cases hz

/-- The settings of criteria replay to the builder that they describe. -/
theorem replay_toSettings {c : Criteria} (hm : NamedMembers ms) (hs : c.Sound) (hp : c.Plain ms)
    (source : Nat) :
    ∃ records, c.toSettings.replay source ms = .ok (c.reread source, records) := by
  have hd : deviceOf c.toSettings.device = .ok c.device :=
    deviceOf_eq_ok_iff.2 (describes_reread hm hs hp source).device
  rcases replay_cases hd source with ⟨f, hf, -⟩ | ⟨-, b, records, hr, hb⟩
  · exact absurd (faultless_toSettings hs hp) hf.not_faultless
  · rw [hb.unique (describes_reread hm hs hp source)] at hr
    exact ⟨records, hr⟩

/-! ## Main result -/

/-- Criteria `d` are what reading `c` back should give: every setting is the same, and what no
setting can say is missing. -/
structure Rereads (d c : Criteria) : Prop where
  application : d.application = c.application
  inputClass : d.inputClass = c.inputClass
  outputClass : d.outputClass = c.outputClass
  engine : d.engine = c.engine
  device : d.device = c.device
  groupId : d.groupId = c.groupId
  artifactId : d.artifactId = c.artifactId
  filters : d.filters = c.filters
  arguments : d.arguments = c.arguments
  options : d.options = c.options
  modelName : d.modelName = c.modelName
  translator : d.translator = none
  block : d.block = none
  progress : d.progress = none
  /-- The zoo is missing unless there were URLs. -/
  noZoo : c.modelZoo.bind Zoo.urls? = none → d.modelZoo = none
  /-- A zoo made from URLs comes back with the same URLs and the same artifacts. -/
  urlZoo : ∀ z urls, c.modelZoo = some z → z.urls? = some urls →
    ∃ w, d.modelZoo = some w ∧ w.urls? = some urls ∧ w.artifacts = z.artifacts

theorem rereads_of_build {c d : Criteria} {source : Nat} (h : (c.reread source).build = .ok d) :
    d.Rereads c := by
  cases h
  refine ⟨rfl, rfl, rfl, rfl, rfl, rfl, rfl, rfl, rfl, rfl, rfl, rfl, rfl, rfl, ?_, ?_⟩
  · intro hn
    show (c.modelZoo.bind fun z => z.reread (.own source 0)) = none
    cases hz : c.modelZoo with
    | none => rfl
    | some z =>
      rw [hz] at hn
      have hu : z.urls? = none := hn
      simp [Zoo.reread, hu]
  · intro z urls hz hu
    exact ⟨{ z with mark := .own source 0 }, by simp [reread, hz, Zoo.reread, hu], hu, rfl⟩

/-- Built criteria with plain fields come back from the mapping that they are written as. -/
theorem rebuild_settingEntries {c : Criteria} (hm : NamedMembers ms) (hb : c.Built)
    (hp : c.Plain ms) (mark : Mark) (source : Nat) :
    ∃ s b records d, validate (.dict mark c.settingEntries) = .ok s ∧
      s.replay source ms = .ok (b, records) ∧ b.build = .ok d ∧ d.Rereads c := by
  have hs := hb.sound
  obtain ⟨records, hr⟩ := replay_toSettings hm hs hp source
  have hd : (c.reread source).build
      = .ok { (c.reread source).toSelection with
              inputClass := c.inputClass, outputClass := c.outputClass } := rfl
  exact ⟨c.toSettings, c.reread source, records, _, validate_settingEntries hs hp.toSettable mark, hr,
    hd,
    rereads_of_build hd⟩

set_option maxRecDepth 20000 in
theorem rebuild_settingEntries_gpu :
    ∃ c : Criteria, c.device = some (.gpu 1) ∧ c.groupId = some "ai" ∧
      c.modelZoo.bind Zoo.urls? = some ["http://a/m.zip", "b"] ∧ c.Built ∧ c.Plain knownModules ∧
      ∃ s b records d, validate (.dict default c.settingEntries) = .ok s ∧
        s.replay 1 = .ok (b, records) ∧ b.build = .ok d ∧ d.Rereads c := by
  have hm : NamedMembers knownModules := by decide +kernel
  let start : Builder :=
    { inputClass := some (.builtin "str"), outputClass := some (.ofName "datetime:date") }
  let calls : List Call :=
    [.application (some .objectDetection), .engine (some ""), .device (some (.gpu 1)),
     .artifactId "ai:resnet", .modelUrls (.own 0 0) "http://a/m.zip, ,b",
     .filter (.text "layers") (.text "50"), .options (some []),
     .argument (.text "k") (.list default [.null])]
  let zoo : Zoo :=
    ⟨.own 0 0, .urls ["http://a/m.zip", "b"], Zoo.urlGroup,
      [⟨Zoo.urlGroup, "m", some "http://a/m.zip", []⟩, ⟨Zoo.urlGroup, "b", some "b", []⟩], []⟩
  let c : Criteria :=
    { inputClass := .builtin "str", outputClass := .ofName "datetime:date"
      application := some .objectDetection, engine := some "", device := some (.gpu 1)
      groupId := some "ai", artifactId := some "resnet", modelZoo := some zoo
      filters := some [(.text "layers", .text "50")], options := some []
      arguments := some [(.text "k", .list default [.null])] }
  have hb : (start.run calls).builder.Reachable := by
    refine (Builder.Reachable.create _ _).run ?_
    simp [calls, Call.Proper, Entries.distinct_nil]
  have hc : (start.run calls).builder.build = .ok c := rfl
  have hi : resolveType "str" = .ok (.builtin "str") := by decide +kernel
  have ho : resolveType "datetime:date" = .ok (.ofName "datetime:date") := by decide +kernel
  have hp : c.Plain knownModules := by
    refine ⟨⟨?_, ?_, ?_, ?_⟩, hi, ho⟩
    · rintro d ⟨⟩
      exact ⟨"gpu1", rfl⟩
    · rintro es ⟨⟩ e he
      exact ⟨"layers", "50", List.mem_singleton.1 he⟩
    · rintro es ⟨⟩ e he
      exact ⟨"k", by rw [List.mem_singleton.1 he]⟩
    · rintro es ⟨⟩ e he
      cases he
  exact ⟨c, rfl, rfl, rfl, ⟨_, hb, hc⟩, hp, rebuild_settingEntries hm ⟨_, hb, hc⟩ hp default 1⟩

end Criteria

end ModelSearch
