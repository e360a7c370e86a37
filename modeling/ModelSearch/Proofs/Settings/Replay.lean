import ModelSearch.Proofs.Criteria.ArtifactName
import ModelSearch.Proofs.Zoo.Urls
import ModelSearch.Settings.Validate

/-!
# What settings mean

Settings that were validated make a builder unless one of four things is wrong with them, and the
first of these is the fault: the input type, the output type, the artifact id, the URLs.  Otherwise
the builder holds what the settings say, each field for itself but for the group, which a qualified
artifact id decides.  The modules that types are looked up in can be any.

    s.replay source ms = .error f     ↔ s.FirstFault ms f
    s.replay source ms = .ok (b, _)   ↔ no fault, and s.Describes ms source b
                                                        (replay_of_validate)
-/

namespace ModelSearch.Settings

variable {ms : List ModuleInfo}

/-! ## Faults -/

/-- A name that is given, is not empty and stands for no type. -/
def TypeRefused (ms : List ModuleInfo) (name : Option String) (f : TypeFault) : Prop :=
  ∃ n, name = some n ∧ n ≠ "" ∧ resolveType n ms = .error f

/-- An id with a colon that is not one colon between two texts. -/
def IdRefused (id : Option String) (text : String) : Prop :=
  id = some text ∧ ':' ∈ text.toList ∧ ∀ g a, ¬ArtifactName.IsQualified text g a

/-- URLs that are given and are all blank, or one of which has no path. -/
def UrlsRefused (urls : Option String) : ZooFault → Prop
  | .noUrls text => urls = some text ∧ Zoo.AllBlank text
  | .url f => ∃ text, urls = some text ∧ Zoo.FirstRefused (Zoo.splitUrls text) f

/-- The fault of settings: the first of those that they have. -/
inductive FirstFault (s : Settings) (ms : List ModuleInfo) : ReplayFault → Prop where
  | input {f : TypeFault} : TypeRefused ms s.inputClass f → FirstFault s ms (.type f)
  | output {f : TypeFault} : (∀ g, ¬TypeRefused ms s.inputClass g) → TypeRefused ms s.outputClass f →
      FirstFault s ms (.type f)
  | artifactId {text : String} : (∀ g, ¬TypeRefused ms s.inputClass g) →
      (∀ g, ¬TypeRefused ms s.outputClass g) → IdRefused s.artifactId text →
      FirstFault s ms (.build (.artifactId text))
  | modelUrls {f : ZooFault} : (∀ g, ¬TypeRefused ms s.inputClass g) →
      (∀ g, ¬TypeRefused ms s.outputClass g) → (∀ t, ¬IdRefused s.artifactId t) →
      UrlsRefused s.modelUrls f → FirstFault s ms (.build (.zoo f))

/-- Settings without a fault. -/
structure Faultless (s : Settings) (ms : List ModuleInfo) : Prop where
  input : ∀ f, ¬TypeRefused ms s.inputClass f
  output : ∀ f, ¬TypeRefused ms s.outputClass f
  artifactId : ∀ t, ¬IdRefused s.artifactId t
  modelUrls : ∀ f, ¬UrlsRefused s.modelUrls f

/-! ## Meaning -/

/-- The type of a name: none if it is missing or empty, and else the one it stands for. -/
def TypeNamed (ms : List ModuleInfo) (name : Option String) (t : Option ModelType) : Prop :=
  ((name = none ∨ name = some "") ∧ t = none) ∨
    ∃ n u, name = some n ∧ n ≠ "" ∧ resolveType n ms = .ok u ∧ t = some u

/-- The device of a name: none exactly if it is missing. -/
def DeviceNamed (name : Option String) (d : Option Device) : Prop :=
  (name = none ∧ d = none) ∨ ∃ n e, name = some n ∧ Device.ofName n = .ok e ∧ d = some e

/-- The group and the artifact of settings: the two parts of a qualified id, whatever group is
given, and else the pair that is given. -/
def IdNamed (group id : Option String) (g a : Option String) : Prop :=
  (∃ text p q, id = some text ∧ ArtifactName.IsQualified text p q ∧ g = some p ∧ a = some q) ∨
    ((∀ text, id = some text → ':' ∉ text.toList) ∧ g = group ∧ a = id)

/-- The zoo of URLs, which is an object of the source that is replayed. -/
def ZooNamed (source : Nat) (urls : Option String) (z : Option Zoo) : Prop :=
  (urls = none ∧ z = none) ∨
    ∃ text w, urls = some text ∧ Zoo.ofUrls (.own source 0) text = .ok w ∧ z = some w

/-- A builder holds what settings say and nothing else. -/
structure Describes (s : Settings) (ms : List ModuleInfo) (source : Nat) (b : Builder) : Prop where
  inputClass : TypeNamed ms s.inputClass b.inputClass
  outputClass : TypeNamed ms s.outputClass b.outputClass
  application : b.application = s.application
  engine : b.engine = s.engine
  device : DeviceNamed s.device b.device
  ids : IdNamed s.groupId s.artifactId b.groupId b.artifactId
  modelZoo : ZooNamed source s.modelUrls b.modelZoo
  filters : b.filters = s.filters
  arguments : b.arguments = s.arguments
  options : b.options = s.options
  modelName : b.modelName = s.modelName
  translator : b.translator = none
  block : b.block = none
  progress : b.progress = none

/-! ## The parts of a replay -/

theorem typeOf_eq_error_iff {name : Option String} {f : ReplayFault} :
    typeOf name ms = .error f ↔ ∃ g, f = .type g ∧ TypeRefused ms name g := by
  constructor
  · intro h
    unfold typeOf at h
    split at h
    · cases h
    · next n =>
      split at h
      · cases h
      · next hn =>
        split at h
        · cases h
        · next g hr =>
          cases h
          exact ⟨g, rfl, n, rfl, by simpa using hn, hr⟩
  · rintro ⟨g, rfl, n, rfl, hn, hr⟩
    simp [typeOf, hn, hr]

theorem typeOf_eq_ok_iff {name : Option String} {t : Option ModelType} :
    typeOf name ms = .ok t ↔ TypeNamed ms name t := by
  constructor
  · intro h
    unfold typeOf at h
    split at h
    · cases h
      exact .inl ⟨.inl rfl, rfl⟩
    · next n =>
      split at h
      · next hn =>
        cases h
        exact .inl ⟨.inr (by simpa using hn), rfl⟩
      · next hn =>
        split at h
        · next u hr =>
          cases h
          exact .inr ⟨n, u, rfl, by simpa using hn, hr, rfl⟩
        · cases h
  · rintro (⟨rfl | rfl, rfl⟩ | ⟨n, u, rfl, hn, hr, rfl⟩)
    · rfl
    · rfl
    · simp [typeOf, hn, hr]

theorem deviceOf_eq_ok_iff {name : Option String} {d : Option Device} :
    deviceOf name = .ok d ↔ DeviceNamed name d := by
  constructor
  · intro h
    unfold deviceOf at h
    split at h
    · cases h
      exact .inl ⟨rfl, rfl⟩
    · next n =>
      split at h
      · next e he =>
        cases h
        exact .inr ⟨n, e, rfl, he, rfl⟩
      · cases h
  · rintro (⟨rfl, rfl⟩ | ⟨n, e, rfl, he, rfl⟩)
    · rfl
    · simp [deviceOf, he]

theorem checkDevice_eq_ok {v : Value} {n : String} (h : checkDevice v = .ok (some n)) :
    ∃ d, Device.ofName n = .ok d := by
  unfold checkDevice at h
  cases ht : checkText .device v with
  | error ps => simp [ht, bind, Except.bind] at h
  | ok name =>
    cases name with
    | none => simp [ht, bind, Except.bind, pure, Except.pure] at h
    | some m =>
      cases hd : Device.ofName m with
      | error f => simp [ht, hd, bind, Except.bind, refuse] at h
      | ok d =>
        simp only [ht, hd, bind, Except.bind, pure, Except.pure, Except.ok.injEq,
          Option.some.injEq] at h
        exact ⟨d, by rw [← h, hd]⟩

/-- The device of validated settings is the name of one. -/
theorem deviceOf_of_validate {v : Value} {s : Settings} (h : validate v = .ok s) :
    ∃ d, deviceOf s.device = .ok d := by
  unfold validate at h
  split at h
  · next es =>
    dsimp only at h
    split at h
    · cases h
      show ∃ d, deviceOf (valueOf (checkDevice (given es .device))) = .ok d
      cases hc : checkDevice (given es .device) with
      | error ps => exact ⟨none, rfl⟩
      | ok name =>
        cases name with
        | none => exact ⟨none, rfl⟩
        | some n =>
          obtain ⟨d, hd⟩ := checkDevice_eq_ok hc
          exact ⟨some d, by simp [valueOf, deviceOf, hd]⟩
    · cases h
  · cases h

theorem urlsRefused_iff (mark : Mark) {urls : Option String} {f : ZooFault} :
    UrlsRefused urls f ↔ ∃ text, urls = some text ∧ Zoo.ofUrls mark text = .error f := by
  cases f with
  | noUrls given =>
    simp only [UrlsRefused, Zoo.ofUrls_eq_noUrls_iff]
    constructor
    · rintro ⟨rfl, h⟩
      exact ⟨given, rfl, rfl, h⟩
    · rintro ⟨text, rfl, rfl, h⟩
      exact ⟨rfl, h⟩
  | url g => simp only [UrlsRefused, Zoo.ofUrls_eq_url_iff]

/-- The call of an artifact id, if there is one, in front of other calls. -/
theorem run_artifactId (b : Builder) (hb : b.artifactId = none) (id : Option String)
    (rest : List Call) :
    (∃ text, IdRefused id text ∧
      (b.run ((id.map Call.artifactId).toList ++ rest)).fault = some (.artifactId text)) ∨
    ((∀ text, ¬IdRefused id text) ∧ ∃ g a, IdNamed b.groupId id g a ∧
      b.run ((id.map Call.artifactId).toList ++ rest)
        = ({ b with groupId := g, artifactId := a } : Builder).run rest) := by
  cases id with
  | none =>
    refine .inr ⟨?_, b.groupId, none, .inr ⟨?_, rfl, rfl⟩, ?_⟩
    · rintro text ⟨h, -⟩
      cases h
    · rintro text h
      cases h
    · show b.run rest = _
      rw [← hb]
  | some text =>
    have hrun : b.run (((some text).map Call.artifactId).toList ++ rest)
        = b.run (.artifactId text :: rest) := rfl
    rw [hrun]
    rcases ArtifactName.of_cases text with ⟨hc, ho⟩ | ⟨g, a, hq, ho⟩ | ⟨hc, hn, ho⟩
    · refine .inr ⟨?_, b.groupId, some text, .inr ⟨?_, rfl, rfl⟩, ?_⟩
      · rintro t ⟨h, hm, -⟩
        cases h
        exact hc hm
      · rintro t h
        cases h
        exact hc
      · simp [Builder.run, Builder.apply, Builder.setArtifactId, ho]
    · refine .inr ⟨?_, some g, some a, .inl ⟨text, g, a, rfl, hq, rfl, rfl⟩, ?_⟩
      · rintro t ⟨h, -, hm⟩
        cases h
        exact hm g a hq
      · simp [Builder.run, Builder.apply, Builder.setArtifactId, ho]
    · refine .inl ⟨text, ⟨rfl, hc, hn⟩, ?_⟩
      simp [Builder.run, Builder.apply, Builder.setArtifactId, ho]

/-- The call of URLs, if there are some, in front of other calls. -/
theorem run_modelUrls (b : Builder) (hb : b.modelZoo = none) (source : Nat) (urls : Option String)
    (rest : List Call) :
    (∃ f, UrlsRefused urls f ∧
      (b.run ((urls.map fun u => Call.modelUrls (.own source 0) u).toList ++ rest)).fault
        = some (.zoo f)) ∨
    ((∀ f, ¬UrlsRefused urls f) ∧ ∃ z records, ZooNamed source urls z ∧
      b.run ((urls.map fun u => Call.modelUrls (.own source 0) u).toList ++ rest)
        = { ({ b with modelZoo := z } : Builder).run rest with
            records := records ++ (({ b with modelZoo := z } : Builder).run rest).records }) := by
  cases urls with
  | none =>
    refine .inr ⟨?_, none, [], .inl ⟨rfl, rfl⟩, ?_⟩
    · intro f h
      obtain ⟨text, ht, -⟩ := (urlsRefused_iff (.own source 0)).1 h
      cases ht
    · show b.run rest = _
      rw [← hb]
      rfl
  | some text =>
    have hrun : b.run (((some text).map fun u => Call.modelUrls (.own source 0) u).toList ++ rest)
        = b.run (.modelUrls (.own source 0) text :: rest) := rfl
    rw [hrun]
    cases hz : Zoo.ofUrls (.own source 0) text with
    | error f =>
      refine .inl ⟨f, (urlsRefused_iff (.own source 0)).2 ⟨text, rfl, hz⟩, ?_⟩
      simp [Builder.run, Builder.apply, Builder.setModelUrls, hz]
    | ok z =>
      refine .inr ⟨?_, some z, [z.urlRecord], .inr ⟨text, z, rfl, hz, rfl⟩, ?_⟩
      · intro f h
        obtain ⟨t, ht, hf⟩ := (urlsRefused_iff (.own source 0)).1 h
        cases ht
        rw [hz] at hf
        cases hf
      · simp [Builder.run, Builder.apply, Builder.setModelUrls, hz]

/-- The builder in front of the artifact id: what comes before it only sets fields. -/
def opened (s : Settings) (input output : Option ModelType) (d : Option Device) : Builder :=
  { inputClass := input, outputClass := output, application := s.application, engine := s.engine,
    device := d, groupId := s.groupId }

theorem run_calls (s : Settings) (input output : Option ModelType) (d : Option Device)
    (mark : Mark) :
    ({ inputClass := input, outputClass := output } : Builder).run (s.calls mark d)
      = (s.opened input output d).run
          ((s.artifactId.map Call.artifactId).toList
            ++ ((s.modelUrls.map fun u => Call.modelUrls mark u).toList
              ++ [.filters s.filters, .arguments s.arguments, .options s.options,
                  .modelName s.modelName])) := by
  cases d <;> simp [calls, opened, Builder.run, Builder.apply]

/-- Settings whose device is one either have a first fault, which the replay gives, or make a
builder that holds what they say. -/
theorem replay_cases {s : Settings} {d : Option Device} (hd : deviceOf s.device = .ok d)
    (source : Nat) :
    (∃ f, s.FirstFault ms f ∧ s.replay source ms = .error f) ∨
    (s.Faultless ms ∧ ∃ b records, s.replay source ms = .ok (b, records) ∧
      s.Describes ms source b) := by
  unfold replay
  cases hi : typeOf s.inputClass ms with
  | error f =>
    obtain ⟨g, rfl, hg⟩ := typeOf_eq_error_iff.1 hi
    exact .inl ⟨.type g, .input hg, rfl⟩
  | ok input =>
    have hni : ∀ g, ¬TypeRefused ms s.inputClass g := by
      intro g hg
      rw [typeOf_eq_error_iff.2 ⟨g, rfl, hg⟩] at hi
      cases hi
    cases ho : typeOf s.outputClass ms with
    | error f =>
      obtain ⟨g, rfl, hg⟩ := typeOf_eq_error_iff.1 ho
      exact .inl ⟨.type g, .output hni hg, rfl⟩
    | ok output =>
      have hno : ∀ g, ¬TypeRefused ms s.outputClass g := by
        intro g hg
        rw [typeOf_eq_error_iff.2 ⟨g, rfl, hg⟩] at ho
        cases ho
      rw [hd]
      simp only [bind, Except.bind, run_calls]
      rcases run_artifactId (s.opened input output d) rfl s.artifactId _
        with ⟨text, ht, hf⟩ | ⟨hna, g, a, hid, he⟩
      · refine .inl ⟨_, .artifactId hni hno ht, ?_⟩
        rw [hf]
      · rw [he]
        rcases run_modelUrls { s.opened input output d with groupId := g, artifactId := a }
          rfl source s.modelUrls _ with ⟨f, hu, hf⟩ | ⟨hnu, z, rs, hz, he⟩
        · refine .inl ⟨_, .modelUrls hni hno hna hu, ?_⟩
          rw [hf]
        · rw [he]
          exact .inr ⟨⟨hni, hno, hna, hnu⟩, _, _, rfl,
            { inputClass := typeOf_eq_ok_iff.1 hi
              outputClass := typeOf_eq_ok_iff.1 ho
              application := rfl
              engine := rfl
              device := deviceOf_eq_ok_iff.1 hd
              ids := hid
              modelZoo := hz
              filters := rfl
              arguments := rfl
              options := rfl
              modelName := rfl
              translator := rfl
              block := rfl
              progress := rfl }⟩

/-! ## One fault and one meaning -/

theorem TypeRefused.unique {name : Option String} {f g : TypeFault} (hf : TypeRefused ms name f)
    (hg : TypeRefused ms name g) : f = g := by
  obtain ⟨n, rfl, -, hn⟩ := hf
  obtain ⟨m, hm, -, hg⟩ := hg
  cases hm
  rw [hn] at hg
  exact Except.error.inj hg

theorem UrlsRefused.unique {urls : Option String} {f g : ZooFault} (hf : UrlsRefused urls f)
    (hg : UrlsRefused urls g) : f = g := by
  obtain ⟨text, rfl, hz⟩ := (urlsRefused_iff default).1 hf
  obtain ⟨t, ht, hw⟩ := (urlsRefused_iff default).1 hg
  cases ht
  rw [hz] at hw
  exact Except.error.inj hw

theorem FirstFault.unique {s : Settings} {f g : ReplayFault} (hf : s.FirstFault ms f)
    (hg : s.FirstFault ms g) : f = g := by
  cases hf with
  | input h =>
    cases hg with
    | input h' => rw [h.unique h']
    | output hn => exact absurd h (hn _)
    | artifactId hn => exact absurd h (hn _)
    | modelUrls hn => exact absurd h (hn _)
  | output hi h =>
    cases hg with
    | input h' => exact absurd h' (hi _)
    | output _ h' => rw [h.unique h']
    | artifactId _ hn => exact absurd h (hn _)
    | modelUrls _ hn => exact absurd h (hn _)
  | artifactId hi ho h =>
    cases hg with
    | input h' => exact absurd h' (hi _)
    | output _ h' => exact absurd h' (ho _)
    | artifactId _ _ h' => rw [Option.some.inj (h.1.symm.trans h'.1)]
    | modelUrls _ _ hn => exact absurd h (hn _)
  | modelUrls hi ho ha h =>
    cases hg with
    | input h' => exact absurd h' (hi _)
    | output _ h' => exact absurd h' (ho _)
    | artifactId _ _ h' => exact absurd h' (ha _)
    | modelUrls _ _ _ h' => rw [h.unique h']

theorem FirstFault.not_faultless {s : Settings} {f : ReplayFault} (hf : s.FirstFault ms f) :
    ¬s.Faultless ms := by
  intro hn
  cases hf with
  | input h => exact hn.input _ h
  | output _ h => exact hn.output _ h
  | artifactId _ _ h => exact hn.artifactId _ h
  | modelUrls _ _ _ h => exact hn.modelUrls _ h

theorem TypeNamed.unique {name : Option String} {t u : Option ModelType} (ht : TypeNamed ms name t)
    (hu : TypeNamed ms name u) : t = u := by
  rw [← typeOf_eq_ok_iff] at ht hu
  rw [ht] at hu
  exact Except.ok.inj hu

theorem DeviceNamed.unique {name : Option String} {d e : Option Device} (hd : DeviceNamed name d)
    (he : DeviceNamed name e) : d = e := by
  rw [← deviceOf_eq_ok_iff] at hd he
  rw [hd] at he
  exact Except.ok.inj he

theorem IdNamed.unique {group id g a p q : Option String} (h : IdNamed group id g a)
    (k : IdNamed group id p q) : g = p ∧ a = q := by
  rcases h with ⟨text, u, v, rfl, hq, rfl, rfl⟩ | ⟨hn, rfl, rfl⟩
  · rcases k with ⟨t, w, x, ht, hr, rfl, rfl⟩ | ⟨hn, -, -⟩
    · cases ht
      obtain ⟨rfl, rfl⟩ := hq.unique hr
      exact ⟨rfl, rfl⟩
    · exact absurd hq.colon_mem (hn text rfl)
  · rcases k with ⟨t, w, x, ht, hr, -, -⟩ | ⟨-, rfl, rfl⟩
    · exact absurd hr.colon_mem (hn t ht)
    · exact ⟨rfl, rfl⟩

theorem ZooNamed.unique {source : Nat} {urls : Option String} {z w : Option Zoo}
    (hz : ZooNamed source urls z) (hw : ZooNamed source urls w) : z = w := by
  rcases hz with ⟨rfl, rfl⟩ | ⟨text, z, rfl, hz, rfl⟩
  · rcases hw with ⟨-, rfl⟩ | ⟨t, w, ht, -, -⟩
    · rfl
    · cases ht
  · rcases hw with ⟨ht, -⟩ | ⟨t, w, ht, hw, rfl⟩
    · cases ht
    · cases ht
      rw [hz] at hw
      rw [Except.ok.inj hw]

theorem Describes.unique {s : Settings} {source : Nat} {b c : Builder} (hb : s.Describes ms source b)
    (hc : s.Describes ms source c) : b = c := by
  obtain ⟨hg, ha⟩ := hb.ids.unique hc.ids
  have hi := hb.inputClass.unique hc.inputClass
  have ho := hb.outputClass.unique hc.outputClass
  have hd := hb.device.unique hc.device
  have hz := hb.modelZoo.unique hc.modelZoo
  obtain ⟨⟨⟩, _, _⟩ := b
  obtain ⟨⟨⟩, _, _⟩ := c
  cases hb
  cases hc
  simp_all

/-! ## Main result -/

/-- A replay of validated settings fails exactly with their first fault, and otherwise gives exactly
the builder that they describe. -/
theorem replay_of_validate {v : Value} {s : Settings} (h : validate v = .ok s) (source : Nat)
    (ms : List ModuleInfo) :
    (∀ f, s.replay source ms = .error f ↔ s.FirstFault ms f) ∧
    (∀ b, (∃ records, s.replay source ms = .ok (b, records)) ↔
      s.Faultless ms ∧ s.Describes ms source b) := by
  obtain ⟨d, hd⟩ := deviceOf_of_validate h
  rcases replay_cases hd source with ⟨f, hf, hr⟩ | ⟨hn, b, records, hr, hb⟩
  · constructor
    · intro g
      rw [hr]
      constructor
      · rintro ⟨⟩
        exact hf
      · intro hg
        rw [hf.unique hg]
    · intro c
      rw [hr]
      constructor
      · rintro ⟨_, hc⟩
        cases hc
      · rintro ⟨hn, -⟩
        exact absurd hn hf.not_faultless
  · constructor
    · intro g
      rw [hr]
      constructor
      · rintro ⟨⟩
      · intro hg
        exact absurd hn hg.not_faultless
    · intro c
      rw [hr]
      constructor
      · rintro ⟨_, hc⟩
        cases hc
        exact ⟨hn, hb⟩
      · rintro ⟨-, hc⟩
        exact ⟨records, by rw [hb.unique hc]⟩

set_option maxRecDepth 20000 in
theorem replay_of_validate_qualified :
    ∃ s, validate (.dict default
        [(.text "artifact_id", .text "ai.djl.zoo:resnet"), (.text "group_id", .text "other"),
         (.text "device", .text " GPU(1)"), (.text "input_class", .text "str"),
         (.text "output_class", .text ""), (.text "model_urls", .text "http://a/m.zip, ,b")])
        = .ok s ∧
      (∀ f, s.replay 0 = .error f ↔ s.FirstFault knownModules f) ∧
      (∀ b, (∃ records, s.replay 0 = .ok (b, records)) ↔
        s.Faultless knownModules ∧ s.Describes knownModules 0 b) := by
  refine ⟨{ artifactId := some "ai.djl.zoo:resnet", groupId := some "other",
            device := some " GPU(1)", inputClass := some "str", outputClass := some "",
            modelUrls := some "http://a/m.zip, ,b" }, ?_⟩
  have h : validate (.dict default
        [(.text "artifact_id", .text "ai.djl.zoo:resnet"), (.text "group_id", .text "other"),
         (.text "device", .text " GPU(1)"), (.text "input_class", .text "str"),
         (.text "output_class", .text ""), (.text "model_urls", .text "http://a/m.zip, ,b")])
        = .ok { artifactId := some "ai.djl.zoo:resnet", groupId := some "other",
                device := some " GPU(1)", inputClass := some "str", outputClass := some "",
                modelUrls := some "http://a/m.zip, ,b" } := rfl
  exact ⟨h, replay_of_validate h 0 knownModules⟩

end ModelSearch.Settings
