import ModelSearch.Proofs.ConfigFile.Loaded
import ModelSearch.Proofs.Settings.Arranged
import ModelSearch.Proofs.Value.Rearranged
import ModelSearch.Proofs.Yaml.ScalarText

/-!
# The mapping that loaded criteria are written as

The values of the arguments and the options of loaded criteria are parts of the value of the document
that they were loaded from, so what holds of all parts of documents holds of all parts of the
mapping that the criteria are written as, once it holds of texts and of mappings with text keys.

    c was loaded → what holds throughout its document holds throughout c      (loadCriteria_throughout)
    c holds p throughout → the mapping of c holds p throughout                  (written_throughout)
-/

namespace ModelSearch

open Settings (TextKeys TextEntries given textKeys checkEntries)

variable {p : Value → Prop}

/-! ## Settings -/

namespace Settings

theorem textKeys_throughout (field : Setting) {es : Entries} (h : ∀ e ∈ es, e.2.Throughout p) :
    ∀ e ∈ (textKeys field es).1, e.2.Throughout p := by
  induction es with
  | nil => simp [textKeys]
  | cons e es ih =>
    have hrest := ih fun f hf => h f (List.mem_cons_of_mem _ hf)
    unfold textKeys
    dsimp only
    split
    · intro f hf
      rcases List.mem_cons.1 hf with rfl | hf
      · exact h e List.mem_cons_self
      · exact hrest f hf
    · exact hrest

theorem checkEntries_throughout {field : Setting} {v : Value} {es : Entries} (hv : v.Throughout p)
    (h : checkEntries field v = .ok (some es)) : ∀ e ∈ es, e.2.Throughout p := by
  unfold checkEntries at h
  split at h
  · cases h
  next mark gs =>
    have hgs := textKeys_throughout field fun e he => ((Value.throughout_dict.1 hv).2 e he).2
    split at h
    next fs hfs =>
      cases h
      rw [hfs] at hgs
      intro e he
      have hnone : ∀ e ∈ ([] : Entries), True ∧ e.2.Throughout p := by simp
      exact (Entries.forall_assignAll (p := fun _ => True) (q := fun w => w.Throughout p) hnone
        (fun f hf => ⟨trivial, hgs f hf⟩) e he).2
    · cases h
  · cases h

end Settings

/-! ## Criteria -/

namespace Criteria

variable {platform : Platform} {source : Nat} {tree : FileTree} {path : FilePath} {c : Criteria}

/-- What holds of all parts of the values in the arguments and the options. -/
def Throughout (p : Value → Prop) (c : Criteria) : Prop :=
  ∀ es, c.arguments = some es ∨ c.options = some es → ∀ e ∈ es, e.2.Throughout p

theorem throughout_of_settingsOf {v : Value} {reach : Reach} {s : Settings}
    (h : settingsOf path.text v reach = .ok s) (hnull : p .null) (hv : v.Throughout p) :
    ∀ es, s.arguments = some es ∨ s.options = some es → ∀ e ∈ es, e.2.Throughout p := by
  unfold settingsOf at h
  split at h
  · cases h
    rintro es (hes | hes) <;> cases hes
  next mark es =>
    split at h
    · cases h
    split at h
    next s' hs =>
      cases h
      obtain ⟨_, _, heq, rfl⟩ := Settings.validate_eq_ok hs
      cases heq
      rintro fs (hfs | hfs)
      · exact Settings.checkEntries_throughout (Settings.given_throughout hnull hv .arguments)
          (Settings.eq_ok_of_valueOf hfs)
      · exact Settings.checkEntries_throughout (Settings.given_throughout hnull hv .options)
          (Settings.eq_ok_of_valueOf hfs)
    · cases h
  · cases h

/-- What holds throughout the document of a file holds throughout the criteria that it gives. -/
theorem loadCriteria_throughout (h : (loadCriteria source tree path platform).result = .ok c) :
    ∃ bytes v, readFile tree path = .ok bytes ∧
      readDocument source path.text bytes platform = .ok v ∧
      ∀ p : Value → Prop, p .null → v.Throughout p → c.Throughout p := by
  obtain ⟨bytes, v, s, b, records, hb, hv, hs, hr, hbuild⟩ := loadCriteria_eq_ok_iff.1 h
  refine ⟨bytes, v, hb, hv, fun p hnull hp => ?_⟩
  have hall := throughout_of_settingsOf hs hnull hp
  obtain ⟨d, hd⟩ := (valid_of_settingsOf hs).device
  rcases Settings.replay_cases hd source with ⟨f, -, hf⟩ | ⟨-, b', records', hr', hdesc⟩
  · rw [hf] at hr
    cases hr
  · rw [hr'] at hr
    cases hr
    have ha := hdesc.arguments
    have ho := hdesc.options
    unfold Builder.build at hbuild
    split at hbuild
    · cases hbuild
      intro es hes
      rw [ha, ho] at hes
      exact hall es hes
    · cases hbuild

/-! ## The mapping that is written -/

/-- The values of the written mapping are texts and mappings. -/
theorem value_of_mem_settingEntries {e : Value × Value} (h : e ∈ c.settingEntries) :
    (∃ t, e.2 = .text t) ∨ ∃ f es, e.2 = .dict (.part (Field.name f)) es ∧
      ((f = .filters ∧ c.filters = some es) ∨ (f = .arguments ∧ c.arguments = some es) ∨
        (f = .options ∧ c.options = some es)) := by
  rw [settingEntries_eq, List.mem_append] at h
  rcases h with h | h
  · obtain ⟨f, -, he⟩ := List.mem_filterMap.1 h
    obtain ⟨v, hv, rfl⟩ := Option.map_eq_some_iff.1 he
    cases f with
    | filters =>
      obtain ⟨es, hes, rfl⟩ := Option.map_eq_some_iff.1 hv
      exact .inr ⟨.filters, es, rfl, .inl ⟨rfl, hes⟩⟩
    | arguments =>
      obtain ⟨es, hes, rfl⟩ := Option.map_eq_some_iff.1 hv
      exact .inr ⟨.arguments, es, rfl, .inr (.inl ⟨rfl, hes⟩)⟩
    | options =>
      obtain ⟨es, hes, rfl⟩ := Option.map_eq_some_iff.1 hv
      exact .inr ⟨.options, es, rfl, .inr (.inr ⟨rfl, hes⟩)⟩
    | inputClass | outputClass =>
      cases hv
      exact .inl ⟨_, rfl⟩
    | application | engine | device | groupId | artifactId | modelZoo | translator | block
    | modelName | progress =>
      obtain ⟨x, -, rfl⟩ := Option.map_eq_some_iff.1 hv
      exact .inl ⟨_, rfl⟩
  · obtain ⟨t, -, rfl⟩ := Option.map_eq_some_iff.1 (Option.mem_toList.1 h)
    exact .inl ⟨t, rfl⟩

theorem fieldKeys_sublist (c : Criteria) (fs : List Field) :
    ((fs.filterMap c.entryOf).map Prod.fst).Sublist (fs.map fun f => Value.text f.name) := by
  induction fs with
  | nil => exact List.Sublist.slnil
  | cons f fs ih =>
    rw [List.filterMap_cons]
    unfold entryOf
    cases c.plainField f with
    | none => exact ih.cons _
    | some v => exact ih.cons_cons _

/-- No setting is written twice. -/
theorem distinct_settingEntries (c : Criteria) : c.settingEntries.Distinct := by
  have hnames : (settingFields.map (fun f => Value.text f.name)
      ++ [Value.text Setting.modelUrls.name]).Pairwise fun k l => l.sameAs k = false := by
    decide
  have hkeys : (c.settingEntries.map Prod.fst).Sublist
      (settingFields.map (fun f => Value.text f.name) ++ [Value.text Setting.modelUrls.name]) := by
    rw [settingEntries_eq, List.map_append]
    refine (c.fieldKeys_sublist settingFields).append ?_
    cases c.urlsText? with
    | none => exact List.nil_sublist _
    | some t => exact List.Sublist.refl _
  exact List.pairwise_map.1 (hnames.sublist hkeys)

theorem throughout_text (htext : ∀ t, p (.text t)) (t : String) : (Value.text t).Throughout p := by
  intro u hu
  rw [List.mem_singleton.1 hu]
  exact htext t

/-- One of the mappings that criteria are written with. -/
def IsMapping (c : Criteria) (u : Value) : Prop := u = c.written ∨ ∃ f, c.plainField f = some u

/-- What holds of texts, of the mappings of criteria and throughout the criteria holds throughout
the mapping that is written. -/
theorem written_throughout {ms : List ModuleInfo} (hl : c.Loaded ms) (htext : ∀ t, p (.text t))
    (hdict : ∀ mark es, TextKeys es → es.Distinct → c.IsMapping (.dict mark es) →
      p (.dict mark es)) (h : c.Throughout p) : c.written.Throughout p := by
  have hkeys : TextKeys c.settingEntries := by
    intro e he
    obtain ⟨s, hs⟩ := key_of_mem_settingEntries he
    exact ⟨_, hs⟩
  have hsound := hl.built.sound
  have hmapping : ∀ mark es, TextKeys es → es.Distinct → c.IsMapping (.dict mark es) →
      (∀ e ∈ es, e.2.Throughout p) → (Value.dict mark es).Throughout p := by
    intro mark es hk hd hm hv
    refine Value.throughout_dict.2 ⟨hdict mark es hk hd hm, fun e he => ⟨?_, hv e he⟩⟩
    obtain ⟨t, ht⟩ := hk e he
    rw [ht]
    exact throughout_text htext t
  refine hmapping _ _ hkeys c.distinct_settingEntries (.inl rfl) fun e he => ?_
  rcases value_of_mem_settingEntries he with ⟨t, ht⟩ | ⟨f, es, hes, hf⟩
  · rw [ht]
    exact throughout_text htext t
  rw [hes]
  have hfield : c.IsMapping (.dict (.part f.name) es) := by
    rcases hf with ⟨rfl, hf⟩ | ⟨rfl, hf⟩ | ⟨rfl, hf⟩
    · exact .inr ⟨.filters, by simp [plainField, mapping, hf]⟩
    · exact .inr ⟨.arguments, by simp [plainField, mapping, hf]⟩
    · exact .inr ⟨.options, by simp [plainField, mapping, hf]⟩
  rcases hf with ⟨-, hf⟩ | ⟨-, hf⟩ | ⟨-, hf⟩
  · have htexts := hl.filters es hf
    refine hmapping _ _ (fun e he => ?_) (hsound.filters es hf) hfield fun e he => ?_
    · obtain ⟨k, w, rfl⟩ := htexts e he
      exact ⟨k, rfl⟩
    · obtain ⟨k, w, rfl⟩ := htexts e he
      exact throughout_text htext w
  · exact hmapping _ _ (hl.arguments es hf) (hsound.arguments es hf) hfield (h es (.inl hf))
  · exact hmapping _ _ (hl.options es hf) (hsound.options es hf) hfield (h es (.inr hf))

/-- The parts of the arguments and of the options are parts of the mapping that is written. -/
theorem throughout_of_written (h : c.written.Throughout p) : c.Throughout p := by
  have hentries := (Value.throughout_dict.1 h).2
  have hfield : ∀ f : Field, f ∈ settingFields → ∀ es, c.plainField f = some (.dict (.part f.name) es) →
      ∀ e ∈ es, e.2.Throughout p := by
    intro f hf es hes e he
    have hm : (Value.text f.name, Value.dict (.part f.name) es) ∈ c.settingEntries := by
      rw [settingEntries_eq]
      refine List.mem_append_left _ (List.mem_filterMap.2 ⟨f, hf, ?_⟩)
      simp [entryOf, hes]
    exact ((Value.throughout_dict.1 (hentries _ hm).2).2 e he).2
  rintro es (hes | hes)
  · exact hfield .arguments (by decide) es (by simp [plainField, mapping, hes])
  · exact hfield .options (by decide) es (by simp [plainField, mapping, hes])

/-! ## What loading gives -/

open Yaml (Genuine genuine_of_construct)

/-- The value of a document: null or what is made of its node. -/
theorem read_eq_ok {text : List Char} {v : Value} (h : Yaml.read source text = .ok v) :
    v = .null ∨ ∃ n fuel, Yaml.document text = .ok (some n) ∧
      Yaml.construct source fuel n = .ok v := by
  unfold Yaml.read at h
  obtain ⟨o, ho, h⟩ := bind_eq_ok.1 h
  cases o with
  | none =>
    cases h
    exact .inl rfl
  | some n =>
    obtain ⟨_, -, h⟩ := bind_eq_ok.1 h
    exact .inr ⟨n, _, ho, h⟩

/-- A scalar is a key, and nothing in it can be put in another order. -/
theorem key_of_scalarForm {v : Value} (h : (Yaml.scalarForm? v).isSome) :
    v.hashable = true ∧ v.isCollection = false := by
  cases v <;> first | exact ⟨rfl, rfl⟩ | cases h

theorem genuine_arranged {u : Value} (h : Genuine u) (o : SetOrder) : Genuine (u.arranged o) := by
  cases u with
  | set m xs =>
    have hplain : Value.arrangedAll o xs = xs := by
      rw [Value.arrangedAll_eq]
      refine (List.map_congr_left fun x hx => ?_).trans (List.map_id' xs)
      exact Value.arranged_of_not_collection (key_of_scalarForm (h.1 x hx)).2
    have hp : (o.arrange m xs).Perm xs := o.perm m xs
    have hkeys : ∀ e ∈ xs.map fun x => (x, Value.null), e.1.hashable = true := by
      intro e he
      obtain ⟨x, hx, rfl⟩ := List.mem_map.1 he
      exact (key_of_scalarForm (h.1 x hx)).1
    have hkeyed := (Entries.keyed_iff_distinct hkeys).2 h.2
    rw [Value.arranged, hplain]
    exact ⟨fun x hx => h.1 x (hp.mem_iff.1 hx), (hkeyed.perm (hp.symm.map _)).distinct⟩
  | dict m es =>
    have hkey : ∀ e ∈ es, e.1.arranged o = e.1 := fun e he =>
      Value.arranged_of_not_collection (key_of_scalarForm (h.1 e he)).2
    constructor
    · rw [Value.arrangedEntries_eq]
      intro e he
      obtain ⟨f, hf, rfl⟩ := List.mem_map.1 he
      rw [hkey f hf]
      exact h.1 f hf
    · rw [Value.arrangedEntries_eq]
      refine List.pairwise_map.2 (List.Pairwise.imp_of_mem (fun he hf hef => ?_) h.2)
      rw [hkey _ he, hkey _ hf]
      exact hef
  | _ => exact h

theorem read_genuine {text : List Char} {v : Value} (h : Yaml.read source text = .ok v) :
    v.Throughout Genuine := by
  rcases read_eq_ok h with rfl | ⟨n, fuel, -, hn⟩
  · intro u hu
    rw [List.mem_singleton.1 hu]
    trivial
  · exact genuine_of_construct hn

theorem readDocument_genuine {text : String} {bytes : List UInt8} {v : Value}
    (h : readDocument source text bytes platform = .ok v) : v.Throughout Genuine := by
  obtain ⟨xs, w, -, -, -, hw, rfl⟩ := readDocument_eq_ok_iff.1 h
  exact (read_genuine hw).arranged fun u hu => genuine_arranged hu _

theorem genuine_mapping {mark : Mark} {es : Entries} (hk : TextKeys es) (hd : es.Distinct) :
    Genuine (.dict mark es) := by
  refine ⟨fun e he => ?_, hd⟩
  obtain ⟨t, ht⟩ := hk e he
  rw [ht]
  rfl

theorem written_genuine (h : (loadCriteria source tree path platform).result = .ok c) :
    c.written.Throughout Genuine := by
  obtain ⟨bytes, v, -, hv, hall⟩ := loadCriteria_throughout h
  exact written_throughout (loaded_of_loadCriteria h) (fun t => trivial)
    (fun mark es hk hd _ => genuine_mapping hk hd) (hall Genuine trivial (readDocument_genuine hv))

/-! ## Objects -/

theorem mark_of_plainField {f : Field} {u : Value} {m : Mark} (h : c.plainField f = some u)
    (hm : u.mark? = some m) : m = .part f.name := by
  cases f with
  | filters | arguments | options =>
    obtain ⟨es, -, rfl⟩ := Option.map_eq_some_iff.1 h
    exact (Option.some.inj hm).symm
  | inputClass | outputClass =>
    cases h
    cases hm
  | application | engine | device | groupId | artifactId | modelZoo | translator | block
  | modelName | progress =>
    obtain ⟨x, -, rfl⟩ := Option.map_eq_some_iff.1 h
    cases hm

theorem fieldName_ne_empty (f : Field) : f.name ≠ "" := by cases f <;> decide

theorem fieldName_injective {f g : Field} (h : f.name = g.name) : f = g := by
  revert h
  cases f <;> cases g <;> decide

/-- The mappings of criteria are told apart by their marks. -/
theorem IsMapping.eq_of_mark {u w : Value} {m : Mark} (hu : c.IsMapping u) (hw : c.IsMapping w)
    (hum : u.mark? = some m) (hwm : w.mark? = some m) : u = w := by
  rcases hu with rfl | ⟨f, hf⟩ <;> rcases hw with rfl | ⟨g, hg⟩
  · rfl
  · have hname := (Option.some.inj hum).trans (mark_of_plainField hg hwm)
    exact absurd (Mark.part.inj hname).symm (fieldName_ne_empty g)
  · have hname := (Option.some.inj hwm).trans (mark_of_plainField hf hum)
    exact absurd (Mark.part.inj hname).symm (fieldName_ne_empty f)
  · have hfg := (mark_of_plainField hf hum).symm.trans (mark_of_plainField hg hwm)
    obtain rfl := fieldName_injective (Mark.part.inj hfg)
    exact Option.some.inj (hf.symm.trans hg)

theorem IsMapping.mark_ne_own {u : Value} (h : c.IsMapping u) (s k : Nat) :
    u.mark? ≠ some (.own s k) := by
  intro hm
  rcases h with rfl | ⟨f, hf⟩
  · exact Mark.noConfusion (Option.some.inj hm)
  · exact Mark.noConfusion (mark_of_plainField hf hm)

/-- Objects in the value of a document: their marks are those of its source. -/
theorem readDocument_coherent {text : String} {bytes : List UInt8} {v : Value}
    (h : readDocument source text bytes platform = .ok v) :
    Yaml.Coherent v ∧ v.Throughout fun u => ∀ m, u.mark? = some m → ∃ k, m = .own source k := by
  obtain ⟨xs, w, -, -, -, hw, rfl⟩ := readDocument_eq_ok_iff.1 h
  suffices hwritten : Yaml.Coherent w ∧
      w.Throughout fun u => ∀ m, u.mark? = some m → ∃ k, m = .own source k by
    constructor
    · intro a ha b hb m hma hmb
      obtain ⟨a', ha', rfl⟩ := Value.exists_part_of_arranged ha
      obtain ⟨b', hb', rfl⟩ := Value.exists_part_of_arranged hb
      rw [Value.mark?_arranged] at hma hmb
      rw [hwritten.1 a' ha' b' hb' m hma hmb]
    · exact hwritten.2.arranged fun u hu m hm => hu m (by rwa [Value.mark?_arranged] at hm)
  rcases read_eq_ok hw with rfl | ⟨n, fuel, hdoc, hn⟩
  · constructor
    · intro a ha b hb m hm
      rw [List.mem_singleton.1 ha] at hm
      cases hm
    · intro u hu m hm
      rw [List.mem_singleton.1 hu] at hm
      cases hm
  · obtain ⟨made, next, hpool, hmade⟩ := Yaml.exists_pool hdoc
    refine ⟨Yaml.coherent_of_construct hpool hmade hn, fun u hu m hm => ?_⟩
    rcases Yaml.comesFrom_of_construct hpool hmade hn u hu m hm with
      ⟨x, f, -, hx, rfl⟩ | ⟨_, _, _, _, _, _, -, -, -, -, rfl⟩
    · exact ⟨_, rfl⟩
    · exact ⟨_, rfl⟩

/-- Parts of the written mapping that are one object are equal. -/
theorem written_coherent (h : (loadCriteria source tree path platform).result = .ok c) :
    Yaml.Coherent c.written := by
  obtain ⟨bytes, v, -, hv, hall⟩ := loadCriteria_throughout h
  obtain ⟨hc, hown⟩ := readDocument_coherent hv
  -- every object in the mapping is one of the document or one of the mappings of the criteria
  have hwhere : c.written.Throughout fun u => ∀ m, u.mark? = some m →
      (u ∈ v.parts ∧ ∃ k, m = .own source k) ∨ c.IsMapping u := by
    refine written_throughout (loaded_of_loadCriteria h) (fun t => nofun)
      (fun mark es _ _ hm m _ => .inr hm) (hall _ (fun m hm => by cases hm) fun u hu m hm => ?_)
    exact .inl ⟨hu, hown u hu m hm⟩
  intro a ha b hb m hma hmb
  rcases hwhere a ha m hma with ⟨hav, k, rfl⟩ | hma' <;>
    rcases hwhere b hb _ hmb with ⟨hbv, l, hl⟩ | hmb'
  · exact hc a hav b hbv _ hma hmb
  · exact absurd hmb (hmb'.mark_ne_own _ _)
  · rw [hl] at hma
    exact absurd hma (hma'.mark_ne_own _ _)
  · exact hma'.eq_of_mark hmb' hma hmb

end Criteria

end ModelSearch
