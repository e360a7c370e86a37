import ModelSearch.Proofs.ConfigFile.Faults

/-!
# Platforms that load alike

Two platforms that import the same modules and follow the same documents load the same files, and
where one finds a fault, the other finds it too.  In which order sets give their items does not matter
to that, so it need not be the same on both.

    p.Alike q → (loadCriteria source tree path p).result = .error f
                  ↔ (loadCriteria source tree path q).result = .error f        (Alike.error_iff)
-/

namespace ModelSearch

variable {source : Nat} {tree : FileTree} {path : FilePath} {p q : Platform}

/-- Platforms that can differ in the order of sets, and in how far they follow what is put into words
other than filters. -/
structure Platform.Alike (p q : Platform) : Prop where
  modules : q.modules = p.modules
  reads : q.reads = p.reads
  ahead : q.ahead = p.ahead
  /-- A filter is followed to its end whatever the order of the sets in it. -/
  filters : ∀ v : Value, q.reach .filter (v.arranged q.sets) = p.reach .filter (v.arranged p.sets)

namespace Platform.Alike

theorem symm (h : p.Alike q) : q.Alike p :=
  ⟨h.modules.symm, h.reads.symm, h.ahead.symm, fun v => (h.filters v).symm⟩

/-! ## Documents and filters -/

theorem hasDocument (h : p.Alike q) {text : List Char} (ht : HasDocument tree path p text) :
    HasDocument tree path q text :=
  ⟨ht.1, ht.2.1, h.reads.symm ▸ ht.2.2⟩

theorem filterFault?_eq (h : p.Alike q) (v : Value) :
    filterFault? q.reach (v.arranged q.sets) = filterFault? p.reach (v.arranged p.sets) := by
  have hfault : ∀ u : Value, q.reach.fault? .filter (u.arranged q.sets)
      = p.reach.fault? .filter (u.arranged p.sets) := by
    intro u
    simp only [Reach.fault?, Value.isCollection_arranged, Value.withinDigits_arranged, h.filters u]
  cases v with
  | dict mark es =>
    simp only [Value.arranged, filterFault?, Value.arrangedEntries_eq]
    induction es with
    | nil => rfl
    | cons e es ih =>
      simp only [List.map_cons, List.flatMap_cons, List.findSome?_append, List.findSome?_cons,
        List.findSome?_nil, hfault, ih]
  | _ => rfl

theorem followed (h : p.Alike q) {es : Entries} (hf : Followed p es) : Followed q es := by
  rw [Followed, h.filterFault?_eq]
  exact hf

end Platform.Alike

/-! ## Settings -/

namespace Settings

/-- Settings that are replayed up to the same fault. -/
structure FaultsAlike (s t : Settings) : Prop where
  inputClass : t.inputClass = s.inputClass
  outputClass : t.outputClass = s.outputClass
  artifactId : t.artifactId = s.artifactId
  modelUrls : t.modelUrls = s.modelUrls

variable {s t : Settings} {ms : List ModuleInfo} {f : ReplayFault}

theorem FaultsAlike.firstFault (h : s.FaultsAlike t) (hf : s.FirstFault ms f) :
    t.FirstFault ms f := by
  cases hf with
  | input hi => exact .input (h.inputClass ▸ hi)
  | output hi ho => exact .output (h.inputClass ▸ hi) (h.outputClass ▸ ho)
  | artifactId hi ho ha =>
    exact .artifactId (h.inputClass ▸ hi) (h.outputClass ▸ ho) (h.artifactId ▸ ha)
  | modelUrls hi ho ha hu =>
    exact .modelUrls (h.inputClass ▸ hi) (h.outputClass ▸ ho) (h.artifactId ▸ ha) (h.modelUrls ▸ hu)

theorem FaultsAlike.faultless (h : s.FaultsAlike t) (hs : s.Faultless ms) : t.Faultless ms :=
  ⟨h.inputClass ▸ hs.input, h.outputClass ▸ hs.output, h.artifactId ▸ hs.artifactId,
    h.modelUrls ▸ hs.modelUrls⟩

end Settings

/-- The settings of a file on two platforms are replayed up to the same fault. -/
theorem Platform.Alike.hasSettings (h : p.Alike q) {s : Settings}
    (hs : HasSettings source tree path p s) :
    ∃ t, HasSettings source tree path q t ∧ s.FaultsAlike t := by
  obtain ⟨text, ht, ⟨hr, rfl⟩ | ⟨mark, es, hr, hf, hv⟩⟩ := hs
  · exact ⟨{}, ⟨text, h.hasDocument ht, .inl ⟨hr, rfl⟩⟩, rfl, rfl, rfl, rfl⟩
  · have hplain := plainSettings_of_read hr
    rw [Settings.validate_arranged hplain] at hv
    cases hw : Settings.validate (.dict mark es) with
    | error problems =>
      rw [hw] at hv
      cases hv
    | ok w =>
      rw [hw] at hv
      cases hv
      have hv' := Settings.validate_arranged hplain mark q.sets
      rw [hw] at hv'
      exact ⟨_, ⟨text, h.hasDocument ht, .inr ⟨mark, es, hr, h.followed hf, hv'⟩⟩,
        rfl, rfl, rfl, rfl⟩

/-! ## Outcomes -/

namespace Platform.Alike

variable {f : CriteriaFault}

theorem ownFault (h : p.Alike q) (hf : OwnFault source tree path p f) :
    OwnFault source tree path q f := by
  cases hf with
  | unreadable hn hr => exact .unreadable hn hr
  | malformed ht hr => exact .malformed (h.hasDocument ht) hr
  | unprintable hbytes hb hahead => exact .unprintable hbytes hb (h.ahead ▸ hahead)
  | ahead hbytes hb hahead => exact .ahead hbytes hb (h.ahead ▸ hahead)
  | notMapping ht hr hnull hdict => exact .notMapping (h.hasDocument ht) hr hnull hdict
  | invalid ht hr hfilters hv => exact .invalid (h.hasDocument ht) hr (h.followed hfilters) hv
  | replay hs hfirst ho =>
    obtain ⟨t, ht, hst⟩ := h.hasSettings hs
    exact .replay ht (h.modules ▸ hst.firstFault hfirst) ho
  | missingTypes hs hn hu =>
    obtain ⟨t, ht, hst⟩ := h.hasSettings hs
    refine .missingTypes ht (h.modules ▸ hst.faultless hn) ?_
    rw [hst.inputClass, hst.outputClass]
    exact hu

theorem strayFault (h : p.Alike q) (hf : StrayFault source tree path p f) :
    StrayFault source tree path q f := by
  cases hf with
  | nullByte hn => exact .nullByte hn
  | encoding hbytes hn hahead hd => exact .encoding hbytes hn (h.ahead ▸ hahead) hd
  | ahead hbytes hb hahead hm => exact .ahead hbytes hb (h.ahead ▸ hahead) hm
  | scalar ht hm => exact .scalar (h.hasDocument ht) hm
  | document ht hprintable hreads => exact .document ht hprintable (h.reads ▸ hreads)
  | filters ht hr hn => exact .filters (h.hasDocument ht) hr fun hf => hn (h.symm.followed hf)
  | type hs hfirst =>
    obtain ⟨t, ht, hst⟩ := h.hasSettings hs
    exact .type ht (h.modules ▸ hst.firstFault hfirst)
  | url hs hfirst =>
    obtain ⟨t, ht, hst⟩ := h.hasSettings hs
    exact .url ht (h.modules ▸ hst.firstFault hfirst)

theorem error_of_error (h : p.Alike q) (hf : (loadCriteria source tree path p).result = .error f) :
    (loadCriteria source tree path q).result = .error f := by
  rcases hasOutcome source tree path p with hl | ho | hs | ht
  · obtain ⟨c, hc⟩ := hl.result
    rw [hf] at hc
    cases hc
  · cases hf.symm.trans ho.result.1
    exact (h.ownFault ho).result.1
  · cases hf.symm.trans hs.result.1
    exact (h.strayFault hs).result.1
  · obtain ⟨text, htext, hforeign⟩ := ht
    cases hf.symm.trans (ForeignDocument.result ⟨text, htext, hforeign⟩)
    exact ForeignDocument.result ⟨text, h.hasDocument htext, hforeign⟩

/-- What is at fault with a file on one of two such platforms is at fault with it on the other. -/
theorem error_iff (h : p.Alike q) : (loadCriteria source tree path p).result = .error f ↔
    (loadCriteria source tree path q).result = .error f :=
  ⟨h.error_of_error, h.symm.error_of_error⟩

end Platform.Alike

end ModelSearch
