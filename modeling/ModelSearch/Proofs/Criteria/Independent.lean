import ModelSearch.Proofs.Criteria.Retyping
import ModelSearch.Proofs.Criteria.Targets
import ModelSearch.Proofs.Zoo.Urls

/-!
# Calls in another order

Calls that write different targets leave the same builder in every order, but for the order of the
entries in its mappings and for the zoos that are made from URLs, which are new objects each time.
The criteria that are built then are equal, zoos made from URLs being compared by their URLs.

    cs.Perm ds → the builders differ in the order of mappings at most       (rearranged_of_perm)
    Forall₂ Alike cs ds → the builders differ in the zoo at most            (Alike.run)
    both → the criteria agree                                               (build_of_order)
-/

namespace ModelSearch

/-! ## Faults -/

namespace Builder

variable {b : Builder} {cs ds : List Call}

/-- Whether a call fails does not depend on the builder. -/
theorem apply_fault (b b' : Builder) (c : Call) : (b.apply c).fault = (b'.apply c).fault := by
  have hput : ∀ (es fs : Option Entries) (k v : Value),
      (putEntry es k v).2 = (putEntry fs k v).2 := by
    intro es fs k v
    unfold putEntry
    cases k.unhashable? <;> rfl
  cases c with
  | artifactId text =>
    simp only [apply, setArtifactId]
    cases ArtifactName.of text <;> rfl
  | modelUrls mark text =>
    simp only [apply, setModelUrls]
    cases Zoo.ofUrls mark text <;> rfl
  | filter k v => exact hput b.filters b'.filters k v
  | argument k v => exact hput b.arguments b'.arguments k v
  | option k v => exact hput b.options b'.options k v
  | _ => rfl

theorem run_fault_iff (b : Builder) (cs : List Call) :
    (b.run cs).fault = none ↔ ∀ c ∈ cs, (b.apply c).fault = none := by
  induction cs generalizing b with
  | nil => exact iff_of_true rfl nofun
  | cons c cs ih =>
    rw [List.forall_mem_cons]
    constructor
    · intro h
      have hc := apply_of_run_cons h
      rw [(run_cons_of_ok hc cs).2, ih] at h
      exact ⟨hc, fun d hd => (apply_fault _ _ d).trans (h d hd)⟩
    · rintro ⟨hc, hcs⟩
      rw [(run_cons_of_ok hc cs).2, ih]
      exact fun d hd => (apply_fault _ _ d).trans (hcs d hd)

theorem hashable_of_apply {c : Call} (h : (b.apply c).fault = none) {f : MappingField}
    {k v : Value} (hc : c.edit? = some (f, .put k v)) : k.hashable = true := by
  rw [apply_put hc] at h
  unfold putEntry at h
  cases hk : k.unhashable? with
  | none => rw [Value.hashable, hk, Option.isNone_none]
  | some kind =>
    rw [hk] at h
    cases h

end Builder

/-! ## Mappings of builders -/

/-- A call with values that are the same as themselves, and whose mappings have distinct keys.  A
value is the same as itself unless a mapping in it has one key twice (`Value.sameAs_self`). -/
def Call.Regular (c : Call) : Prop :=
  match c.edit? with
  | some (_, .replace es) => ∀ fs, es = some fs → fs.Regular
  | some (_, .put _ v) => v.sameAs v = true
  | none => True

/-- A builder with such mappings. -/
def Builder.Regular (b : Builder) : Prop := ∀ f es, b.toSelection.mapping f = some es → es.Regular

theorem Builder.regular_new (i o : Option ModelType) :
    Builder.Regular { inputClass := i, outputClass := o } := by
  intro f es h
  cases f <;> cases h

namespace Builder

variable {b : Builder} {cs ds : List Call}

theorem Regular.apply (hb : b.Regular) {c : Call} (hc : c.Regular) (h : (b.apply c).fault = none) :
    (b.apply c).builder.Regular := by
  intro f es hes
  cases hedit : c.edit? with
  | none =>
    rw [mapping_apply_plain hedit] at hes
    exact hb f es hes
  | some edit =>
    obtain ⟨g, edit⟩ := edit
    rw [Call.Regular, hedit] at hc
    cases edit with
    | replace gs =>
      rw [apply_replace hedit, mapping_withMapping] at hes
      split at hes
      · exact hc es hes
      · exact hb f es hes
    | put k v =>
      have hk := hashable_of_apply h hedit
      rw [apply_put hedit] at h
      rw [apply_put hedit, mapping_withMapping] at hes
      split at hes
      · cases hes
        rw [putEntry_eq h]
        cases hg : b.toSelection.mapping g with
        | none => exact Entries.regular_nil.assign hk hc
        | some gs => exact (hb g gs hg).assign hk hc
      · exact hb f es hes

theorem Regular.run (hb : b.Regular) (hcs : ∀ c ∈ cs, c.Regular) (h : (b.run cs).fault = none) :
    (b.run cs).builder.Regular := by
  induction cs generalizing b with
  | nil => exact hb
  | cons c cs ih =>
    have hc := apply_of_run_cons h
    rw [(run_cons_of_ok hc cs).2] at h
    rw [(run_cons_of_ok hc cs).1]
    exact ih (hb.apply (hcs c List.mem_cons_self) hc)
      (fun d hd => hcs d (List.mem_cons_of_mem _ hd)) h

/-! ## Calls in another order -/

/-- The same builder, but for the order of the entries in its mappings. -/
structure Rearranged (b b' : Builder) : Prop where
  own : ∀ {α : Type} (f : OwnField α), f.get b' = f.get b
  groupId : b'.groupId = b.groupId
  artifactId : b'.artifactId = b.artifactId
  modelZoo : b'.modelZoo = b.modelZoo
  mapping : ∀ f, Option.Rel List.Perm (b.toSelection.mapping f) (b'.toSelection.mapping f)
  inputClass : b'.inputClass = b.inputClass
  outputClass : b'.outputClass = b.outputClass

theorem Rearranged.symm {b' : Builder} (h : b.Rearranged b') : b'.Rearranged b where
  own f := (h.own f).symm
  groupId := h.groupId.symm
  artifactId := h.artifactId.symm
  modelZoo := h.modelZoo.symm
  mapping f := rel_symm List.Perm.symm (h.mapping f)
  inputClass := h.inputClass.symm
  outputClass := h.outputClass.symm

theorem Regular.rearranged {b' : Builder} (hb : b.Regular) (h : b.Rearranged b') : b'.Regular := by
  intro f es hes
  have hp := h.mapping f
  rw [hes] at hp
  cases hfs : b.toSelection.mapping f with
  | none =>
    rw [hfs] at hp
    cases hp
  | some fs =>
    rw [hfs] at hp
    exact (hb f fs hfs).perm (Option.rel_some_some.1 hp)

/-- Calls that write different targets leave the same builder in every order, but for the order of
the entries in its mappings. -/
theorem rearranged_of_perm (hb : b.Regular) (h : (b.run cs).fault = none) (hp : cs.Perm ds)
    (hapart : cs.Pairwise Call.Apart) :
    (b.run ds).fault = none ∧ (b.run cs).builder.Rearranged (b.run ds).builder := by
  have hcs := (run_fault_iff b cs).1 h
  have hds : (b.run ds).fault = none := (run_fault_iff b ds).2 fun c hc => hcs c (hp.mem_iff.2 hc)
  have hafter := after_of_run h
  have hafter' := after_of_run hds
  have hsep := Call.separate_of_apart hapart
  refine ⟨hds, ?_⟩
  constructor
  · intro α f
    refine ((hafter.own f).eq_of_perm hp (hafter'.own f)
      (same_of_separate (f := f.field) hsep ?_ ?_)).symm
    · rintro c v rfl
      exact Call.field_mem_own f v
    · rintro c v w rfl hw
      exact f.call_injective hw
  · exact (hafter.groupId.eq_of_perm hp hafter'.groupId
      (same_of_separate hsep Call.GivesGroup.mem Call.GivesGroup.unique)).symm
  · exact (hafter.artifactId.eq_of_perm hp hafter'.artifactId
      (same_of_separate hsep Call.GivesArtifact.mem Call.GivesArtifact.unique)).symm
  · exact (hafter.modelZoo.eq_of_perm hp hafter'.modelZoo
      (same_of_separate hsep Call.GivesZoo.mem Call.GivesZoo.unique)).symm
  · intro f
    have hkeys : ∀ c ∈ cs, ∀ k v, c.entry? f = some (k, v) → k.hashable = true :=
      fun c hc k v hentry => hashable_of_apply (hcs c hc) (Call.edit?_of_entry? hentry)
    exact (hafter.mapping f).perm hp hapart hkeys (fun es hes => (hb f es hes).toKeyed)
      (hafter'.mapping f)
  · exact hafter'.inputClass.trans hafter.inputClass.symm
  · exact hafter'.outputClass.trans hafter.outputClass.symm

end Builder

/-! ## Zoos that are other objects -/

/-- Zoos that are one object, or that are made from the same URLs. -/
def Zoo.Alike (z w : Zoo) : Prop :=
  z.sameAs w = true ∨ ∃ urls, z.urls? = some urls ∧ w.urls? = some urls

theorem Zoo.alike_self (z : Zoo) : z.Alike z := by
  simp [Alike, sameAs]

theorem Zoo.rel_alike_self (o : Option Zoo) : Option.Rel Zoo.Alike o o :=
  rel_refl Zoo.alike_self o

theorem Zoo.alike_of_ofUrls {m n : Mark} {text : String} {z : Zoo} (h : Zoo.ofUrls m text = .ok z) :
    ∃ w, Zoo.ofUrls n text = .ok w ∧ z.Alike w := by
  obtain ⟨hne, loaders, hloaders, rfl⟩ := Zoo.ofUrls_eq_ok_iff.1 h
  exact ⟨_, Zoo.ofUrls_eq_ok_iff.2 ⟨hne, loaders, hloaders, rfl⟩, .inr ⟨_, rfl, rfl⟩⟩

/-- One call made twice: the zoos that it makes from URLs can be two objects. -/
inductive Call.Alike : Call → Call → Prop where
  | same (c : Call) : Alike c c
  | urls (m n : Mark) (text : String) : Alike (.modelUrls m text) (.modelUrls n text)

namespace Builder

variable {b b' : Builder} {cs ds : List Call}

/-- Builders that differ at most in zoos that are alike. -/
def Alike (b b' : Builder) : Prop :=
  ∃ z, b' = { b with modelZoo := z } ∧ Option.Rel Zoo.Alike b.modelZoo z

theorem alike_self (b : Builder) : b.Alike b := ⟨b.modelZoo, rfl, Zoo.rel_alike_self b.modelZoo⟩

theorem Alike.apply (h : b.Alike b') {c d : Call} (hcd : c.Alike d)
    (hc : (b.apply c).fault = none) :
    (b'.apply d).fault = none ∧ (b.apply c).builder.Alike (b'.apply d).builder := by
  obtain ⟨z, rfl, hz⟩ := h
  cases hcd with
  | same =>
    refine ⟨(apply_fault _ b c).trans hc, ?_⟩
    cases c with
    | modelZoo w => exact ⟨w, rfl, Zoo.rel_alike_self w⟩
    | modelUrls mark text =>
      simp only [Builder.apply, setModelUrls] at hc ⊢
      cases hzoo : Zoo.ofUrls mark text with
      | ok w => exact ⟨some w, rfl, Zoo.rel_alike_self (some w)⟩
      | error f =>
        rw [hzoo] at hc
        cases hc
    | artifactId text =>
      simp only [Builder.apply, setArtifactId]
      cases ArtifactName.of text <;> exact ⟨z, rfl, hz⟩
    | _ => exact ⟨z, rfl, hz⟩
  | urls m n text =>
    simp only [Builder.apply, setModelUrls] at hc ⊢
    cases hzoo : Zoo.ofUrls m text with
    | ok w =>
      obtain ⟨w', hw', halike⟩ := Zoo.alike_of_ofUrls (n := n) hzoo
      rw [hw']
      exact ⟨rfl, some w', rfl, .some halike⟩
    | error f =>
      rw [hzoo] at hc
      cases hc

theorem Alike.run (h : b.Alike b') (hcs : List.Forall₂ Call.Alike cs ds)
    (hfault : (b.run cs).fault = none) :
    (b'.run ds).fault = none ∧ (b.run cs).builder.Alike (b'.run ds).builder := by
  induction hcs generalizing b b' with
  | nil => exact ⟨rfl, h⟩
  | cons hcd _ ih =>
    have hc := apply_of_run_cons hfault
    obtain ⟨hd, hstep⟩ := h.apply hcd hc
    rw [(run_cons_of_ok hc _).2] at hfault
    rw [(run_cons_of_ok hc _).1, (run_cons_of_ok hd _).1, (run_cons_of_ok hd _).2]
    exact ih hstep hfault

end Builder

/-! ## Criteria -/

theorem Zoo.Alike.symm {z w : Zoo} (h : z.Alike w) : w.Alike z := by
  rcases h with h | ⟨urls, hz, hw⟩
  · exact .inl (by simpa [sameAs, eq_comm] using h)
  · exact .inr ⟨urls, hw, hz⟩

/-- Criteria that are equal, zoos made from URLs being compared by their URLs. -/
def Criteria.AgreesWith (c d : Criteria) : Prop :=
  c.sameAs { d with modelZoo := c.modelZoo } = true ∧ Option.Rel Zoo.Alike c.modelZoo d.modelZoo

theorem Criteria.sameEntries_of_perm {es fs : Option Entries}
    (hr : ∀ xs, es = some xs → xs.Regular) (hp : Option.Rel List.Perm es fs) :
    sameEntries es fs = true := by
  cases hp with
  | none => rfl
  | some hp => exact (hr _ rfl).sameAs_of_perm hp default default

/-- Builders that differ in the order of their mappings build criteria that agree, if the zoos are
alike. -/
theorem Builder.Rearranged.agrees {b b' : Builder} (h : b.Rearranged b') (hb : b.Regular)
    {z w : Option Zoo} (hz : Option.Rel Zoo.Alike z w) (i o : ModelType) :
    Criteria.AgreesWith
      { b.toSelection with inputClass := i, outputClass := o, modelZoo := z }
      { b'.toSelection with inputClass := i, outputClass := o, modelZoo := w } := by
  have happlication : b'.application = b.application := h.own .application
  have hengine : b'.engine = b.engine := h.own .engine
  have hdevice : b'.device = b.device := h.own .device
  have htranslator : b'.translator = b.translator := h.own .translator
  have hblock : b'.block = b.block := h.own .block
  have hmodelName : b'.modelName = b.modelName := h.own .modelName
  have hprogress : b'.progress = b.progress := h.own .progress
  have hfilters := Criteria.sameEntries_of_perm (hb .filters) (h.mapping .filters)
  have harguments := Criteria.sameEntries_of_perm (hb .arguments) (h.mapping .arguments)
  have hoptions := Criteria.sameEntries_of_perm (hb .options) (h.mapping .options)
  dsimp only [Selection.mapping] at hfilters harguments hoptions
  refine ⟨?_, hz⟩
  simp [Criteria.sameAs, Criteria.sameZoo_self, happlication, hengine, hdevice, h.groupId,
    h.artifactId, htranslator, hblock, hmodelName, hprogress, hfilters, harguments, hoptions]

/-- Calls that write different targets and do not fail can be made in any order: they do not fail
either, and the criteria that are built agree. -/
theorem Builder.build_of_order {b : Builder} {i o : ModelType} (hi : b.inputClass = some i)
    (ho : b.outputClass = some o) (hb : b.Regular) {cs es ds : List Call}
    (h : (b.run cs).fault = none) (hregular : ∀ c ∈ cs, c.Regular)
    (hapart : cs.Pairwise Call.Apart) (hp : cs.Perm es) (hds : List.Forall₂ Call.Alike es ds) :
    (b.run ds).fault = none ∧ ∃ c d, (b.run cs).builder.build = .ok c ∧
      (b.run ds).builder.build = .ok d ∧ c.AgreesWith d ∧ d.AgreesWith c := by
  obtain ⟨hes, hrearranged⟩ := rearranged_of_perm hb h hp hapart
  obtain ⟨hfault, z, hbuilder, hz⟩ := (alike_self b).run hds hes
  have hafter := after_of_run h
  have hafter' := after_of_run hfault
  rw [hrearranged.modelZoo] at hz
  have hbuilt := hb.run hregular h
  have hagrees := hrearranged.agrees hbuilt hz i o
  have hagrees' := hrearranged.symm.agrees (hbuilt.rearranged hrearranged)
    (rel_symm Zoo.Alike.symm hz) i o
  refine ⟨hfault, _, _, build_eq_ok_iff.2 ⟨hafter.inputClass.trans hi,
    hafter.outputClass.trans ho, rfl⟩, build_eq_ok_iff.2 ⟨hafter'.inputClass.trans hi,
    hafter'.outputClass.trans ho, ?_⟩, hagrees, hagrees'⟩
  rw [hbuilder]

/-- Calls that write different targets, among them two keys of one mapping. -/
def independent (mark : Mark) : List Call :=
  [.filter (.text "a") (.text "x"), .artifactId "zoo:resnet", .filter (.text "b") (.text "y"),
   .modelUrls mark "http://host/m.zip"]

theorem Builder.build_of_order_independent :
    let b : Builder := { inputClass := some (.builtin "str"), outputClass := some (.builtin "int") }
    let there := b.run (independent (.own 0 0))
    let back := b.run (independent (.own 0 1)).reverse
    there.fault = none ∧ (independent (.own 0 0)).Pairwise Call.Apart ∧
      there.builder.filters = some [(.text "a", .text "x"), (.text "b", .text "y")] ∧
      back.builder.filters = some [(.text "b", .text "y"), (.text "a", .text "x")] ∧
      ∃ c d, there.builder.build = .ok c ∧ back.builder.build = .ok d ∧
        c.AgreesWith d ∧ d.AgreesWith c := by
  intro b there back
  have hfault : there.fault = none := by decide +kernel
  have hapart : (independent (.own 0 0)).Pairwise Call.Apart := by decide +kernel
  have hregular : ∀ c ∈ independent (.own 0 0), c.Regular := by
    simp only [independent, List.forall_mem_cons]
    exact ⟨rfl, trivial, rfl, trivial, fun c hc => absurd hc List.not_mem_nil⟩
  have halike : List.Forall₂ Call.Alike (independent (.own 0 0)).reverse
      (independent (.own 0 1)).reverse :=
    .cons (.urls ..) (.cons (.same _) (.cons (.same _) (.cons (.same _) .nil)))
  obtain ⟨-, c, d, hc, hd, hagrees⟩ := build_of_order rfl rfl (regular_new _ _) hfault hregular
    hapart (List.reverse_perm _).symm halike
  exact ⟨hfault, hapart, rfl, rfl, c, d, hc, hd, hagrees⟩

end ModelSearch
