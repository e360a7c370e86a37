import Mathlib.Data.List.Pairwise
import ModelSearch.Proofs.Criteria.LastCall
import ModelSearch.Proofs.Value.Rearranged

/-!
# What calls write

A call writes whole fields, or one entry of a mapping.  Among calls that write different targets at
most one gives a field its value, and the entries that they set have distinct keys, so what they
leave in a field does not depend on their order, but for the order of the entries of a mapping.

    Last gives v₀ cs v → Last gives v₀ ds w → v = w            if cs.Perm ds   (Last.eq_of_perm)
    MappingAfter f es₀ cs es → MappingAfter f es₀ ds fs → es ~ fs              (MappingAfter.perm)
-/

namespace ModelSearch

open Entries (Keyed assignAll_perm)

/-! ## Values that may be missing -/

section

variable {α : Type} {r : α → α → Prop}

theorem rel_refl (hr : ∀ x, r x x) (o : Option α) : Option.Rel r o o := by
  cases o with
  | none => exact .none
  | some x => exact .some (hr x)

theorem rel_symm (hr : ∀ {x y}, r x y → r y x) {o p : Option α} (h : Option.Rel r o p) :
    Option.Rel r p o := by
  cases h with
  | none => exact .none
  | some h => exact .some (hr h)

end

/-! ## Targets -/

/-- What a call writes: a whole field, or the entry of a key. -/
inductive Target where
  | field (f : Field)
  | entry (f : MappingField) (key : Value)

def MappingField.field : MappingField → Field
  | .filters => .filters
  | .arguments => .arguments
  | .options => .options

def OwnField.field {α : Type} : OwnField α → Field
  | .application => .application
  | .engine => .engine
  | .device => .device
  | .translator => .translator
  | .block => .block
  | .modelName => .modelName
  | .progress => .progress

/-- Targets that do not overlap. -/
def Target.Apart : Target → Target → Prop
  | .field f, .field g => f ≠ g
  | .field f, .entry g _ => f ≠ g.field
  | .entry f _, .field g => f.field ≠ g
  | .entry f k, .entry g l => f = g → k.sameAs l = false

instance (s t : Target) : Decidable (s.Apart t) :=
  match s, t with
  | .field f, .field g => inferInstanceAs (Decidable (f ≠ g))
  | .field f, .entry g _ => inferInstanceAs (Decidable (f ≠ g.field))
  | .entry f _, .field g => inferInstanceAs (Decidable (f.field ≠ g))
  | .entry f k, .entry g l => inferInstanceAs (Decidable (f = g → k.sameAs l = false))

namespace Call

def targets : Call → List Target
  | .application _ => [.field .application]
  | .engine _ => [.field .engine]
  | .device _ => [.field .device]
  | .groupId _ => [.field .groupId]
  | .artifactId text =>
    match ArtifactName.of text with
    | .qualified _ _ => [.field .groupId, .field .artifactId]
    | .bare _ | .malformed => [.field .artifactId]
  | .modelUrls _ _ | .modelZoo _ => [.field .modelZoo]
  | .filters _ => [.field .filters]
  | .filter k _ => [.entry .filters k]
  | .arguments _ => [.field .arguments]
  | .argument k _ => [.entry .arguments k]
  | .options _ => [.field .options]
  | .option k _ => [.entry .options k]
  | .translator _ => [.field .translator]
  | .block _ => [.field .block]
  | .modelName _ => [.field .modelName]
  | .progress _ => [.field .progress]

/-- Calls that write different targets. -/
def Apart (c d : Call) : Prop := ∀ s ∈ c.targets, ∀ t ∈ d.targets, s.Apart t

instance (c d : Call) : Decidable (c.Apart d) :=
  inferInstanceAs (Decidable (∀ s ∈ c.targets, ∀ t ∈ d.targets, s.Apart t))

/-- Calls that write one field, or a field and one of its entries. -/
def Clash (c d : Call) : Prop :=
  (∃ f, .field f ∈ c.targets ∧ .field f ∈ d.targets) ∨
  (∃ f k, .field f.field ∈ c.targets ∧ .entry f k ∈ d.targets) ∨
  ∃ f k, .entry f k ∈ c.targets ∧ .field f.field ∈ d.targets

theorem Clash.symm {c d : Call} (h : c.Clash d) : d.Clash c := by
  rcases h with ⟨f, hc, hd⟩ | ⟨f, k, hc, hd⟩ | ⟨f, k, hc, hd⟩
  · exact .inl ⟨f, hd, hc⟩
  · exact .inr (.inr ⟨f, k, hd, hc⟩)
  · exact .inr (.inl ⟨f, k, hd, hc⟩)

theorem Apart.not_clash {c d : Call} (h : c.Apart d) : ¬c.Clash d := by
  rintro (⟨f, hc, hd⟩ | ⟨f, k, hc, hd⟩ | ⟨f, k, hc, hd⟩)
  · exact h _ hc _ hd rfl
  · exact h _ hc _ hd rfl
  · exact h _ hc _ hd rfl

/-- Calls of which only a call itself clashes with it. -/
def Separate (cs : List Call) : Prop := ∀ c ∈ cs, ∀ d ∈ cs, c.Clash d → c = d

theorem separate_of_apart {cs : List Call} (h : cs.Pairwise Apart) : Separate cs := by
  have hnot : cs.Pairwise fun c d => ¬c.Clash d ∧ ¬d.Clash c :=
    h.imp fun ha => ⟨ha.not_clash, fun hx => ha.not_clash hx.symm⟩
  have : Std.Symm fun c d : Call => ¬c.Clash d ∧ ¬d.Clash c := ⟨fun _ _ h => h.symm⟩
  intro c hc d hd hcd
  by_contra hne
  exact (hnot.forall hc hd hne).1 hcd

theorem Separate.perm {cs ds : List Call} (h : Separate cs) (hp : cs.Perm ds) : Separate ds :=
  fun c hc d hd => h c (hp.mem_iff.2 hc) d (hp.mem_iff.2 hd)

/-! ## What is given and what is written -/

theorem field_mem_own {α : Type} (f : OwnField α) (v : α) :
    .field f.field ∈ (f.call v).targets := by
  cases f <;> exact List.mem_cons_self

theorem GivesGroup.mem {c : Call} {g : Option String} (h : c.GivesGroup g) :
    .field .groupId ∈ c.targets := by
  cases h with
  | group => exact List.mem_cons_self
  | qualified hq =>
    rw [targets, ArtifactName.of_eq_qualified hq]
    exact List.mem_cons_self

theorem GivesArtifact.mem {c : Call} {a : Option String} (h : c.GivesArtifact a) :
    .field .artifactId ∈ c.targets := by
  cases h with
  | bare hn =>
    rw [targets, ArtifactName.of_eq_bare hn]
    exact List.mem_cons_self
  | qualified hq =>
    rw [targets, ArtifactName.of_eq_qualified hq]
    exact List.mem_cons_of_mem _ List.mem_cons_self

theorem GivesZoo.mem {c : Call} {z : Option Zoo} (h : c.GivesZoo z) :
    .field .modelZoo ∈ c.targets := by
  cases h <;> exact List.mem_cons_self

theorem Replaces.mem {f : MappingField} {c : Call} {es : Option Entries} (h : c.Replaces f es) :
    .field f.field ∈ c.targets := by
  unfold Replaces at h
  cases c <;> cases h <;> exact List.mem_cons_self

theorem entry_mem {f : MappingField} {c : Call} {k v : Value} (h : c.edit? = some (f, .put k v)) :
    .entry f k ∈ c.targets := by
  cases c <;> cases h <;> exact List.mem_cons_self

theorem edit?_of_entry? {f : MappingField} {c : Call} {k v : Value}
    (h : c.entry? f = some (k, v)) : c.edit? = some (f, .put k v) := by
  unfold entry? at h
  split at h
  · next g k' v' hg =>
    split at h
    · next hgf =>
      cases h
      rw [hg, hgf]
    · cases h
  · cases h

end Call

/-! ## One field -/

section

variable {α : Type} {gives : Call → α → Prop} {v₀ v w : α} {cs ds : List Call}

theorem Last.cases (h : Last gives v₀ cs v) :
    (∃ c ∈ cs, gives c v) ∨ ((∀ c ∈ cs, ∀ w, ¬gives c w) ∧ v = v₀) := by
  obtain ⟨after, hafter, ⟨before, c, rfl, hc⟩ | ⟨rfl, hv⟩⟩ := h
  · exact .inl ⟨c, by simp, hc⟩
  · exact .inr ⟨hafter, hv⟩

/-- If the calls that give a value all give the same, their order does not matter. -/
theorem Last.eq_of_perm (hp : cs.Perm ds) (h : Last gives v₀ cs v) (h' : Last gives v₀ ds w)
    (hsame : ∀ c ∈ cs, ∀ d ∈ cs, ∀ v w, gives c v → gives d w → v = w) : v = w := by
  rcases h.cases with ⟨c, hc, hcv⟩ | ⟨hnone, rfl⟩
  · rcases h'.cases with ⟨d, hd, hdw⟩ | ⟨hnone, -⟩
    · exact hsame c hc d (hp.mem_iff.2 hd) v w hcv hdw
    · exact absurd hcv (hnone c (hp.mem_iff.1 hc) v)
  · rcases h'.cases with ⟨d, hd, hdw⟩ | ⟨-, rfl⟩
    · exact absurd hdw (hnone d (hp.mem_iff.2 hd) w)
    · rfl

/-- Separate calls that give a value of one field all give the same. -/
theorem same_of_separate (hcs : Call.Separate cs) {f : Field}
    (hmem : ∀ {c v}, gives c v → .field f ∈ c.targets)
    (hfun : ∀ {c v w}, gives c v → gives c w → v = w) :
    ∀ c ∈ cs, ∀ d ∈ cs, ∀ v w, gives c v → gives d w → v = w := by
  intro c hc d hd v w hv hw
  have hcd : c = d := hcs c hc d hd (.inl ⟨f, hmem hv, hmem hw⟩)
  subst hcd
  exact hfun hv hw

end

theorem OwnField.call_injective {α : Type} (f : OwnField α) {v w : α} (h : f.call v = f.call w) :
    v = w := by
  cases f <;> exact (by simpa [OwnField.call] using h)

/-! ## One mapping -/

section

variable {es fs es₀ : Entries} {k v : Value}

theorem Entries.Sets.eq_assign (h : Entries.Sets k v es fs) : fs = es.assign k v := by
  cases h with
  | @present before after k' w hb hs =>
    induction before with
    | nil => exact (if_pos hs).symm
    | cons e before ih =>
      have he := hb e List.mem_cons_self
      have hrest := ih fun f hf => hb f (List.mem_cons_of_mem _ hf)
      rw [List.cons_append, List.cons_append, hrest]
      exact (if_neg (Bool.eq_false_iff.1 he)).symm
  | absent hn => exact (assign_of_forall hn v).symm

theorem Entries.SetsAll.eq_assignAll {ps : Entries} (h : Entries.SetsAll es₀ ps es) :
    es = es₀.assignAll ps := by
  induction h with
  | nil => rfl
  | concat _ hset ih =>
    rw [hset.eq_assign, ih, assignAll, assignAll, List.foldl_append]
    rfl

end

/-- A mapping in which entries are set, if there are any. -/
def putAll (es₀ : Option Entries) (ps : Entries) : Option Entries :=
  if ps = [] then es₀ else some ((es₀.getD []).assignAll ps)

theorem MappingAfter.cases {f : MappingField} {es₀ es : Option Entries} {cs : List Call}
    (h : MappingAfter f es₀ cs es) (hcs : Call.Separate cs) :
    (∃ c ∈ cs, c.Replaces f es) ∨ ((∀ c ∈ cs, ∀ fs, ¬c.Replaces f fs) ∧
      es = putAll es₀ (cs.filterMap (Call.entry? f))) := by
  obtain ⟨start, after, ⟨hafter, hstart⟩, hes⟩ := h
  rcases hstart with ⟨before, c, rfl, hc⟩ | ⟨rfl, rfl⟩
  · -- Setting an entry of the mapping would clash with replacing it.
    have hnone : after.filterMap (Call.entry? f) = [] := by
      refine List.filterMap_eq_nil_iff.2 fun d hd => ?_
      cases hentry : d.entry? f with
      | none => rfl
      | some e =>
        have hput := Call.edit?_of_entry? hentry
        have hclash : c.Clash d := .inr (.inl ⟨f, e.1, hc.mem, Call.entry_mem hput⟩)
        have hcd : c = d := hcs c (by simp) d (by simp [hd]) hclash
        subst hcd
        rw [Call.Replaces, hput] at hc
        cases hc
    rcases hes with ⟨-, rfl⟩ | ⟨hsome, -⟩
    · exact .inl ⟨c, by simp, hc⟩
    · exact absurd hnone hsome
  · refine .inr ⟨hafter, ?_⟩
    rcases hes with ⟨hnone, rfl⟩ | ⟨hsome, fs, hfs, rfl⟩
    · exact (if_pos hnone).symm
    · rw [putAll, if_neg hsome, hfs.eq_assignAll]

/-- The entries that calls set, which are apart and do not fail. -/
theorem keyed_of_apart {f : MappingField} {cs : List Call} (hcs : cs.Pairwise Call.Apart)
    (hkeys : ∀ c ∈ cs, ∀ k v, c.entry? f = some (k, v) → k.hashable = true) :
    Keyed (cs.filterMap (Call.entry? f)) := by
  have hhash : ∀ e ∈ cs.filterMap (Call.entry? f), e.1.hashable = true := by
    intro e he
    obtain ⟨c, hc, hce⟩ := List.mem_filterMap.1 he
    exact hkeys c hc e.1 e.2 hce
  refine ⟨hhash, ?_⟩
  rw [List.Nodup, List.pairwise_map]
  have hpairs : (cs.filterMap (Call.entry? f)).Pairwise fun d e => d.1.sameAs e.1 = false := by
    refine List.pairwise_filterMap.2 (hcs.imp fun {c d} hcd p hp q hq => ?_)
    have hp' := Call.entry_mem (Call.edit?_of_entry? (k := p.1) (v := p.2) hp)
    have hq' := Call.entry_mem (Call.edit?_of_entry? (k := q.1) (v := q.2) hq)
    exact hcd _ hp' _ hq' rfl
  refine hpairs.imp_of_mem fun {d e} hd he hde => ?_
  exact (Value.sameAs_eq_false_iff (hhash d hd) (hhash e he)).1 hde

/-- Calls that are apart leave a mapping in one content, whatever their order. -/
theorem MappingAfter.perm {f : MappingField} {es₀ es fs : Option Entries} {cs ds : List Call}
    (hp : cs.Perm ds) (hcs : cs.Pairwise Call.Apart)
    (hkeys : ∀ c ∈ cs, ∀ k v, c.entry? f = some (k, v) → k.hashable = true)
    (h₀ : ∀ es, es₀ = some es → es.Keyed) (h : MappingAfter f es₀ cs es)
    (h' : MappingAfter f es₀ ds fs) : Option.Rel List.Perm es fs := by
  have hsep := Call.separate_of_apart hcs
  rcases h.cases hsep with ⟨c, hc, hce⟩ | ⟨hnone, rfl⟩
  · rcases h'.cases (hsep.perm hp) with ⟨d, hd, hdf⟩ | ⟨hnone, -⟩
    · have hcd : c = d := hsep c hc d (hp.mem_iff.2 hd) (.inl ⟨_, hce.mem, hdf.mem⟩)
      subst hcd
      rw [Call.Replaces, hce] at hdf
      cases hdf
      exact rel_refl List.Perm.refl es
    · exact absurd hce (hnone c (hp.mem_iff.1 hc) es)
  · rcases h'.cases (hsep.perm hp) with ⟨d, hd, hdf⟩ | ⟨-, rfl⟩
    · exact absurd hdf (hnone d (hp.mem_iff.2 hd) fs)
    · have hputs := hp.filterMap (Call.entry? f)
      unfold putAll
      by_cases hempty : cs.filterMap (Call.entry? f) = []
      · rw [hempty] at hputs
        rw [if_pos hempty, if_pos hputs.nil_eq.symm]
        exact rel_refl List.Perm.refl es₀
      · have hempty' : ds.filterMap (Call.entry? f) ≠ [] := fun hn => by
          rw [hn] at hputs
          exact hempty hputs.eq_nil
        have hstart : Keyed (es₀.getD []) := by
          cases es₀ with
          | none => exact Entries.keyed_nil
          | some es => exact h₀ es rfl
        rw [if_neg hempty, if_neg hempty']
        exact .some (assignAll_perm hstart (List.Perm.refl _) (keyed_of_apart hcs hkeys) hputs)

end ModelSearch
