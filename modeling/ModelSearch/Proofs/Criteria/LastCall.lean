import ModelSearch.Proofs.Criteria.ArtifactName
import ModelSearch.Proofs.Session.Calls
import Mathlib.Data.List.Induction

/-!
# What a run of calls leaves

After calls that all succeed, every field of a builder is told by the calls alone: a field holds what
the last of the calls that decide it gave, or what it held before them.  Several calls can decide one
field, and a call of a qualified id decides two.  A mapping starts at the last call that replaced it
and takes in the entries that were set after that, in their order.

    Since gives v₀ cs v after      v is what the last call that gives one gave, before `after`
    Last gives v₀ cs v             the same, whatever comes after
    b.After cs b'                  every field of b' is what the calls make of b
    (b.run cs).fault = none → b.After cs (b.run cs).builder              (after_run)
-/

namespace ModelSearch

/-! ## The last call -/

/-- The last of the calls that give a value gave `v`, and `after` are the calls since then; if none
of them gives one, the value is still `v₀`. -/
def Since {α : Type} (gives : Call → α → Prop) (v₀ : α) (cs : List Call) (v : α)
    (after : List Call) : Prop :=
  (∀ c ∈ after, ∀ w, ¬gives c w) ∧
    ((∃ before c, cs = before ++ c :: after ∧ gives c v) ∨ (cs = after ∧ v = v₀))

def Last {α : Type} (gives : Call → α → Prop) (v₀ : α) (cs : List Call) (v : α) : Prop :=
  ∃ after, Since gives v₀ cs v after

/-- One call more: it gives the value, or it gives none and the value stays. -/
def Decided {α : Type} (gives : Call → α → Prop) (c : Call) (v v' : α) : Prop :=
  gives c v' ∨ ((∀ w, ¬gives c w) ∧ v' = v)

section

variable {α : Type} {gives : Call → α → Prop} {v₀ v v' : α} {cs after : List Call} {c : Call}

theorem since_nil (gives : Call → α → Prop) (v₀ : α) : Since gives v₀ [] v₀ [] :=
  ⟨by simp, .inr ⟨rfl, rfl⟩⟩

theorem since_given (v₀ : α) (cs : List Call) (h : gives c v) : Since gives v₀ (cs ++ [c]) v [] :=
  ⟨by simp, .inl ⟨cs, c, rfl, h⟩⟩

theorem Since.concat (h : Since gives v₀ cs v after) (hc : ∀ w, ¬gives c w) :
    Since gives v₀ (cs ++ [c]) v (after ++ [c]) := by
  obtain ⟨hafter, hlast⟩ := h
  refine ⟨?_, ?_⟩
  · intro d hd
    rcases List.mem_append.1 hd with hd | hd
    · exact hafter d hd
    · rw [List.mem_singleton.1 hd]
      exact hc
  · rcases hlast with ⟨before, d, rfl, hd⟩ | ⟨rfl, hv⟩
    · exact .inl ⟨before, d, by simp, hd⟩
    · exact .inr ⟨rfl, hv⟩

theorem Last.concat (h : Last gives v₀ cs v) (hc : Decided gives c v v') :
    Last gives v₀ (cs ++ [c]) v' := by
  rcases hc with hc | ⟨hc, rfl⟩
  · exact ⟨[], since_given v₀ cs hc⟩
  · obtain ⟨after, h⟩ := h
    exact ⟨_, h.concat hc⟩

end

/-! ## What calls give -/

/-- The fields that have a call of their own and that no other call decides. -/
inductive OwnField : Type → Type where
  | application : OwnField (Option Application)
  | engine : OwnField (Option String)
  | device : OwnField (Option Device)
  | translator : OwnField (Option Collaborator)
  | block : OwnField (Option Collaborator)
  | modelName : OwnField (Option String)
  | progress : OwnField (Option Collaborator)

namespace OwnField

variable {α : Type}

def call : OwnField α → α → Call
  | .application => .application
  | .engine => .engine
  | .device => .device
  | .translator => .translator
  | .block => .block
  | .modelName => .modelName
  | .progress => .progress

def get (b : Builder) : OwnField α → α
  | .application => b.application
  | .engine => b.engine
  | .device => b.device
  | .translator => b.translator
  | .block => b.block
  | .modelName => b.modelName
  | .progress => b.progress

end OwnField

/-- The group is given by itself or by an id that it qualifies. -/
inductive Call.GivesGroup : Call → Option String → Prop where
  | group (g : Option String) : GivesGroup (.groupId g) g
  | qualified {text g a : String} : ArtifactName.IsQualified text g a →
      GivesGroup (.artifactId text) (some g)

/-- The artifact is given by an id, of which the group is left out. -/
inductive Call.GivesArtifact : Call → Option String → Prop where
  | bare {text : String} : ':' ∉ text.toList → GivesArtifact (.artifactId text) (some text)
  | qualified {text g a : String} : ArtifactName.IsQualified text g a →
      GivesArtifact (.artifactId text) (some a)

/-- The zoo is given by itself or by its URLs. -/
inductive Call.GivesZoo : Call → Option Zoo → Prop where
  | zoo (z : Option Zoo) : GivesZoo (.modelZoo z) z
  | urls {mark : Mark} {text : String} {z : Zoo} : Zoo.ofUrls mark text = .ok z →
      GivesZoo (.modelUrls mark text) (some z)

theorem Call.GivesGroup.unique {c : Call} {v w : Option String} (hv : c.GivesGroup v)
    (hw : c.GivesGroup w) : v = w := by
  cases hv with
  | group => cases hw; rfl
  | qualified hq =>
    cases hw with
    | qualified hq' =>
      rw [(hq.unique hq').1]

theorem Call.GivesArtifact.unique {c : Call} {v w : Option String} (hv : c.GivesArtifact v)
    (hw : c.GivesArtifact w) : v = w := by
  cases hv with
  | bare hn =>
    cases hw with
    | bare => rfl
    | qualified hq => exact absurd hq.colon_mem hn
  | qualified hq =>
    cases hw with
    | bare hn => exact absurd hq.colon_mem hn
    | qualified hq' =>
      rw [(hq.unique hq').2]

theorem Call.GivesZoo.unique {c : Call} {v w : Option Zoo} (hv : c.GivesZoo v) (hw : c.GivesZoo w) :
    v = w := by
  cases hv with
  | zoo => cases hw; rfl
  | urls hz =>
    cases hw with
    | urls hz' =>
      cases hz.symm.trans hz'
      rfl

/-- The call replaces a mapping. -/
def Call.Replaces (f : MappingField) (c : Call) (es : Option Entries) : Prop :=
  c.edit? = some (f, .replace es)

/-- The entry of a mapping that a call sets. -/
def Call.entry? (f : MappingField) (c : Call) : Option (Value × Value) :=
  match c.edit? with
  | some (g, .put k v) => if g = f then some (k, v) else none
  | _ => none

/-! ## Entries that are set -/

namespace Entries

/-- An entry is set: a key that is there takes the new value and keeps its place and its form, and
another one goes to the end. -/
inductive Sets (k v : Value) : Entries → Entries → Prop where
  | present {before after : Entries} {k' w : Value} : (∀ e ∈ before, k.sameAs e.1 = false) →
      k.sameAs k' = true → Sets k v (before ++ (k', w) :: after) (before ++ (k', v) :: after)
  | absent {es : Entries} : (∀ e ∈ es, k.sameAs e.1 = false) → Sets k v es (es ++ [(k, v)])

/-- Entries are set one after the other. -/
inductive SetsAll (es : Entries) : Entries → Entries → Prop where
  | nil : SetsAll es [] es
  | concat {ps fs gs : Entries} {k v : Value} : SetsAll es ps fs → Sets k v fs gs →
      SetsAll es (ps ++ [(k, v)]) gs

theorem sets_assign (es : Entries) (k v : Value) : Sets k v es (es.assign k v) := by
  induction es with
  | nil => exact .absent (by simp)
  | cons e es ih =>
    unfold assign
    by_cases hk : k.sameAs e.1 = true
    · rw [if_pos hk]
      exact @Sets.present k v [] es e.1 e.2 (by simp) hk
    · rw [if_neg hk]
      have he : k.sameAs e.1 = false := by simpa using hk
      have hcons : ∀ fs : Entries, (∀ d ∈ fs, k.sameAs d.1 = false) →
          ∀ d ∈ e :: fs, k.sameAs d.1 = false := by
        intro fs hfs d hd
        rcases List.mem_cons.1 hd with rfl | hd
        · exact he
        · exact hfs d hd
      generalize assign es k v = gs at ih
      cases ih with
      | @present before after k' w hb hs =>
        exact @Sets.present k v (e :: before) after k' w (hcons before hb) hs
      | absent hn => exact .absent (hcons _ hn)

end Entries

/-- What is left of a mapping: it starts where it was replaced last, or where it began, and if
entries were set since then they are set in it, in a new mapping if there was none. -/
def MappingAfter (f : MappingField) (es₀ : Option Entries) (cs : List Call) (es : Option Entries) :
    Prop :=
  ∃ start after, Since (Call.Replaces f) es₀ cs start after ∧
    ((after.filterMap (Call.entry? f) = [] ∧ es = start) ∨
      (after.filterMap (Call.entry? f) ≠ [] ∧
        ∃ fs, Entries.SetsAll (start.getD []) (after.filterMap (Call.entry? f)) fs ∧ es = some fs))

section

variable {f : MappingField} {es₀ es : Option Entries} {cs : List Call} {c : Call}

theorem mappingAfter_nil (f : MappingField) (es₀ : Option Entries) : MappingAfter f es₀ [] es₀ :=
  ⟨es₀, [], since_nil _ _, .inl ⟨rfl, rfl⟩⟩

theorem mappingAfter_replaces (es₀ : Option Entries) (cs : List Call) (h : c.Replaces f es) :
    MappingAfter f es₀ (cs ++ [c]) es :=
  ⟨es, [], since_given es₀ cs h, .inl ⟨rfl, rfl⟩⟩

theorem MappingAfter.concat_put (h : MappingAfter f es₀ cs es) {k v : Value}
    (hc : c.edit? = some (f, .put k v)) :
    MappingAfter f es₀ (cs ++ [c]) (some ((es.getD []).assign k v)) := by
  obtain ⟨start, after, hs, hes⟩ := h
  have hentry : c.entry? f = some (k, v) := by simp [Call.entry?, hc]
  have hmore : (after ++ [c]).filterMap (Call.entry? f)
      = after.filterMap (Call.entry? f) ++ [(k, v)] := by simp [hentry]
  refine ⟨start, after ++ [c], hs.concat ?_, .inr ⟨by simp [hmore], _, ?_, rfl⟩⟩
  · intro w hw
    rw [Call.Replaces, hc] at hw
    cases hw
  · rw [hmore]
    refine .concat ?_ (Entries.sets_assign _ k v)
    rcases hes with ⟨hnone, rfl⟩ | ⟨-, fs, hfs, rfl⟩
    · rw [hnone]
      exact .nil
    · exact hfs

theorem MappingAfter.concat_other (h : MappingAfter f es₀ cs es)
    (hc : ∀ e, c.edit? ≠ some (f, e)) : MappingAfter f es₀ (cs ++ [c]) es := by
  obtain ⟨start, after, hs, hes⟩ := h
  have hentry : c.entry? f = none := by
    unfold Call.entry?
    split
    · next g k v hg => exact if_neg fun e => hc _ (e ▸ hg)
    · rfl
  have hmore : (after ++ [c]).filterMap (Call.entry? f) = after.filterMap (Call.entry? f) := by
    simp [hentry]
  exact ⟨start, after ++ [c], hs.concat fun w hw => hc _ hw, by rw [hmore]; exact hes⟩

end

/-! ## One call -/

namespace Builder

/-- What calls make of a builder, field by field. -/
structure After (b : Builder) (cs : List Call) (b' : Builder) : Prop where
  own : ∀ {α : Type} (f : OwnField α), Last (fun c v => c = f.call v) (f.get b) cs (f.get b')
  groupId : Last Call.GivesGroup b.groupId cs b'.groupId
  artifactId : Last Call.GivesArtifact b.artifactId cs b'.artifactId
  modelZoo : Last Call.GivesZoo b.modelZoo cs b'.modelZoo
  mapping : ∀ f, MappingAfter f (b.toSelection.mapping f) cs (b'.toSelection.mapping f)
  inputClass : b'.inputClass = b.inputClass
  outputClass : b'.outputClass = b.outputClass

theorem exists_setArtifactId (b : Builder) (text : String) :
    ∃ g a, (b.setArtifactId text).builder = { b with groupId := g, artifactId := a } := by
  unfold setArtifactId
  cases ArtifactName.of text with
  | bare id => exact ⟨b.groupId, some id, rfl⟩
  | qualified g a => exact ⟨some g, some a, rfl⟩
  | malformed => exact ⟨b.groupId, b.artifactId, rfl⟩

theorem exists_setModelUrls (b : Builder) (mark : Mark) (text : String) :
    ∃ z, (b.setModelUrls mark text).builder = { b with modelZoo := z } := by
  unfold setModelUrls
  cases Zoo.ofUrls mark text with
  | ok z => exact ⟨some z, rfl⟩
  | error f => exact ⟨b.modelZoo, rfl⟩

theorem decided_own {α : Type} (f : OwnField α) (b : Builder) (c : Call) :
    Decided (fun c v => c = f.call v) c (f.get b) (f.get (b.apply c).builder) := by
  cases c with
  | artifactId text =>
    obtain ⟨g, a, h⟩ := b.exists_setArtifactId text
    rw [apply, h]
    cases f <;> exact .inr ⟨fun _ h => (by cases h), rfl⟩
  | modelUrls mark text =>
    obtain ⟨z, h⟩ := b.exists_setModelUrls mark text
    rw [apply, h]
    cases f <;> exact .inr ⟨fun _ h => (by cases h), rfl⟩
  | _ => cases f <;> first | exact .inl rfl | exact .inr ⟨fun _ h => (by cases h), rfl⟩

/-- A call of an id that succeeds decides the artifact, and the group exactly if it is qualified. -/
theorem decided_artifactId {b : Builder} {text : String}
    (h : (b.setArtifactId text).fault = none) :
    Decided Call.GivesGroup (.artifactId text) b.groupId (b.setArtifactId text).builder.groupId ∧
      Call.GivesArtifact (.artifactId text) (b.setArtifactId text).builder.artifactId := by
  unfold setArtifactId at h ⊢
  rcases ArtifactName.of_cases text with ⟨hc, ho⟩ | ⟨g, a, hq, ho⟩ | ⟨-, -, ho⟩
  · rw [ho]
    refine ⟨.inr ⟨?_, rfl⟩, .bare hc⟩
    intro w hw
    cases hw with
    | qualified hq => exact hc hq.colon_mem
  · rw [ho]
    exact ⟨.inl (.qualified hq), .qualified hq⟩
  · rw [ho] at h
    cases h

theorem decided_groupId {b : Builder} {c : Call} (h : (b.apply c).fault = none) :
    Decided Call.GivesGroup c b.groupId (b.apply c).builder.groupId := by
  cases c with
  | groupId g => exact .inl (.group g)
  | artifactId text => exact (decided_artifactId h).1
  | modelUrls mark text =>
    obtain ⟨z, hz⟩ := b.exists_setModelUrls mark text
    rw [apply, hz]
    exact .inr ⟨fun _ h => (by cases h), rfl⟩
  | _ => exact .inr ⟨fun _ h => (by cases h), rfl⟩

theorem decided_artifact {b : Builder} {c : Call} (h : (b.apply c).fault = none) :
    Decided Call.GivesArtifact c b.artifactId (b.apply c).builder.artifactId := by
  cases c with
  | artifactId text => exact .inl (decided_artifactId h).2
  | modelUrls mark text =>
    obtain ⟨z, hz⟩ := b.exists_setModelUrls mark text
    rw [apply, hz]
    exact .inr ⟨fun _ h => (by cases h), rfl⟩
  | _ => exact .inr ⟨fun _ h => (by cases h), rfl⟩

theorem decided_modelZoo {b : Builder} {c : Call} (h : (b.apply c).fault = none) :
    Decided Call.GivesZoo c b.modelZoo (b.apply c).builder.modelZoo := by
  cases c with
  | modelZoo z => exact .inl (.zoo z)
  | modelUrls mark text =>
    rw [apply, setModelUrls] at h ⊢
    cases hz : Zoo.ofUrls mark text with
    | ok z => exact .inl (.urls hz)
    | error f =>
      rw [hz] at h
      cases h
  | artifactId text =>
    obtain ⟨g, a, ha⟩ := b.exists_setArtifactId text
    rw [apply, ha]
    exact .inr ⟨fun _ h => (by cases h), rfl⟩
  | _ => exact .inr ⟨fun _ h => (by cases h), rfl⟩

theorem types_apply (b : Builder) (c : Call) :
    (b.apply c).builder.inputClass = b.inputClass ∧
      (b.apply c).builder.outputClass = b.outputClass := by
  cases c with
  | artifactId text =>
    obtain ⟨g, a, ha⟩ := b.exists_setArtifactId text
    rw [apply, ha]
    exact ⟨rfl, rfl⟩
  | modelUrls mark text =>
    obtain ⟨z, hz⟩ := b.exists_setModelUrls mark text
    rw [apply, hz]
    exact ⟨rfl, rfl⟩
  | _ => exact ⟨rfl, rfl⟩

theorem mapping_withMapping (b : Builder) (g : MappingField) (es : Option Entries)
    (f : MappingField) :
    (b.withMapping g es).toSelection.mapping f = if f = g then es else b.toSelection.mapping f := by
  cases f <;> rfl

theorem mapping_apply_plain {c : Call} (h : c.edit? = none) (b : Builder) :
    (b.apply c).builder.toSelection.mapping = b.toSelection.mapping := by
  have hself : b.withMappings b.toSelection.mapping = b := rfl
  have happly := apply_plain h b b.toSelection.mapping
  rw [hself] at happly
  rw [happly]
  funext f
  cases f <;> rfl

theorem putEntry_eq {es : Option Entries} {k v : Value} (h : (putEntry es k v).2 = none) :
    (putEntry es k v).1 = (es.getD []).assign k v := by
  unfold putEntry at h ⊢
  cases hk : k.unhashable? with
  | none => rfl
  | some kind =>
    rw [hk] at h
    cases h

theorem mappingAfter_apply {b b' : Builder} {cs : List Call} {f : MappingField}
    (h : MappingAfter f (b.toSelection.mapping f) cs (b'.toSelection.mapping f)) {c : Call}
    (hc : (b'.apply c).fault = none) :
    MappingAfter f (b.toSelection.mapping f) (cs ++ [c])
      ((b'.apply c).builder.toSelection.mapping f) := by
  cases he : c.edit? with
  | none =>
    rw [mapping_apply_plain he]
    exact h.concat_other (by simp [he])
  | some edit =>
    obtain ⟨g, e⟩ := edit
    by_cases hg : f = g
    · subst hg
      cases e with
      | replace es =>
        rw [apply_replace he, mapping_withMapping, if_pos rfl]
        exact mappingAfter_replaces _ _ he
      | put k v =>
        rw [apply_put he] at hc ⊢
        rw [mapping_withMapping, if_pos rfl, putEntry_eq hc]
        exact h.concat_put he
    · have hsame : (b'.apply c).builder.toSelection.mapping f = b'.toSelection.mapping f := by
        cases e with
        | replace es => rw [apply_replace he, mapping_withMapping, if_neg hg]
        | put k v => rw [apply_put he, mapping_withMapping, if_neg hg]
      rw [hsame]
      refine h.concat_other fun e' h' => hg ?_
      rw [he] at h'
      cases h'
      rfl

theorem after_nil (b : Builder) : b.After [] b where
  own _ := ⟨[], since_nil _ _⟩
  groupId := ⟨[], since_nil _ _⟩
  artifactId := ⟨[], since_nil _ _⟩
  modelZoo := ⟨[], since_nil _ _⟩
  mapping f := mappingAfter_nil f _
  inputClass := rfl
  outputClass := rfl

theorem After.concat {b b' : Builder} {cs : List Call} (h : b.After cs b') {c : Call}
    (hc : (b'.apply c).fault = none) : b.After (cs ++ [c]) (b'.apply c).builder where
  own f := (h.own f).concat (decided_own f b' c)
  groupId := h.groupId.concat (decided_groupId hc)
  artifactId := h.artifactId.concat (decided_artifact hc)
  modelZoo := h.modelZoo.concat (decided_modelZoo hc)
  mapping f := mappingAfter_apply (h.mapping f) hc
  inputClass := (types_apply b' c).1.trans h.inputClass
  outputClass := (types_apply b' c).2.trans h.outputClass

/-! ## Runs -/

/-- A run that succeeds, seen from its last call. -/
theorem run_concat {b : Builder} {cs : List Call} {c : Call}
    (h : (b.run (cs ++ [c])).fault = none) :
    (b.run cs).fault = none ∧ ((b.run cs).builder.apply c).fault = none ∧
      (b.run (cs ++ [c])).builder = ((b.run cs).builder.apply c).builder := by
  induction cs generalizing b with
  | nil =>
    rw [List.nil_append, run] at h ⊢
    cases hc : (b.apply c).fault with
    | some f => simp [hc] at h
    | none => exact ⟨rfl, hc, rfl⟩
  | cons d cs ih =>
    rw [List.cons_append, run] at h ⊢
    cases hd : (b.apply d).fault with
    | some f => simp [hd] at h
    | none =>
      simp only [hd] at h ⊢
      simpa only [run, hd] using ih h

theorem after_of_run {b : Builder} {cs : List Call} (h : (b.run cs).fault = none) :
    b.After cs (b.run cs).builder := by
  induction cs using List.reverseRecOn with
  | nil => exact b.after_nil
  | append_singleton cs c ih =>
    obtain ⟨hcs, hc, hb⟩ := run_concat h
    rw [hb]
    exact (ih hcs).concat hc

theorem build_eq_error_iff {b : Builder} {f : BuildFault} :
    b.build = .error f ↔ f = .missingTypes ∧ (b.inputClass = none ∨ b.outputClass = none) := by
  unfold build
  cases b.inputClass <;> cases b.outputClass <;> simp [eq_comm]

theorem build_eq_ok_iff {b : Builder} {c : Criteria} :
    b.build = .ok c ↔ b.inputClass = some c.inputClass ∧ b.outputClass = some c.outputClass ∧
      c.toSelection = b.toSelection := by
  unfold build
  cases hi : b.inputClass with
  | none => simp
  | some i =>
    cases ho : b.outputClass with
    | none => simp
    | some o =>
      simp only [Except.ok.injEq, Option.some.injEq]
      constructor
      · rintro rfl
        exact ⟨rfl, rfl, rfl⟩
      · obtain ⟨s, i', o'⟩ := c
        rintro ⟨rfl, rfl, rfl⟩
        rfl

/-- Calls that all succeed leave what the last calls of every field give, and the criteria that are
built then hold exactly that; they are built exactly if both types are given. -/
theorem after_run {b : Builder} {cs : List Call} (h : (b.run cs).fault = none) :
    b.After cs (b.run cs).builder ∧
      (∀ f, (b.run cs).builder.build = .error f ↔
        f = .missingTypes ∧ (b.inputClass = none ∨ b.outputClass = none)) ∧
      ∀ c, (b.run cs).builder.build = .ok c ↔ b.inputClass = some c.inputClass ∧
        b.outputClass = some c.outputClass ∧ c.toSelection = (b.run cs).builder.toSelection := by
  have hafter := after_of_run h
  refine ⟨hafter, ?_, ?_⟩
  · intro f
    rw [build_eq_error_iff, hafter.inputClass, hafter.outputClass]
  · intro c
    rw [build_eq_ok_iff, hafter.inputClass, hafter.outputClass]

/-- Calls that decide the same fields: `1` and `true` are one key, and the entry in front of the
last replacement is lost. -/
def overlapping : List Call :=
  [.groupId (some "a"), .filter (.text "k") (.text "lost"), .artifactId "zoo:resnet",
   .filters none, .filter (.int 1) (.text "x"), .engine (some "PyTorch"),
   .filter (.text "k") (.text "y"), .artifactId "bert", .filter (.bool true) (.text "z")]

theorem after_run_overlapping :
    let b : Builder := { inputClass := some (.builtin "str"), outputClass := some (.builtin "int") }
    (b.run overlapping).fault = none ∧ b.After overlapping (b.run overlapping).builder ∧
      ∃ c, (b.run overlapping).builder.build = .ok c ∧ c.groupId = some "zoo" ∧
        c.artifactId = some "bert" ∧
        c.filters = some [(.int 1, .text "z"), (.text "k", .text "y")] := by
  intro b
  have h : (b.run overlapping).fault = none := by decide +kernel
  obtain ⟨hafter, -, hbuild⟩ := after_run h
  let c : Criteria :=
    { (b.run overlapping).builder.toSelection with
      inputClass := .builtin "str", outputClass := .builtin "int" }
  refine ⟨h, hafter, c, (hbuild c).2 ⟨rfl, rfl, rfl⟩, ?_, ?_, ?_⟩
  · decide +kernel
  · decide +kernel
  · rfl

end Builder

end ModelSearch
