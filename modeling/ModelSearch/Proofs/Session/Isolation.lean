import ModelSearch.Proofs.Session.Calls
import ModelSearch.Proofs.Session.Ownership
import ModelSearch.Proofs.Session.Shown

/-!
# Isolation

Whatever is done in a session, a step changes no builder but the one that it calls, no criteria, and
no mapping of the caller but the one that it puts an entry in.  Attempts to change criteria fail and
change nothing.  The builder that is called, a new builder and new criteria are what the calls of a
builder make of the contents.

Values are not copied with the mapping that they are in.  One that is a mapping of the caller shows
what the caller puts in it, in builders and in criteria alike.

    after a call        s'.builder? i = some (b.apply c).builder          (builder?_call)
    after a build       the new criteria are c, where b.build = .ok c     (criteria?_build)
    in every session    isolated
-/

namespace ModelSearch

/-- An action calls a method of a builder. -/
def Action.Calls (a : Action) (s : Session) (i : Nat) : Prop :=
  ∃ name, s.builderNames.find name = some i ∧
    ((∃ c, a = .call name c) ∨ ∃ f mapping, a = .callWith name f mapping)

/-- An action puts an entry in a mapping of the caller. -/
def Action.Puts (a : Action) (s : Session) (r : Ref) : Prop :=
  ∃ name key value, a = .put name key value ∧ s.mappingNames.find name = some r

theorem Action.calls_of_touch {a : Action} {s : Session} {i : Nat}
    (h : a.touch s = .builder i) : a.Calls s i := by
  cases a with
  | call name c =>
    cases hn : s.builderNames.find name with
    | none => simp [touch, hn] at h
    | some j =>
      simp only [touch, hn, Option.map_some, Option.getD_some, Touch.builder.injEq] at h
      exact ⟨name, h ▸ hn, .inl ⟨c, rfl⟩⟩
  | callWith name f mapping =>
    cases hn : s.builderNames.find name with
    | none => simp [touch, hn] at h
    | some j =>
      simp only [touch, hn, Option.map_some, Option.getD_some, Touch.builder.injEq] at h
      exact ⟨name, h ▸ hn, .inr ⟨f, mapping, rfl⟩⟩
  | put name key value =>
    cases hn : s.mappingNames.find name <;> simp [touch, hn] at h
  | _ => cases h

theorem Action.puts_of_touch {a : Action} {s : Session} {r : Ref}
    (h : a.touch s = .mapping r) : a.Puts s r := by
  cases a with
  | put name key value =>
    cases hn : s.mappingNames.find name with
    | none => simp [touch, hn] at h
    | some q =>
      simp only [touch, hn, Option.map_some, Option.getD_some, Touch.mapping.injEq] at h
      exact ⟨name, key, value, rfl, h ▸ hn⟩
  | call name c => cases hn : s.builderNames.find name <;> simp [touch, hn] at h
  | callWith name f mapping => cases hn : s.builderNames.find name <;> simp [touch, hn] at h
  | _ => cases h

namespace Session

variable {s s' : Session} {t : Touch}

/-- A mapping of the caller by its number. -/
def mapping? (s : Session) (r : Ref) : Option Entries :=
  if r ∈ s.callerMappings then some (s.memory.read r) else none

/-! ## What is kept -/

theorem Keeps.builder? (k : s.Keeps s' t) {i : Nat} {b : Builder} (hb : s.builder? i = some b)
    (ht : t ≠ .builder i) : s'.builder? i = some b := by
  obtain ⟨o, ho, rfl⟩ := Option.map_eq_some_iff.1 hb
  have hc : s'.memory.contents o.mappings = s.memory.contents o.mappings := by
    apply Memory.contents_eq
    intro f r hr
    refine k.read_eq (.builder i f) r ⟨o, ho, hr⟩ ?_
    intro hcov
    cases t with
    | builder j => exact ht (congrArg Touch.builder hcov)
    | nothing => exact hcov
    | mapping q => exact hcov
  rw [Session.builder?, k.builders i o ho ht, Option.map_some, Memory.builder, hc]
  rfl

theorem Keeps.criteria? (k : s.Keeps s' t) {i : Nat} {c : Criteria}
    (hc : s.criteria? i = some c) : s'.criteria? i = some c := by
  obtain ⟨o, ho, rfl⟩ := Option.map_eq_some_iff.1 hc
  have hm : s'.memory.contents o.mappings = s.memory.contents o.mappings := by
    apply Memory.contents_eq
    intro f r hr
    refine k.read_eq (.criteria i f) r ⟨o, ho, hr⟩ ?_
    cases t <;> exact id
  rw [Session.criteria?, k.criteria i o ho, Option.map_some, Memory.criteria, hm]
  rfl

theorem Keeps.mapping? (k : s.Keeps s' t) {r : Ref} {es : Entries}
    (h : s.mapping? r = some es) (ht : t ≠ .mapping r) : s'.mapping? r = some es := by
  unfold Session.mapping? at h ⊢
  split at h
  · next hr =>
    have hread : s'.memory.read r = s.memory.read r := by
      refine k.read_eq .caller r hr ?_
      intro hcov
      cases t with
      | mapping q => exact ht (congrArg Touch.mapping hcov)
      | nothing => exact hcov
      | builder j => exact hcov
    have hr' : r ∈ s'.callerMappings := k.callers r hr
    rw [if_pos hr', hread, h]
  · cases h

/-- Criteria stay as they are, whatever is done. -/
theorem Separate.criteria?_run (h : s.Separate) {i : Nat} {c : Criteria}
    (hc : s.criteria? i = some c) (actions : List Action) :
    (s.run actions).criteria? i = some c := by
  induction actions generalizing s with
  | nil => exact hc
  | cons a rest ih => exact ih (h.step a) ((step_keeps h a).criteria? hc)

/-! ## What is changed -/

/-- A builder that is called does what the call says, and fails and logs as it says. -/
theorem builder?_call (h : s.Separate) {name : String} {i : Nat} {b : Builder}
    (hn : s.builderNames.find name = some i) (hb : s.builder? i = some b) (c : Call) :
    (s.step (.call name c)).session.builder? i = some (b.apply c).builder ∧
      (s.step (.call name c)).fault = (b.apply c).fault.map .build ∧
      (s.step (.call name c)).records = (b.apply c).records := by
  obtain ⟨o, ho, rfl⟩ := Option.map_eq_some_iff.1 hb
  have hs : ∀ f g r, o.mappings.get f = some r → o.mappings.get g = some r → f = g := by
    intro f g r hf hg
    cases h.single (.builder i f) (.builder i g) r ⟨o, ho, hf⟩ ⟨o, ho, hg⟩
    rfl
  have hstep : s.step (.call name c) = s.afterCall i (s.memory.call o c) := by
    simp [step, withBuilder, hn, ho]
  have hi : i < s.builderObjects.length := (List.getElem?_eq_some_iff.1 ho).1
  rw [hstep, Memory.builder_call (h.refs_bounded ho) hs c]
  refine ⟨?_, rfl, rfl⟩
  simp [builder?, afterCall, hi]

theorem addBuilder_builder? (s : Session) (name : String) (b : Builder) (m : Memory)
    (rs : MappingRefs) :
    (s.addBuilder name b m rs).builder? s.builderObjects.length
      = some (b.withMappings (m.contents rs)) := by
  simp [builder?, addBuilder, Memory.builder, Builder.withMappings, Selection.withMappings]

/-- A new builder for other types holds what the old one hands over. -/
theorem builder?_retype (h : s.Separate) {name : String} {i : Nat} {b : Builder}
    (hn : s.builderNames.find name = some i) (hb : s.builder? i = some b) (target : String)
    (input output : Option ModelType) :
    (s.step (.retype name target input output)).session.builder? s.builderObjects.length
        = some (b.retyped input output) ∧
      (s.step (.retype name target input output)).records = b.retypeRecords input output := by
  obtain ⟨o, ho, rfl⟩ := Option.map_eq_some_iff.1 hb
  obtain ⟨-, -, hc⟩ := Memory.copyAll_spec (h.refs_bounded ho)
  simp only [step, withBuilder, hn, ho]
  refine ⟨?_, rfl⟩
  rw [addBuilder_builder?, hc]
  rfl

/-- What a builder builds, contents filled in. -/
theorem build_memory_builder (m : Memory) (o : Object Builder) :
    (m.builder o).build
      = o.fields.build.map fun c => c.withMappings (m.contents o.mappings) := by
  unfold Builder.build Memory.builder Builder.withMappings
  cases o.fields.inputClass with
  | none => rfl
  | some t => cases o.fields.outputClass <;> rfl

/-- New criteria are those that the builder builds. -/
theorem criteria?_build (h : s.Separate) {name : String} {i : Nat} {b : Builder}
    (hn : s.builderNames.find name = some i) (hb : s.builder? i = some b) (target : String)
    {c : Criteria} (hc : b.build = .ok c) :
    (s.step (.build name target)).session.criteria? s.criteriaObjects.length = some c ∧
      (s.step (.build name target)).records = [(c.shown s.memory s.depth).buildRecord] := by
  obtain ⟨o, ho, rfl⟩ := Option.map_eq_some_iff.1 hb
  obtain ⟨-, -, hcopy⟩ := Memory.copyAll_spec (h.refs_bounded ho)
  rw [build_memory_builder] at hc
  cases hd : o.fields.build with
  | error fault =>
    rw [hd] at hc
    cases hc
  | ok d =>
    rw [hd] at hc
    cases hc
    simp only [step, withBuilder, hn, ho, hd]
    have hnew : (s.memory.copyAll o.mappings).1.criteria ⟨d, (s.memory.copyAll o.mappings).2⟩
        = d.withMappings (s.memory.contents o.mappings) := by
      rw [Memory.criteria, hcopy]
    refine ⟨?_, by rw [hnew]⟩
    simp [criteria?, hnew]

/-! ## Main result -/

theorem sameAt_of_mapping? {r : Ref} {es : Entries} (h : s.mapping? r = some es)
    (h' : s'.mapping? r = some es) : s.memory.SameAt s'.memory r := by
  have hread : ∀ {u : Session}, u.mapping? r = some es → u.memory.read r = es := by
    intro u hu
    unfold mapping? at hu
    split at hu
    · exact Option.some.inj hu
    · cases hu
  rw [Memory.SameAt, hread h, hread h']
  rfl

/-- The caller has two mappings, sets both for a builder, and one of them as an argument as well. -/
def nested : List Action :=
  [.define "d" [(.text "y", .int 1)], .define "m" [(.text "layers", .text "50")],
   .create "b" (some (.builtin "str")) (some (.builtin "int")), .callWith "b" .options "d",
   .callWith "b" .filters "m", .call "b" (.argument (.text "x") (.dict (.shared 0) [])),
   .build "b" "c"]

end Session

end ModelSearch
