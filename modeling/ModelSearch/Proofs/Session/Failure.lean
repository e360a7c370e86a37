import ModelSearch.Proofs.Criteria.LastCall
import ModelSearch.Proofs.Session.Isolation

/-!
# What a failed call leaves behind

A call that fails leaves its builder as it is, with one exception: setting an entry makes a mapping
that is missing before it looks at the key, so a key that cannot be one leaves an empty mapping
behind.  Criteria that are built later then have that mapping.

    the builder after a failed call is what it was ↔ no mapping was made            (builder?_of_fault)
-/

namespace ModelSearch

/-- An action asks a builder for something: it calls it, or has it build. -/
def Action.Asks (a : Action) (s : Session) (i : Nat) : Prop :=
  a.Calls s i ∨ ∃ name target, a = .build name target ∧ s.builderNames.find name = some i

/-- A call sets an entry of a mapping that the builder does not have. -/
def Call.Allocates (c : Call) (b : Builder) (f : MappingField) : Prop :=
  ∃ k v, c.edit? = some (f, .put k v) ∧ b.toSelection.mapping f = none

/-- An action is such a call. -/
def Action.Allocates (a : Action) (b : Builder) (f : MappingField) : Prop :=
  ∃ name c, a = .call name c ∧ c.Allocates b f

theorem Call.Allocates.unique {c : Call} {b : Builder} {f g : MappingField}
    (hf : c.Allocates b f) (hg : c.Allocates b g) : f = g := by
  obtain ⟨k, v, he, -⟩ := hf
  obtain ⟨k', v', he', -⟩ := hg
  rw [he] at he'
  cases he'
  rfl

namespace Builder

theorem withMapping_self (b : Builder) (f : MappingField) :
    b.withMapping f (b.toSelection.mapping f) = b := by
  cases f <;> rfl

theorem withMapping_ne {b : Builder} {f : MappingField} (h : b.toSelection.mapping f = none)
    (es : Entries) : b.withMapping f (some es) ≠ b := by
  intro he
  have hm := b.mapping_withMapping f (some es) f
  rw [he, h, if_pos rfl] at hm
  cases hm

/-- Criteria that are built tell a missing mapping from an empty one. -/
theorem build_withMapping_iff {b : Builder} {f : MappingField}
    (h : b.toSelection.mapping f = none) (es : Entries) :
    (b.withMapping f (some es)).build = b.build ↔ b.inputClass = none ∨ b.outputClass = none := by
  have hi : (b.withMapping f (some es)).inputClass = b.inputClass := rfl
  have ho : (b.withMapping f (some es)).outputClass = b.outputClass := rfl
  constructor
  · intro he
    cases hb : b.build with
    | error fault => exact (build_eq_error_iff.1 hb).2
    | ok c =>
      rw [hb] at he
      have hnew := (build_eq_ok_iff.1 he).2.2
      have hold := (build_eq_ok_iff.1 hb).2.2
      have hm := b.mapping_withMapping f (some es) f
      rw [← hnew, hold, h, if_pos rfl] at hm
      cases hm
  · intro hn
    rw [build_eq_error_iff.2 ⟨rfl, hn⟩, build_eq_error_iff, hi, ho]
    exact ⟨rfl, hn⟩

theorem putEntry_of_fault {es : Option Entries} {k v : Value} {fault : BuildFault}
    (h : (putEntry es k v).2 = some fault) : (putEntry es k v).1 = es.getD [] := by
  unfold putEntry at h ⊢
  cases hk : k.unhashable? with
  | none =>
    rw [hk] at h
    cases h
  | some kind => rfl

/-- Calls that touch no mapping look at everything before they set anything. -/
theorem apply_plain_of_fault {b : Builder} {c : Call} {fault : BuildFault} (hc : c.edit? = none)
    (h : (b.apply c).fault = some fault) : (b.apply c).builder = b := by
  cases c with
  | artifactId text =>
    simp only [apply, setArtifactId] at h ⊢
    cases ho : ArtifactName.of text with
    | malformed => rfl
    | bare id =>
      rw [ho] at h
      cases h
    | qualified g a =>
      rw [ho] at h
      cases h
  | modelUrls mark text =>
    simp only [apply, setModelUrls] at h ⊢
    cases hz : Zoo.ofUrls mark text with
    | error f => rfl
    | ok z =>
      rw [hz] at h
      cases h
  | filters | filter | arguments | argument | options | option => cases hc
  | _ => cases h

/-- A failed call leaves the builder with the mapping that it works on, if it works on one. -/
theorem apply_of_fault {b : Builder} {c : Call} {fault : BuildFault}
    (h : (b.apply c).fault = some fault) :
    ((∀ f, ¬c.Allocates b f) ∧ (b.apply c).builder = b) ∨
      ∃ f, c.Allocates b f ∧ (b.apply c).builder = b.withMapping f (some []) := by
  cases he : c.edit? with
  | none =>
    refine .inl ⟨?_, apply_plain_of_fault he h⟩
    rintro f ⟨k, v, he', -⟩
    rw [he] at he'
    cases he'
  | some edit =>
    obtain ⟨f, e⟩ := edit
    cases e with
    | replace es =>
      rw [apply_replace he] at h
      cases h
    | put k v =>
      rw [apply_put he] at h ⊢
      rw [putEntry_of_fault h]
      cases hm : b.toSelection.mapping f with
      | none => exact .inr ⟨f, ⟨k, v, he, hm⟩, rfl⟩
      | some es =>
        refine .inl ⟨?_, ?_⟩
        · rintro g ⟨k', v', he', hn⟩
          rw [he] at he'
          cases he'
          rw [hm] at hn
          cases hn
        · have hself := b.withMapping_self f
          rw [hm] at hself
          exact hself

/-- What a failed action leaves of a builder: what it was, or that with a mapping that it made. -/
structure Leaves (b : Builder) (made : MappingField → Prop) (b' : Builder) : Prop where
  same_iff : b' = b ↔ ∀ f, ¬made f
  eq_of_made : ∀ f, made f → b' = b.withMapping f (some [])
  build_iff : b'.build = b.build ↔ (∀ f, ¬made f) ∨ b.inputClass = none ∨ b.outputClass = none

theorem leaves_self {b : Builder} {made : MappingField → Prop} (h : ∀ f, ¬made f) :
    b.Leaves made b where
  same_iff := iff_of_true rfl h
  eq_of_made f hf := absurd hf (h f)
  build_iff := iff_of_true rfl (.inl h)

theorem leaves_withMapping {b : Builder} {made : MappingField → Prop} {f : MappingField}
    (hf : made f) (hone : ∀ g, made g → g = f) (hm : b.toSelection.mapping f = none) :
    b.Leaves made (b.withMapping f (some [])) where
  same_iff := iff_of_false (withMapping_ne hm []) fun h => h f hf
  eq_of_made g hg := by rw [hone g hg]
  build_iff := by
    rw [build_withMapping_iff hm]
    exact ⟨.inr, fun h => h.resolve_left fun hn => hn f hf⟩

end Builder

namespace Session

/-- Nothing but a call that a builder answers changes a session and fails. -/
theorem step_session_of_fault {s : Session} {a : Action} {i : Nat} {fault : ActionFault}
    (ha : a.Asks s i) (hc : ∀ name c, a ≠ .call name c) (hf : (s.step a).fault = some fault) :
    (s.step a).session = s := by
  rcases ha with ⟨name, -, ⟨c, rfl⟩ | ⟨f, mapping, rfl⟩⟩ | ⟨name, target, rfl, -⟩
  · exact absurd rfl (hc name c)
  · simp only [step, withMapping, withBuilder] at hf ⊢
    split at hf
    · split at hf
      · rfl
      · split at hf
        · rfl
        · cases hf
    · rfl
  · simp only [step, withBuilder] at hf ⊢
    split at hf
    · rfl
    · split at hf
      · rfl
      · split at hf
        · rfl
        · cases hf

/-- In every session that steps lead to, a builder that fails at what it is asked for is what it was
exactly if it made no mapping for an entry, and otherwise it has that mapping, empty.  It builds what
it would have built exactly if it is what it was or builds nothing. -/
theorem builder?_of_fault (before : List Action) {a : Action} {i : Nat} {b : Builder}
    {fault : ActionFault} (ha : a.Asks (run {} before) i)
    (hb : (run {} before).builder? i = some b)
    (hf : ((run {} before).step a).fault = some fault) :
    ∃ b', ((run {} before).step a).session.builder? i = some b' ∧
      b.Leaves (a.Allocates b) b' := by
  have h : (run {} before).Separate := separate_empty.run before
  by_cases hc : ∃ name c, a = .call name c
  · obtain ⟨name, c, rfl⟩ := hc
    have hn : (run {} before).builderNames.find name = some i := by
      rcases ha with ⟨n, hn, ⟨_, hcall⟩ | ⟨_, _, hcall⟩⟩ | ⟨_, _, hcall, -⟩ <;> cases hcall
      exact hn
    have hall : ∀ f, (Action.call name c).Allocates b f → c.Allocates b f := by
      rintro f ⟨_, _, hcall, hf⟩
      cases hcall
      exact hf
    obtain ⟨hb', hf', -⟩ := builder?_call h hn hb c
    rw [hf, eq_comm, Option.map_eq_some_iff] at hf'
    obtain ⟨g, hg, -⟩ := hf'
    refine ⟨_, hb', ?_⟩
    rcases Builder.apply_of_fault hg with ⟨hnone, heq⟩ | ⟨f, hmade, heq⟩
    · rw [heq]
      exact Builder.leaves_self fun f hf => hnone f (hall f hf)
    · rw [heq]
      obtain ⟨k, v, he, hm⟩ := hmade
      exact Builder.leaves_withMapping ⟨name, c, rfl, k, v, he, hm⟩
        (fun g hg => (hall g hg).unique ⟨k, v, he, hm⟩) hm
  · have hs := step_session_of_fault ha (fun name c he => hc ⟨name, c, he⟩) hf
    rw [hs]
    refine ⟨b, hb, Builder.leaves_self ?_⟩
    rintro f ⟨name, c, rfl, -⟩
    exact hc ⟨name, c, rfl⟩

/-- A list as the key of the first filter. -/
theorem builder?_of_fault_list :
    let before : List Action := [.create "b" (some (.builtin "str")) (some (.builtin "str"))]
    let a : Action := .call "b" (.filter (.list default [.int 1]) (.text "x"))
    let b : Builder := { inputClass := some (.builtin "str"), outputClass := some (.builtin "str") }
    a.Asks (run {} before) 0 ∧ (run {} before).builder? 0 = some b ∧
      ((run {} before).step a).fault = some (.build (.unhashable "list")) ∧
      ∃ b', ((run {} before).step a).session.builder? 0 = some b' ∧ b.Leaves (a.Allocates b) b' ∧
        b'.filters = some [] ∧ b'.build ≠ b.build := by
  intro before a b
  have ha : a.Asks (run {} before) 0 := .inl ⟨"b", by decide, .inl ⟨_, rfl⟩⟩
  have hmade : a.Allocates b .filters := ⟨"b", _, rfl, _, _, rfl, rfl⟩
  obtain ⟨b', hb', hl⟩ := builder?_of_fault before ha rfl rfl
  refine ⟨ha, rfl, rfl, b', hb', hl, ?_, ?_⟩
  · rw [hl.eq_of_made .filters hmade]
    rfl
  · intro he
    rcases hl.build_iff.1 he with hnone | hi | ho
    · exact hnone .filters hmade
    · cases hi
    · cases ho

end Session

end ModelSearch
