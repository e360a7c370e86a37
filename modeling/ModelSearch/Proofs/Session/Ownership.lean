import ModelSearch.Proofs.Session.Memory
import ModelSearch.Session

/-!
# Who owns a mapping

Every mapping that an object refers to has one owner: a field of one builder, a field of one
criteria, or the caller.  A step gives away new mappings only, and writes at most to those of the
builder that it calls or to the one of the caller that it puts an entry in.

    s.Separate             no mapping has two owners
    s.Keeps s' t           s' has all that s has, unchanged but for what t touches
    s.Separate → s.Keeps (s.step a).session (a.touch s)           (step_keeps)
    s.Separate → (s.run as).Separate                              (Separate.run)
-/

namespace ModelSearch

theorem Named.find_set {α : Type} (xs : Named α) (name other : String) (a : α) :
    (xs.set name a).find other = if other = name then some a else xs.find other := by
  induction xs with
  | nil =>
    by_cases h : other = name
    · simp [Named.set, Named.find, h]
    · simp [Named.set, Named.find, h, Ne.symm h]
  | cons x xs ih =>
    unfold Named.set
    by_cases hx : x.1 = name
    · by_cases h : other = name
      · simp [Named.find, hx, h]
      · simp [Named.find, hx, h, Ne.symm h]
    · rw [if_neg hx]
      by_cases ho : x.1 = other
      · have hne : other ≠ name := ho ▸ hx
        simp [Named.find, ho, hne]
      · have hcons : ∀ ys : Named α, Named.find (x :: ys) other = Named.find ys other := by
          intro ys
          simp [Named.find, ho]
        rw [hcons, hcons, ih]

/-- The owner of a mapping. -/
inductive Owner where
  | caller
  | builder (i : Nat) (f : MappingField)
  | criteria (i : Nat) (f : MappingField)

/-- What a step may change. -/
inductive Touch where
  | nothing
  | builder (i : Nat)
  | mapping (r : Ref)

/-- What a step may change covers a mapping of an owner. -/
def Touch.Covers : Touch → Owner → Ref → Prop
  | .builder i, .builder j _, _ => i = j
  | .mapping r, .caller, q => r = q
  | _, _, _ => False

/-- What an action may change in a session: a call its builder, an entry put in a mapping of the
caller that mapping, and everything else nothing. -/
def Action.touch (s : Session) : Action → Touch
  | .call name _ | .callWith name _ _ => ((s.builderNames.find name).map .builder).getD .nothing
  | .put name _ _ => ((s.mappingNames.find name).map .mapping).getD .nothing
  | _ => .nothing

/-- An action attempts to hash criteria or to change them. -/
def Action.IsAttempt : Action → Prop
  | .hash _ | .assign _ _ | .delete _ _ | .putField _ _ => True
  | _ => False

/-- A field of an object among others refers to a mapping. -/
def Refers {α : Type} (objects : List (Object α)) (i : Nat) (f : MappingField) (r : Ref) : Prop :=
  ∃ o, objects[i]? = some o ∧ o.mappings.get f = some r

namespace Session

/-- A mapping belongs to an owner. -/
def Owns (s : Session) : Owner → Ref → Prop
  | .caller, r => r ∈ s.callerMappings
  | .builder i f, r => Refers s.builderObjects i f r
  | .criteria i f, r => Refers s.criteriaObjects i f r

/-- Mappings are in memory and have one owner, and the names of the caller stand for mappings of
the caller. -/
structure Separate (s : Session) : Prop where
  bounded : ∀ w r, s.Owns w r → r < s.memory.length
  single : ∀ v w r, s.Owns v r → s.Owns w r → v = w
  named : ∀ name r, s.mappingNames.find name = some r → s.Owns .caller r

/-- A session has all that another one has, unchanged but for what is touched, and the mappings
that were given away are new ones. -/
structure Keeps (s s' : Session) (t : Touch) : Prop where
  length_le : s.memory.length ≤ s'.memory.length
  owns : ∀ w r, s'.Owns w r → s.Owns w r ∨
    (s.memory.Fresh s'.memory r ∧ ∀ v, s'.Owns v r → v = w)
  read_eq : ∀ w r, s.Owns w r → ¬t.Covers w r → s'.memory.read r = s.memory.read r
  builders : ∀ (i : Nat) o, s.builderObjects[i]? = some o → t ≠ .builder i →
    s'.builderObjects[i]? = some o
  criteria : ∀ (i : Nat) o, s.criteriaObjects[i]? = some o → s'.criteriaObjects[i]? = some o
  callers : ∀ r, s.Owns .caller r → s'.Owns .caller r
  named : ∀ name r, s'.mappingNames.find name = some r →
    s.mappingNames.find name = some r ∨ s'.Owns .caller r

variable {s s' : Session} {t : Touch}

theorem Keeps.refl (s : Session) (t : Touch) : s.Keeps s t where
  length_le := Nat.le_refl _
  owns _ _ h := .inl h
  read_eq _ _ _ _ := rfl
  builders _ _ h _ := h
  criteria _ _ h := h
  callers _ h := h
  named _ _ h := .inl h

/-- What gives away new mappings only keeps owners apart. -/
theorem Keeps.separate (k : s.Keeps s' t) (h : s.Separate) : s'.Separate where
  bounded w r hw := by
    rcases k.owns w r hw with hw | ⟨hf, -⟩
    · exact Nat.lt_of_lt_of_le (h.bounded w r hw) k.length_le
    · exact hf.2
  single v w r hv hw := by
    rcases k.owns w r hw with hw' | ⟨-, hs⟩
    · rcases k.owns v r hv with hv' | ⟨-, hs⟩
      · exact h.single v w r hv' hw'
      · exact (hs w hw).symm
    · exact hs v hv
  named name r hn := by
    rcases k.named name r hn with hn | hn
    · exact k.callers r (h.named name r hn)
    · exact hn

/-! ## Objects -/

theorem getElem?_append_of_some {α : Type} {xs : List α} {i : Nat} {x : α} (h : xs[i]? = some x)
    (more : List α) : (xs ++ more)[i]? = some x := by
  rw [List.getElem?_append_left (List.getElem?_eq_some_iff.1 h).1]
  exact h

theorem refers_concat {α : Type} {objects : List (Object α)} {o : Object α} {i : Nat}
    {f : MappingField} {r : Ref} (h : Refers (objects ++ [o]) i f r) :
    Refers objects i f r ∨ (i = objects.length ∧ o.mappings.get f = some r) := by
  obtain ⟨p, hp, hr⟩ := h
  rcases Nat.lt_trichotomy i objects.length with hi | rfl | hi
  · rw [List.getElem?_append_left hi] at hp
    exact .inl ⟨p, hp, hr⟩
  · rw [List.getElem?_concat_length] at hp
    exact .inr ⟨rfl, Option.some.inj hp ▸ hr⟩
  · rw [List.getElem?_eq_none (by simpa using Nat.succ_le_of_lt hi)] at hp
    cases hp

/-- Nobody owns a mapping that is not there yet. -/
theorem Separate.not_owns (h : s.Separate) {m : Memory} {r : Ref} (hf : s.memory.Fresh m r)
    (w : Owner) : ¬s.Owns w r :=
  fun hw => Nat.lt_irrefl _ (Nat.lt_of_lt_of_le (h.bounded w r hw) hf.1)

theorem addBuilder_keeps (h : s.Separate) {m : Memory} {rs : MappingRefs}
    (he : s.memory.Extends m) (hf : s.memory.FreshRefs m rs) (name : String) (b : Builder)
    (t : Touch) : s.Keeps (s.addBuilder name b m rs) t where
  length_le := he.length_le
  owns w r hw := by
    cases w with
    | caller => exact .inl hw
    | criteria i f => exact .inl hw
    | builder i f =>
      rcases refers_concat hw with hw | ⟨rfl, hr⟩
      · exact .inl hw
      · have hnew := hf.fresh f r hr
        refine .inr ⟨hnew, ?_⟩
        intro v hv
        cases v with
        | caller => exact absurd hv (h.not_owns hnew .caller)
        | criteria j g => exact absurd hv (h.not_owns hnew (.criteria j g))
        | builder j g =>
          rcases refers_concat hv with hv | ⟨rfl, hq⟩
          · exact absurd hv (h.not_owns hnew (.builder j g))
          · rw [hf.single f g r hr hq]
  read_eq w r hw _ := he.read_eq r (h.bounded w r hw)
  builders _ _ ho _ := getElem?_append_of_some ho _
  criteria _ _ ho := ho
  callers _ hr := hr
  named _ _ hn := .inl hn

theorem addCriteria_keeps (h : s.Separate) {m : Memory} {rs : MappingRefs}
    (he : s.memory.Extends m) (hf : s.memory.FreshRefs m rs) (c : Criteria) (names : Named Nat)
    (t : Touch) :
    s.Keeps { s with
      memory := m, criteriaObjects := s.criteriaObjects ++ [⟨c, rs⟩], criteriaNames := names } t where
  length_le := he.length_le
  owns w r hw := by
    cases w with
    | caller => exact .inl hw
    | builder i f => exact .inl hw
    | criteria i f =>
      rcases refers_concat hw with hw | ⟨rfl, hr⟩
      · exact .inl hw
      · have hnew := hf.fresh f r hr
        refine .inr ⟨hnew, ?_⟩
        intro v hv
        cases v with
        | caller => exact absurd hv (h.not_owns hnew .caller)
        | builder j g => exact absurd hv (h.not_owns hnew (.builder j g))
        | criteria j g =>
          rcases refers_concat hv with hv | ⟨rfl, hq⟩
          · exact absurd hv (h.not_owns hnew (.criteria j g))
          · rw [hf.single f g r hr hq]
  read_eq w r hw _ := he.read_eq r (h.bounded w r hw)
  builders _ _ ho _ := ho
  criteria _ _ ho := getElem?_append_of_some ho _
  callers _ hr := hr
  named _ _ hn := .inl hn

/-- A new mapping of the caller. -/
theorem define_keeps (h : s.Separate) (es : Entries) (name : String) (t : Touch) :
    s.Keeps { s with
      memory := s.memory ++ [es], callerMappings := s.callerMappings ++ [s.memory.length],
      mappingNames := s.mappingNames.set name s.memory.length } t where
  length_le := (Memory.extends_append _ _).length_le
  owns w r hw := by
    cases w with
    | builder i f => exact .inl hw
    | criteria i f => exact .inl hw
    | caller =>
      rcases List.mem_append.1 hw with hw | hw
      · exact .inl hw
      · have hnew : s.memory.Fresh (s.memory ++ [es]) r := by
          rw [List.mem_singleton.1 hw]
          exact ⟨Nat.le_refl _, by simp⟩
        refine .inr ⟨hnew, ?_⟩
        intro v hv
        cases v with
        | caller => rfl
        | builder j g => exact absurd hv (h.not_owns hnew (.builder j g))
        | criteria j g => exact absurd hv (h.not_owns hnew (.criteria j g))
  read_eq w r hw _ := (Memory.extends_append _ _).read_eq r (h.bounded w r hw)
  builders _ _ ho _ := ho
  criteria _ _ ho := ho
  callers _ hr := List.mem_append_left _ hr
  named other r hn := by
    rw [Named.find_set] at hn
    split at hn
    · cases hn
      exact .inr (List.mem_append_right _ (List.mem_singleton.2 rfl))
    · exact .inl hn

/-- An entry put in a mapping of the caller. -/
theorem put_keeps (h : s.Separate) {r : Ref} (hr : s.Owns .caller r) (es : Entries) :
    s.Keeps { s with memory := s.memory.set r es } (.mapping r) where
  length_le := by simp
  owns _ _ hw := .inl hw
  read_eq w q hw hc := by
    refine Memory.read_set_of_ne ?_ es
    rintro rfl
    -- the mapping that is written to is the caller's, so an owner of it is the caller
    have hcaller := h.single w .caller r hw hr
    subst hcaller
    exact hc rfl
  builders _ _ ho _ := ho
  criteria _ _ ho := ho
  callers _ hq := hq
  named _ _ hn := .inl hn

theorem refers_set {α : Type} {objects : List (Object α)} {o : Object α} {i j : Nat}
    {f : MappingField} {r : Ref} (h : Refers (objects.set i o) j f r) :
    (j ≠ i ∧ Refers objects j f r) ∨ (j = i ∧ o.mappings.get f = some r) := by
  obtain ⟨p, hp, hr⟩ := h
  by_cases hij : j = i
  · subst hij
    rw [List.getElem?_set_self' ] at hp
    obtain ⟨q, -, rfl⟩ := Option.map_eq_some_iff.1 hp
    exact .inr ⟨rfl, hr⟩
  · rw [List.getElem?_set_ne (Ne.symm hij)] at hp
    exact .inl ⟨hij, p, hp, hr⟩

/-- A call of a builder. -/
theorem afterCall_keeps (h : s.Separate) {i : Nat} {o : Object Builder}
    (ho : s.builderObjects[i]? = some o) {e : Effect} (he : s.memory.Within o e) :
    s.Keeps (s.afterCall i e).session (.builder i) where
  length_le := he.length_le
  owns w r hw := by
    cases w with
    | caller => exact .inl hw
    | criteria j f => exact .inl hw
    | builder j f =>
      rcases refers_set hw with ⟨-, hw⟩ | ⟨rfl, hr⟩
      · exact .inl hw
      · rcases he.mappings f r hr with hr | ⟨hnew, hsingle⟩
        · exact .inl ⟨o, ho, hr⟩
        · refine .inr ⟨hnew, ?_⟩
          intro v hv
          cases v with
          | caller => exact absurd hv (h.not_owns hnew .caller)
          | criteria k g => exact absurd hv (h.not_owns hnew (.criteria k g))
          | builder k g =>
            rcases refers_set hv with ⟨-, hv⟩ | ⟨rfl, hq⟩
            · exact absurd hv (h.not_owns hnew (.builder k g))
            · rw [hsingle g hq]
  read_eq w r hw hc := by
    refine he.read_eq r (h.bounded w r hw) ?_
    intro f hr
    -- the mapping is one of the builder's, so an owner of it is the builder
    have howner := h.single w (.builder i f) r hw ⟨o, ho, hr⟩
    subst howner
    exact hc rfl
  builders j p hp hj := by
    have hne : i ≠ j := fun hij => hj (congrArg Touch.builder hij)
    show (s.builderObjects.set i e.builder)[j]? = some p
    rw [List.getElem?_set_ne hne]
    exact hp
  criteria _ _ hp := hp
  callers _ hr := hr
  named _ _ hn := .inl hn

/-! ## Steps -/

theorem Separate.refs_bounded (h : s.Separate) {i : Nat} {o : Object Builder}
    (ho : s.builderObjects[i]? = some o) (f : MappingField) (r : Ref)
    (hr : o.mappings.get f = some r) : r < s.memory.length :=
  h.bounded (.builder i f) r ⟨o, ho, hr⟩

/-- What is done with a builder is done with an object of the session, or it does not exist. -/
theorem withBuilder_keeps {name : String} {f : Nat → Object Builder → ActionResult} {t : Touch}
    (hf : ∀ i o, s.builderNames.find name = some i → s.builderObjects[i]? = some o →
      s.Keeps (f i o).session t) : s.Keeps (s.withBuilder name f).session t := by
  unfold withBuilder
  cases hn : s.builderNames.find name with
  | none => exact Keeps.refl s t
  | some i =>
    dsimp only
    cases ho : s.builderObjects[i]? with
    | none => exact Keeps.refl s t
    | some o => exact hf i o hn ho

theorem withCriteria_fails {name : String} {f : Criteria → ActionResult}
    (hf : ∀ c, ∃ fault, f c = s.fails fault) : ∃ fault, s.withCriteria name f = s.fails fault := by
  unfold withCriteria
  split
  · exact hf _
  · exact ⟨_, rfl⟩

/-- An attempt to change criteria is nothing but a fault. -/
theorem attempt_fails (s : Session) {a : Action} (ha : a.IsAttempt) :
    ∃ fault, s.step a = s.fails fault := by
  cases a with
  | hash name => exact withCriteria_fails fun _ => ⟨_, rfl⟩
  | assign name field => exact withCriteria_fails fun _ => ⟨_, rfl⟩
  | delete name field => exact withCriteria_fails fun _ => ⟨_, rfl⟩
  | putField name field =>
    refine withCriteria_fails fun c => ?_
    cases Field.all.find? fun f => f.name = field with
    | none => exact ⟨_, rfl⟩
    | some f => exact ⟨_, rfl⟩
  | _ => cases ha

theorem attempt_keeps (s : Session) {a : Action} (ha : a.IsAttempt) (t : Touch) :
    s.Keeps (s.step a).session t := by
  obtain ⟨fault, hs⟩ := attempt_fails s ha
  rw [hs]
  exact Keeps.refl s t

/-- A step keeps everything but what its action touches. -/
theorem step_keeps (h : s.Separate) (a : Action) : s.Keeps (s.step a).session (a.touch s) := by
  cases a with
  | create name input output =>
    exact addBuilder_keeps h (Memory.Extends.refl _) (Memory.freshRefs_none _) name _ _
  | keep name b =>
    obtain ⟨he, hf, -⟩ := Memory.placeAll_spec s.memory b.toSelection.mapping
    exact addBuilder_keeps h he hf name b _
  | retype name target input output =>
    refine withBuilder_keeps fun i o _ ho => ?_
    obtain ⟨he, hf, -⟩ := Memory.copyAll_spec (h.refs_bounded ho)
    exact addBuilder_keeps h he hf target _ _
  | call name c =>
    refine withBuilder_keeps fun i o hn ho => ?_
    rw [Action.touch, hn]
    exact afterCall_keeps h ho (Memory.call_within (h.refs_bounded ho) c)
  | callWith name field mapping =>
    simp only [step, withMapping]
    cases s.mappingNames.find mapping with
    | none => exact Keeps.refl s _
    | some r =>
      refine withBuilder_keeps fun i o hn ho => ?_
      rw [Action.touch, hn]
      exact afterCall_keeps h ho
        (Memory.replace_within (Memory.Extends.refl _) (h.refs_bounded ho) field (some r))
  | build name target =>
    refine withBuilder_keeps fun i o _ ho => ?_
    dsimp only
    cases o.fields.build with
    | error fault => exact Keeps.refl s _
    | ok c =>
      obtain ⟨he, hf, -⟩ := Memory.copyAll_spec (h.refs_bounded ho)
      exact addCriteria_keeps h he hf c _ _
  | define name es => exact define_keeps h es name _
  | put name key value =>
    simp only [step, withMapping]
    cases hn : s.mappingNames.find name with
    | none => exact Keeps.refl s _
    | some r =>
      rw [Action.touch, hn]
      dsimp only
      cases key.unhashable? with
      | some kind => exact Keeps.refl s _
      | none => exact put_keeps h (h.named name r hn) _
  | hash | assign | delete | putField =>
    apply attempt_keeps
    trivial

theorem Separate.step (h : s.Separate) (a : Action) : (s.step a).session.Separate :=
  (step_keeps h a).separate h

theorem separate_empty : ({} : Session).Separate where
  bounded w r hw := by
    cases w with
    | caller => cases hw
    | builder i f => obtain ⟨o, ho, -⟩ := hw; simp at ho
    | criteria i f => obtain ⟨o, ho, -⟩ := hw; simp at ho
  single v w r hv _ := by
    cases v with
    | caller => cases hv
    | builder i f => obtain ⟨o, ho, -⟩ := hv; simp at ho
    | criteria i f => obtain ⟨o, ho, -⟩ := hv; simp at ho
  named name r hn := by cases hn

theorem Separate.run (h : s.Separate) (actions : List Action) : (s.run actions).Separate := by
  induction actions generalizing s with
  | nil => exact h
  | cons a rest ih => exact ih (h.step a)

end Session

end ModelSearch
