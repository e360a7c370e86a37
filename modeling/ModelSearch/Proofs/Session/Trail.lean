import ModelSearch.Proofs.Session.Isolation
import ModelSearch.Proofs.Zoo.Urls

/-!
# The trail of a session

A step leaves at most one record, and which it is can be told from what was asked of which builder:
URLs that make a zoo leave one, new types for a builder that has something to drop leave one that
names exactly that, and criteria that are built leave one.  Nothing else leaves any, least of all a
step that fails.

    s.Tells a r                        the record that a step leaves
    Trails s as records                the records that steps leave, in their order
    Trails {} as records ↔ records = trail {} as                            (trail_laws)
-/

namespace ModelSearch

/-! ## What new types drop -/

/-- The settings that are chosen for the types, in the order in which a record names them. -/
def Field.typeBound : List Field := [.translator, .artifactId, .modelZoo]

/-- A setting that is chosen for the types is set. -/
def Builder.hasTypeBound (b : Builder) : Field → Bool
  | .translator => b.translator.isSome
  | .artifactId => b.artifactId.isSome
  | .modelZoo => b.modelZoo.isSome
  | _ => false

/-- The settings of a builder that new types drop are exactly those, of the ones that are chosen for
the types, that are set. -/
theorem Builder.dropped_eq (b : Builder) :
    b.dropped = Field.typeBound.filter b.hasTypeBound := by
  unfold dropped Field.typeBound
  cases ht : b.translator <;> cases ha : b.artifactId <;> cases hz : b.modelZoo <;>
    simp [hasTypeBound, ht, ha, hz]

/-- Nothing is dropped exactly if none of these settings is set. -/
theorem Builder.dropped_eq_nil_iff (b : Builder) :
    b.dropped = [] ↔ ∀ f, b.hasTypeBound f = false := by
  rw [dropped_eq, List.filter_eq_nil_iff]
  constructor
  · intro h f
    cases f with
    | translator | artifactId | modelZoo =>
      exact Bool.eq_false_iff.2 (h _ (by simp [Field.typeBound]))
    | _ => rfl
  · intro h f _
    rw [h f]
    exact Bool.false_ne_true

/-- Where everything is followed, only integers over the limit keep criteria from being told. -/
theorem Criteria.buildRecord_endless (c : Criteria) :
    c.buildRecord = ⟨.debug, .criteria, "Built " ++ c.literal,
      if c.present.all (·.2.withinDigits) then none else some (.digits .unprintable)⟩ := by
  have hfault : ∀ es : List (Field × Value),
      (es.findSome? fun e => Reach.endless.fault? .log e.2)
        = if es.all (·.2.withinDigits) then none else some (.digits .unprintable) := by
    intro es
    induction es with
    | nil => rfl
    | cons e rest ih =>
      rw [List.findSome?_cons, ih]
      rw [List.all_cons]
      cases hd : e.2.withinDigits with
      | false => simp [Reach.fault?, Reach.endless, hd]
      | true =>
        rw [Bool.true_and]
        simp only [Reach.fault?, Reach.endless, hd, Bool.not_true, Bool.and_false,
          Bool.false_eq_true, if_false, if_true]
  rw [buildRecord, hfault]

/-! ## What calls leave -/

namespace Builder

theorem records_apply_of_ne {c : Call} (hc : ∀ mark text, c ≠ .modelUrls mark text) (b : Builder) :
    (b.apply c).records = [] := by
  cases c with
  | modelUrls mark text => exact absurd rfl (hc mark text)
  | artifactId text =>
    rw [apply, setArtifactId]
    cases ArtifactName.of text <;> rfl
  | _ => rfl

/-- URLs leave the record of their zoo, or no zoo and no record. -/
theorem records_apply_modelUrls (b : Builder) (mark : Mark) (text : String) :
    let o := b.apply (.modelUrls mark text)
    (o.fault = none ∧ o.records =
      [⟨.debug, .urlZoo,
        s!"Created model zoo for {(Zoo.splitUrls text).length} url(s): "
          ++ (Value.list default ((Zoo.splitUrls text).map .text)).literal, none⟩]) ∨
    (o.fault ≠ none ∧ o.records = []) := by
  intro o
  simp only [o, apply, setModelUrls]
  cases hz : Zoo.ofUrls mark text with
  | error fault => exact .inr ⟨Option.some_ne_none _, rfl⟩
  | ok z =>
    obtain ⟨-, loaders, -, rfl⟩ := Zoo.ofUrls_eq_ok_iff.1 hz
    exact .inl ⟨rfl, rfl⟩

end Builder

namespace Session

variable {s : Session} {a : Action} {r : LogRecord} {name : String} {b : Builder}

/-! ## What a step tells -/

/-- What a name stands for among the builders. -/
def builderNamed? (s : Session) (name : String) : Option Builder :=
  (s.builderNames.find name).bind s.builder?

/-- The record of a step that leaves one. -/
inductive Tells (s : Session) : Action → LogRecord → Prop
  /-- A builder takes URLs and they make a zoo. -/
  | zoo {name : String} {b : Builder} {mark : Mark} {text : String}
      (hb : s.builderNamed? name = some b) (hs : (b.apply (.modelUrls mark text)).fault = none) :
      Tells s (.call name (.modelUrls mark text))
        ⟨.debug, .urlZoo,
          s!"Created model zoo for {(Zoo.splitUrls text).length} url(s): "
            ++ (Value.list default ((Zoo.splitUrls text).map .text)).literal, none⟩
  /-- A builder for which something is set that new types drop is given new types. -/
  | types {name target : String} {b : Builder} {input output : Option ModelType}
      (hb : s.builderNamed? name = some b) (hd : ∃ f, b.hasTypeBound f = true) :
      Tells s (.retype name target input output)
        ⟨.debug, .criteria,
          s!"Re-typing criteria to ({Builder.typeText input}, {Builder.typeText output}) drops "
            ++ Text.joinWith ", " ((Field.typeBound.filter b.hasTypeBound).map Field.name), none⟩
  /-- A builder builds criteria, which the record tells as they are then. -/
  | criteria {name target : String} {b : Builder} {c : Criteria}
      (hb : s.builderNamed? name = some b) (hc : b.build = .ok c) :
      Tells s (.build name target)
        ⟨.debug, .criteria, "Built " ++ (c.shown s.memory s.depth).literal,
          if (c.shown s.memory s.depth).present.all (·.2.withinDigits) then none
          else some (.digits .unprintable)⟩

theorem Tells.unique {r' : LogRecord} (h : s.Tells a r) (h' : s.Tells a r') : r = r' := by
  cases h with
  | zoo =>
    cases h'
    rfl
  | types hb =>
    cases h' with
    | types hb' =>
      cases hb.symm.trans hb'
      rfl
  | criteria hb hc =>
    cases h' with
    | criteria hb' hc' =>
      cases hb.symm.trans hb'
      cases hc.symm.trans hc'
      rfl

/-! ## What a step leaves -/

/-- A step leaves the record that it tells and does not fail, or it tells none and leaves none. -/
def LeavesTold (s : Session) (a : Action) : Prop :=
  (∃ r, s.Tells a r ∧ (s.step a).records = [r] ∧ (s.step a).fault = none) ∨
    ((∀ r, ¬s.Tells a r) ∧ (s.step a).records = [])

theorem withBuilder_of_unnamed (hb : s.builderNamed? name = none)
    (f : Nat → Object Builder → ActionResult) : s.withBuilder name f = s.fails (.unknown name) := by
  unfold withBuilder
  cases hn : s.builderNames.find name with
  | none => rfl
  | some i =>
    have hi : s.builder? i = none := by simpa [builderNamed?, hn] using hb
    have ho : s.builderObjects[i]? = none := Option.map_eq_none_iff.1 hi
    simp only [ho]

/-- A step that works on a builder leaves nothing if there is none of the name. -/
theorem leavesTold_of_unnamed {f : Nat → Object Builder → ActionResult}
    (hb : s.builderNamed? name = none) (hstep : s.step a = s.withBuilder name f)
    (ht : ∀ r, s.Tells a r → s.builderNamed? name ≠ none) : s.LeavesTold a := by
  refine .inr ⟨fun r hr => ht r hr hb, ?_⟩
  rw [hstep, withBuilder_of_unnamed hb]
  rfl

theorem leavesTold_call (h : s.Separate) (name : String) (c : Call) :
    s.LeavesTold (.call name c) := by
  cases hb : s.builderNamed? name with
  | none =>
    refine leavesTold_of_unnamed hb rfl ?_
    rintro r ⟨hb', -⟩
    exact Option.ne_none_iff_exists'.2 ⟨_, hb'⟩
  | some b =>
    obtain ⟨i, hn, hi⟩ := Option.bind_eq_some_iff.1 hb
    obtain ⟨-, hfault, hrecords⟩ := builder?_call h hn hi c
    unfold LeavesTold
    rw [hfault, hrecords]
    by_cases hc : ∃ mark text, c = .modelUrls mark text
    · obtain ⟨mark, text, rfl⟩ := hc
      rcases b.records_apply_modelUrls mark text with ⟨hs, hr⟩ | ⟨hs, hr⟩
      · exact .inl ⟨_, .zoo hb hs, hr, by rw [hs]; rfl⟩
      · refine .inr ⟨?_, hr⟩
        rintro r ⟨hb', hs'⟩
        cases hb.symm.trans hb'
        exact hs hs'
    · refine .inr ⟨?_, Builder.records_apply_of_ne (fun mark text he => hc ⟨mark, text, he⟩) b⟩
      rintro r ⟨-, -⟩
      exact hc ⟨_, _, rfl⟩

theorem leavesTold_retype (h : s.Separate) (name target : String) (input output : Option ModelType) :
    s.LeavesTold (.retype name target input output) := by
  cases hb : s.builderNamed? name with
  | none =>
    refine leavesTold_of_unnamed hb rfl ?_
    rintro r (_ | ⟨hb', -⟩)
    exact Option.ne_none_iff_exists'.2 ⟨_, hb'⟩
  | some b =>
    obtain ⟨i, hn, hi⟩ := Option.bind_eq_some_iff.1 hb
    obtain ⟨-, hrecords⟩ := builder?_retype h hn hi target input output
    obtain ⟨o, ho, -⟩ := Option.map_eq_some_iff.1 hi
    have hfault : (s.step (.retype name target input output)).fault = none := by
      simp only [step, withBuilder, hn, ho]
    unfold LeavesTold
    rw [hrecords, hfault, Builder.retypeRecords]
    by_cases hd : ∃ f, b.hasTypeBound f = true
    · have hne : b.dropped ≠ [] := by
        obtain ⟨f, hf⟩ := hd
        intro hnil
        rw [b.dropped_eq_nil_iff.1 hnil f] at hf
        cases hf
      refine .inl ⟨_, .types hb hd, ?_, rfl⟩
      rw [if_neg (by simpa using hne), b.dropped_eq]
    · have hnil : b.dropped = [] :=
        b.dropped_eq_nil_iff.2 fun f => Bool.eq_false_iff.2 fun hf => hd ⟨f, hf⟩
      refine .inr ⟨?_, by rw [if_pos (by simp [hnil])]⟩
      rintro r (_ | ⟨hb', hd'⟩)
      cases hb.symm.trans hb'
      exact hd hd'

theorem leavesTold_build (h : s.Separate) (name target : String) :
    s.LeavesTold (.build name target) := by
  cases hb : s.builderNamed? name with
  | none =>
    refine leavesTold_of_unnamed hb rfl ?_
    rintro r (_ | _ | ⟨hb', -⟩)
    exact Option.ne_none_iff_exists'.2 ⟨_, hb'⟩
  | some b =>
    obtain ⟨i, hn, hi⟩ := Option.bind_eq_some_iff.1 hb
    obtain ⟨o, ho, hob⟩ := Option.map_eq_some_iff.1 hi
    have hbuild := build_memory_builder s.memory o
    rw [hob] at hbuild
    cases hd : o.fields.build with
    | ok d =>
      rw [hd] at hbuild
      have hfault : (s.step (.build name target)).fault = none := by
        simp only [step, withBuilder, hn, ho, hd]
      refine .inl ⟨_, .criteria hb hbuild, ?_, hfault⟩
      rw [(criteria?_build h hn hi target hbuild).2, Criteria.buildRecord_endless]
    | error fault =>
      rw [hd] at hbuild
      refine .inr ⟨?_, by simp only [step, withBuilder, hn, ho, hd]; rfl⟩
      rintro r (_ | _ | ⟨hb', hc⟩)
      cases hb.symm.trans hb'
      cases hbuild.symm.trans hc

/-- What one step leaves. -/
theorem leavesTold_step (h : s.Separate) (a : Action) : s.LeavesTold a := by
  by_cases hattempt : a.IsAttempt
  · obtain ⟨fault, hf⟩ := attempt_fails s hattempt
    refine .inr ⟨?_, by rw [hf]; rfl⟩
    rintro r (_ | _ | _) <;> exact hattempt
  cases a with
  | call name c => exact leavesTold_call h name c
  | retype name target input output => exact leavesTold_retype h name target input output
  | build name target => exact leavesTold_build h name target
  | create | keep | define => exact .inr ⟨by rintro r ⟨⟩, rfl⟩
  | callWith name f mapping =>
    refine .inr ⟨by rintro r ⟨⟩, ?_⟩
    simp only [step, withMapping, withBuilder]
    split
    · split
      · rfl
      · split <;> rfl
    · rfl
  | put name key value =>
    refine .inr ⟨by rintro r ⟨⟩, ?_⟩
    simp only [step, withMapping]
    split
    · split <;> rfl
    · rfl
  | hash | assign | delete | putField => exact absurd trivial hattempt

/-! ## Runs -/

/-- What steps leave, one after the other: the record that a step tells, or none if it tells none. -/
inductive Trails : Session → List Action → List LogRecord → Prop
  | nil {s : Session} : Trails s [] []
  | told {s : Session} {a : Action} {r : LogRecord} {rest : List Action} {records : List LogRecord}
      (ht : s.Tells a r) (hrest : Trails (s.step a).session rest records) :
      Trails s (a :: rest) (r :: records)
  | silent {s : Session} {a : Action} {rest : List Action} {records : List LogRecord}
      (ht : ∀ r, ¬s.Tells a r) (hrest : Trails (s.step a).session rest records) :
      Trails s (a :: rest) records

theorem Separate.trails_iff (h : s.Separate) (actions : List Action) (records : List LogRecord) :
    Trails s actions records ↔ records = s.trail actions := by
  induction actions generalizing s records with
  | nil =>
    constructor
    · rintro ⟨⟩
      rfl
    · rintro rfl
      exact .nil
  | cons a rest ih =>
    have htrail : s.trail (a :: rest) = (s.step a).records ++ (s.step a).session.trail rest := rfl
    have hrest := ih (h.step a)
    rw [htrail]
    rcases leavesTold_step h a with ⟨r, ht, hr, -⟩ | ⟨hn, hr⟩
    · rw [hr]
      constructor
      · rintro (_ | ⟨ht', hmore⟩ | ⟨hn, -⟩)
        · rw [ht'.unique ht, (hrest _).1 hmore]
          rfl
        · exact absurd ht (hn r)
      · rintro rfl
        exact .told ht ((hrest _).2 rfl)
    · rw [hr]
      constructor
      · rintro (_ | ⟨ht, -⟩ | ⟨-, hmore⟩)
        · exact absurd ht (hn _)
        · exact (hrest _).1 hmore
      · rintro rfl
        exact .silent hn ((hrest _).2 rfl)

theorem trail_append (s : Session) (before after : List Action) :
    s.trail (before ++ after) = s.trail before ++ (s.run before).trail after := by
  induction before generalizing s with
  | nil => rfl
  | cons a before ih =>
    rw [List.cons_append, trail, trail, ih, List.append_assoc]
    rfl

/-! ## Main result -/

/-- The records of a session are those that its steps tell, each at most one, in the order of the
steps.  A step that fails adds none. -/
theorem trail_laws (actions : List Action) :
    (∀ records, Trails {} actions records ↔ records = trail {} actions) ∧
    ∀ before a after, actions = before ++ a :: after →
      ((run {} before).step a).fault ≠ none →
        trail {} actions = trail {} before ++ ((run {} before).step a).session.trail after := by
  refine ⟨separate_empty.trails_iff actions, ?_⟩
  rintro before a after rfl hf
  rcases leavesTold_step (separate_empty.run before) a with ⟨r, -, -, hs⟩ | ⟨-, hr⟩
  · exact absurd hs hf
  · rw [trail_append, trail, hr]
    rfl

/-- A build that lacks a type, new types for a qualified id, and the build again. -/
theorem trail_laws_refused :
    let before : List Action :=
      [.create "b" (some (.builtin "str")) none, .call "b" (.artifactId "ai.djl:bert")]
    let refused : Action := .build "b" "c"
    let after : List Action :=
      [.retype "b" "d" (some (.builtin "str")) (some (.builtin "int")), .build "d" "c"]
    ((run {} before).step refused).fault ≠ none ∧
      trail {} (before ++ refused :: after)
        = trail {} before ++ ((run {} before).step refused).session.trail after ∧
      (trail {} (before ++ refused :: after)).map (·.message) =
        ["Re-typing criteria to (str, int) drops artifact_id",
          "Built Criteria(input_class='str', output_class='int', group_id='ai.djl')"] := by
  intro before refused after
  have hf : ((run {} before).step refused).fault ≠ none := by decide +kernel
  obtain ⟨-, hsilent⟩ := trail_laws (before ++ refused :: after)
  exact ⟨hf, hsilent before refused after rfl hf, by decide +kernel⟩

end Session

end ModelSearch
