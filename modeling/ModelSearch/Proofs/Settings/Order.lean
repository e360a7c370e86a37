import ModelSearch.Proofs.Criteria.LastCall
import ModelSearch.Proofs.Settings.Entries
import ModelSearch.Proofs.Settings.Replay
import ModelSearch.Proofs.Value.Same

/-!
# The order of settings

A setting is checked by its own value alone and settings are replayed in an order of their own, so
it makes no difference in which order a mapping gives them.  Only the problems of keys that are no
setting come in the order of the mapping.

    a mapping is valid ↔ each of its entries is valid alone            (validate_isOk_iff)
    given es s = given es' s          if es.Perm es'                   (given_perm)
    both orders are valid with the same settings, or both have the same problems   (validate_perm)
-/

namespace ModelSearch

theorem Value.text_sameAs_iff {s : String} {v : Value} :
    (Value.text s).sameAs v = true ↔ v = .text s := by
  cases v <;> simp [sameAs, eq_comm]

namespace Settings

variable {es es' : Entries} {mark mark' : Mark} {ms : List ModuleInfo}

/-! ## The check of one setting -/

/-- The problems of a value as that of a setting. -/
def problemsIn (f : Setting) (v : Value) : List Problem :=
  match f with
  | .application => problemsOf (checkApplication v)
  | .device => problemsOf (checkDevice v)
  | .filters => problemsOf (checkFilters v)
  | .arguments | .options => problemsOf (checkEntries f v)
  | _ => problemsOf (checkText f v)

/-- A setting that is missing has no problem. -/
theorem problemsIn_null (f : Setting) : problemsIn f .null = [] := by cases f <;> rfl

/-- The problems of the settings that a mapping gives, in the order of their declaration. -/
def declaredProblems (es : Entries) : List Problem :=
  Setting.all.flatMap fun f => problemsIn f (given es f)

/-- The problems of the keys that are no setting, in the order of the mapping. -/
def unknownProblems (es : Entries) : List Problem := es.filterMap fun e => keyProblem? e.1

theorem problems_checks (es : Entries) :
    (checks es).problems = declaredProblems es ++ unknownProblems es := by
  simp [Checks.problems, checks, declaredProblems, unknownProblems, Setting.all, problemsIn]

theorem declaredProblems_eq_nil_iff :
    declaredProblems es = [] ↔ ∀ f, problemsIn f (given es f) = [] := by
  simp only [declaredProblems, List.flatMap_eq_nil_iff]
  exact ⟨fun h f => h f f.mem_all, fun h f _ => h f⟩

/-! ## Places -/

/-- All problems of a check are in its setting. -/
def InPlace {α : Type} (f : Setting) (c : Checked α) : Prop :=
  ∀ p ∈ problemsOf c, ∃ rest, p.place = .name f.name :: rest

theorem inPlace_ok {α : Type} (f : Setting) (a : α) : InPlace f (.ok a) := by
  intro p hp
  cases hp

theorem inPlace_refuse {α : Type} (f : Setting) (kind : ProblemKind) :
    InPlace f (refuse f kind : Checked α) := by
  intro p hp
  rw [List.mem_singleton.1 hp]
  exact ⟨[], rfl⟩

theorem inPlace_checkText (f : Setting) (v : Value) : InPlace f (checkText f v) := by
  unfold checkText
  split
  · exact inPlace_ok f _
  · split
    · exact inPlace_ok f _
    · exact inPlace_refuse f _

theorem inPlace_checkApplication (v : Value) : InPlace .application (checkApplication v) := by
  unfold checkApplication
  split
  · exact inPlace_ok _ _
  · split
    · exact inPlace_ok _ _
    · exact inPlace_refuse _ _
  · split
    · exact inPlace_ok _ _
    · exact inPlace_refuse _ _

theorem inPlace_checkDevice (v : Value) : InPlace .device (checkDevice v) := by
  have ht := inPlace_checkText .device v
  unfold checkDevice
  cases hc : checkText .device v with
  | error problems =>
    rw [hc] at ht
    exact ht
  | ok name =>
    cases name with
    | none => exact inPlace_ok _ _
    | some n =>
      simp only [bind, Except.bind]
      split
      · exact inPlace_ok _ _
      · exact inPlace_refuse _ _

theorem inPlace_checkFilters (v : Value) : InPlace .filters (checkFilters v) := by
  unfold checkFilters
  split
  · exact inPlace_ok _ _
  · split
    · exact inPlace_ok _ _
    · exact inPlace_refuse _ _
  · exact inPlace_refuse _ _

theorem place_of_mem_textKeys {f : Setting} {p : Problem} (h : p ∈ (textKeys f es).2) :
    ∃ rest, p.place = .name f.name :: rest := by
  induction es with
  | nil => cases h
  | cons e es ih =>
    unfold textKeys at h
    dsimp only at h
    split at h
    · exact ih h
    · rcases List.mem_cons.1 h with rfl | h
      · exact ⟨_, rfl⟩
      · exact ih h

theorem inPlace_checkEntries (f : Setting) (v : Value) : InPlace f (checkEntries f v) := by
  unfold checkEntries
  split
  · exact inPlace_ok _ _
  · next es =>
    split
    · exact inPlace_ok _ _
    next problems _ heq =>
      intro p hp
      have hm : p ∈ (textKeys f es).2 := by
        rw [heq]
        exact hp
      exact place_of_mem_textKeys hm
  · exact inPlace_refuse _ _

theorem place_of_mem_problemsIn {f : Setting} {v : Value} {p : Problem} (h : p ∈ problemsIn f v) :
    ∃ rest, p.place = .name f.name :: rest := by
  cases f with
  | application => exact inPlace_checkApplication v p h
  | device => exact inPlace_checkDevice v p h
  | filters => exact inPlace_checkFilters v p h
  | arguments | options => exact inPlace_checkEntries _ v p h
  | _ => exact inPlace_checkText _ v p h

theorem place_of_mem_declaredProblems {p : Problem} (h : p ∈ declaredProblems es) :
    ∃ (f : Setting) (rest : List PlaceStep), p.place = .name f.name :: rest := by
  obtain ⟨f, -, hf⟩ := List.mem_flatMap.1 h
  exact ⟨f, place_of_mem_problemsIn hf⟩

/-! ## Entries -/

/-- The value of a setting is that of its entry. -/
theorem given_of_mem (hd : es.Distinct) {f : Setting} {v : Value}
    (h : (Value.text f.name, v) ∈ es) : given es f = v := by
  have hf : es.find? (fun g => (Value.text f.name).sameAs g.1) = some (.text f.name, v) :=
    Value.find?_of_distinct hd h (Value.text_sameAs_iff.2 rfl)
  simp [given, Entries.find, hf]

theorem given_of_forall {f : Setting} (h : ∀ v, (Value.text f.name, v) ∉ es) :
    given es f = .null := by
  have hf : es.find? (fun g => (Value.text f.name).sameAs g.1) = none := by
    refine List.find?_eq_none.2 fun e he hs => ?_
    obtain ⟨k, v⟩ := e
    cases Value.text_sameAs_iff.1 hs
    exact h v he
  simp [given, Entries.find, hf]

/-- An entry has no problem: it has that of no setting that it gives, and gives one. -/
def EntryValid (e : Value × Value) : Prop :=
  (∀ f : Setting, e.1 = .text f.name → problemsIn f e.2 = []) ∧ keyProblem? e.1 = none

theorem problems_eq_nil_iff (hd : es.Distinct) :
    (checks es).problems = [] ↔ ∀ e ∈ es, EntryValid e := by
  rw [problems_checks, List.append_eq_nil_iff, declaredProblems_eq_nil_iff, unknownProblems,
    List.filterMap_eq_nil_iff]
  constructor
  · rintro ⟨hs, hu⟩ ⟨k, v⟩ he
    refine ⟨?_, hu _ he⟩
    rintro f rfl
    rw [← given_of_mem hd he]
    exact hs f
  · intro h
    refine ⟨fun f => ?_, fun e he => (h e he).2⟩
    by_cases hf : ∃ v, (Value.text f.name, v) ∈ es
    · obtain ⟨v, hv⟩ := hf
      rw [given_of_mem hd hv]
      exact (h _ hv).1 f rfl
    · rw [given_of_forall (not_exists.1 hf)]
      exact problemsIn_null f

theorem validate_dict (mark : Mark) (es : Entries) :
    validate (.dict mark es) =
      if (checks es).problems = [] then .ok (checks es).settings
      else .error (checks es).problems := by
  simp only [validate, List.isEmpty_iff]

/-- A mapping is valid exactly if each of its entries is valid alone. -/
theorem validate_isOk_iff (hd : es.Distinct) :
    (∃ s, validate (.dict mark es) = .ok s) ↔
      ∀ e ∈ es, ∃ s, validate (.dict mark [e]) = .ok s := by
  have hok : ∀ {fs : Entries}, fs.Distinct →
      ((∃ s, validate (.dict mark fs) = .ok s) ↔ ∀ e ∈ fs, EntryValid e) := by
    intro fs hfs
    rw [← problems_eq_nil_iff hfs, validate_dict]
    split <;> simp [*]
  rw [hok hd]
  refine forall₂_congr fun e _ => ?_
  rw [hok (List.pairwise_singleton _ e)]
  simp

/-! ## Permutations -/

theorem TextKeys.perm (hk : TextKeys es) (hp : es.Perm es') : TextKeys es' :=
  fun e he => hk e (hp.mem_iff.2 he)

theorem TextKeys.distinct_iff (hk : TextKeys es) :
    es.Distinct ↔ es.Pairwise fun e f => e.1 ≠ f.1 := by
  refine List.Pairwise.iff_of_mem fun {e f} he hf => ?_
  obtain ⟨s, hs⟩ := hk f hf
  rw [hs, ← Bool.not_eq_true, Value.text_sameAs_iff]

theorem TextKeys.distinct_perm (hk : TextKeys es) (hd : es.Distinct) (hp : es.Perm es') :
    es'.Distinct := by
  rw [(hk.perm hp).distinct_iff]
  exact hp.pairwise (hk.distinct_iff.1 hd) fun h => h.symm

theorem given_perm (hk : TextKeys es) (hd : es.Distinct) (hp : es.Perm es') (f : Setting) :
    given es' f = given es f := by
  by_cases hf : ∃ v, (Value.text f.name, v) ∈ es
  · obtain ⟨v, hv⟩ := hf
    rw [given_of_mem hd hv, given_of_mem (hk.distinct_perm hd hp) (hp.mem_iff.1 hv)]
  · have hn := not_exists.1 hf
    rw [given_of_forall hn, given_of_forall fun v hv => hn v (hp.mem_iff.2 hv)]

theorem declaredProblems_perm (hk : TextKeys es) (hd : es.Distinct) (hp : es.Perm es') :
    declaredProblems es' = declaredProblems es := by
  simp only [declaredProblems, given_perm hk hd hp]

theorem settings_perm (hk : TextKeys es) (hd : es.Distinct) (hp : es.Perm es') :
    (checks es').settings = (checks es).settings := by
  simp only [checks, Checks.settings, given_perm hk hd hp]

theorem unknownProblems_perm (hp : es.Perm es') :
    (unknownProblems es).Perm (unknownProblems es') :=
  hp.filterMap _

/-! ## Builds -/

/-- Results that differ at most in which object the zoo is. -/
def SameButZoo : Except ReplayFault Criteria → Except ReplayFault Criteria → Prop
  | .ok c, .ok d =>
    ∃ mark, d = { c with modelZoo := c.modelZoo.map fun z => { z with mark := mark } }
  | .error f, .error g => f = g
  | _, _ => False

theorem ZooNamed.remark {source : Nat} {urls : Option String} {z : Option Zoo}
    (h : ZooNamed source urls z) (source' : Nat) :
    ZooNamed source' urls (z.map fun w => { w with mark := .own source' 0 }) := by
  rcases h with ⟨rfl, rfl⟩ | ⟨text, w, rfl, hw, rfl⟩
  · exact .inl ⟨rfl, rfl⟩
  · obtain ⟨hn, loaders, hl, rfl⟩ := Zoo.ofUrls_eq_ok_iff.1 hw
    exact .inr ⟨text, _, rfl, Zoo.ofUrls_eq_ok_iff.2 ⟨hn, loaders, hl, rfl⟩, rfl⟩

/-- What settings build, told by what they mean. -/
theorem buildSettings_cases {s : Settings} {d : Option Device} (hd : deviceOf s.device = .ok d)
    (source : Nat) (ms : List ModuleInfo) :
    (∃ f, s.FirstFault ms f ∧ (buildSettings source s ms).result = .error f) ∨
      ∃ b, s.Faultless ms ∧ s.Describes ms source b ∧
        (buildSettings source s ms).result = b.build.mapError .build := by
  unfold buildSettings
  rcases replay_cases hd source with ⟨f, hf, hr⟩ | ⟨hn, b, records, hr, hb⟩
  · rw [hr]
    exact .inl ⟨f, hf, rfl⟩
  · refine .inr ⟨b, hn, hb, ?_⟩
    simp only [hr]
    cases b.build <;> rfl

theorem sameButZoo_buildSettings {s : Settings} {d : Option Device}
    (hd : deviceOf s.device = .ok d) (source source' : Nat) (ms : List ModuleInfo) :
    SameButZoo (buildSettings source s ms).result (buildSettings source' s ms).result := by
  rcases buildSettings_cases hd source ms with ⟨f, hf, hr⟩ | ⟨b, hn, hb, hr⟩
  · rcases buildSettings_cases hd source' ms with ⟨g, hg, hr'⟩ | ⟨b', hn, -, -⟩
    · rw [hr, hr']
      exact hf.unique hg
    · exact absurd hn hf.not_faultless
  · rcases buildSettings_cases hd source' ms with ⟨g, hg, -⟩ | ⟨b', -, hb', hr'⟩
    · exact absurd hn hg.not_faultless
    -- the two builders say the same, and what says the same is one builder but for the zoo
    have hsame : b' =
        { b with modelZoo := b.modelZoo.map fun z => { z with mark := .own source' 0 } } :=
      hb'.unique { hb with modelZoo := hb.modelZoo.remark source' }
    rw [hr, hr', hsame]
    unfold Builder.build
    cases hi : b.inputClass with
    | none => exact rfl
    | some i =>
      cases ho : b.outputClass with
      | none => exact rfl
      | some o => exact ⟨.own source' 0, rfl⟩

/-- A qualified artifact id decides the group, whatever group is given. -/
theorem ids_of_buildSettings {s : Settings} {d : Option Device} (hd : deviceOf s.device = .ok d)
    {source : Nat} {text g a : String} (ha : s.artifactId = some text)
    (hq : ArtifactName.IsQualified text g a) {c : Criteria}
    (hc : (buildSettings source s ms).result = .ok c) :
    c.groupId = some g ∧ c.artifactId = some a := by
  rcases buildSettings_cases hd source ms with ⟨f, -, hr⟩ | ⟨b, -, hb, hr⟩
  · rw [hr] at hc
    cases hc
  · have hids : b.groupId = some g ∧ b.artifactId = some a :=
      hb.ids.unique (.inl ⟨text, g, a, ha, hq, rfl, rfl⟩)
    rw [hr] at hc
    cases hbuild : b.build with
    | error f =>
      rw [hbuild] at hc
      cases hc
    | ok e =>
      rw [hbuild] at hc
      cases hc
      rw [(Builder.build_eq_ok_iff.1 hbuild).2.2]
      exact hids

/-! ## Main result -/

/-- A mapping with texts as keys is valid exactly if its entries are, each alone.  In another order
it is valid with the same settings, which build the same criteria or fail alike and let a qualified
artifact id decide the group; or it is not, with the same problems of settings in front of those of
other keys, which come in the order of the entries. -/
theorem validate_perm (hk : TextKeys es) (hd : es.Distinct) (hp : es.Perm es')
    (mark mark' : Mark) (ms : List ModuleInfo) :
    ((∃ s, validate (.dict mark es) = .ok s) ↔
      ∀ e ∈ es, ∃ s, validate (.dict mark [e]) = .ok s) ∧
    ((∃ s, validate (.dict mark es) = .ok s ∧ validate (.dict mark' es') = .ok s ∧
        (∀ source source', SameButZoo (buildSettings source s ms).result
          (buildSettings source' s ms).result) ∧
        ∀ text g a, s.artifactId = some text → ArtifactName.IsQualified text g a →
          ∀ source c, (buildSettings source s ms).result = .ok c →
            c.groupId = some g ∧ c.artifactId = some a) ∨
      ∃ declared : List Problem,
        (∀ p ∈ declared, ∃ (f : Setting) (rest : List PlaceStep), p.place = .name f.name :: rest) ∧
        validate (.dict mark es)
          = .error (declared ++ es.filterMap fun e => keyProblem? e.1) ∧
        validate (.dict mark' es')
          = .error (declared ++ es'.filterMap fun e => keyProblem? e.1)) := by
  refine ⟨validate_isOk_iff hd, ?_⟩
  have hproblems : (checks es').problems = [] ↔ (checks es).problems = [] := by
    rw [problems_checks, problems_checks, List.append_eq_nil_iff, List.append_eq_nil_iff,
      declaredProblems_perm hk hd hp]
    refine and_congr_right fun _ => ?_
    rw [← List.length_eq_zero_iff, ← (unknownProblems_perm hp).length_eq, List.length_eq_zero_iff]
  by_cases h : (checks es).problems = []
  · have hv : validate (.dict mark es) = .ok (checks es).settings := by
      rw [validate_dict, if_pos h]
    have hv' : validate (.dict mark' es') = .ok (checks es).settings := by
      rw [validate_dict, if_pos (hproblems.2 h), settings_perm hk hd hp]
    obtain ⟨d, hdev⟩ := deviceOf_of_validate hv
    exact .inl ⟨_, hv, hv', fun source source' => sameButZoo_buildSettings hdev source source' ms,
      fun text g a ha hq source c hc => ids_of_buildSettings hdev ha hq hc⟩
  · refine .inr ⟨declaredProblems es, fun p hm => place_of_mem_declaredProblems hm, ?_, ?_⟩
    · rw [validate_dict, if_neg h, problems_checks]
      rfl
    · rw [validate_dict, if_neg fun h' => h (hproblems.1 h'), problems_checks,
        declaredProblems_perm hk hd hp]
      rfl

/-- Settings whose artifact id names another group than the one given. -/
def twoGroups : Entries :=
  [(.text "artifact_id", .text "ai.djl.zoo:resnet"), (.text "group_id", .text "other"),
   (.text "output_class", .text "str"), (.text "input_class", .text "str")]

set_option maxRecDepth 20000 in
theorem validate_perm_twoGroups :
    TextKeys twoGroups ∧ twoGroups.Distinct ∧ twoGroups.Perm twoGroups.reverse ∧
      ∃ s, validate (.dict default twoGroups) = .ok s ∧
        validate (.dict default twoGroups.reverse) = .ok s ∧
        ∃ c, (buildSettings 0 s).result = .ok c ∧ c.groupId = some "ai.djl.zoo" ∧
          c.artifactId = some "resnet" := by
  have hk : TextKeys twoGroups := by simp [TextKeys, twoGroups]
  have hd : twoGroups.Distinct := by simp [Entries.Distinct, twoGroups, Value.sameAs]
  have hp : twoGroups.Perm twoGroups.reverse := twoGroups.reverse_perm.symm
  refine ⟨hk, hd, hp, ?_⟩
  let t : Settings :=
    { artifactId := some "ai.djl.zoo:resnet", groupId := some "other", inputClass := some "str",
      outputClass := some "str" }
  have ht : validate (.dict default twoGroups) = .ok t := rfl
  rcases (validate_perm hk hd hp default default knownModules).2
    with ⟨s, hs, hs', -, hids⟩ | ⟨declared, -, hs, -⟩
  · cases ht.symm.trans hs
    have hok : (buildSettings 0 t).result.isOk = true := by decide +kernel
    cases hc : (buildSettings 0 t).result with
    | error f =>
      rw [hc] at hok
      cases hok
    | ok c =>
      have hq : ArtifactName.IsQualified "ai.djl.zoo:resnet" "ai.djl.zoo" "resnet" := by
        simp [ArtifactName.IsQualified]
      exact ⟨t, ht, hs', c, hc, hids _ _ _ rfl hq 0 c hc⟩
  · cases ht.symm.trans hs

end Settings

end ModelSearch
