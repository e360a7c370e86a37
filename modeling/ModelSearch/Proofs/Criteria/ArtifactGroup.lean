import ModelSearch.Proofs.Criteria.LastCall
import ModelSearch.Proofs.Settings.Replay

/-!
# Artifacts and their groups

An id without a colon sets the artifact alone, a qualified id sets the group and the artifact, and
every other id is refused.  Over the life of a builder, whatever fails in it, group and artifact are
what the last calls gave that set them.  So no artifact has a colon, and the group that an id named
stays with the artifact until a group is set.

    b.Lived cs                           b came to be, and cs were called on it since then
    b.Lived cs → QualifiedLast cs g a → b.groupId = some g       (Lived.group)
-/

namespace ModelSearch

/-! ## The life of a builder -/

/-- A builder and the calls on it since it came to be: with types or without, for new types, or from
settings that were replayed.  Calls that failed are among them. -/
inductive Builder.Lived : Builder → List Call → Prop where
  | create (input output : Option ModelType) :
      Lived { inputClass := input, outputClass := output } []
  | call {b : Builder} {cs : List Call} (c : Call) :
      Lived b cs → Lived (b.apply c).builder (cs ++ [c])
  | retyped {b : Builder} {cs : List Call} (input output : Option ModelType) :
      Lived b cs → Lived (b.retyped input output) []
  | replayed {s : Settings} {source : Nat} {ms : List ModuleInfo} {d : Option Device} {b : Builder}
      {records : List LogRecord} : Settings.deviceOf s.device = .ok d →
      s.replay source ms = .ok (b, records) → Lived b (s.calls (.own source 0) d)

/-- The artifact was set last by a qualified id, and no group was set by itself since then. -/
def Call.QualifiedLast (cs : List Call) (g a : String) : Prop :=
  ∃ before text after, cs = before ++ .artifactId text :: after ∧
    ArtifactName.IsQualified text g a ∧ (∀ c ∈ after, ∀ id, ¬c.GivesArtifact id) ∧
    ∀ c ∈ after, ∀ id, c ≠ .groupId id

theorem Call.GivesArtifact.colon_notMem {c : Call} {id : String}
    (h : c.GivesArtifact (some id)) : ':' ∉ id.toList := by
  cases h with
  | bare hc => exact hc
  | qualified hq => exact hq.2.2.2.2

theorem Call.not_givesArtifact {text : String} (hc : ':' ∈ text.toList)
    (h : ∀ g a, ¬ArtifactName.IsQualified text g a) (id : Option String) :
    ¬(Call.artifactId text).GivesArtifact id := by
  intro hid
  cases hid with
  | bare hn => exact hn hc
  | qualified hq => exact h _ _ hq

/-! ## The last call of a run -/

/-- A call that gives the value, with none behind it that does, is the one that gave it. -/
theorem Last.given {α : Type} {gives : Call → α → Prop} {v₀ v w : α} {before after : List Call}
    {c : Call} (h : Last gives v₀ (before ++ c :: after) v) (hc : gives c w)
    (hafter : ∀ d ∈ after, ∀ u, ¬gives d u) : gives c v := by
  obtain ⟨rest, hrest, ⟨front, d, hcs, hd⟩ | ⟨rfl, -⟩⟩ := h
  · rcases List.append_eq_append_iff.1 hcs with ⟨mid, rfl, hmid⟩ | ⟨mid, rfl, hmid⟩
    · cases mid with
      | nil =>
        obtain ⟨rfl, -⟩ := List.cons.inj hmid
        exact hd
      | cons e mid =>
        obtain ⟨-, rfl⟩ := List.cons.inj hmid
        exact absurd hd (hafter d (by simp) v)
    · cases mid with
      | nil =>
        obtain ⟨rfl, -⟩ := List.cons.inj hmid
        exact hd
      | cons e mid =>
        obtain ⟨-, rfl⟩ := List.cons.inj hmid
        exact absurd hc (hrest c (by simp) w)
  · exact absurd hc (hrest c (by simp) w)

namespace Builder

variable {b : Builder} {cs : List Call}

/-! ## One call -/

theorem apply_bare {text : String} (h : ':' ∉ text.toList) :
    b.apply (.artifactId text) = ⟨{ b with artifactId := some text }, none, []⟩ := by
  rw [apply, setArtifactId, ArtifactName.of_eq_bare h]

theorem apply_qualified {text g a : String} (h : ArtifactName.IsQualified text g a) :
    b.apply (.artifactId text)
      = ⟨{ b with groupId := some g, artifactId := some a }, none, []⟩ := by
  rw [apply, setArtifactId, ArtifactName.of_eq_qualified h]

theorem apply_malformed {text : String} (hc : ':' ∈ text.toList)
    (h : ∀ g a, ¬ArtifactName.IsQualified text g a) :
    b.apply (.artifactId text) = ⟨b, some (.artifactId text), []⟩ := by
  rw [apply, setArtifactId, ArtifactName.of_eq_malformed hc h]

/-- The calls that set group and artifact one after the other. -/
theorem run_group_artifact (g : String) {a : String} (h : ':' ∉ a.toList) :
    b.run [.groupId (some g), .artifactId a]
      = ⟨{ b with groupId := some g, artifactId := some a }, none, []⟩ := by
  rw [run, run, apply_bare h]
  rfl

/-- Every call, whether it fails or not, leaves the group and the artifact that it gives and keeps
them if it gives none. -/
theorem decided_ids (b : Builder) (c : Call) :
    Decided Call.GivesGroup c b.groupId (b.apply c).builder.groupId ∧
      Decided Call.GivesArtifact c b.artifactId (b.apply c).builder.artifactId := by
  cases c with
  | artifactId text =>
    by_cases hm : ':' ∈ text.toList ∧ ∀ g a, ¬ArtifactName.IsQualified text g a
    · rw [apply_malformed hm.1 hm.2]
      refine ⟨.inr ⟨?_, rfl⟩, .inr ⟨?_, rfl⟩⟩
      · intro w hw
        cases hw with
        | qualified hq => exact hm.2 _ _ hq
      · exact Call.not_givesArtifact hm.1 hm.2
    · have hok : (b.setArtifactId text).fault = none := by
        unfold setArtifactId
        rcases ArtifactName.of_cases text with ⟨-, ho⟩ | ⟨g, a, -, ho⟩ | ⟨hc, hn, -⟩
        · rw [ho]
        · rw [ho]
        · exact absurd ⟨hc, hn⟩ hm
      exact ⟨(decided_artifactId hok).1, .inl (decided_artifactId hok).2⟩
  | groupId g => exact ⟨.inl (.group g), .inr ⟨fun _ h => (by cases h), rfl⟩⟩
  | modelUrls mark text =>
    obtain ⟨z, hz⟩ := b.exists_setModelUrls mark text
    rw [apply, hz]
    exact ⟨.inr ⟨fun _ h => (by cases h), rfl⟩, .inr ⟨fun _ h => (by cases h), rfl⟩⟩
  | _ => exact ⟨.inr ⟨fun _ h => (by cases h), rfl⟩, .inr ⟨fun _ h => (by cases h), rfl⟩⟩

/-! ## Whole lives -/

/-- Group and artifact are what the last calls gave that set them; a builder begins without an
artifact. -/
structure Ids (cs : List Call) (b : Builder) : Prop where
  group : ∃ g₀, Last Call.GivesGroup g₀ cs b.groupId
  artifact : Last Call.GivesArtifact none cs b.artifactId

theorem ids_begin (h : b.artifactId = none) : b.Ids [] where
  group := ⟨b.groupId, [], since_nil _ _⟩
  artifact := h ▸ ⟨[], since_nil _ _⟩

theorem Ids.call (h : b.Ids cs) (c : Call) : (b.apply c).builder.Ids (cs ++ [c]) where
  group := h.group.imp fun _ hg => hg.concat (decided_ids b c).1
  artifact := h.artifact.concat (decided_ids b c).2

theorem Ids.run (h : b.Ids cs) {ds : List Call} (hds : (b.run ds).fault = none) :
    (b.run ds).builder.Ids (cs ++ ds) := by
  induction ds using List.reverseRecOn with
  | nil =>
    rw [List.append_nil]
    exact h
  | append_singleton ds d ih =>
    obtain ⟨hfront, -, hlast⟩ := run_concat hds
    rw [hlast, ← List.append_assoc]
    exact (ih hfront).call d

/-- Settings are replayed by calls on a new builder. -/
theorem ids_replay {s : Settings} {source : Nat} {ms : List ModuleInfo} {d : Option Device}
    {records : List LogRecord} (hd : Settings.deviceOf s.device = .ok d)
    (h : s.replay source ms = .ok (b, records)) : b.Ids (s.calls (.own source 0) d) := by
  simp only [Settings.replay, bind_eq_ok] at h
  obtain ⟨input, -, output, -, e, he, h⟩ := h
  cases hd.symm.trans he
  split at h
  · cases h
  next hf =>
    cases h
    exact (ids_begin rfl).run hf

theorem Lived.ids (h : b.Lived cs) : b.Ids cs := by
  induction h with
  | create input output => exact ids_begin rfl
  | call c _ ih => exact ih.call c
  | retyped input output _ _ => exact ids_begin rfl
  | replayed hd hr => exact ids_replay hd hr

theorem Lived.colon_notMem (h : b.Lived cs) {id : String} (hid : b.artifactId = some id) :
    ':' ∉ id.toList := by
  obtain ⟨after, -, ⟨before, c, -, hc⟩ | ⟨-, hnone⟩⟩ := h.ids.artifact
  · rw [hid] at hc
    exact hc.colon_notMem
  · rw [hid] at hnone
    cases hnone

theorem Lived.group (h : b.Lived cs) {g a : String} (hq : Call.QualifiedLast cs g a) :
    b.groupId = some g := by
  obtain ⟨before, text, after, rfl, hq, hartifact, hgroup⟩ := hq
  obtain ⟨g₀, hlast⟩ := h.ids.group
  refine (hlast.given (.qualified hq) ?_).unique (.qualified hq)
  intro c hc u hu
  cases hu with
  | group g => exact hgroup _ hc _ rfl
  | qualified hq' => exact hartifact _ hc _ (.qualified hq')

/-! ## Main result -/

/-- An id without a colon is the artifact, a qualified id sets its group and then its artifact, and
every other id is refused and changes nothing.  So whatever is done, neither a builder nor its
criteria have an artifact with a colon, and the group of a qualified id stays with the artifact. -/
theorem artifactId_laws :
    (∀ (b : Builder) (text : String),
      (':' ∉ text.toList →
        b.apply (.artifactId text) = ⟨{ b with artifactId := some text }, none, []⟩) ∧
      (∀ g a, ArtifactName.IsQualified text g a →
        (b.apply (.artifactId text)).fault = none ∧
          b.apply (.artifactId text) = b.run [.groupId (some g), .artifactId a]) ∧
      (':' ∈ text.toList → (∀ g a, ¬ArtifactName.IsQualified text g a) →
        b.apply (.artifactId text) = ⟨b, some (.artifactId text), []⟩)) ∧
    ∀ (b : Builder) (cs : List Call), b.Lived cs →
      (∀ id, b.artifactId = some id → ':' ∉ id.toList) ∧
      (∀ g a, Call.QualifiedLast cs g a → g ≠ "" ∧ b.groupId = some g) ∧
      ∀ c, b.build = .ok c →
        (∀ id, c.artifactId = some id → ':' ∉ id.toList) ∧
        ∀ g a, Call.QualifiedLast cs g a → c.groupId = some g := by
  refine ⟨fun b text => ⟨apply_bare, fun g a hq => ?_, apply_malformed⟩, fun b cs h => ?_⟩
  · have happly := b.apply_qualified hq
    exact ⟨by rw [happly], by rw [happly, run_group_artifact g hq.2.2.2.2]⟩
  · refine ⟨fun id => h.colon_notMem, fun g a hq => ⟨?_, h.group hq⟩, fun c hc => ?_⟩
    · obtain ⟨_, _, _, -, hq, -⟩ := hq
      exact hq.2.1
    · obtain ⟨-, -, hsame⟩ := build_eq_ok_iff.1 hc
      rw [hsame]
      exact ⟨fun id => h.colon_notMem, fun g a => h.group⟩

/-- A group that is replaced by that of an id, and an id with three parts that is refused later. -/
def regrouped : Builder :=
  [Call.groupId (some "own"), .artifactId "zoo:resnet", .artifactId "a:b:c"].foldl
    (fun b c => (b.apply c).builder)
    { inputClass := some (.builtin "str"), outputClass := some (.builtin "int") }

theorem artifactId_laws_regrouped :
    regrouped.apply (.artifactId "bert") = ⟨{ regrouped with artifactId := some "bert" }, none, []⟩ ∧
      regrouped.apply (.artifactId "a:b")
        = regrouped.run [.groupId (some "a"), .artifactId "b"] ∧
      regrouped.apply (.artifactId "a:b:c") = ⟨regrouped, some (.artifactId "a:b:c"), []⟩ ∧
      regrouped.groupId = some "zoo" ∧
      ∃ c, regrouped.build = .ok c ∧ c.groupId = some "zoo" ∧ c.artifactId = some "resnet" ∧
        ':' ∉ "resnet".toList := by
  obtain ⟨hcall, hlife⟩ := artifactId_laws
  have hqualified : ArtifactName.IsQualified "zoo:resnet" "zoo" "resnet" := by decide +kernel
  have hrefused : ∀ g a, ¬ArtifactName.IsQualified "a:b:c" g a := by
    intro g a hq
    have hname := ArtifactName.of_eq_qualified hq
    rw [show ArtifactName.of "a:b:c" = .malformed by decide +kernel] at hname
    cases hname
  have hlived : regrouped.Lived
      [.groupId (some "own"), .artifactId "zoo:resnet", .artifactId "a:b:c"] :=
    (((Lived.create (some (.builtin "str")) (some (.builtin "int"))).call (.groupId (some "own"))).call
      (.artifactId "zoo:resnet")).call (.artifactId "a:b:c")
  -- the id that is refused gives no artifact, so the one in front of it is the last
  have hlast : Call.QualifiedLast
      [.groupId (some "own"), .artifactId "zoo:resnet", .artifactId "a:b:c"] "zoo" "resnet" := by
    refine ⟨[.groupId (some "own")], "zoo:resnet", [.artifactId "a:b:c"], rfl, hqualified, ?_, ?_⟩
    · intro c hc
      rw [List.mem_singleton.1 hc]
      exact Call.not_givesArtifact (by decide) hrefused
    · simp
  obtain ⟨-, hgroup, hbuilt⟩ := hlife regrouped _ hlived
  let c : Criteria :=
    { regrouped.toSelection with inputClass := .builtin "str", outputClass := .builtin "int" }
  have hc : regrouped.build = .ok c := build_eq_ok_iff.2 ⟨rfl, rfl, rfl⟩
  have hid : c.artifactId = some "resnet" := by decide +kernel
  refine ⟨(hcall _ _).1 (by decide), ?_, (hcall _ _).2.2 (by decide) hrefused,
    (hgroup _ _ hlast).2, c, hc, (hbuilt c hc).2 _ _ hlast, hid, (hbuilt c hc).1 _ hid⟩
  exact ((hcall _ _).2.1 "a" "b" (by decide +kernel)).2

end Builder

end ModelSearch
