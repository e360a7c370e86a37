import ModelSearch.Proofs.Criteria.ArtifactName

/-!
# New types for a builder

New types keep what does not depend on types and drop the translator, the artifact and the zoo.  So
every call carries over to the builder of the new types as at most one call: a call that does not
depend on types as itself, a qualified id as the group that it names, and every other as none.

    (b.apply c).builder.retyped i o = ((b.retyped i o).run c.carried.toList).builder
-/

namespace ModelSearch

/-! ## Calls and types -/

/-- The calls that set what does not depend on types. -/
def Call.TypeIndependent : Call → Prop
  | .application _ | .engine _ | .device _ | .groupId _ | .block _ | .modelName _ | .progress _
  | .filters _ | .filter _ _ | .arguments _ | .argument _ _ | .options _ | .option _ _ => True
  | .translator _ | .modelZoo _ | .modelUrls _ _ | .artifactId _ => False

/-- The calls that set only what was chosen for the types. -/
def Call.TypeBound : Call → Prop
  | .translator _ | .modelZoo _ | .modelUrls _ _ => True
  | .artifactId text => ':' ∉ text.toList
  | _ => False

/-- What a call means for a builder of other types. -/
def Call.carried : Call → Option Call
  | .translator _ | .modelZoo _ | .modelUrls _ _ => none
  | .artifactId text =>
    match ArtifactName.of text with
    | .qualified g _ => some (.groupId (some g))
    | .bare _ | .malformed => none
  | c => some c

theorem Call.carried_of_typeIndependent {c : Call} (h : c.TypeIndependent) :
    c.carried = some c := by
  cases c <;> first | rfl | exact h.elim

theorem Call.carried_of_typeBound {c : Call} (h : c.TypeBound) : c.carried = none := by
  cases c with
  | artifactId text =>
    rw [carried, ArtifactName.of_eq_bare h]
  | translator | modelZoo | modelUrls => rfl
  | _ => exact h.elim

theorem Call.carried_of_isQualified {text g a : String} (h : ArtifactName.IsQualified text g a) :
    (Call.artifactId text).carried = some (.groupId (some g)) := by
  rw [carried, ArtifactName.of_eq_qualified h]

namespace Builder

variable {b : Builder}

/-! ## Runs in parts -/

theorem run_cons_of_ok {c : Call} (h : (b.apply c).fault = none) (cs : List Call) :
    (b.run (c :: cs)).builder = ((b.apply c).builder.run cs).builder ∧
      (b.run (c :: cs)).fault = ((b.apply c).builder.run cs).fault := by
  rw [run]
  simp only [h, and_self]

theorem run_singleton_of_ok {c : Call} (h : (b.apply c).fault = none) :
    (b.run [c]).fault = none ∧ (b.apply c).builder = (b.run [c]).builder :=
  ⟨(run_cons_of_ok h []).2, (run_cons_of_ok h []).1.symm⟩

theorem apply_of_run_cons {c : Call} {cs : List Call} (h : (b.run (c :: cs)).fault = none) :
    (b.apply c).fault = none := by
  rw [run] at h
  cases hc : (b.apply c).fault with
  | none => rfl
  | some f =>
    simp only [hc] at h
    cases h

theorem run_append_of_ok {cs : List Call} (h : (b.run cs).fault = none) (ds : List Call) :
    (b.run (cs ++ ds)).builder = ((b.run cs).builder.run ds).builder ∧
      (b.run (cs ++ ds)).fault = ((b.run cs).builder.run ds).fault := by
  induction cs generalizing b with
  | nil => exact ⟨rfl, rfl⟩
  | cons c cs ih =>
    have hc := apply_of_run_cons h
    obtain ⟨hbuilder, hfault⟩ := run_cons_of_ok hc cs
    obtain ⟨hbuilder', hfault'⟩ := run_cons_of_ok hc (cs ++ ds)
    rw [hfault] at h
    rw [List.cons_append, hbuilder, hbuilder', hfault']
    exact ih h

/-! ## One call -/

/-- New types after a call are new types and then what the call means for them, which does not fail
if the call did not. -/
theorem retyped_apply {c : Call} (h : (b.apply c).fault = none) (i o : Option ModelType) :
    ((b.retyped i o).run c.carried.toList).fault = none ∧
      (b.apply c).builder.retyped i o = ((b.retyped i o).run c.carried.toList).builder := by
  cases c with
  | artifactId text =>
    rw [apply, setArtifactId] at h ⊢
    rw [Call.carried]
    cases hname : ArtifactName.of text with
    | bare id => exact ⟨rfl, rfl⟩
    | qualified g a => exact ⟨rfl, rfl⟩
    | malformed =>
      rw [hname] at h
      cases h
  | modelUrls mark text =>
    rw [apply, setModelUrls]
    cases Zoo.ofUrls mark text <;> exact ⟨rfl, rfl⟩
  | filter k v | argument k v | option k v =>
    -- The new builder has the same mappings, so the key is refused there if it is refused here.
    exact run_singleton_of_ok (b := b.retyped i o) h
  | _ => exact ⟨rfl, rfl⟩

/-! ## Main results -/

/-- New types after calls that all succeed are new types and then what the calls mean for them. -/
theorem retyped_run {cs : List Call} (h : (b.run cs).fault = none) (i o : Option ModelType) :
    let carried := (b.retyped i o).run (cs.filterMap Call.carried)
    carried.fault = none ∧ (b.run cs).builder.retyped i o = carried.builder := by
  intro carried
  induction cs generalizing b with
  | nil => exact ⟨rfl, rfl⟩
  | cons c cs ih =>
    have hc := apply_of_run_cons h
    obtain ⟨hbuilder, hfault⟩ := run_cons_of_ok hc cs
    rw [hfault] at h
    obtain ⟨hcarried, hretyped⟩ := retyped_apply hc i o
    obtain ⟨hrest, hrest'⟩ := ih h
    rw [hretyped] at hrest hrest'
    obtain ⟨hbuilder', hfault'⟩ := run_append_of_ok hcarried (cs.filterMap Call.carried)
    have hcalls : (c :: cs).filterMap Call.carried
        = c.carried.toList ++ cs.filterMap Call.carried := by
      rw [List.filterMap_cons]
      cases c.carried <;> rfl
    simp only [carried, hcalls]
    rw [hbuilder, hbuilder', hfault']
    exact ⟨hrest, hrest'⟩

/-- The laws of new types.  A call that does not depend on types can come before them or after, one
that sets only what was chosen for types is lost in them, a qualified id leaves its group, and of
types one after the other the last are left. -/
theorem retyped_laws (b : Builder) (i o : Option ModelType) :
    (∀ c : Call, c.TypeIndependent → (b.apply c).fault = none →
      ((b.retyped i o).apply c).fault = none ∧
        (b.apply c).builder.retyped i o = ((b.retyped i o).apply c).builder) ∧
    (∀ c : Call, c.TypeBound → (b.apply c).fault = none →
      (b.apply c).builder.retyped i o = b.retyped i o) ∧
    (∀ text g a, ArtifactName.IsQualified text g a → (b.apply (.artifactId text)).fault = none ∧
      (b.apply (.artifactId text)).builder.retyped i o
        = (b.apply (.groupId (some g))).builder.retyped i o) ∧
    ∀ j q, (b.retyped j q).retyped i o = b.retyped i o := by
  refine ⟨fun c hc h => ?_, fun c hc h => ?_, fun text g a hq => ?_, fun j q => rfl⟩
  · obtain ⟨hfault, hretyped⟩ := retyped_apply h i o
    rw [Call.carried_of_typeIndependent hc, Option.toList_some] at hfault hretyped
    have happly := apply_of_run_cons hfault
    exact ⟨happly, hretyped.trans (run_cons_of_ok happly []).1⟩
  · obtain ⟨-, hretyped⟩ := retyped_apply h i o
    rw [Call.carried_of_typeBound hc] at hretyped
    exact hretyped
  · have h : (b.apply (.artifactId text)).fault = none := by
      rw [apply, setArtifactId, ArtifactName.of_eq_qualified hq]
    obtain ⟨-, hretyped⟩ := retyped_apply h i o
    rw [Call.carried_of_isQualified hq] at hretyped
    exact ⟨h, hretyped⟩

theorem retyped_laws_questions :
    let b : Builder :=
      { inputClass := some (.builtin "str"), engine := some "PyTorch", artifactId := some "bert",
        filters := some [(.text "k", .text "v")] }
    let child : Builder :=
      { inputClass := some (.builtin "bytes"), outputClass := some (.builtin "dict"),
        engine := some "PyTorch", filters := some [(.text "k", .text "v")] }
    let retyped := fun b : Builder => b.retyped (some (.builtin "bytes")) (some (.builtin "dict"))
    retyped (b.apply (.filter (.text "k") (.text "w"))).builder
        = { child with filters := some [(.text "k", .text "w")] } ∧
      retyped (b.apply (.artifactId "roberta")).builder = child ∧
      retyped (b.apply (.artifactId "ai.djl.nlp:roberta")).builder
        = { child with groupId := some "ai.djl.nlp" } := by
  intro b child retyped
  obtain ⟨hindependent, hbound, hqualified, -⟩ :=
    retyped_laws b (some (.builtin "bytes")) (some (.builtin "dict"))
  have hcolon : ':' ∉ "roberta".toList := by decide
  have hname : ArtifactName.IsQualified "ai.djl.nlp:roberta" "ai.djl.nlp" "roberta" :=
    ⟨by decide, by decide, by decide, by decide, hcolon⟩
  have hset := hindependent (.filter (.text "k") (.text "w")) trivial rfl
  have hlost := hbound (.artifactId "roberta") hcolon (by decide +kernel)
  have hleft := hqualified _ _ _ hname
  exact ⟨hset.2.trans rfl, hlost.trans rfl, hleft.2.trans rfl⟩

end Builder

end ModelSearch
