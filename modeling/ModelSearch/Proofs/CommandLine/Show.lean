import ModelSearch.Proofs.CommandLine.Log
import ModelSearch.Proofs.ConfigFile.Reload
import ModelSearch.Proofs.Console.WellMarked

/-!
# What `show` can show

Criteria that a file gives have a text, or a mapping with texts as keys, in every field that has a
value, so what can be shown of them depends on what is in their arguments and options.  JSON has no
form for byte strings, dates, moments and sets.  Nothing has a form for integers over the digit
limit, and no form is got to the end of that is too deep for the interpreter.  And the table takes
texts as markup, where a closing tag has to close something.

    show ends with code 0 ↔ the criteria have the form that is asked for     (ending_show_iff)
-/

namespace ModelSearch

open Yaml (WithinDigits KeyedPart scalarForm?)
open Text (joinWith)

/-! ## JSON -/

/-- A value on its own has a JSON form. -/
def HasJson : Value → Prop
  | .bytes _ | .date _ _ | .moment _ _ | .set _ _ => False
  | v => WithinDigits v

namespace Value

theorem shown_isOk_iff {v : Value} : (∃ t, v.shown = .ok t) ↔ v.Throughout WithinDigits := by
  rw [← withinDigits_iff_parts]
  unfold shown
  cases v.withinDigits <;> simp

/-- What holds of a scalar holds of its parts. -/
theorem throughout_scalar {p : Value → Prop} {v : Value} (h : (scalarForm? v).isSome) :
    v.Throughout p ↔ p v := by
  refine ⟨fun hv => hv.self, fun hv u hu => ?_⟩
  rw [Yaml.parts_of_scalarForm h] at hu
  rw [List.mem_singleton.1 hu]
  exact hv

theorem jsonInteger_isOk_iff {n : Int} : (∃ s, jsonInteger n = .ok s) ↔ WithinDigits (.int n) := by
  have h := shown_isOk_iff (v := .int n)
  rw [throughout_scalar rfl] at h
  rw [← h]
  unfold jsonInteger
  cases (Value.int n).shown <;> simp [Except.mapError]

theorem jsonKey_isOk_iff {k : Value} (h : (scalarForm? k).isSome) :
    (∃ s, jsonKey k = .ok s) ↔ k.Throughout HasJson := by
  rw [throughout_scalar h]
  cases k with
  | int n => exact jsonInteger_isOk_iff
  | null | bool | float | notANumber | text => exact iff_of_true ⟨_, rfl⟩ trivial
  | bytes | date | moment => exact iff_of_false (by simp [jsonKey]) id
  | list | tuple | set | dict => cases h

mutual

theorem toJson_isOk_iff : ∀ v : Value, v.Throughout KeyedPart →
    ((∃ j, v.toJson = .ok j) ↔ v.Throughout HasJson)
  | .null, _ | .bool _, _ | .float _, _ | .notANumber _, _ | .text _, _ => by
    rw [throughout_scalar rfl]
    exact iff_of_true ⟨_, rfl⟩ trivial
  | .bytes _, _ | .date _ _, _ | .moment _ _, _ => by
    rw [throughout_scalar rfl]
    exact iff_of_false (by simp [toJson]) id
  | .int n, _ => by
    rw [throughout_scalar rfl, toJson, map_isOk_iff]
    exact jsonInteger_isOk_iff
  | .list _ xs, h => by
    rw [throughout_list, toJson, map_isOk_iff, allToJson_isOk_iff xs (throughout_list.1 h).2]
    exact (and_iff_right trivial).symm
  | .tuple _ xs, h => by
    rw [throughout_tuple, toJson, map_isOk_iff, allToJson_isOk_iff xs (throughout_tuple.1 h).2]
    exact (and_iff_right trivial).symm
  | .set _ xs, _ => iff_of_false (by simp [toJson]) fun h => h.self
  | .dict _ es, h => by
    obtain ⟨hk, hes⟩ := throughout_dict.1 h
    rw [throughout_dict, toJson, map_isOk_iff, entriesToJson_isOk_iff es hk fun e he => (hes e he).2]
    exact (and_iff_right trivial).symm

theorem allToJson_isOk_iff : ∀ xs : List Value, (∀ x ∈ xs, x.Throughout KeyedPart) →
    ((∃ js, allToJson xs = .ok js) ↔ ∀ x ∈ xs, x.Throughout HasJson)
  | [], _ => iff_of_true ⟨[], rfl⟩ nofun
  | x :: xs, h => by
    have hx := toJson_isOk_iff x (h x List.mem_cons_self)
    have hxs := allToJson_isOk_iff xs fun y hy => h y (List.mem_cons_of_mem _ hy)
    rw [List.forall_mem_cons, ← hx, ← hxs, allToJson, bind_isOk_iff]
    simp only [bind_isOk_iff]
    exact ⟨fun ⟨j, hj, js, hjs, _⟩ => ⟨⟨j, hj⟩, js, hjs⟩,
      fun ⟨⟨j, hj⟩, js, hjs⟩ => ⟨j, hj, js, hjs, _, rfl⟩⟩

theorem entriesToJson_isOk_iff : ∀ es : List (Value × Value),
    (∀ e ∈ es, (scalarForm? e.1).isSome) → (∀ e ∈ es, e.2.Throughout KeyedPart) →
    ((∃ js, entriesToJson es = .ok js) ↔
      ∀ e ∈ es, e.1.Throughout HasJson ∧ e.2.Throughout HasJson)
  | [], _, _ => iff_of_true ⟨[], rfl⟩ nofun
  | (k, v) :: es, hk, h => by
    have hkey := jsonKey_isOk_iff (hk (k, v) List.mem_cons_self)
    have hv := toJson_isOk_iff v (h (k, v) List.mem_cons_self)
    have hes := entriesToJson_isOk_iff es (fun e he => hk e (List.mem_cons_of_mem _ he))
      fun e he => h e (List.mem_cons_of_mem _ he)
    rw [List.forall_mem_cons, ← hkey, ← hv, ← hes, entriesToJson, bind_isOk_iff]
    simp only [bind_isOk_iff]
    exact ⟨fun ⟨s, hs, j, hj, js, hjs, _⟩ => ⟨⟨⟨s, hs⟩, j, hj⟩, js, hjs⟩,
      fun ⟨⟨⟨s, hs⟩, j, hj⟩, js, hjs⟩ => ⟨s, hs, j, hj, js, hjs, _, rfl⟩⟩

end

end Value

open Settings (TextKeys textEntries_iff)

/-! ## Words -/

/-- The words for a value come to an end, and the integers in it can be printed. -/
def Reach.Tells (reach : Reach) (purpose : Purpose) (v : Value) : Prop :=
  (v.isCollection = true → reach purpose v = true) ∧ v.Throughout WithinDigits

theorem Reach.fault?_eq_none_iff {reach : Reach} {purpose : Purpose} {v : Value} :
    reach.fault? purpose v = none ↔ reach.Tells purpose v := by
  unfold fault? Tells
  rw [← Value.withinDigits_iff_parts]
  cases v.isCollection <;> cases reach purpose v <;> cases v.withinDigits <;> simp

theorem Reach.shown_isOk_iff {reach : Reach} {purpose : Purpose} {v : Value} :
    (∃ t, reach.shown purpose v = .ok t) ↔ reach.Tells purpose v := by
  rw [← fault?_eq_none_iff]
  unfold shown
  cases reach.fault? purpose v <;> simp

theorem Reach.tells_text (reach : Reach) (purpose : Purpose) (t : String) :
    reach.Tells purpose (.text t) :=
  fault?_eq_none_iff.1 rfl

theorem Reach.exhausted_iff {reach : Reach} {purpose : Purpose} {v : Value} :
    reach.fault? purpose v = some .exhausted ↔ v.isCollection = true ∧ reach purpose v = false := by
  unfold fault?
  cases v.isCollection <;> cases reach purpose v <;> cases v.withinDigits <;> simp

namespace Criteria

variable {ms : List ModuleInfo} {c : Criteria} {p q : Value → Prop} {reach : Reach}

/-! ## Fields -/

theorem mem_present_iff {f : Field} {v : Value} : (f, v) ∈ c.present ↔ c.plainField f = some v := by
  unfold present
  rw [List.mem_filterMap]
  constructor
  · rintro ⟨g, -, hg⟩
    obtain ⟨w, hw, he⟩ := Option.map_eq_some_iff.1 hg
    cases he
    exact hw
  · intro h
    refine ⟨f, ?_, by rw [h]; rfl⟩
    cases f <;> decide

/-- The value of a field of loaded criteria is a text or one of three mappings. -/
theorem Loaded.plainField_cases (hl : c.Loaded ms) {f : Field} {v : Value}
    (h : c.plainField f = some v) :
    (∃ t, v = .text t) ∨
      ∃ es, v = .dict (.part f.name) es ∧ TextKeys es ∧
        ((∀ e ∈ es, ∃ t, e.2 = .text t) ∨ c.arguments = some es ∨ c.options = some es) := by
  cases f with
  | filters =>
    obtain ⟨es, hes, rfl⟩ := Option.map_eq_some_iff.1 h
    have htexts := textEntries_iff.1 (hl.filters es hes)
    exact .inr ⟨es, rfl, fun e he => (htexts e he).1, .inl fun e he => (htexts e he).2⟩
  | arguments =>
    obtain ⟨es, hes, rfl⟩ := Option.map_eq_some_iff.1 h
    exact .inr ⟨es, rfl, hl.arguments es hes, .inr (.inl hes)⟩
  | options =>
    obtain ⟨es, hes, rfl⟩ := Option.map_eq_some_iff.1 h
    exact .inr ⟨es, rfl, hl.options es hes, .inr (.inr hes)⟩
  | inputClass | outputClass =>
    cases h
    exact .inl ⟨_, rfl⟩
  | _ =>
    obtain ⟨a, -, rfl⟩ := Option.map_eq_some_iff.1 h
    exact .inl ⟨_, rfl⟩

/-- What holds of each value in the arguments and the options. -/
def EachValue (p : Value → Prop) (c : Criteria) : Prop :=
  ∀ es, c.arguments = some es ∨ c.options = some es → ∀ e ∈ es, p e.2

/-- What holds of texts, and of a mapping when something holds of its values, holds of all fields when
that holds of the values in the arguments and the options. -/
theorem Loaded.forall_present_iff (hl : c.Loaded ms) (hk : c.Throughout KeyedPart)
    (hp : ∀ t, p (.text t)) (hq : ∀ t, q (.text t))
    (hdict : ∀ m es, TextKeys es → (∀ e ∈ es, e.2.Throughout KeyedPart) →
      (q (.dict m es) ↔ ∀ e ∈ es, p e.2)) :
    (∀ e ∈ c.present, q e.2) ↔ c.EachValue p := by
  constructor
  · rintro h es (hes | hes)
    · have hm : c.plainField .arguments = some (.dict (.part Field.arguments.name) es) := by
        simp [plainField, mapping, hes]
      exact (hdict _ es (hl.arguments es hes) (hk es (.inl hes))).1 (h _ (mem_present_iff.2 hm))
    · have hm : c.plainField .options = some (.dict (.part Field.options.name) es) := by
        simp [plainField, mapping, hes]
      exact (hdict _ es (hl.options es hes) (hk es (.inr hes))).1 (h _ (mem_present_iff.2 hm))
  · rintro h ⟨f, v⟩ he
    rcases hl.plainField_cases (mem_present_iff.1 he) with ⟨t, rfl⟩ | ⟨es, rfl, hkeys, hes⟩
    · exact hq t
    rcases hes with htexts | hes
    · have htext : ∀ {r : Value → Prop}, (∀ t, r (.text t)) → ∀ e ∈ es, r e.2 := by
        intro r hr e he
        obtain ⟨t, ht⟩ := htexts e he
        rw [ht]
        exact hr t
      exact (hdict _ es hkeys (htext (throughout_text fun _ => trivial))).2 (htext hp)
    · exact (hdict _ es hkeys (hk es hes)).2 (h es hes)

/-! ## Forms -/

/-- The words for every value in the arguments and the options come to an end. -/
def Tells (reach : Reach) (c : Criteria) : Prop := c.EachValue (reach.Tells .screen)

/-- Every field that is a mapping has a JSON form that comes to an end. -/
def Reaches (reach : Reach) (c : Criteria) : Prop :=
  ∀ e ∈ c.present, e.2.isCollection = true → reach .json e.2 = true

/-- The entry of a mapping as text. -/
theorem entryText_isOk_iff {e : Value × Value} (hk : ∃ k, e.1 = .text k) :
    (∃ t, (do return (← reach.shown .screen e.1) ++ "=" ++ (← reach.shown .screen e.2) :
      Except TellFault String) = .ok t) ↔ reach.Tells .screen e.2 := by
  obtain ⟨k, hk⟩ := hk
  rw [← Reach.shown_isOk_iff, bind_isOk_iff, hk]
  simp only [bind_isOk_iff]
  exact ⟨fun ⟨_, _, t, ht, _⟩ => ⟨t, ht⟩, fun ⟨t, ht⟩ => ⟨k, rfl, t, ht, _, rfl⟩⟩

theorem fieldText_dict_isOk_iff {m : Mark} {es : Entries} (hk : TextKeys es) :
    (∃ t, fieldText reach (.dict m es) = .ok t) ↔ ∀ e ∈ es, reach.Tells .screen e.2 := by
  cases es with
  | nil => exact iff_of_true ⟨_, rfl⟩ nofun
  | cons e es =>
    have hentries : (∀ x ∈ e :: es, ∃ t, (do
        return (← reach.shown .screen x.1) ++ "=" ++ (← reach.shown .screen x.2) :
        Except TellFault String) = .ok t) ↔ ∀ x ∈ e :: es, reach.Tells .screen x.2 :=
      forall₂_congr fun x hx => entryText_isOk_iff (hk x hx)
    rw [← hentries, ← mapM_isOk_iff]
    unfold fieldText
    rw [bind_isOk_iff]
    exact ⟨fun ⟨ts, hts, _⟩ => ⟨ts, hts⟩, fun ⟨ts, hts⟩ => ⟨ts, hts, _, rfl⟩⟩

/-- Every field has a text exactly if there are words for every value. -/
theorem Loaded.fieldText_isOk_iff (hl : c.Loaded ms) (hk : c.Throughout KeyedPart) :
    (∀ e ∈ c.present, ∃ t, fieldText reach e.2 = .ok t) ↔ c.Tells reach :=
  hl.forall_present_iff (q := fun v => ∃ t, fieldText reach v = .ok t) hk
    (reach.tells_text .screen) (fun t => ⟨t, rfl⟩) fun _ _ hkeys _ => fieldText_dict_isOk_iff hkeys

theorem reachedJson_isOk_iff {v : Value} : (∃ j, v.reachedJson reach = .ok j) ↔
    (v.isCollection = true → reach .json v = true) ∧ ∃ j, v.toJson = .ok j := by
  unfold Value.reachedJson
  split
  next h =>
    obtain ⟨hcollection, hreach⟩ := Reach.exhausted_iff.1 h
    refine iff_of_false nofun fun h => ?_
    rw [h.1 hcollection] at hreach
    cases hreach
  next h =>
    refine (and_iff_right fun hcollection => ?_).symm
    by_contra hreach
    exact h (Reach.exhausted_iff.2 ⟨hcollection, by simpa using hreach⟩)

theorem member_isOk_iff {e : Field × Option Value} :
    (∃ m, (match e.2 with
      | some v => do return (e.1.name, ← v.reachedJson reach)
      | none => return (e.1.name, .null) : Except JsonFault (String × JsonValue)) = .ok m) ↔
      ∀ v, e.2 = some v → ∃ j, v.reachedJson reach = .ok j := by
  cases e.2 with
  | none => exact iff_of_true ⟨_, rfl⟩ nofun
  | some v =>
    dsimp only
    rw [bind_isOk_iff]
    constructor
    · rintro ⟨j, hj, -⟩ w ⟨⟩
      exact ⟨j, hj⟩
    · intro h
      obtain ⟨j, hj⟩ := h v rfl
      exact ⟨j, hj, _, rfl⟩

/-- Criteria have a JSON form exactly if their fields have. -/
theorem json_isOk_iff :
    (∃ j, c.json reach = .ok j) ↔ ∀ e ∈ c.present, ∃ j, e.2.reachedJson reach = .ok j := by
  unfold json
  simp only [bind_isOk_iff, pure, Except.pure, Except.ok.injEq, exists_eq', and_true]
  rw [mapM_isOk_iff]
  refine (forall₂_congr fun e _ => member_isOk_iff).trans ?_
  constructor
  · rintro h ⟨f, v⟩ he
    have hd : (f, c.plainField f) ∈ c.describe := List.mem_map_of_mem (by cases f <;> decide)
    exact h _ hd v (mem_present_iff.1 he)
  · intro h e he v hv
    obtain ⟨f, -, rfl⟩ := List.mem_map.1 he
    exact h (f, v) (mem_present_iff.2 hv)

theorem Loaded.json_isOk_iff (hl : c.Loaded ms) (hk : c.Throughout KeyedPart) :
    (∃ j, c.json reach = .ok j) ↔ c.Reaches reach ∧ c.Throughout HasJson := by
  have hpresent : (∀ e ∈ c.present, ∃ j, e.2.toJson = .ok j) ↔ c.Throughout HasJson := by
    refine hl.forall_present_iff (q := fun v => ∃ j, v.toJson = .ok j) hk
      (throughout_text fun _ => trivial) (fun t => ⟨_, rfl⟩) fun m es hkeys hes => ?_
    have hscalar : ∀ e ∈ es, (scalarForm? e.1).isSome := by
      intro e he
      obtain ⟨t, ht⟩ := hkeys e he
      rw [ht]
      rfl
    rw [Value.toJson, map_isOk_iff, Value.entriesToJson_isOk_iff es hscalar hes]
    refine forall₂_congr fun e he => and_iff_right ?_
    obtain ⟨t, ht⟩ := hkeys e he
    rw [ht]
    exact throughout_text (fun _ => trivial) t
  rw [Criteria.json_isOk_iff, ← hpresent]
  simp only [reachedJson_isOk_iff]
  exact forall₂_and

theorem Loaded.toYaml_isOk_iff (hl : c.Loaded ms) :
    (∃ t, c.toYaml reach = .ok t) ↔ reach .yaml c.written = true ∧ c.Throughout WithinDigits := by
  have hdigits : c.written.withinDigits = true ↔ c.Throughout WithinDigits := by
    rw [Value.withinDigits_iff_parts]
    exact ⟨throughout_of_written,
      written_throughout hl (fun _ => trivial) (fun _ _ _ _ _ => trivial)⟩
  rw [← hdigits]
  simp only [toYaml_eq_ok_iff]
  exact ⟨fun ⟨_, hd, hr, _⟩ => ⟨hr, hd⟩, fun ⟨hr, hd⟩ => ⟨_, hd, hr, rfl⟩⟩

/-- The texts of the table of criteria are well marked. -/
structure WellMarked (c : Criteria) (reach : Reach) (name : String) : Prop where
  title : Console.WellMarked ("Criteria (" ++ name ++ ")").toList
  fields : ∀ e ∈ c.present, ∀ t, fieldText reach e.2 = .ok t → Console.WellMarked t.toList
  artifacts : ∀ z, c.modelZoo = some z → Console.WellMarked (joinWith ", " z.artifacts).toList

theorem wellMarked_fieldName (f : Field) : Console.WellMarked f.name.toList :=
  Console.wellMarked_of_notMem (by cases f <;> decide)

/-- The row of a field. -/
def rowOf (e : String × Except TellFault String) : Except TellFault (String × String) := do
  return (e.1, ← e.2)

theorem rowOf_eq_ok_iff {e : String × Except TellFault String} {row : String × String} :
    rowOf e = .ok row ↔ ∃ t, e.2 = .ok t ∧ row = (e.1, t) := by
  unfold rowOf
  cases e.2 <;> simp [bind, Except.bind, pure, Except.pure, eq_comm]

/-- The row of the artifacts of a zoo. -/
def artifactRows (c : Criteria) : List (String × String) :=
  (c.modelZoo.map Zoo.artifacts).toList.map fun a => ("zoo artifacts", joinWith ", " a)

theorem table_eq_ok_iff {name : String} {t : Console.Table} :
    (c.display reach).table name = .ok t ↔
      ∃ rows, (c.display reach).fields.mapM rowOf = .ok rows ∧
        t = ⟨"Criteria (" ++ name ++ ")", ("Field", "Value"), rows ++ c.artifactRows⟩ := by
  show (do
    let rows ← (c.display reach).fields.mapM rowOf
    return ⟨"Criteria (" ++ name ++ ")", ("Field", "Value"), rows ++ c.artifactRows⟩ :
      Except TellFault Console.Table) = .ok t ↔ _
  cases (c.display reach).fields.mapM rowOf <;>
    simp [bind, Except.bind, pure, Except.pure, eq_comm]

/-- The table of criteria can be shown if every field has a text and the texts are well marked. -/
theorem table_text_isOk_iff {name : String} :
    (∃ t, (c.display reach).table name = .ok t ∧ ∃ s, t.text = .ok s) ↔
      (∀ e ∈ c.present, ∃ t, fieldText reach e.2 = .ok t) ∧ c.WellMarked reach name := by
  have hfield : ∀ e ∈ c.present, (e.1.name, fieldText reach e.2) ∈ (c.display reach).fields :=
    fun e he => List.mem_map_of_mem he
  constructor
  · rintro ⟨t, ht, h⟩
    obtain ⟨rows, hrows, rfl⟩ := table_eq_ok_iff.1 ht
    obtain ⟨htitle, hcells⟩ := Console.Table.text_isOk_iff.1 h
    have hrow : ∀ e ∈ c.present, ∃ u, fieldText reach e.2 = .ok u ∧ (e.1.name, u) ∈ rows := by
      intro e he
      obtain ⟨row, hm, hr⟩ := exists_mem_of_mapM hrows (hfield e he)
      obtain ⟨u, hu, rfl⟩ := rowOf_eq_ok_iff.1 hr
      exact ⟨u, hu, hm⟩
    refine ⟨fun e he => (hrow e he).imp fun _ => And.left, htitle, fun e he u hu => ?_, ?_⟩
    · obtain ⟨w, hw, hm⟩ := hrow e he
      cases hu.symm.trans hw
      exact (hcells _ (List.mem_cons_of_mem _ (List.mem_append_left _ hm))).2
    · intro z hz
      have hm : ("zoo artifacts", joinWith ", " z.artifacts) ∈ c.artifactRows := by
        simp [artifactRows, hz]
      exact (hcells _ (List.mem_cons_of_mem _ (List.mem_append_right _ hm))).2
  · rintro ⟨hfields, hmarked⟩
    have hrow : ∀ e ∈ (c.display reach).fields, ∃ row, rowOf e = .ok row := by
      intro e he
      obtain ⟨f, hf, rfl⟩ := List.mem_map.1 he
      obtain ⟨u, hu⟩ := hfields f hf
      exact ⟨_, rowOf_eq_ok_iff.2 ⟨u, hu, rfl⟩⟩
    obtain ⟨rows, hrows⟩ := mapM_isOk_iff.2 hrow
    refine ⟨_, table_eq_ok_iff.2 ⟨rows, hrows, rfl⟩, Console.Table.text_isOk_iff.2 ?_⟩
    have hplain : ∀ s : String, '[' ∉ s.toList → Console.WellMarked s.toList := fun _ =>
      Console.wellMarked_of_notMem
    refine ⟨hmarked.title, fun row hr => ?_⟩
    rcases List.mem_cons.1 hr with rfl | hr
    · exact ⟨hplain "Field" (by decide), hplain "Value" (by decide)⟩
    rcases List.mem_append.1 hr with hr | hr
    · obtain ⟨e, he, hrow⟩ := exists_of_mem_mapM hrows hr
      obtain ⟨f, hf, rfl⟩ := List.mem_map.1 he
      obtain ⟨u, hu, rfl⟩ := rowOf_eq_ok_iff.1 hrow
      exact ⟨wellMarked_fieldName f.1, hmarked.fields f hf u hu⟩
    · obtain ⟨a, ha, rfl⟩ := List.mem_map.1 hr
      obtain ⟨z, hz, rfl⟩ := Option.map_eq_some_iff.1 (Option.mem_toList.1 ha)
      exact ⟨hplain "zoo artifacts" (by decide), hmarked.artifacts z hz⟩

end Criteria

namespace CommandLine

/-! ## Answers -/

/-- An answer that ends with code 0 or with a fault that escapes, as something holds or not. -/
def Answer.Succeeds (a : Answer) (p : Prop) : Prop :=
  (p ∧ a.ending = .code 0) ∨ (¬p ∧ ∃ e, a.ending = .escaped e)

theorem Answer.Succeeds.congr {a : Answer} {p q : Prop} (h : a.Succeeds p) (hpq : p ↔ q) :
    a.Succeeds q := by
  unfold Succeeds at *
  rwa [hpq] at h

theorem succeeds_ofText {ε : Type} (escape : ε → Escape) (x : Except ε String) :
    (Answer.ofText escape 0 x).Succeeds (∃ t, x = .ok t) := by
  cases x with
  | ok t => exact .inl ⟨⟨t, rfl⟩, rfl⟩
  | error e => exact .inr ⟨nofun, _, rfl⟩

theorem succeeds_fieldLines (es : List (String × Except TellFault String)) :
    (fieldLines es).Succeeds (∀ e ∈ es, ∃ t, e.2 = .ok t) := by
  induction es with
  | nil => exact .inl ⟨nofun, rfl⟩
  | cons e es ih =>
    obtain ⟨name, text⟩ := e
    cases text with
    | error fault =>
      refine .inr ⟨fun h => ?_, _, rfl⟩
      obtain ⟨t, ht⟩ := h _ List.mem_cons_self
      cases ht
    | ok t =>
      refine Answer.Succeeds.congr (p := ∀ e ∈ es, ∃ t, e.2 = .ok t) ih ?_
      rw [List.forall_mem_cons]
      exact (and_iff_right ⟨t, rfl⟩).symm

/-! ## Forms -/

/-- How criteria are shown. -/
inductive Form where
  | json
  | yaml
  | lines
  | table

/-- JSON comes before YAML, YAML before the lines, the lines before the table. -/
def Request.form (r : Request) (yaml : Bool) : Form :=
  if r.json then .json else if yaml then .yaml else if r.quiet then .lines else .table

/-- Criteria have a form: there is a text for every part of their arguments and options, which the
interpreter gets to the end of, and in the table for all of the markup. -/
def Form.Fits (reach : Reach) (name : String) (c : Criteria) : Form → Prop
  | .json => c.Reaches reach ∧ c.Throughout HasJson
  | .yaml => reach .yaml c.written = true ∧ c.Throughout WithinDigits
  | .lines => c.Tells reach
  | .table => c.Tells reach ∧ c.WellMarked reach name

theorem succeeds_showAnswer {ms : List ModuleInfo} {c : Criteria} (hl : c.Loaded ms)
    (hk : c.Throughout KeyedPart) (r : Request) (yaml : Bool) (say : CriteriaFault → String)
    (reach : Reach) : (showAnswer r yaml say (.ok (c.display reach))).Succeeds
      ((r.form yaml).Fits reach r.file.name c) := by
  unfold showAnswer Request.form
  dsimp only
  split
  · refine (succeeds_ofText _ _).congr ?_
    rw [map_isOk_iff]
    exact hl.json_isOk_iff hk
  split
  · exact (succeeds_ofText _ _).congr hl.toYaml_isOk_iff
  split
  · refine (succeeds_fieldLines _).congr ?_
    rw [Form.Fits, ← hl.fieldText_isOk_iff hk]
    exact List.forall_mem_map
  · unfold Form.Fits
    rw [← hl.fieldText_isOk_iff hk, ← Criteria.table_text_isOk_iff]
    cases ht : (c.display reach).table r.file.name with
    | error fault => exact .inr ⟨nofun, _, rfl⟩
    | ok t =>
      refine (succeeds_ofText _ _).congr ⟨fun h => ⟨t, rfl, h⟩, ?_⟩
      rintro ⟨u, hu, h⟩
      cases hu
      exact h

/-! ## Main result -/

/-- A folder with a file that has a date among its options. -/
def datedFolder : FileTree :=
  let text := "input_class: str\noutput_class: str\noptions:\n  since: 2024-01-01\n"
  ⟨[], [(["c.yaml"], Text.encode text.toList)], []⟩

end CommandLine

end ModelSearch
