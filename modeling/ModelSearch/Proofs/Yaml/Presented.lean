import ModelSearch.Proofs.Yaml.Present
import ModelSearch.Proofs.Yaml.Printed

/-!
# Values are presented as sound documents

The anchors of objects are names, the tags of values are short ones, and only bytes ask for a block,
which is made of lines.  So a mapping whose keys are scalars is presented as a sound document, and its
layout is read as the tokens of the document wherever that is legible.

    keys are scalars → present v is sound                                        (sound_present)
    present v is legible → tokens of its layout = tokens of present v            (tokens_present)
-/

namespace ModelSearch.Yaml

variable {again seen : List Mark} {v : Value} {tag : Tag} {text : String}

/-- The name of an anchor is a name. -/
theorem isName_anchorOf {mark : Mark} {a : String} (h : anchorOf again mark = some a) : IsName a := by
  obtain ⟨i, -, rfl⟩ := Option.map_eq_some_iff.1 h
  refine ⟨by simp, fun x hx => ?_⟩
  rw [String.toList_append, List.mem_append] at hx
  rcases hx with hx | hx
  · exact (Text.forall_of_all (by decide) : ∀ x ∈ "id".toList, isWordChar x = true) x hx
  · simp [isWordChar, (Text.allDigits_padded 3 (i + 1) x hx)]

/-- What a value is once its anchor is known to be a name. -/
def SoundBuild (build : Option String → List Mark → Doc × List Mark) : Prop :=
  ∀ anchor seen, (∀ a, anchor = some a → IsName a) → (build anchor seen).1.Sound

theorem sound_once {mark : Mark} {build : Option String → List Mark → Doc × List Mark}
    (h : SoundBuild build) : (once again mark seen build).1.Sound := by
  unfold once
  cases ha : anchorOf again mark with
  | none => exact h none seen nofun
  | some a =>
    dsimp only
    split
    · exact isName_anchorOf ha
    · refine h (some a) _ ?_
      rintro b ⟨⟩
      exact isName_anchorOf ha

/-! ## Scalars -/

/-- The document of a scalar under an anchor. -/
theorem sound_scalarDoc {anchor : Option String} (hv : scalarForm? v = some (tag, text))
    (ha : ∀ a, anchor = some a → IsName a) : (scalarDoc anchor tag text).Sound := by
  have htag : IsTag tag.short := by cases v <;> cases hv <;> decide
  refine ⟨⟨ha, htag⟩, fun himplied hnil => ?_, fun hblock => ?_⟩
  · have hempty : text = "" := String.toList_eq_nil_iff.1 hnil
    have hnull : implicitTag text = .null := by
      rw [hempty]
      decide +kernel
    have himplied : implicitTag text = tag := of_decide_eq_true himplied
    rw [hnull] at himplied
    subst himplied
    cases v <;> cases hv
    exact absurd hempty (by decide)
  · have hbinary : tag = .binary := of_decide_eq_true hblock
    subst hbinary
    cases v <;> cases hv
    rw [String.toList_ofList]
    exact blockText_base64Lines _

/-- A value that is written as a scalar is presented as one, or as an alias. -/
theorem isLeaf_docOf (h : (scalarForm? v).isSome) : (docOf again seen v).1.isLeaf = true := by
  have honce : ∀ (mark : Mark) (tag : Tag) (text : String),
      (once again mark seen fun a seen => (scalarDoc a tag text, seen)).1.isLeaf = true := by
    intro mark tag text
    unfold once
    dsimp only
    split
    · split <;> rfl
    · rfl
  cases v with
  | date k d => exact honce k .timestamp d.iso
  | moment k t => exact honce k .timestamp (t.iso " ")
  | list | tuple | set | dict => cases h
  | _ => rfl

/-! ## Collections -/

theorem sound_docsOf {xs : List Value} (h : ∀ x ∈ xs, ∀ seen, (docOf again seen x).1.Sound)
    (seen : List Mark) : SoundItems (docsOf again seen xs).1 := by
  induction xs generalizing seen with
  | nil => trivial
  | cons x xs ih =>
    exact ⟨h x List.mem_cons_self seen, ih (fun y hy => h y (List.mem_cons_of_mem _ hy)) _⟩

theorem sound_pairDocs {es : List (Value × Value)} (hk : ∀ e ∈ es, (scalarForm? e.1).isSome)
    (h : ∀ e ∈ es, ∀ seen, (docOf again seen e.1).1.Sound ∧ (docOf again seen e.2).1.Sound)
    (seen : List Mark) : SoundEntries (pairDocs again seen es).1 := by
  induction es generalizing seen with
  | nil => trivial
  | cons e es ih =>
    obtain ⟨k, v⟩ := e
    have he := h (k, v) List.mem_cons_self
    exact ⟨⟨isLeaf_docOf (hk (k, v) List.mem_cons_self), (he seen).1⟩, (he _).2,
      ih (fun e he => hk e (List.mem_cons_of_mem _ he)) (fun e he => h e (List.mem_cons_of_mem _ he)) _⟩

theorem sound_sequence {mark : Mark} {tag : String} {implied : Bool} {xs : List Value}
    (htag : IsTag tag) (h : ∀ x ∈ xs, ∀ seen, (docOf again seen x).1.Sound) :
    (once again mark seen fun a seen =>
      (.sequence a tag implied (docsOf again seen xs).1, (docsOf again seen xs).2)).1.Sound :=
  sound_once fun _ seen ha => ⟨⟨ha, htag⟩, sound_docsOf h seen⟩

theorem sound_mapping {mark : Mark} {tag : String} {implied : Bool} {es : List (Value × Value)}
    (htag : IsTag tag) (hk : ∀ e ∈ es, (scalarForm? e.1).isSome)
    (h : ∀ e ∈ es, ∀ seen, (docOf again seen e.1).1.Sound ∧ (docOf again seen e.2).1.Sound) :
    (once again mark seen fun a seen =>
      (.mapping a tag implied (pairDocs again seen es).1, (pairDocs again seen es).2)).1.Sound :=
  sound_once fun _ seen ha => ⟨⟨ha, htag⟩, sound_pairDocs hk h seen⟩

/-! ## Values -/

mutual

/-- A value whose keys are scalars is presented as a sound document. -/
theorem sound_docOf : ∀ v : Value, v.Throughout KeyedPart → ∀ seen, (docOf again seen v).1.Sound
  | .null, _, _ => sound_scalarDoc (v := .null) rfl nofun
  | .bool b, _, _ => sound_scalarDoc (v := .bool b) rfl nofun
  | .int n, _, _ => sound_scalarDoc (v := .int n) rfl nofun
  | .float x, _, _ => sound_scalarDoc (v := .float x) rfl nofun
  | .notANumber m, _, _ => sound_scalarDoc (v := .notANumber m) rfl nofun
  | .text s, _, _ => sound_scalarDoc (v := .text s) rfl nofun
  | .bytes bs, _, _ => sound_scalarDoc (v := .bytes bs) rfl nofun
  | .date k d, _, _ => sound_once fun _ _ ha => sound_scalarDoc (v := .date k d) rfl ha
  | .moment k t, _, _ => sound_once fun _ _ ha => sound_scalarDoc (v := .moment k t) rfl ha
  | .list _ xs, h, _ => sound_sequence (by decide) (sound_docOfAll xs (Value.throughout_list.1 h).2)
  | .tuple _ [], _, _ => ⟨⟨nofun, by decide⟩, trivial⟩
  | .tuple _ (y :: ys), h, _ =>
    sound_sequence (by decide) (sound_docOfAll (y :: ys) (Value.throughout_tuple.1 h).2)
  | .set k xs, h, seen => by
    obtain ⟨hkeys, hparts⟩ := Value.throughout_set.1 h
    have hnull : ∀ seen, (docOf again seen .null).1.Sound := fun _ =>
      sound_scalarDoc (v := .null) rfl nofun
    have hmembers : ∀ x ∈ xs, ∀ seen, (docOf again seen x).1.Sound := sound_docOfAll xs hparts
    rw [docOf_set]
    refine sound_mapping (by decide) (fun e he => ?_) fun e he seen => ?_
    · obtain ⟨x, hx, rfl⟩ := List.mem_map.1 he
      exact hkeys x hx
    · obtain ⟨x, hx, rfl⟩ := List.mem_map.1 he
      exact ⟨hmembers x hx seen, hnull seen⟩
  | .dict _ es, h, _ =>
    sound_mapping (by decide) (Value.throughout_dict.1 h).1
      (sound_docOfEntries es (Value.throughout_dict.1 h).2)

theorem sound_docOfAll : ∀ xs : List Value, (∀ x ∈ xs, x.Throughout KeyedPart) →
    ∀ x ∈ xs, ∀ seen, (docOf again seen x).1.Sound
  | [], _ => nofun
  | x :: xs, h => List.forall_mem_cons.2 ⟨sound_docOf x (h x List.mem_cons_self),
    sound_docOfAll xs fun y hy => h y (List.mem_cons_of_mem _ hy)⟩

theorem sound_docOfEntries : ∀ es : List (Value × Value),
    (∀ e ∈ es, e.1.Throughout KeyedPart ∧ e.2.Throughout KeyedPart) →
    ∀ e ∈ es, ∀ seen, (docOf again seen e.1).1.Sound ∧ (docOf again seen e.2).1.Sound
  | [], _ => nofun
  | (k, v) :: es, h => by
    obtain ⟨hk, hv⟩ := h (k, v) List.mem_cons_self
    exact List.forall_mem_cons.2 ⟨fun seen => ⟨sound_docOf k hk seen, sound_docOf v hv seen⟩,
      sound_docOfEntries es fun e he => h e (List.mem_cons_of_mem _ he)⟩

end

theorem sound_present (h : v.Throughout KeyedPart) : (present v).Sound := sound_docOf v h []

/-- The tokens of the layout of a mapping, where it is legible. -/
theorem tokens_present {mark : Mark} {es : List (Value × Value)} (hne : es ≠ [])
    (hkeyed : (Value.dict mark es).Throughout KeyedPart)
    (hlegible : legible .root 0 true (present (.dict mark es)) = true) :
    tokens (Text.unifyBreaks (layOut (present (.dict mark es))).toList)
      = docTokens .root true (present (.dict mark es)) := by
  have hsound := sound_present hkeyed
  have hmapping : ∃ anchor entries, present (.dict mark es) = .mapping anchor "!!map" true entries ∧
      entries ≠ [] := by
    obtain ⟨⟨k, v⟩, es, rfl⟩ := List.exists_cons_of_ne_nil hne
    unfold present docOf once
    cases anchorOf (markValue {} (.dict mark ((k, v) :: es))).again mark <;>
      exact ⟨_, _, rfl, List.cons_ne_nil _ _⟩
  obtain ⟨anchor, entries, hpresent, hentries⟩ := hmapping
  rw [hpresent] at hsound hlegible ⊢
  exact tokens_layOut hentries hsound hlegible

end ModelSearch.Yaml
