import ModelSearch.Proofs.Criteria.ArtifactName
import ModelSearch.Proofs.Value.Entries
import ModelSearch.Proofs.Zoo.Urls

/-!
# What holds of every builder

A builder starts empty but for its types and goes on by calls and by new types.  Whatever the calls
are, and whether they fail or not, no artifact id has a colon, every zoo is one that was made, and
mappings have distinct keys.

    b.Reachable → b.Sound       (Reachable.sound)
    c.Built → c.Sound           (Built.sound)
-/

namespace ModelSearch

/-- A zoo as the library makes them: from URLs, or from a listing. -/
inductive Zoo.Made : Zoo → Prop where
  | urls {mark : Mark} {text : String} {z : Zoo} : Zoo.ofUrls mark text = .ok z → Made z
  | listing (mark : Mark) (kind groupId : String) (loaders : List ModelLoader)
      (engines : List String) : Made (Zoo.ofListing mark kind groupId loaders engines)

/-- A call whose arguments are what a caller can have: mappings with distinct keys and zoos that
were made. -/
def Call.Proper : Call → Prop
  | .modelZoo z => ∀ w, z = some w → w.Made
  | .filters es | .arguments es | .options es => ∀ fs, es = some fs → fs.Distinct
  | _ => True

/-- A builder that calls and new types can lead to. -/
inductive Builder.Reachable : Builder → Prop where
  | create (input output : Option ModelType) :
      Reachable { inputClass := input, outputClass := output }
  | call {b : Builder} (c : Call) : Reachable b → c.Proper → Reachable (b.apply c).builder
  | retyped {b : Builder} (input output : Option ModelType) :
      Reachable b → Reachable (b.retyped input output)

/-- Criteria that such a builder builds. -/
def Criteria.Built (c : Criteria) : Prop := ∃ b : Builder, b.Reachable ∧ b.build = .ok c

/-- What holds of every selection. -/
structure Selection.Sound (s : Selection) : Prop where
  artifactId : ∀ id, s.artifactId = some id → ':' ∉ id.toList
  modelZoo : ∀ z, s.modelZoo = some z → z.Made
  filters : ∀ es, s.filters = some es → es.Distinct
  arguments : ∀ es, s.arguments = some es → es.Distinct
  options : ∀ es, s.options = some es → es.Distinct

theorem putEntry_distinct {es : Option Entries} (h : ∀ fs, es = some fs → fs.Distinct)
    (k v : Value) : (putEntry es k v).1.Distinct := by
  have hd : (es.getD []).Distinct := by
    cases es with
    | none => exact Entries.distinct_nil
    | some fs => exact h fs rfl
  unfold putEntry
  dsimp only
  split
  · exact hd
  · exact hd.assign k v

namespace Builder

theorem sound_setArtifactId {b : Builder} (h : b.Sound) (text : String) :
    (b.setArtifactId text).builder.Sound := by
  unfold setArtifactId
  rcases ArtifactName.of_cases text with ⟨hc, ho⟩ | ⟨g, a, hq, ho⟩ | ⟨-, -, ho⟩
  · rw [ho]
    exact { h with artifactId := fun id hid => by cases hid; exact hc }
  · rw [ho]
    exact { h with artifactId := fun id hid => by cases hid; exact hq.2.2.2.2 }
  · rw [ho]
    exact h

theorem sound_setModelUrls {b : Builder} (h : b.Sound) (mark : Mark) (text : String) :
    (b.setModelUrls mark text).builder.Sound := by
  unfold setModelUrls
  cases hz : Zoo.ofUrls mark text with
  | error f => exact h
  | ok z => exact { h with modelZoo := fun w hw => by cases hw; exact .urls hz }

theorem sound_apply {b : Builder} (h : b.Sound) {c : Call} (hc : c.Proper) :
    (b.apply c).builder.Sound := by
  cases c with
  | artifactId text => exact sound_setArtifactId h text
  | modelUrls mark text => exact sound_setModelUrls h mark text
  | modelZoo z => exact { h with modelZoo := hc }
  | filters es => exact { h with filters := hc }
  | arguments es => exact { h with arguments := hc }
  | options es => exact { h with options := hc }
  | filter k v =>
    exact { h with filters := fun es he => by cases he; exact putEntry_distinct h.filters k v }
  | argument k v =>
    exact { h with arguments := fun es he => by cases he; exact putEntry_distinct h.arguments k v }
  | option k v =>
    exact { h with options := fun es he => by cases he; exact putEntry_distinct h.options k v }
  | _ => exact { h with }

theorem Reachable.sound {b : Builder} (h : b.Reachable) : b.Sound := by
  induction h with
  | create input output =>
    constructor <;> intro x hx <;> cases hx
  | call c _ hc ih => exact sound_apply ih hc
  | retyped input output _ ih =>
    exact { ih with
      artifactId := fun id hid => by cases hid
      modelZoo := fun z hz => by cases hz }

theorem Reachable.run {b : Builder} (h : b.Reachable) {cs : List Call} (hc : ∀ c ∈ cs, c.Proper) :
    (b.run cs).builder.Reachable := by
  induction cs generalizing b with
  | nil => exact h
  | cons c cs ih =>
    have hb := h.call c (hc c List.mem_cons_self)
    unfold Builder.run
    dsimp only
    split
    · exact hb
    · exact ih hb fun d hd => hc d (List.mem_cons_of_mem _ hd)

end Builder

theorem Criteria.Built.sound {c : Criteria} (h : c.Built) : c.Sound := by
  obtain ⟨b, hb, hc⟩ := h
  have hs := hb.sound
  unfold Builder.build at hc
  split at hc
  · cases hc
    exact hs
  · cases hc

end ModelSearch
