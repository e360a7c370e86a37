import Mathlib.Algebra.Ring.Int.Defs
import ModelSearch.Proofs.ConfigFile.Loaded
import ModelSearch.Proofs.Settings.Order

/-!
# Filters become texts

The filters of validated settings are texts under texts, whatever kinds of keys and values they were
given with.  Keys that are different as values can have one text: such entries fall together, the
key stands where its text came first and has the value that came last.  Apart from that nothing is
lost.

    shownEntries d = .ok d.texts            if d can be shown           (shownEntries_of_showable)
    the keys of assignAll [] d.texts = the texts of keys, each where it came first   (keys_ofTexts)
    (assignAll [] d.texts).find (.text k) = the last value of a key with that text   (find_ofTexts)
    what validation makes of filters                                            (validate_filters)
-/

namespace ModelSearch

/-! ## Assignments under texts -/

namespace Entries

/-- Keys and values as texts, entry by entry. -/
def texts (es : Entries) : Entries := es.map fun e => (.text e.1.plain, .text e.2.plain)

/-- The text of the value of the last entry whose key has the text `k`. -/
def lastShown (es : Entries) (k : String) : Option String :=
  ((es.filter fun e => e.1.plain = k).getLast?).map fun e => e.2.plain

theorem assignAll_concat (es more : Entries) (e : Value × Value) :
    es.assignAll (more ++ [e]) = (es.assignAll more).assign e.1 e.2 := by
  rw [assignAll, List.foldl_append]
  rfl

theorem find_assign_text (es : Entries) (k l : String) (v : Value) :
    (es.assign (.text k) v).find (.text l) = if l = k then some v else es.find (.text l) := by
  have htext : ∀ s t : String, (Value.text s).sameAs (.text t) = true ↔ s = t := by
    simp [Value.sameAs]
  induction es with
  | nil =>
    rw [assign, find_cons]
    simp only [htext]
  | cons e es ih =>
    unfold assign
    split
    next hk =>
      have he : e.1 = .text k := Value.text_sameAs_iff.1 hk
      rw [find_cons, find_cons]
      simp only [he, htext]
      split <;> rfl
    next hk =>
      rw [find_cons, find_cons, ih]
      by_cases hl : (Value.text l).sameAs e.1 = true
      · have hne : l ≠ k := by
          rintro rfl
          exact hk hl
        rw [if_pos hl, if_pos hl, if_neg hne]
      · rw [if_neg hl, if_neg hl]

theorem keys_assign_text {es : Entries} {ks : List String} (h : es.map (·.1) = ks.map .text)
    (k : String) (v : Value) :
    (es.assign (.text k) v).map (·.1) = (if k ∈ ks then ks else ks ++ [k]).map .text := by
  induction es generalizing ks with
  | nil =>
    obtain rfl : ks = [] := List.map_eq_nil_iff.1 h.symm
    rfl
  | cons e es ih =>
    obtain ⟨l, ls, rfl⟩ : ∃ l ls, ks = l :: ls :=
      List.exists_cons_of_ne_nil (by rintro rfl; cases h)
    obtain ⟨hl, hls⟩ := List.cons.inj h
    replace hl : e.1 = .text l := hl
    have hsame : (Value.text k).sameAs e.1 = true ↔ k = l := by
      rw [hl]
      simp [Value.sameAs]
    unfold assign
    by_cases hk : k = l
    · rw [if_pos (hsame.2 hk), if_pos (by simp [hk])]
      exact h
    · rw [if_neg fun hs => hk (hsame.1 hs), List.map_cons, ih hls, hl]
      by_cases hm : k ∈ ls <;> simp [hm, hk]

theorem eraseDups_concat (ks : List String) (k : String) :
    (ks ++ [k]).eraseDups = if k ∈ ks.eraseDups then ks.eraseDups else ks.eraseDups ++ [k] := by
  rw [List.eraseDups_append]
  by_cases hk : k ∈ ks <;> simp [List.removeAll, List.eraseDups_cons, hk]

/-- Each text is a key once, and stands where it came first. -/
theorem keys_ofTexts (es : Entries) :
    (assignAll [] es.texts).map (·.1) = ((es.map fun e => e.1.plain).eraseDups).map .text := by
  induction es using List.reverseRecOn with
  | nil => rfl
  | append_singleton es e ih =>
    rw [List.map_append, List.map_singleton, eraseDups_concat, texts, List.map_append,
      List.map_singleton, assignAll_concat]
    exact keys_assign_text ih _ _

theorem lastShown_concat (es : Entries) (e : Value × Value) (k : String) :
    lastShown (es ++ [e]) k = if k = e.1.plain then some e.2.plain else es.lastShown k := by
  unfold lastShown
  rw [List.filter_append]
  by_cases hk : k = e.1.plain
  · simp [hk]
  · simp [hk, Ne.symm hk]

/-- A key has the value that came last. -/
theorem find_ofTexts (es : Entries) (k : String) :
    (assignAll [] es.texts).find (.text k) = (es.lastShown k).map .text := by
  induction es using List.reverseRecOn with
  | nil => rfl
  | append_singleton es e ih =>
    rw [texts, List.map_append, List.map_singleton, assignAll_concat, find_assign_text,
      lastShown_concat]
    split
    · rfl
    · exact ih

theorem texts_of_textEntries {es : Entries} (h : Settings.TextEntries es) : es.texts = es := by
  have hid : ∀ e ∈ es, (Value.text e.1.plain, Value.text e.2.plain) = e := by
    intro e he
    obtain ⟨k, v, rfl⟩ := h e he
    rfl
  rw [texts, List.map_congr_left hid, List.map_id']

end Entries

/-! ## The check of the filters -/

namespace Settings

variable {d es : Entries} {mark m : Mark}

/-- Every key and every value has a text. -/
def Showable (es : Entries) : Prop :=
  ∀ e ∈ es, e.1.shown = .ok e.1.plain ∧ e.2.shown = .ok e.2.plain

theorem shown_cases (v : Value) : v.shown = .ok v.plain ∨ v.shown = .error .unprintable := by
  unfold Value.shown
  split
  · exact .inl rfl
  · exact .inr rfl

theorem shownEntries_of_showable (h : Showable d) : shownEntries d = .ok d.texts := by
  induction d with
  | nil => rfl
  | cons e d ih =>
    obtain ⟨hk, hv⟩ := h e List.mem_cons_self
    have hd := ih fun f hf => h f (List.mem_cons_of_mem _ hf)
    unfold shownEntries
    simp only [hk, hv, hd, bind, Except.bind, pure, Except.pure]
    rfl

theorem shownEntries_of_not_showable (h : ¬Showable d) : shownEntries d = .error .unprintable := by
  induction d with
  | nil => exact absurd (fun e he => absurd he List.not_mem_nil) h
  | cons e d ih =>
    unfold shownEntries
    rcases shown_cases e.1 with hk | hk
    · rcases shown_cases e.2 with hv | hv
      · have hd : ¬Showable d := fun hd => h fun f hf =>
          (List.mem_cons.1 hf).elim (fun he => he ▸ ⟨hk, hv⟩) (hd f)
        simp only [hk, hv, ih hd, bind, Except.bind]
      · simp only [hk, hv, bind, Except.bind]
    · simp only [hk, bind, Except.bind]

theorem checkFilters_of_showable (h : Showable d) :
    checkFilters (.dict m d) = .ok (some (Entries.assignAll [] d.texts)) := by
  simp only [checkFilters, shownEntries_of_showable h]

theorem checkFilters_of_not_showable (h : ¬Showable d) :
    checkFilters (.dict m d)
      = refuse .filters (.value Text.IntegerFault.unprintable.message) := by
  simp only [checkFilters, shownEntries_of_not_showable h]

theorem checkFilters_of_not_dict {v : Value} (hnull : v ≠ .null) (hdict : ∀ m d, v ≠ .dict m d) :
    checkFilters v = refuse .filters .notDict := by
  unfold checkFilters
  split
  · exact absurd rfl hnull
  · exact absurd rfl (hdict _ _)
  · rfl

/-- A check of the filters that refuses them is among the problems. -/
theorem validate_of_refused {kind : ProblemKind}
    (h : checkFilters (given es .filters) = refuse .filters kind) :
    ∃ problems, validate (.dict mark es) = .error problems ∧
      ⟨[.name "filters"], kind⟩ ∈ problems := by
  have hm : ⟨[.name "filters"], kind⟩ ∈ (checks es).problems := by
    rw [problems_checks]
    refine List.mem_append_left _ (List.mem_flatMap.2 ⟨.filters, Setting.mem_all _, ?_⟩)
    rw [problemsIn, h]
    exact List.mem_singleton.2 rfl
  refine ⟨(checks es).problems, ?_, hm⟩
  rw [validate_dict, if_neg (List.ne_nil_of_mem hm)]

/-! ## Filters alone -/

theorem given_filters_alone (v : Value) : given [(.text "filters", v)] .filters = v := rfl

theorem checks_filters_alone (v : Value) :
    checks [(.text "filters", v)] =
      { application := .ok none, inputClass := .ok none, outputClass := .ok none, engine := .ok none
        device := .ok none, groupId := .ok none, artifactId := .ok none, modelUrls := .ok none
        filters := checkFilters v, arguments := .ok none, options := .ok none
        modelName := .ok none, unknown := [] } := rfl

theorem validate_filters_alone {v : Value} {fs : Entries} (h : checkFilters v = .ok (some fs)) :
    validate (.dict mark [(.text "filters", v)]) = .ok { filters := some fs } := by
  rw [validate_dict, checks_filters_alone, h]
  rfl

/-! ## Main result -/

/-- What validation makes of the filters of a mapping.  Filters whose keys and values have texts are
taken, alone and beside any other settings: the texts of their keys are the keys, each where it came
first, with the text of the last value under it, and filters that are texts already stay as they
are.  Filters that have no text, and values that are no mapping, are refused. -/
theorem validate_filters (mark : Mark) (es : Entries) :
    (∀ (m : Mark) (d : Entries), given es .filters = .dict m d → Showable d →
      ∃ fs, (checks es).filters = .ok (some fs) ∧
        validate (.dict mark [(.text "filters", .dict m d)]) = .ok { filters := some fs } ∧
        (∀ s, validate (.dict mark es) = .ok s → s.filters = some fs) ∧
        TextEntries fs ∧
        fs.map (·.1) = ((d.map fun e => e.1.plain).eraseDups).map .text ∧
        (∀ k, fs.find (.text k)
          = ((d.filter fun e => e.1.plain = k).getLast?).map fun e => .text e.2.plain) ∧
        (TextEntries d → d.Distinct → fs = d)) ∧
    (∀ (m : Mark) (d : Entries), given es .filters = .dict m d → ¬Showable d →
      ∃ problems, validate (.dict mark es) = .error problems ∧
        ⟨[.name "filters"], .value Text.IntegerFault.unprintable.message⟩ ∈ problems) ∧
    (given es .filters ≠ .null → (∀ m d, given es .filters ≠ .dict m d) →
      ∃ problems, validate (.dict mark es) = .error problems ∧
        ⟨[.name "filters"], .notDict⟩ ∈ problems) := by
  refine ⟨fun m d hg hs => ?_, fun m d hg hs => ?_, fun hnull hdict => ?_⟩
  · have hcheck : checkFilters (.dict m d) = .ok (some (Entries.assignAll [] d.texts)) :=
      checkFilters_of_showable hs
    have hchecks : (checks es).filters = .ok (some (Entries.assignAll [] d.texts)) := by
      rw [← hcheck, ← hg]
      rfl
    refine ⟨_, hchecks, ?_, fun s hv => ?_, (checkFilters_eq_ok hcheck).1, d.keys_ofTexts,
      fun k => ?_, fun ht hd => ?_⟩
    · exact validate_filters_alone hcheck
    · obtain ⟨_, _, he, rfl⟩ := validate_eq_ok hv
      cases he
      rw [Checks.settings, hchecks]
      rfl
    · rw [d.find_ofTexts, Entries.lastShown, Option.map_map]
      rfl
    · rw [Entries.texts_of_textEntries ht, Entries.assignAll_nil hd]
  · exact validate_of_refused (by rw [hg, checkFilters_of_not_showable hs])
  · exact validate_of_refused (checkFilters_of_not_dict hnull hdict)

/-- An integer and a text that fall together as keys, with an entry between them. -/
def sampleFilters : Entries :=
  [(.int 1, .bool true), (.text "layers", .int 50), (.text "1", .list default [.null])]

/-- Filters that fall together beside another setting, a value too long to be shown, and a list. -/
theorem validate_filters_sample :
    let es : Entries :=
      [(.text "engine", .text "PyTorch"), (.text "filters", .dict default sampleFilters)]
    let long : Entries := [(.text "k", .int (10 ^ 4300))]
    let list : Value := .list default [.text "k"]
    (given es .filters = .dict default sampleFilters ∧ Showable sampleFilters ∧
      ∃ s fs, validate (.dict default es) = .ok s ∧ s.filters = some fs ∧
        fs.map (·.1) = [.text "1", .text "layers"] ∧
        fs.find (.text "1") = some (.text "[None]")) ∧
    (¬Showable long ∧ ∃ problems, validate (.dict default [(.text "filters", .dict default long)])
      = .error problems) ∧
    ((∀ m d, list ≠ .dict m d) ∧ ∃ problems, validate (.dict default [(.text "filters", list)])
      = .error problems) := by
  intro es long list
  have hshow : Showable sampleFilters := by
    unfold Showable sampleFilters
    decide +kernel
  have hlong : ¬Showable long := by
    intro h
    have := (h _ List.mem_cons_self).2
    revert this
    decide +kernel
  have hlist : ∀ m d, list ≠ .dict m d := nofun
  have hvalid : validate (.dict default es) = .ok (checks es).settings := by
    rw [validate_dict, if_pos (by decide +kernel)]
  obtain ⟨hmapping, -, -⟩ := validate_filters default es
  obtain ⟨-, hunshown, -⟩ := validate_filters default [(.text "filters", .dict default long)]
  obtain ⟨-, -, hother⟩ := validate_filters default [(.text "filters", list)]
  obtain ⟨fs, -, -, hsettings, -, hkeys, hfind, -⟩ := hmapping default sampleFilters rfl hshow
  obtain ⟨problems, hproblems, -⟩ := hunshown default long (given_filters_alone _) hlong
  obtain ⟨problems', hproblems', -⟩ := hother nofun hlist
  exact ⟨⟨rfl, hshow, _, fs, hvalid, hsettings _ hvalid, hkeys, hfind "1"⟩,
    ⟨hlong, problems, hproblems⟩, hlist, problems', hproblems'⟩

end Settings

end ModelSearch
