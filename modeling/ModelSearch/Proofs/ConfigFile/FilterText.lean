import ModelSearch.Proofs.ConfigFile.Faults
import ModelSearch.Proofs.Settings.Filters
import ModelSearch.Proofs.Yaml.Construct
import ModelSearch.Proofs.Yaml.Numerals
import ModelSearch.Proofs.Yaml.PlainTokens

/-!
# Numbers as filters of a file

A number that a file has as a filter is read as a number and becomes a text again.  That text is the
one that stands in the file exactly if the number is shown in that way: `50` is kept, but `050`,
`0x32`, `+50`, `5_0`, `1:30` and `1.50` are filters on other texts.

    the value of a mapping has the values of its nodes under their keys   (construct_hasEntry)
    the one filter of a file is the numeral  ↔  it is a shown numeral
    a filter of a file is the text of its number, beside all other entries     (filter_number_iff)
-/

namespace ModelSearch

/-! ## Keys that are shown once -/

namespace Entries

variable {es more : Entries} {k : String} {v : Value}

/-- The text `k` is a key with the value `v`, and no other key is shown as that text. -/
def ShownOnce (es : Entries) (k : String) (v : Value) : Prop :=
  (es.filter fun e => e.1.plain = k) = [(.text k, v)]

theorem shownOnce_concat (h : ∀ e ∈ es, e.1.plain ≠ k) (v : Value) :
    ShownOnce (es ++ [(.text k, v)]) k v := by
  have hnone : (es.filter fun e => e.1.plain = k) = [] :=
    List.filter_eq_nil_iff.2 fun e he => by simpa using h e he
  have hkey : (Value.text k).plain = k := rfl
  simp [ShownOnce, List.filter_append, hnone, hkey]

/-- A key that is shown in another way is another key. -/
theorem text_not_sameAs {l : Value} (h : l.plain ≠ k) : (Value.text k).sameAs l = false := by
  rw [Bool.eq_false_iff]
  intro hs
  rw [Value.text_sameAs_iff.1 hs] at h
  exact h rfl

theorem sameAs_text_eq_false {l : Value} (h : l.plain ≠ k) : l.sameAs (.text k) = false := by
  cases l with
  | text s => simpa [Value.sameAs, Value.plain] using h
  | _ => rfl

theorem ShownOnce.assign (h : es.ShownOnce k v) {l : Value} (hl : l.plain ≠ k) (w : Value) :
    (es.assign l w).ShownOnce k v := by
  unfold ShownOnce at *
  induction es with
  | nil => cases h
  | cons e es ih =>
    unfold Entries.assign
    by_cases he : e.1.plain = k
    · rw [List.filter_cons_of_pos (by simpa using he)] at h
      obtain ⟨rfl, hes⟩ := List.cons.inj h
      rw [if_neg (by rw [sameAs_text_eq_false hl]; decide),
        List.filter_cons_of_pos (by simpa using he)]
      have hrest : ∀ f ∈ Entries.assign es l w, f.1.plain ≠ k ∧ True :=
        forall_assign (p := fun u => u.plain ≠ k) (q := fun _ => True)
          (fun f hf => ⟨by simpa using List.filter_eq_nil_iff.1 hes f hf, trivial⟩) hl trivial
      rw [List.filter_eq_nil_iff.2 fun f hf => by simpa using (hrest f hf).1]
    · rw [List.filter_cons_of_neg (by simpa using he)] at h
      split
      · rw [List.filter_cons_of_neg (by simpa using he), h]
      · rw [List.filter_cons_of_neg (by simpa using he), ih h]

theorem ShownOnce.assignAll (h : es.ShownOnce k v) (hm : ∀ e ∈ more, e.1.plain ≠ k) :
    (es.assignAll more).ShownOnce k v := by
  induction more generalizing es with
  | nil => exact h
  | cons e more ih =>
    exact ih (h.assign (hm e List.mem_cons_self) e.2) fun f hf => hm f (List.mem_cons_of_mem _ hf)

theorem shownOnce_ofEntries {before after : Entries} (hb : ∀ e ∈ before, e.1.plain ≠ k)
    (ha : ∀ e ∈ after, e.1.plain ≠ k) :
    (Entries.assignAll [] (before ++ (.text k, v) :: after)).ShownOnce k v := by
  have hfront : ∀ e ∈ Entries.assignAll [] before, e.1.plain ≠ k ∧ True :=
    forall_assignAll (p := fun u => u.plain ≠ k) (q := fun _ => True)
      (fun e he => absurd he List.not_mem_nil) fun e he => ⟨hb e he, trivial⟩
  have hstep : Entries.assignAll [] (before ++ (.text k, v) :: after)
      = ((Entries.assignAll [] before).assign (.text k) v).assignAll after := by
    rw [Entries.assignAll, List.foldl_append]
    rfl
  rw [hstep, assign_of_forall fun e he => text_not_sameAs (hfront e he).1]
  exact (shownOnce_concat (fun e he => (hfront e he).1) v).assignAll ha

theorem ShownOnce.mem (h : es.ShownOnce k v) : (.text k, v) ∈ es := by
  refine List.mem_of_mem_filter (p := fun e => e.1.plain = k) ?_
  rw [h]
  exact List.mem_singleton.2 rfl

theorem ShownOnce.find (h : es.ShownOnce k v) : es.find (.text k) = some v := by
  have hkeys : ∀ e : Value × Value, (Value.text k).sameAs e.1 = true → e.1.plain = k := by
    intro e he
    rw [Value.text_sameAs_iff.1 he]
    rfl
  unfold ShownOnce at h
  induction es with
  | nil => cases h
  | cons e es ih =>
    by_cases he : e.1.plain = k
    · rw [List.filter_cons_of_pos (by simpa using he)] at h
      obtain ⟨rfl, -⟩ := List.cons.inj h
      rw [find_cons, if_pos (Value.text_sameAs_iff.2 rfl)]
    · rw [List.filter_cons_of_neg (by simpa using he)] at h
      rw [find_cons, if_neg fun hs => he (hkeys e hs)]
      exact ih h

theorem ShownOnce.lastShown (h : es.ShownOnce k v) : es.lastShown k = some v.plain := by
  unfold ShownOnce at h
  unfold Entries.lastShown
  rw [h]
  rfl

end Entries

/-! ## Entries of nodes -/

namespace Yaml

variable {source fuel : Nat} {n f : Node} {key s : String} {v w : Value}

/-- A mapping node with a node under a text as its key; no other key is shown as that text. -/
def Node.HasEntry (source : Nat) (n : Node) (key : String) (f : Node) : Prop :=
  ∃ i j entries before after, n = .mapping i .mapping entries ∧
    keyedEntries entries = .ok (before ++ (.scalar j .text key, f) :: after) ∧
    ∀ e ∈ before ++ after, ∀ w, scalarNodeValue source e.1 = .ok w → w.plain ≠ key

theorem scalarValue_of_scalar {i : Nat} {tag : Tag}
    (h : scalarNodeValue source (.scalar i tag s) = .ok v) :
    scalarValue? (.own source i) tag s = some (.ok v) := by
  obtain ⟨text, ht, h⟩ := bind_eq_ok.1 h
  cases ht
  simp only [isScalar, Bool.not_true, Bool.and_false, Bool.false_eq_true, if_false] at h
  split at h
  next hv => rw [← h]; exact hv
  next => cases h

/-- The value of a node with a scalar tag does not depend on how deep one is ready to look. -/
theorem construct_of_scalar (hs : n.tag.shape = .scalar) (h : construct source fuel n = .ok v) :
    scalarNodeValue source n = .ok v := by
  cases fuel with
  | zero => cases h
  | succ fuel =>
    unfold construct at h
    rw [hs] at h
    exact h

/-- Keys whose values are not shown as a text give no key that is shown as it. -/
theorem plain_ne_of_mapM {ns : List (Node × Node)} {es : Entries}
    (h : ns.mapM (entryValue (construct source fuel)) = .ok es)
    (hscalar : ∀ e ∈ ns, e.1.tag.shape = .scalar)
    (hother : ∀ e ∈ ns, ∀ w, scalarNodeValue source e.1 = .ok w → w.plain ≠ key) :
    ∀ e ∈ es, e.1.plain ≠ key := by
  intro e he
  obtain ⟨m, hm, hme⟩ := exists_of_mem_mapM h he
  exact hother m hm _ (construct_of_scalar (hscalar m hm) (entryValue_eq_ok.1 hme).1)

/-- The value of a mapping has, under a key, the value of the node under that key. -/
theorem construct_hasEntry (h : construct source fuel n = .ok w) (hn : n.HasEntry source key f) :
    ∃ (mark : Mark) (es : Entries) (depth : Nat) (u : Value), w = .dict mark es ∧
      construct source depth f = .ok u ∧ es.ShownOnce key u := by
  obtain ⟨i, j, entries, before, after, rfl, hkeyed, hother⟩ := hn
  cases fuel with
  | zero => cases h
  | succ fuel =>
    cases constructed_of_construct h with
    | scalar hs => cases hs
    | set hs => cases hs
    | dict _ hes hvs =>
      cases hkeyed.symm.trans hes
      rw [constructEntries_eq_mapM] at hvs
      obtain ⟨us, ⟨k, u⟩, vs, rfl, hfront, hu, hrest⟩ := mapM_append_cons_eq_ok hvs
      obtain ⟨hk, hf⟩ := entryValue_eq_ok.1 hu
      obtain rfl : k = .text key := by
        have := construct_of_scalar (n := .scalar j .text key) rfl hk
        exact (Except.ok.inj this).symm
      have hscalar := (keyedEntries_eq_ok hkeyed).2
      refine ⟨_, _, fuel, u, rfl, hf, Entries.shownOnce_ofEntries ?_ ?_⟩
      · exact plain_ne_of_mapM hfront (fun e he => hscalar e (List.mem_append_left _ he))
          fun e he => hother e (List.mem_append_left _ he)
      · exact plain_ne_of_mapM hrest
          (fun e he => hscalar e (List.mem_append_right _ (List.mem_cons_of_mem _ he)))
          fun e he => hother e (List.mem_append_right _ he)

/-! ## A mapping of one entry in a mapping of one entry -/

/-- The node of one filter alone. -/
def filterNode (key s : String) : Node :=
  .mapping 4 .mapping [(.scalar 0 .text "filters",
    .mapping 3 .mapping [(.scalar 1 .text key, .scalar 2 (implicitTag s) s)])]

theorem keyedEntries_alone (j : Nat) (key : String) (f : Node) :
    keyedEntries [(.scalar j .text key, f)] = .ok [(.scalar j .text key, f)] :=
  keyedEntries_of_keys (by simp [Node.tag, Tag.shape])

theorem hasEntry_alone (source : Nat) (i j : Nat) (key : String) (f : Node) :
    (Node.mapping i .mapping [(.scalar j .text key, f)]).HasEntry source key f :=
  ⟨i, j, _, [], [], rfl, keyedEntries_alone j key f, nofun⟩

theorem meet_scalar (hs : n.tag.shape = .scalar) (hv : scalarNodeValue 0 n = .ok v) (m : Met) :
    meet m n = .ok m := by
  unfold meet
  simp only [hs, hv, Except.map]

theorem meet_mapping {m : Met} {i : Nat} (hi : m.serials.contains i = false)
    (es : List (Node × Node)) : meet m (.mapping i .mapping es)
      = .ok ⟨i :: m.serials, m.waiting ++ [.mapping i .mapping es]⟩ := by
  show (if m.serials.contains i = true then _ else _) = _
  rw [hi]
  rfl

theorem lookInto_alone (m : Met) (i j : Nat) (key : String) (f : Node) :
    lookInto m (.mapping i .mapping [(.scalar j .text key, f)]) = meet m f := by
  have hall : allEntries [(.scalar j .text key, f)] = .ok [(.scalar j .text key, f)] :=
    allEntries_of_keys (by simp [Node.tag])
  have hkey : meet m (.scalar j .text key) = .ok m := meet_scalar rfl rfl m
  show (allEntries _ >>= fun es => meetEntries m es) = _
  rw [hall]
  show (meet m (.scalar j .text key) >>= fun m => meet m f >>= fun m => .ok m) = _
  rw [hkey]
  cases h : meet m f <;> simp [h, bind, Except.bind]

theorem construct_alone {i j : Nat} (h : construct source (fuel + 1) f = .ok v) :
    construct source (fuel + 2) (.mapping i .mapping [(.scalar j .text key, f)])
      = .ok (.dict (.own source i) [(.text key, v)]) := by
  have hkey : construct source (fuel + 1) (.scalar j .text key) = .ok (.text key) := rfl
  unfold construct
  simp only [Node.tag, Tag.shape, keyedEntries_alone, constructEntries, hkey, h, bind, Except.bind,
    pure, Except.pure]
  rfl

theorem read_filterNode {text : List Char} (hd : document text = .ok (some (filterNode key s)))
    (hs : (implicitTag s).shape = .scalar) {u : Value}
    (hu : scalarValue? (.own 0 2) (implicitTag s) s = some (.ok u))
    (hv : scalarValue? (.own source 2) (implicitTag s) s = some (.ok v)) :
    read source text = .ok (.dict (.own source 4)
      [(.text "filters", .dict (.own source 3) [(.text key, v)])]) := by
  have hleaf : ∀ m, meet m (.scalar 2 (implicitTag s) s) = .ok m :=
    meet_scalar hs (scalarNodeValue_scalar 0 2 _ s hu)
  have hinspect : inspect (filterNode key s) = .ok () := by
    simp [inspect, filterNode, meet_mapping, rounds, lookIntoAll, lookInto_alone, hleaf,
      Node.serial, bind, Except.bind]
  have hvalue : ∀ k, construct source (k + 1) (.scalar 2 (implicitTag s) s) = .ok v := by
    intro k
    unfold construct
    simp only [Node.tag, hs]
    exact scalarNodeValue_scalar source 2 _ s hv
  simp only [read, hd, hinspect, bind, Except.bind]
  exact construct_alone (construct_alone (hvalue 3))

/-- A word that is a key wherever it stands: it is read as a text, and it is short enough. -/
structure KeyName (key : String) : Prop where
  word : PlainWord key.toList
  text : implicitTag key = .text
  short : key.length ≤ keyReach

/-- The text of a file that has one filter alone. -/
def filterText (key s : String) : List Char := ("filters:\n  " ++ key ++ ": " ++ s ++ "\n").toList

theorem IsNumeral.shape (h : IsNumeral s) : (implicitTag s).shape = .scalar := by
  rcases h with h | h <;> rw [h] <;> rfl

theorem document_filterText (hk : KeyName key) (hs : IsNumeral s) :
    document (filterText key s) = .ok (some (filterNode key s)) := by
  have htext : filterText key s = "filters".toList ++ ':' :: '\n' :: (List.replicate 2 ' ' ++
      (key.toList ++ ':' :: ' ' :: (s.toList ++ ['\n']))) := by
    simp [filterText]
  have hname : PlainWord "filters".toList :=
    ⟨List.all_eq_true.1 (by decide), by decide, by decide, by decide, by decide⟩
  have htag : implicitTag "filters" = .text := by decide +kernel
  have hlen : key.toList.length ≤ keyReach := by
    rw [String.length_toList]
    exact hk.short
  rw [htext, document_nested hname hk.word hs.numberForm.plainWord (by decide) ⟨by decide, hlen⟩]
  simp only [String.ofList_toList, htag, hk.text]
  rfl

end Yaml

namespace Settings

variable {d es : Entries} {m mark : Mark} {t : Settings}

/-- Filters of valid settings can be shown, and become the texts they are shown as. -/
theorem filters_of_validate (hg : given es .filters = .dict m d)
    (h : validate (.dict mark es) = .ok t) :
    Showable d ∧ t.filters = some (Entries.assignAll [] d.texts) := by
  have hshow : Showable d := by
    by_contra hnot
    have hrefused := (congrArg checkFilters hg).trans (checkFilters_of_not_showable hnot)
    obtain ⟨problems, hp, -⟩ := validate_of_refused hrefused
    cases h.symm.trans hp
  refine ⟨hshow, ?_⟩
  obtain ⟨_, _, he, rfl⟩ := validate_eq_ok h
  cases he
  show valueOf (checkFilters (given es .filters)) = _
  rw [hg, checkFilters_of_showable hshow]
  rfl

end Settings

/-! ## Filters of files -/

section Files

open Yaml (Node IsNumeral ShownNumeral KeyName filterText filterNode implicitTag scalarValue?)

variable {source : Nat} {tree : FileTree} {path : FilePath} {text : List Char} {n f leaf : Node}
  {key s : String} {t : Settings}

theorem validate_of_settingsOf {name : String} {mark : Mark} {es : Entries} {reach : Reach}
    (h : settingsOf name (.dict mark es) reach = .ok t) :
    Settings.validate (.dict mark es) = .ok t := by
  unfold settingsOf at h
  dsimp only at h
  split at h
  · cases h
  split at h
  next hv => rw [hv, ← Except.ok.inj h]
  next => cases h

/-- No filters are too deep for an interpreter that follows everything. -/
theorem filterFault?_endless (v : Value) : filterFault? .endless v ≠ some .exhausted := by
  unfold filterFault?
  split
  · intro h
    obtain ⟨w, -, hw⟩ := List.exists_of_findSome?_eq_some h
    simp only [Reach.fault?, Reach.endless, Bool.not_true, Bool.and_false, Bool.false_eq_true,
      if_false] at hw
    split at hw <;> cases hw
  · rintro ⟨⟩

theorem settingsOf_of_validate {name : String} {mark : Mark} {es : Entries}
    (h : Settings.validate (.dict mark es) = .ok t) : settingsOf name (.dict mark es) = .ok t := by
  simp only [settingsOf, if_neg (filterFault?_endless _), h]

/-- A file whose sets keep their order and whose values are followed to their ends. -/
theorem loadSettings_of_text (h : HasText tree path text) :
    loadSettings source tree path =
      match Yaml.read source text with
      | .ok v => settingsOf path.text v
      | .error f => .error (.ofDocument path.text f) := by
  cases hprintable : text.all Yaml.documentChars.has with
  | true =>
    rw [loadSettings_of_hasDocument ⟨h, hprintable, rfl⟩]
    cases Yaml.read source text with
    | ok v => exact congrArg (settingsOf path.text) v.arranged_written
    | error g => rfl
  | false =>
    obtain ⟨hn, chars, hr, rfl⟩ := h
    have hread : Yaml.read source (Text.unifyBreaks chars) = .error .document := by
      refine Yaml.read_of_document_eq_error ?_
      rw [Yaml.document, Yaml.tokens, hprintable]
      rfl
    rw [loadSettings_of_hasBytes ⟨hn, hr⟩, hread]
    simp only [readDocument, Text.decode_encode, hprintable, Bool.false_eq_true, if_false]
    rfl

/-- A scalar under a key of the filters has a text, and that is the filter. -/
theorem filter_of_loadSettings (ht : HasText tree path text)
    (hd : Yaml.document text = .ok (some n)) (hn : n.HasEntry source "filters" f)
    (hf : f.HasEntry source key leaf) (hleaf : leaf.tag.shape = .scalar)
    (hl : loadSettings source tree path = .ok t) :
    ∃ v fs, Yaml.scalarNodeValue source leaf = .ok v ∧ v.shown = .ok v.plain ∧
      t.filters = some fs ∧ fs.find (.text key) = some (.text v.plain) := by
  rw [loadSettings_of_text ht] at hl
  cases hr : Yaml.read source text with
  | error g =>
    rw [hr] at hl
    cases hl
  | ok w =>
    rw [hr] at hl
    replace hl : settingsOf path.text w = .ok t := hl
    rw [Yaml.read, hd] at hr
    replace hr : (Yaml.inspect n >>= fun _ => Yaml.construct source (n.serial + 2) n) = .ok w := hr
    obtain ⟨-, -, hw⟩ := bind_eq_ok.1 hr
    obtain ⟨mark, es, depth, u, rfl, hu, hfilters⟩ := Yaml.construct_hasEntry hw hn
    obtain ⟨m, d, depth', v, rfl, hv, hkey⟩ := Yaml.construct_hasEntry hu hf
    have hgiven : Settings.given es .filters = .dict m d := by
      show (es.find (.text "filters")).getD .null = _
      rw [hfilters.find]
      rfl
    obtain ⟨hshow, hfs⟩ := Settings.filters_of_validate hgiven (validate_of_settingsOf hl)
    refine ⟨v, _, Yaml.construct_of_scalar hleaf hv, (hshow _ hkey.mem).2, hfs, ?_⟩
    rw [Entries.find_ofTexts, hkey.lastShown]
    rfl

/-- A file of one filter is loaded, if its numeral can be read and shown. -/
theorem loadSettings_filterText (hk : KeyName key) (hs : IsNumeral s)
    (ht : HasText tree path (filterText key s)) {u v : Value}
    (hu : scalarValue? (.own 0 2) (implicitTag s) s = some (.ok u))
    (hv : scalarValue? (.own source 2) (implicitTag s) s = some (.ok v))
    (hshown : v.shown = .ok v.plain) :
    loadSettings source tree path = .ok { filters := some [(.text key, .text v.plain)] } := by
  have hshow : Settings.Showable [(.text key, v)] := by
    intro e he
    rw [List.mem_singleton.1 he]
    exact ⟨rfl, hshown⟩
  have hread := Yaml.read_filterNode (Yaml.document_filterText hk hs) hs.shape hu hv
  have hcheck := Settings.checkFilters_of_showable (m := .own source 3) hshow
  rw [loadSettings_of_text ht, hread]
  exact settingsOf_of_validate (Settings.validate_filters_alone hcheck)

/-- A number under a key of the filters: its text is the filter. -/
theorem filter_of_numeral (hs : IsNumeral s) (ht : HasText tree path text)
    (hd : Yaml.document text = .ok (some n)) (hn : n.HasEntry source "filters" f) {i : Nat}
    (hf : f.HasEntry source key (.scalar i (implicitTag s) s))
    (hl : loadSettings source tree path = .ok t) :
    ∃ v fs, scalarValue? (.own source i) (implicitTag s) s = some (.ok v) ∧
      t.filters = some fs ∧ fs.find (.text key) = some (.text v.plain) ∧
      (v.plain = s ↔ ShownNumeral s) := by
  obtain ⟨v, fs, hv, hshown, hfs, hfind⟩ := filter_of_loadSettings ht hd hn hf hs.shape hl
  have hvalue := Yaml.scalarValue_of_scalar hv
  refine ⟨v, fs, hvalue, hfs, hfind, fun hplain => ?_, fun hnumeral => ?_⟩
  · rw [hplain] at hshown
    exact (Yaml.shownNumeral_iff hs _).2 ⟨v, hvalue, hshown⟩
  · obtain ⟨u, hu, hus⟩ := (Yaml.shownNumeral_iff hs (.own source i)).1 hnumeral
    cases hvalue.symm.trans hu
    exact Except.ok.inj (hshown.symm.trans hus)

/-! ## Main result -/

/-- A filter of a file that is a number.  Alone in a file it is the text that stands there exactly
if that is how the number is shown.  Among any other settings and filters of a file that is loaded
it is the text of the number, which again is the one in the file exactly if the number is shown
so. -/
theorem filter_number_iff (hs : IsNumeral s) (source : Nat) (tree : FileTree) (path : FilePath) :
    (∀ key, KeyName key → HasText tree path (filterText key s) →
      ((∃ t fs, loadSettings source tree path = .ok t ∧ t.filters = some fs ∧
        fs.find (.text key) = some (.text s)) ↔ ShownNumeral s)) ∧
    (∀ text n f key i t, HasText tree path text → Yaml.document text = .ok (some n) →
      n.HasEntry source "filters" f → f.HasEntry source key (.scalar i (implicitTag s) s) →
      loadSettings source tree path = .ok t →
      ∃ v fs, scalarValue? (.own source i) (implicitTag s) s = some (.ok v) ∧
        t.filters = some fs ∧ fs.find (.text key) = some (.text v.plain) ∧
        (v.plain = s ↔ ShownNumeral s)) := by
  refine ⟨fun key hk ht => ⟨?_, fun hnumeral => ?_⟩,
    fun text n f key i t ht hd hn hf hl => filter_of_numeral hs ht hd hn hf hl⟩
  · rintro ⟨t, fs, hl, hfs, hfind⟩
    obtain ⟨v, fs', -, hfs', hfind', hiff⟩ :=
      filter_of_numeral hs ht (Yaml.document_filterText hk hs)
        (Yaml.hasEntry_alone source 4 0 "filters" _) (Yaml.hasEntry_alone source 3 1 key _) hl
    cases hfs.symm.trans hfs'
    cases hfind.symm.trans hfind'
    exact hiff.1 rfl
  · obtain ⟨u, hu, -⟩ := (Yaml.shownNumeral_iff hs (.own 0 2)).1 hnumeral
    obtain ⟨v, hv, hshown⟩ := (Yaml.shownNumeral_iff hs (.own source 2)).1 hnumeral
    rcases Settings.shown_cases v with hplain | hlong
    · cases hshown.symm.trans hplain
      exact ⟨_, _, loadSettings_filterText hk hs ht hu hv hplain, rfl,
        by rw [Entries.find_cons, if_pos (Value.text_sameAs_iff.2 rfl)]⟩
    · cases hshown.symm.trans hlong

/-- A file of one text in the working folder. -/
def oneFile (text : List Char) : FileTree := .around ["work"] [(["c.yaml"], Text.encode text)] []

theorem hasText_oneFile {text : List Char} (h : Text.unifyBreaks text = text) :
    HasText (oneFile text) (FilePath.ofText "c.yaml") text :=
  ⟨by decide, text, rfl, h.symm⟩

/-- Settings whose only filter has a zero in front. -/
def octalText : List Char := "input_class: str\noutput_class: str\nfilters:\n  k: 050\n".toList

/-- The filters of those settings, as a node. -/
def octalFilters : Node := .mapping 7 .mapping [(.scalar 5 .text "k", .scalar 6 .int "050")]

def octalNode : Node :=
  .mapping 8 .mapping [(.scalar 0 .text "input_class", .scalar 1 .text "str"),
    (.scalar 2 .text "output_class", .scalar 3 .text "str"),
    (.scalar 4 .text "filters", octalFilters)]

theorem hasEntry_octalNode : octalNode.HasEntry 0 "filters" octalFilters := by
  refine ⟨8, 4, _, [_, _], [], rfl, Yaml.keyedEntries_of_keys ?_, ?_⟩
  · simp [Node.tag, Yaml.Tag.shape]
  · intro e he w hw
    rw [List.append_nil, List.mem_pair] at he
    rcases he with rfl | rfl
    · cases hw
      decide
    · cases hw
      decide

theorem loadSettings_octalText :
    ∃ t, loadSettings 0 (oneFile octalText) (FilePath.ofText "c.yaml") = .ok t := by
  have hsome :
      (loadSettings 0 (oneFile octalText) (FilePath.ofText "c.yaml")).toOption.isSome = true := by
    decide +kernel
  cases hl : loadSettings 0 (oneFile octalText) (FilePath.ofText "c.yaml") with
  | ok t => exact ⟨t, rfl⟩
  | error f =>
    rw [hl] at hsome
    cases hsome

theorem scalarValue_octal (mark : Mark) :
    scalarValue? mark (implicitTag "050") "050" = some (.ok (.int 40)) := by
  have htag : implicitTag "050" = .int := by decide +kernel
  have hread : Yaml.readInt "050" = .ok (.int 40) := rfl
  rw [htag]
  exact congrArg some hread

theorem not_shownNumeral_octal (h : IsNumeral "050") : ¬ShownNumeral "050" := by
  intro hshown
  obtain ⟨v, hv, hs⟩ := (Yaml.shownNumeral_iff h default).1 hshown
  cases (scalarValue_octal default).symm.trans hv
  exact absurd hs (by decide +kernel)

/-- Fifty is kept as it is written, but not with a zero in front, which makes it forty. -/
theorem filter_number_iff_fifty :
    let path := FilePath.ofText "c.yaml"
    (IsNumeral "50" ∧ ShownNumeral "50" ∧
      ∃ t fs, loadSettings 0 (oneFile (filterText "k" "50")) path = .ok t ∧ t.filters = some fs ∧
        fs.find (.text "k") = some (.text "50")) ∧
    (IsNumeral "050" ∧ ¬ShownNumeral "050" ∧
      (¬∃ t fs, loadSettings 0 (oneFile (filterText "k" "050")) path = .ok t ∧
        t.filters = some fs ∧ fs.find (.text "k") = some (.text "050")) ∧
      ∃ t fs, loadSettings 0 (oneFile octalText) path = .ok t ∧ t.filters = some fs ∧
        fs.find (.text "k") = some (.text "40")) := by
  intro path
  have hkey : KeyName "k" :=
    ⟨⟨List.all_eq_true.1 (by decide), by decide, by decide, by decide, by decide⟩,
      by decide +kernel, by decide⟩
  have hfifty : IsNumeral "50" := .inl (by decide +kernel)
  have hoctal : IsNumeral "050" := .inl (by decide +kernel)
  have htag : implicitTag "050" = .int := by decide +kernel
  have hshown : ShownNumeral "50" :=
    .inl ⟨by decide +kernel, 50, by decide +kernel, by decide +kernel⟩
  have hnot : ¬ShownNumeral "050" := not_shownNumeral_octal hoctal
  have hdocument : Yaml.document octalText = .ok (some octalNode) := rfl
  obtain ⟨t, hl⟩ := loadSettings_octalText
  have halone := (filter_number_iff hfifty 0 (oneFile (filterText "k" "50")) path).1 "k" hkey
    (hasText_oneFile (by decide +kernel))
  have hzero := (filter_number_iff hoctal 0 (oneFile (filterText "k" "050")) path).1 "k" hkey
    (hasText_oneFile (by decide +kernel))
  obtain ⟨v, fs, hv, hfs, hfind, -⟩ := (filter_number_iff hoctal 0 (oneFile octalText) path).2
    octalText octalNode octalFilters "k" 6 t (hasText_oneFile (by decide +kernel)) hdocument
    hasEntry_octalNode (htag ▸ Yaml.hasEntry_alone 0 7 5 "k" _) hl
  cases (scalarValue_octal _).symm.trans hv
  exact ⟨⟨hfifty, hshown, halone.2 hshown⟩, hoctal, hnot, fun h => hnot (hzero.1 h), t, fs, hl, hfs,
    hfind⟩

end Files

end ModelSearch
