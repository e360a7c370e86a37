import Mathlib.Data.List.Forall2
import ModelSearch.Proofs.Steps
import ModelSearch.Proofs.Text.Cutting
import ModelSearch.Zoo.Basic

/-!
# Lists of URLs

A text of URLs is cut at its commas into trimmed texts that are not empty, and joining those gives
the same list again.  A zoo made from URLs keeps them in order and has the loader of each of them.

    splitUrls (joinWith "," urls) = urls                          (splitUrls_joinWith)
    ofUrls mark text = .error (.noUrls text) ↔ AllBlank text      (ofUrls_eq_noUrls_iff)
    ofUrls mark text = .error (.url f) ↔
      FirstRefused (splitUrls text) f                             (ofUrls_eq_url_iff)
-/

namespace ModelSearch.Zoo

/-! ## Splitting -/

/-- A URL as it stands in a zoo: neither empty nor with a comma, and without blanks at its ends. -/
structure IsEntry (url : String) : Prop where
  ne_empty : url ≠ ""
  comma_notMem : ',' ∉ url.toList
  trimmed : Text.Trimmed url.toList

theorem mem_splitUrls {url text : String} :
    url ∈ splitUrls text ↔
      ∃ p ∈ Text.splitAt ',' text.toList, Text.strip p ≠ [] ∧ url = .ofList (Text.strip p) := by
  simp only [splitUrls, List.mem_filterMap, List.mem_map]
  constructor
  · rintro ⟨-, ⟨p, hp, rfl⟩, hu⟩
    by_cases he : (Text.strip p).isEmpty
    · simp [he] at hu
    · simp only [he, Bool.false_eq_true, if_false, Option.some.injEq] at hu
      exact ⟨p, hp, by simpa using he, hu.symm⟩
  · rintro ⟨p, hp, hne, rfl⟩
    exact ⟨Text.strip p, ⟨p, hp, rfl⟩, by simp [hne]⟩

/-- Nothing but blanks between the commas of a text. -/
def AllBlank (text : String) : Prop :=
  ∀ p ∈ Text.splitAt ',' text.toList, ∀ c ∈ p, Text.isBlank c = true

theorem splitUrls_eq_nil_iff {text : String} : splitUrls text = [] ↔ AllBlank text := by
  constructor
  · intro h p hp
    rw [← Text.strip_eq_nil_iff]
    apply Classical.byContradiction
    intro hne
    have hm := mem_splitUrls.2 ⟨p, hp, hne, rfl⟩
    rw [h] at hm
    exact List.not_mem_nil hm
  · intro h
    apply List.eq_nil_iff_forall_not_mem.2
    intro url hu
    obtain ⟨p, hp, hne, -⟩ := mem_splitUrls.1 hu
    exact hne (Text.strip_eq_nil_iff.2 (h p hp))

theorem isEntry_of_mem_splitUrls {url text : String} (h : url ∈ splitUrls text) : IsEntry url := by
  obtain ⟨p, hp, hne, rfl⟩ := mem_splitUrls.1 h
  refine ⟨fun e => hne (String.ofList_eq_empty_iff.1 e), ?_, ?_⟩
  · intro hc
    rw [String.toList_ofList] at hc
    exact Text.notMem_of_mem_splitAt hp (Text.mem_of_mem_strip hc)
  · rw [String.toList_ofList]
    exact Text.trimmed_strip p

theorem splitUrls_joinWith {urls : List String} (h : ∀ url ∈ urls, IsEntry url) :
    splitUrls (Text.joinWith "," urls) = urls := by
  by_cases hne : urls = []
  · subst hne
    decide
  · have hs : Text.splitAt ',' (Text.joinWith "," urls).toList = urls.map String.toList := by
      rw [Text.joinWith, String.toList_intercalate]
      apply Text.splitAt_intercalate (by simpa using hne)
      intro p hp
      obtain ⟨url, hu, rfl⟩ := List.mem_map.1 hp
      exact (h url hu).comma_notMem
    rw [splitUrls, hs]
    clear hs hne
    induction urls with
    | nil => rfl
    | cons url rest ih =>
      have hu := h url List.mem_cons_self
      have hn : url.toList.isEmpty = false := by simpa using hu.ne_empty
      simp only [List.map_cons, Text.strip_of_trimmed hu.trimmed]
      rw [List.filterMap_cons_some (by simp [hn]; rfl),
        ih fun u hm => h u (List.mem_cons_of_mem _ hm)]

theorem splitUrls_append (s t : String) :
    splitUrls (s ++ "," ++ t) = splitUrls s ++ splitUrls t := by
  have hlist : (s ++ "," ++ t).toList = s.toList ++ ',' :: t.toList := by simp
  rw [splitUrls, hlist, Text.splitAt_append_cons, List.map_append, List.filterMap_append]
  rfl

/-! ## Loaders -/

theorem urlLoader_eq_ok_iff {url : String} {l : ModelLoader} :
    urlLoader url = .ok l ↔
      ∃ name, Url.artifactName url = .ok name ∧ l = ⟨urlGroup, name, some url, []⟩ := by
  unfold urlLoader
  cases hn : Url.artifactName url with
  | error f => simp [bind, Except.bind]
  | ok name => simp [bind, Except.bind, pure, Except.pure, eq_comm]

theorem urlLoader_eq_error_iff {url : String} {f : Url.Fault} :
    urlLoader url = .error f ↔ Url.pathOf url.toList = .error f := by
  unfold urlLoader Url.artifactName
  cases hp : Url.pathOf url.toList with
  | error g => simp [bind, Except.bind]
  | ok path => simp [bind, Except.bind, pure, Except.pure]

/-- The first of some URLs that is refused, and its fault. -/
def FirstRefused (urls : List String) (f : Url.Fault) : Prop :=
  ∃ before url after, urls = before ++ url :: after ∧ Url.pathOf url.toList = .error f ∧
    ∀ u ∈ before, ∀ g, Url.pathOf u.toList ≠ .error g

theorem not_firstRefused_nil (f : Url.Fault) : ¬FirstRefused [] f := by
  rintro ⟨before, url, after, h, -⟩
  simp at h

theorem firstRefused_cons {url : String} {rest : List String} {f : Url.Fault} :
    FirstRefused (url :: rest) f ↔
      Url.pathOf url.toList = .error f ∨
        ((∀ g, Url.pathOf url.toList ≠ .error g) ∧ FirstRefused rest f) := by
  constructor
  · rintro ⟨before, u, after, h, hu, hb⟩
    cases before with
    | nil =>
      obtain ⟨rfl, rfl⟩ := List.cons.inj h
      exact .inl hu
    | cons b bs =>
      obtain ⟨rfl, rfl⟩ := List.cons.inj h
      refine .inr ⟨hb _ List.mem_cons_self, bs, u, after, rfl, hu, ?_⟩
      exact fun v hv => hb v (List.mem_cons_of_mem _ hv)
  · rintro (hu | ⟨hn, before, u, after, rfl, hu, hb⟩)
    · exact ⟨[], url, rest, rfl, hu, by simp⟩
    · refine ⟨url :: before, u, after, rfl, hu, ?_⟩
      intro v hv
      rcases List.mem_cons.1 hv with rfl | hv
      · exact hn
      · exact hb v hv

theorem mapM_urlLoader_eq_error_iff {urls : List String} {f : Url.Fault} :
    urls.mapM urlLoader = .error f ↔ FirstRefused urls f := by
  induction urls with
  | nil => simp [List.mapM_nil, pure, Except.pure, not_firstRefused_nil]
  | cons url rest ih =>
    rw [firstRefused_cons, List.mapM_cons]
    cases hu : urlLoader url with
    | error g =>
      have hp := urlLoader_eq_error_iff.1 hu
      simp [bind, Except.bind, hp]
    | ok l =>
      have hp : ∀ g, Url.pathOf url.toList ≠ .error g := by
        intro g hg
        rw [urlLoader_eq_error_iff.2 hg] at hu
        cases hu
      cases hr : rest.mapM urlLoader with
      | error g =>
        have hfr := ih.symm
        rw [hr] at hfr
        simp [bind, Except.bind, hp, hfr]
      | ok ls =>
        have hfr := ih.symm
        rw [hr] at hfr
        simp [bind, Except.bind, pure, Except.pure, hp, hfr]

/-- The loaders of URLs, one for each in order. -/
def LoadersOf (urls : List String) (loaders : List ModelLoader) : Prop :=
  urls.map urlLoader = loaders.map Except.ok

theorem mapM_urlLoader_eq_ok_iff {urls : List String} {loaders : List ModelLoader} :
    urls.mapM urlLoader = .ok loaders ↔ LoadersOf urls loaders :=
  mapM_eq_ok

/-- The loader of a URL in a zoo: of the zoo's group, with the name that the URL gives. -/
structure IsLoaderOf (z : Zoo) (url : String) (l : ModelLoader) : Prop where
  group : l.groupId = z.groupId
  name : Url.artifactName url = .ok l.artifactId
  location : l.url = some url

/-- A URL that is not refused. -/
def Accepted (url : String) : Prop := ∃ path, Url.pathOf url.toList = .ok path

theorem urlLoader_isOk_iff {url : String} : (∃ l, urlLoader url = .ok l) ↔ Accepted url := by
  unfold urlLoader Accepted Url.artifactName
  simp [bind_isOk_iff, pure, Except.pure]

/-! ## Zoos made from URLs -/

theorem ofUrls_eq_ok_iff {mark : Mark} {text : String} {z : Zoo} :
    ofUrls mark text = .ok z ↔
      splitUrls text ≠ [] ∧ ∃ loaders, LoadersOf (splitUrls text) loaders ∧
        z = ⟨mark, .urls (splitUrls text), urlGroup, loaders, []⟩ := by
  unfold ofUrls
  simp only [← mapM_urlLoader_eq_ok_iff]
  by_cases he : splitUrls text = []
  · simp [he]
  · cases hm : (splitUrls text).mapM urlLoader with
    | error f => simp [he]
    | ok ls =>
      simp only [List.isEmpty_iff, he, if_false, Except.ok.injEq, ne_eq, not_false_eq_true,
        true_and, exists_eq_left']
      exact eq_comm

theorem ofUrls_eq_noUrls_iff {mark : Mark} {text given : String} :
    ofUrls mark text = .error (.noUrls given) ↔ given = text ∧ AllBlank text := by
  unfold ofUrls
  rw [← splitUrls_eq_nil_iff]
  by_cases he : splitUrls text = []
  · simp [he, eq_comm]
  · cases hm : (splitUrls text).mapM urlLoader <;> simp [he, hm]

theorem ofUrls_eq_url_iff {mark : Mark} {text : String} {f : Url.Fault} :
    ofUrls mark text = .error (.url f) ↔ FirstRefused (splitUrls text) f := by
  unfold ofUrls
  rw [← mapM_urlLoader_eq_error_iff]
  by_cases he : splitUrls text = []
  · simp [he, List.mapM_nil, pure, Except.pure]
  · cases hm : (splitUrls text).mapM urlLoader <;> simp [he, hm]

/-- A text makes a zoo exactly if it has URLs and none of them is refused. -/
theorem ofUrls_isOk_iff {mark : Mark} {text : String} :
    (∃ z, ofUrls mark text = .ok z) ↔
      splitUrls text ≠ [] ∧ ∀ url ∈ splitUrls text, Accepted url := by
  simp only [← urlLoader_isOk_iff, ← mapM_isOk_iff, ofUrls_eq_ok_iff, ← mapM_urlLoader_eq_ok_iff]
  constructor
  · rintro ⟨-, hne, ls, hls, -⟩
    exact ⟨hne, ls, hls⟩
  · rintro ⟨hne, ls, hls⟩
    exact ⟨_, hne, ls, hls, rfl⟩

/-- A zoo made from URLs keeps them, and has the loader of each of them in their order. -/
theorem urls_loaders_of_ofUrls {mark : Mark} {text : String} {z : Zoo}
    (h : ofUrls mark text = .ok z) :
    z.urls? = some (splitUrls text) ∧
      List.Forall₂ (IsLoaderOf z) (splitUrls text) z.loaders := by
  obtain ⟨-, loaders, hl, rfl⟩ := ofUrls_eq_ok_iff.1 h
  refine ⟨rfl, ?_⟩
  have hloaders : List.Forall₂ (fun url l => urlLoader url = .ok l) (splitUrls text) loaders := by
    rw [LoadersOf, ← List.forall₂_eq_eq_eq, List.forall₂_map_left_iff,
      List.forall₂_map_right_iff] at hl
    exact hl
  refine hloaders.imp fun url l hul => ?_
  obtain ⟨name, hname, rfl⟩ := urlLoader_eq_ok_iff.1 hul
  exact ⟨rfl, hname, rfl⟩

/-- The joined URLs of a zoo make a zoo with the same URLs and loaders. -/
theorem ofUrls_joinWith {mark : Mark} {text : String} {z : Zoo} (h : ofUrls mark text = .ok z)
    (other : Mark) :
    ∃ urls, z.urls? = some urls ∧
      ofUrls other (Text.joinWith "," urls) = .ok { z with mark := other } := by
  obtain ⟨hne, loaders, hl, rfl⟩ := ofUrls_eq_ok_iff.1 h
  have hj : splitUrls (Text.joinWith "," (splitUrls text)) = splitUrls text :=
    splitUrls_joinWith fun _ h => isEntry_of_mem_splitUrls h
  refine ⟨splitUrls text, rfl, ofUrls_eq_ok_iff.2 ?_⟩
  rw [hj]
  exact ⟨hne, loaders, hl, rfl⟩

end ModelSearch.Zoo
