import ModelSearch.Proofs.Zoo.Naming
import ModelSearch.Proofs.Zoo.Urls

/-!
# Artifacts without a name

No artifact of a zoo made from URLs has a slash in its id.  The id is empty, though, if no segment
is there to name the artifact: if the path of its URL is nothing but slashes, or if the URL has no
path and is nothing but the two slashes that open an authority.

    artifactName url = .ok "" ↔ Nameless url          url not empty     (artifactName_eq_empty_iff)
-/

namespace ModelSearch

namespace Url

open Text

variable {url : String} {path : List Char}

/-! ## Names -/

theorem lastSegment_eq_nil_iff : lastSegment path = [] ↔ ∀ c ∈ path, c = '/' := by
  constructor
  · intro h c hc
    by_contra hne
    exact (lastSegment_spec ⟨c, hc, hne⟩).2.1 h
  · intro h
    rw [lastSegment, segments_of_forall h]
    rfl

theorem slash_notMem_lastSegment (path : List Char) : '/' ∉ lastSegment path := by
  by_cases h : ∃ c ∈ path, c ≠ '/'
  · exact (lastSegment_spec h).2.2
  · have hnil : lastSegment path = [] :=
      lastSegment_eq_nil_iff.2 fun c hc => Classical.not_not.1 fun hne => h ⟨c, hc, hne⟩
    rw [hnil]
    exact List.not_mem_nil

theorem withoutArchiveSuffix_eq_nil_iff {name : List Char} :
    withoutArchiveSuffix name = [] ↔ name = [] := by
  constructor
  · exact fun h => Classical.not_not.1 fun hne => withoutArchiveSuffix_ne_nil hne h
  · rintro rfl
    rfl

theorem slash_notMem_of_artifactName {name : String} (h : artifactName url = .ok name) :
    '/' ∉ name.toList := by
  obtain ⟨path, hpath⟩ := exists_pathOf h
  cases (artifactName_eq hpath).symm.trans h
  rw [String.toList_ofList]
  exact notMem_withoutArchiveSuffix (slash_notMem_lastSegment _)

/-! ## Slashes alone -/

theorem parts_slashes (n : Nat) :
    parts ('/' :: '/' :: List.replicate n '/') = ⟨[], [], List.replicate n '/'⟩ := by
  have hall : ∀ c ∈ '/' :: '/' :: List.replicate n '/', c = '/' := by simp
  have hcleaned : cleaned ('/' :: '/' :: List.replicate n '/')
      = '/' :: '/' :: List.replicate n '/' := by
    rw [cleaned, List.dropWhile_cons_of_neg (by decide), List.filter_eq_self]
    intro c hc
    rw [hall c hc]
    rfl
  have hcolon : ':' ∉ '/' :: '/' :: List.replicate n '/' := by simp
  have hcut : cutWhere isDelimiter (List.replicate n '/') = ([], List.replicate n '/') := by
    cases n <;> rfl
  rw [parts, hcleaned, splitScheme, firstCut_of_notMem hcolon]
  simp only [splitAuthority, hcut]

/-- Two slashes open an authority, which is empty if nothing or another slash follows. -/
theorem pathOf_slashes (n : Nat) :
    pathOf ('/' :: '/' :: List.replicate n '/') = .ok (List.replicate n '/') := by
  have hpath : pathIn [] ([] ++ List.replicate n '/') = [] ++ List.replicate n '/' :=
    pathIn_append_slashes List.not_mem_nil List.not_mem_nil (by decide) n
  rw [pathOf_eq_ok_iff, parts_slashes]
  exact ⟨rfl, rfl, hpath⟩

/-- A URL that no segment names: its path is nothing but slashes, or there is none and the URL is the
two slashes in front of an authority. -/
def Nameless (url : String) : Prop :=
  url = "//" ∨ ∃ path, pathOf url.toList = .ok path ∧ path ≠ [] ∧ ∀ c ∈ path, c = '/'

theorem eq_slashes_of_pathOf_nil {xs : List Char} (hne : xs ≠ []) (h : ∀ c ∈ xs, c = '/')
    (hpath : pathOf xs = .ok []) : xs = ['/', '/'] := by
  have hslashes := List.eq_replicate_of_mem h
  generalize xs.length = n at hslashes
  subst hslashes
  match n with
  | 0 => exact absurd rfl hne
  | 1 =>
    have hroot : pathOf ['/'] = .ok ['/'] := by decide +kernel
    cases hroot.symm.trans hpath
  | n + 2 =>
    have hnil := (pathOf_slashes n).symm.trans hpath
    rw [Except.ok.injEq, List.replicate_eq_nil_iff] at hnil
    rw [hnil]
    rfl

theorem artifactName_eq_empty_iff (hne : url ≠ "") :
    artifactName url = .ok "" ↔ Nameless url := by
  constructor
  · intro h
    obtain ⟨path, hpath⟩ := exists_pathOf h
    have hname := (artifactName_eq hpath).symm.trans h
    rw [Except.ok.injEq, String.ofList_eq_empty_iff, withoutArchiveSuffix_eq_nil_iff,
      lastSegment_eq_nil_iff] at hname
    by_cases hnil : path = []
    · subst hnil
      refine .inl (String.toList_inj.1 ?_)
      exact eq_slashes_of_pathOf_nil (by simpa using hne) hname hpath
    · rw [if_neg (by simpa using hnil)] at hname
      exact .inr ⟨path, hpath, hnil, hname⟩
  · rintro (rfl | ⟨path, hpath, hnil, hslashes⟩)
    · decide +kernel
    · rw [artifactName_eq hpath, if_neg (by simpa using hnil), lastSegment_eq_nil_iff.2 hslashes]
      rfl

end Url

namespace Zoo

open Url

/-- What holds of the URLs exactly where something holds of their loaders. -/
theorem forall_loaders_iff {R : String → ModelLoader → Prop} {p : String → Prop}
    {q : ModelLoader → Prop} {urls : List String} {loaders : List ModelLoader}
    (h : List.Forall₂ R urls loaders) (hpq : ∀ url l, R url l → (q l ↔ p url)) :
    (∀ l ∈ loaders, q l) ↔ ∀ url ∈ urls, p url := by
  induction h with
  | nil => simp
  | cons hul _ ih => simp [ih, hpq _ _ hul]

/-- The loader of a URL with the name that the URL gives. -/
theorem loaders_of_ofUrls {mark : Mark} {text : String} {z : Zoo} (h : ofUrls mark text = .ok z) :
    List.Forall₂ (fun url l => url ≠ "" ∧ IsLoaderOf z url l) (splitUrls text) z.loaders :=
  (List.forall₂_and_left _ _).2
    ⟨fun _ hurl => (isEntry_of_mem_splitUrls hurl).ne_empty, (urls_loaders_of_ofUrls h).2⟩

/-! ## Main result -/

/-- No artifact of a zoo made from URLs has a slash in its id, and the id is empty exactly if no
segment of the URL is there to name it.  So every artifact of the zoo has a usable id exactly if it
has no such URL. -/
theorem artifactIds_usable_iff {mark : Mark} {text : String} {z : Zoo}
    (h : ofUrls mark text = .ok z) :
    (∀ l ∈ z.loaders, '/' ∉ l.artifactId.toList) ∧
    List.Forall₂ (fun url l => l.url = some url ∧ (l.artifactId = "" ↔ Nameless url))
      (splitUrls text) z.loaders ∧
    ((∀ l ∈ z.loaders, l.artifactId ≠ "") ↔ ∀ url ∈ splitUrls text, ¬Nameless url) := by
  have hloaders := loaders_of_ofUrls h
  have hempty : ∀ url l, url ≠ "" ∧ IsLoaderOf z url l → (l.artifactId = "" ↔ Nameless url) := by
    rintro url l ⟨hne, hl⟩
    rw [← artifactName_eq_empty_iff hne, hl.name, Except.ok.injEq]
  refine ⟨?_, hloaders.imp fun url l hl => ⟨hl.2.location, hempty url l hl⟩, ?_⟩
  · refine (forall_loaders_iff (p := fun _ => True) hloaders fun url l hl => ?_).2 fun _ _ => trivial
    exact iff_of_true (slash_notMem_of_artifactName hl.2.name) trivial
  · exact forall_loaders_iff hloaders fun url l hl => not_congr (hempty url l hl)

/-- A slash behind a host leaves its artifact without a name, which the host alone would have. -/
theorem artifactIds_usable_iff_root :
    ∃ z, ofUrls (.own 0 0) "http://host/,http://host" = .ok z ∧ z.artifacts = ["", "host"] ∧
      Nameless "http://host/" ∧ ¬Nameless "http://host" ∧ ¬∀ l ∈ z.loaders, l.artifactId ≠ "" := by
  have hurls : splitUrls "http://host/,http://host" = ["http://host/", "http://host"] := by
    decide +kernel
  have hartifacts : (ofUrls (.own 0 0) "http://host/,http://host").map artifacts
      = .ok ["", "host"] := by decide +kernel
  have hroot : Nameless "http://host/" :=
    .inr ⟨['/'], by decide +kernel, by decide, by simp⟩
  have hhost : ¬Nameless "http://host" := by
    rw [← artifactName_eq_empty_iff (by decide)]
    decide +kernel
  cases hz : ofUrls (.own 0 0) "http://host/,http://host" with
  | error f =>
    rw [hz] at hartifacts
    cases hartifacts
  | ok z =>
    rw [hz] at hartifacts
    obtain ⟨-, -, husable⟩ := artifactIds_usable_iff hz
    refine ⟨z, rfl, Except.ok.inj hartifacts, hroot, hhost, fun h => ?_⟩
    exact husable.1 h "http://host/" (by simp [hurls]) hroot

end Zoo

end ModelSearch
