import ModelSearch.Proofs.Text.Lower
import ModelSearch.Proofs.Zoo.UrlParts

/-!
# Names of artifacts

A URL names its artifact by the last part of its path that is not empty, without one archive suffix
in any case of its letters.  What is left is not empty and its letters are those of the URL, and the
order of the suffixes decides nothing since none of them ends another one.

    artifactName url = .ok (.ofList (withoutArchiveSuffix (lastSegment path)))   (artifactName_eq)
    Archived archiveSuffixes name front → withoutArchiveSuffix name = front
                                                                  (withoutArchiveSuffix_eq_of_archived)
-/

namespace ModelSearch.Url

open Text

variable {name front : List Char} {suffixes : List String}

/-! ## Segments -/

/-- The parts of a path between its slashes that are not empty. -/
def segments (path : List Char) : List (List Char) := (splitAt '/' path).filter (· ≠ [])

/-- The last of them, empty if there is none. -/
def lastSegment (path : List Char) : List Char := (segments path).getLast?.getD []

theorem segments_append_slash (xs ys : List Char) :
    segments (xs ++ '/' :: ys) = segments xs ++ segments ys := by
  rw [segments, splitAt_append_cons, List.filter_append]
  rfl

theorem segments_of_notMem {xs : List Char} (h : '/' ∉ xs) (hne : xs ≠ []) : segments xs = [xs] := by
  rw [segments, splitAt_of_notMem '/' xs h]
  simp [hne]

theorem segments_of_forall {xs : List Char} (h : ∀ c ∈ xs, c = '/') : segments xs = [] := by
  induction xs with
  | nil => rfl
  | cons c cs ih =>
    rw [h c List.mem_cons_self]
    exact (segments_append_slash [] cs).trans (ih fun d hd => h d (List.mem_cons_of_mem _ hd))

theorem segments_append_slashes {ys : List Char} (h : ∀ c ∈ ys, c = '/') (xs : List Char) :
    segments (xs ++ ys) = segments xs := by
  cases ys with
  | nil => rw [List.append_nil]
  | cons c cs =>
    have hcs := segments_of_forall fun d hd => h d (List.mem_cons_of_mem _ hd)
    rw [h c List.mem_cons_self, segments_append_slash, hcs, List.append_nil]

theorem slash_notMem_of_mem_segments {path s : List Char} (h : s ∈ segments path) :
    s ≠ [] ∧ '/' ∉ s := by
  obtain ⟨hs, hne⟩ := List.mem_filter.1 h
  exact ⟨by simpa using hne, notMem_of_mem_splitAt hs⟩

theorem segments_ne_nil {path : List Char} (h : ∃ c ∈ path, c ≠ '/') : segments path ≠ [] := by
  obtain ⟨c, hc, hne⟩ := h
  obtain ⟨p, hp, hcp⟩ := exists_mem_splitAt hc hne
  have hs : p ∈ segments path := List.mem_filter.2 ⟨hp, by simpa using List.ne_nil_of_mem hcp⟩
  exact List.ne_nil_of_mem hs

theorem lastSegment_spec {path : List Char} (h : ∃ c ∈ path, c ≠ '/') :
    (segments path).getLast? = some (lastSegment path) ∧ lastSegment path ≠ [] ∧
      '/' ∉ lastSegment path := by
  have hlast := List.getLast?_eq_some_getLast (segments_ne_nil h)
  have heq : (segments path).getLast? = some (lastSegment path) := by
    rw [lastSegment, hlast]
    rfl
  exact ⟨heq, slash_notMem_of_mem_segments (List.mem_of_getLast? heq)⟩

theorem lastSegment_append_slashes {ys : List Char} (h : ∀ c ∈ ys, c = '/') (xs : List Char) :
    lastSegment (xs ++ ys) = lastSegment xs := by
  rw [lastSegment, segments_append_slashes h, lastSegment]

/-- The last segment is what stands behind the last slash, those at the end left out. -/
theorem lastSegment_eq (path : List Char) :
    lastSegment path =
      match lastCut '/' (dropRightWhile (· = '/') path) with
      | some (_, last) => last
      | none => dropRightWhile (· = '/') path := by
  obtain ⟨slashes, hpath, hslashes⟩ := dropRightWhile_append (· = '/') path
  have hsegments : segments path = segments (dropRightWhile (· = '/') path) := by
    conv => lhs; rw [hpath]
    exact segments_append_slashes (fun c hc => of_decide_eq_true (hslashes c hc)) _
  have hend : ∀ c, (dropRightWhile (· = '/') path).getLast? = some c → c ≠ '/' := by
    intro c hc
    rw [dropRightWhile_eq, List.getLast?_reverse] at hc
    simpa using head?_dropWhile_neg _ hc
  rw [lastSegment, hsegments]
  generalize dropRightWhile (· = '/') path = front at hend
  split
  next before last hcut =>
    obtain ⟨rfl, hlast⟩ := lastCut_eq_some hcut
    have hne : last ≠ [] := by
      rintro rfl
      exact hend '/' (by simp) rfl
    rw [segments_append_slash, segments_of_notMem hlast hne]
    simp
  next hcut =>
    by_cases hne : front = []
    · rw [hne]
      rfl
    · rw [segments_of_notMem (notMem_of_lastCut_eq_none hcut) hne]
      rfl

theorem artifactName_eq {url : String} {path : List Char} (h : pathOf url.toList = .ok path) :
    artifactName url = .ok (.ofList (withoutArchiveSuffix
      (lastSegment (if path.isEmpty then url.toList else path)))) := by
  rw [lastSegment_eq, artifactName, h]
  rfl

/-- A path that is more than slashes names the artifact, whatever slashes end it. -/
theorem artifactName_of_slashes {url : String} {path : List Char} (hpath : ∃ c ∈ path, c ≠ '/')
    {n : Nat} (h : pathOf url.toList = .ok (path ++ List.replicate n '/')) :
    artifactName url = .ok (.ofList (withoutArchiveSuffix (lastSegment path))) := by
  obtain ⟨c, hc, -⟩ := hpath
  have hfull : (path ++ List.replicate n '/').isEmpty = false := by
    simpa using fun hnil => absurd hnil (List.ne_nil_of_mem hc)
  rw [artifactName_eq h, hfull, if_neg (by simp),
    lastSegment_append_slashes fun c hc => List.eq_of_mem_replicate hc]

theorem exists_pathOf {url name : String} (h : artifactName url = .ok name) :
    ∃ path, pathOf url.toList = .ok path := by
  rw [artifactName] at h
  obtain ⟨path, hpath, -⟩ := bind_eq_ok.1 h
  exact ⟨path, hpath⟩

/-! ## Suffixes -/

/-- The front of a name that goes on with one of some suffixes, in any case of its letters. -/
def Archived (suffixes : List String) (name front : List Char) : Prop :=
  front ≠ [] ∧ ∃ suffix, name = front ++ suffix ∧ ∃ s ∈ suffixes, lower suffix = s.toList

/-- A name without the first of some suffixes that it ends with and is longer than. -/
def withoutSuffix (suffixes : List String) (name : List Char) : List Char :=
  match suffixes.find? fun s =>
      s.toList.isSuffixOf (lower name) && s.toList.length < name.length with
  | some s => name.take (name.length - s.toList.length)
  | none => name

theorem withoutArchiveSuffix_eq (name : List Char) :
    withoutArchiveSuffix name = withoutSuffix archiveSuffixes name := rfl

/-- Suffixes that lower case writes character by character. -/
def AllSteady (suffixes : List String) : Prop := ∀ s ∈ suffixes, ∀ c ∈ s.toList, Steady c

theorem archived_iff (hs : AllSteady suffixes) :
    Archived suffixes name front ↔
      ∃ s ∈ suffixes, s.toList <:+ lower name ∧ s.toList.length < name.length ∧
        front = name.take (name.length - s.toList.length) := by
  constructor
  · rintro ⟨hne, suffix, rfl, s, hm, hlower⟩
    have hlength := length_of_lower_eq (hs s hm) hlower
    have hfront := List.length_pos_iff.2 hne
    refine ⟨s, hm, (suffix_lower_iff (hs s hm)).2 ⟨front, suffix, rfl, hlower⟩, ?_, ?_⟩
    · rw [List.length_append]
      omega
    · rw [hlength, List.length_append, Nat.add_sub_cancel, List.take_left]
  · rintro ⟨s, hm, hsuffix, hlt, rfl⟩
    obtain ⟨front, suffix, rfl, hlower⟩ := (suffix_lower_iff (hs s hm)).1 hsuffix
    have hlength := length_of_lower_eq (hs s hm) hlower
    rw [hlength, List.length_append] at hlt ⊢
    rw [Nat.add_sub_cancel, List.take_left]
    exact ⟨List.length_pos_iff.1 (by omega), suffix, rfl, s, hm, hlower⟩

/-- What is taken off a name is one suffix, or nothing if it goes on with none. -/
theorem withoutSuffix_cases (hs : AllSteady suffixes) (name : List Char) :
    Archived suffixes name (withoutSuffix suffixes name) ∨
      (withoutSuffix suffixes name = name ∧ ∀ front, ¬Archived suffixes name front) := by
  unfold withoutSuffix
  split
  next s hfind =>
    have hp := List.find?_some hfind
    simp only [Bool.and_eq_true, List.isSuffixOf_iff_suffix, decide_eq_true_eq] at hp
    exact .inl ((archived_iff hs).2 ⟨s, List.mem_of_find?_eq_some hfind, hp.1, hp.2, rfl⟩)
  next hfind =>
    refine .inr ⟨rfl, fun front h => ?_⟩
    obtain ⟨s, hm, hsuffix, hlt, -⟩ := (archived_iff hs).1 h
    refine List.find?_eq_none.1 hfind s hm ?_
    simp [List.isSuffixOf_iff_suffix, hsuffix, hlt]

/-- No suffix ends another one. -/
def EndFree (suffixes : List String) : Prop :=
  ∀ s ∈ suffixes, ∀ t ∈ suffixes, s.toList <:+ t.toList → s = t

theorem Archived.unique (hs : AllSteady suffixes) (hfree : EndFree suffixes) {other : List Char}
    (h : Archived suffixes name front) (h' : Archived suffixes name other) : front = other := by
  obtain ⟨s, hm, hsuffix, -, rfl⟩ := (archived_iff hs).1 h
  obtain ⟨t, hm', hsuffix', -, rfl⟩ := (archived_iff hs).1 h'
  have heq : s = t := by
    rcases Nat.le_total s.toList.length t.toList.length with hle | hle
    · exact hfree s hm t hm' (List.suffix_of_suffix_length_le hsuffix hsuffix' hle)
    · exact (hfree t hm' s hm (List.suffix_of_suffix_length_le hsuffix' hsuffix hle)).symm
  rw [heq]

theorem withoutSuffix_eq_of_archived (hs : AllSteady suffixes) (hfree : EndFree suffixes)
    (h : Archived suffixes name front) : withoutSuffix suffixes name = front := by
  rcases withoutSuffix_cases hs name with hcut | ⟨-, hnone⟩
  · exact hcut.unique hs hfree h
  · exact absurd h (hnone front)

/-- The order of the suffixes decides nothing if none of them ends another one. -/
theorem withoutSuffix_perm (hs : AllSteady suffixes) (hfree : EndFree suffixes)
    {others : List String} (hperm : others.Perm suffixes) (name : List Char) :
    withoutSuffix others name = withoutSuffix suffixes name := by
  have hs' : AllSteady others := fun s hm => hs s (hperm.mem_iff.1 hm)
  have hiff : ∀ front, Archived others name front ↔ Archived suffixes name front := by
    intro front
    simp only [Archived, hperm.mem_iff]
  rcases withoutSuffix_cases hs' name with h | ⟨h, hnone⟩
  · exact (withoutSuffix_eq_of_archived hs hfree ((hiff _).1 h)).symm
  · rcases withoutSuffix_cases hs name with h' | ⟨h', -⟩
    · exact absurd ((hiff _).2 h') (hnone _)
    · rw [h, h']

instance (suffixes : List String) : Decidable (AllSteady suffixes) :=
  decidable_of_iff (suffixes.all fun s => s.toList.all fun c => decide (Steady c))
    (by simp [AllSteady])

instance (suffixes : List String) : Decidable (EndFree suffixes) :=
  inferInstanceAs (Decidable (∀ s ∈ suffixes, ∀ t ∈ suffixes, s.toList <:+ t.toList → s = t))

theorem allSteady_archiveSuffixes : AllSteady archiveSuffixes := by decide

theorem endFree_archiveSuffixes : EndFree archiveSuffixes := by decide

theorem exists_withoutArchiveSuffix_append (name : List Char) :
    ∃ suffix, name = withoutArchiveSuffix name ++ suffix := by
  rw [withoutArchiveSuffix_eq]
  rcases withoutSuffix_cases allSteady_archiveSuffixes name with ⟨-, suffix, h, -⟩ | ⟨h, -⟩
  · exact ⟨suffix, h⟩
  · exact ⟨[], by rw [h, List.append_nil]⟩

theorem notMem_withoutArchiveSuffix {c : Char} (h : c ∉ name) : c ∉ withoutArchiveSuffix name := by
  obtain ⟨suffix, hsuffix⟩ := exists_withoutArchiveSuffix_append name
  intro hm
  rw [hsuffix] at h
  exact h (List.mem_append_left _ hm)

theorem withoutArchiveSuffix_ne_nil (h : name ≠ []) : withoutArchiveSuffix name ≠ [] := by
  rw [withoutArchiveSuffix_eq]
  rcases withoutSuffix_cases allSteady_archiveSuffixes name with ⟨hne, -⟩ | ⟨hname, -⟩
  · exact hne
  · rwa [hname]

/-! ## Main result -/

/-- A URL whose path is more than slashes names its artifact by the last segment of the path,
without one suffix of an archive and in the letters of the segment.  The order of the suffixes
decides nothing, and neither do slashes at the end of the path. -/
theorem artifactName_laws {url : String} {path : List Char} (h : pathOf url.toList = .ok path)
    (hpath : ∃ c ∈ path, c ≠ '/') :
    ∃ s name, (segments path).getLast? = some s ∧ artifactName url = .ok name ∧ name ≠ "" ∧
      '/' ∉ name.toList ∧
      (Archived archiveSuffixes s name.toList ∨
        (name.toList = s ∧ ∀ front, ¬Archived archiveSuffixes s front)) ∧
      (∀ front, Archived archiveSuffixes s front → front = name.toList) ∧
      (∀ suffixes, suffixes.Perm archiveSuffixes → withoutSuffix suffixes s = name.toList) ∧
      (∀ other n, pathOf other.toList = .ok (path ++ List.replicate n '/') →
        artifactName other = .ok name) ∧
      ∀ front rest, url.toList = front ++ rest → EndsPath path front rest →
        ∀ n, artifactName (.ofList (front ++ List.replicate n '/' ++ rest)) = .ok name := by
  obtain ⟨hlast, hs, hslash⟩ := lastSegment_spec hpath
  obtain ⟨suffix, hsuffix⟩ := exists_withoutArchiveSuffix_append (lastSegment path)
  have hcases := withoutSuffix_cases allSteady_archiveSuffixes (lastSegment path)
  refine ⟨lastSegment path, .ofList (withoutArchiveSuffix (lastSegment path)), hlast, ?_, ?_, ?_,
    ?_, ?_, ?_, fun other n => artifactName_of_slashes hpath, ?_⟩
  · refine artifactName_of_slashes (n := 0) hpath ?_
    rw [h, List.replicate_zero, List.append_nil]
  · exact fun he => withoutArchiveSuffix_ne_nil hs (String.ofList_eq_empty_iff.1 he)
  · rw [String.toList_ofList]
    intro hm
    rw [hsuffix] at hslash
    exact hslash (List.mem_append_left _ hm)
  · rw [String.toList_ofList]
    exact hcases
  · intro front hfront
    rw [String.toList_ofList, withoutArchiveSuffix_eq]
    exact (withoutSuffix_eq_of_archived allSteady_archiveSuffixes endFree_archiveSuffixes hfront).symm
  · intro suffixes hperm
    rw [String.toList_ofList, withoutArchiveSuffix_eq]
    exact withoutSuffix_perm allSteady_archiveSuffixes endFree_archiveSuffixes hperm _
  · intro front rest _ hends n
    refine artifactName_of_slashes hpath (n := n) ?_
    rw [String.toList_ofList]
    exact hends.pathOf_slashes hpath n

/-- The dotted capital I is two characters in lower case, and the suffix is still cut off where it
stands. -/
theorem artifactName_laws_dotted :
    pathOf "http://h/a;b/İΣ.Tar.GZ//;p?v=1".toList = .ok "/a;b/İΣ.Tar.GZ//".toList ∧
      (∃ c ∈ "/a;b/İΣ.Tar.GZ//".toList, c ≠ '/') ∧
      artifactName "http://h/a;b/İΣ.Tar.GZ//;p?v=1" = .ok "İΣ" ∧
      Archived archiveSuffixes "İΣ.Tar.GZ".toList "İΣ".toList ∧
      EndsPath "/a;b/İΣ.Tar.GZ//".toList "http://h/a;b/İΣ.Tar.GZ//".toList ";p?v=1".toList ∧
      ∀ n, artifactName (.ofList ("http://h/a;b/İΣ.Tar.GZ//".toList ++ List.replicate n '/'
        ++ ";p?v=1".toList)) = .ok "İΣ" := by
  have hok : pathOf "http://h/a;b/İΣ.Tar.GZ//;p?v=1".toList = .ok "/a;b/İΣ.Tar.GZ//".toList := by
    decide +kernel
  have hpath : ∃ c ∈ "/a;b/İΣ.Tar.GZ//".toList, c ≠ '/' := ⟨'a', by decide, by decide⟩
  have hname : artifactName "http://h/a;b/İΣ.Tar.GZ//;p?v=1" = .ok "İΣ" := by decide +kernel
  have hends : EndsPath "/a;b/İΣ.Tar.GZ//".toList "http://h/a;b/İΣ.Tar.GZ//".toList
      ";p?v=1".toList :=
    { pathOf := by decide +kernel
      rest_eq := by decide +kernel
      query := by decide
      fragment := by decide
      behind := by
        refine ⟨";p".toList, "?v=1".toList, by decide, .inr ⟨by decide +kernel, "p".toList, ?_⟩,
          .inr ⟨'?', "v=1".toList, by decide, .inl rfl⟩⟩
        exact ⟨by decide, forall_of_all (by decide)⟩ }
  have hsegment : (segments "/a;b/İΣ.Tar.GZ//".toList).getLast? = some "İΣ.Tar.GZ".toList := by
    decide +kernel
  obtain ⟨s, name, hs, hnamed, -, -, hcut, -, -, -, hslashes⟩ := artifactName_laws hok hpath
  cases hsegment.symm.trans hs
  cases hname.symm.trans hnamed
  refine ⟨hok, hpath, hname, hcut.resolve_right fun h => ?_, hends, hslashes _ _ (by decide) hends⟩
  exact absurd h.1 (by decide)

end ModelSearch.Url
