import ModelSearch.Proofs.Zoo.Naming
import ModelSearch.Proofs.Zoo.Urls

/-!
# Names and queries

A query and a fragment behind a URL with a path change nothing in the name of its artifact.  A URL
without a path is named as a whole, by its host; then the query and the fragment are part of what
the name is cut out of, and only a fragment can give the name of the host back, by its last segment.

    IsAddress url host path → (w.artifacts = z.artifacts ↔ path ≠ [] ∨ …)       (artifacts_query_iff)
-/

namespace ModelSearch

open Text

namespace Url

/-! ## Addresses -/

/-- `scheme://host`, with a path behind it or none, and no blank, comma, query or fragment. -/
structure IsAddress (url : String) (scheme host path : List Char) : Prop where
  toList : url.toList = scheme ++ ':' :: '/' :: '/' :: (host ++ path)
  scheme_head : ∃ c rest, scheme = c :: rest ∧ isAsciiLetter c = true
  scheme_chars : ∀ c ∈ scheme, isSchemeChar c = true
  host_ne_nil : host ≠ []
  slash_notMem : '/' ∉ host
  path : path = [] ∨ ∃ more, path = '/' :: more
  query : '?' ∉ url.toList
  fragment : '#' ∉ url.toList
  comma : ',' ∉ url.toList
  blank : ∀ c ∈ url.toList, isBlank c = false

variable {url : String} {scheme host path : List Char}

theorem IsAddress.not_isDelimiter (h : IsAddress url scheme host path) :
    ∀ c ∈ host, isDelimiter c = false := by
  intro c hc
  have hurl : c ∈ url.toList := by simp [h.toList, hc]
  simp only [isDelimiter, Bool.or_eq_false_iff, decide_eq_false_iff_not]
  refine ⟨⟨?_, ?_⟩, ?_⟩
  · rintro rfl
    exact h.slash_notMem hc
  · rintro rfl
    exact h.query hurl
  · rintro rfl
    exact h.fragment hurl

theorem IsAddress.cleaned_eq (h : IsAddress url scheme host path) :
    cleaned url.toList = url.toList := by
  have hkept : url.toList.filter kept = url.toList := by
    refine List.filter_eq_self.2 fun c hc => ?_
    have hb := h.blank c hc
    simp only [kept, Bool.and_eq_true, decide_eq_true_eq]
    refine ⟨⟨?_, ?_⟩, ?_⟩ <;> rintro rfl <;> exact absurd hb (by decide)
  obtain ⟨c, rest, hscheme, hletter⟩ := h.scheme_head
  have hc : ¬c.toNat ≤ 0x20 := by
    simp only [isAsciiLetter, isAsciiLower, Bool.or_eq_true, Bool.and_eq_true, decide_eq_true_eq,
      Char.le_def, UInt32.le_iff_toNat_le] at hletter
    change ¬c.val.toNat ≤ 0x20
    rcases hletter with ⟨hle, -⟩ | ⟨hle, -⟩
    · have : 'a'.val.toNat = 97 := rfl
      omega
    · have : 'A'.val.toNat = 65 := rfl
      omega
  have hdrop : url.toList.dropWhile (fun c => decide (c.toNat ≤ 0x20)) = url.toList := by
    rw [h.toList, hscheme]
    exact List.dropWhile_cons_of_neg (by simpa using hc)
  rw [cleaned, hdrop, hkept]

theorem IsAddress.parts_eq (h : IsAddress url scheme host path) :
    parts url.toList = ⟨scheme.map Char.toLower, host, path⟩ := by
  have hcolon : ':' ∉ scheme := fun hm => absurd (h.scheme_chars ':' hm) (by decide)
  have hscheme : splitScheme url.toList = (scheme.map Char.toLower, '/' :: '/' :: (host ++ path)) := by
    obtain ⟨c, rest, hs, hletter⟩ := h.scheme_head
    rw [h.toList, splitScheme, firstCut_append_sep hcolon]
    dsimp only
    rw [if_pos]
    rw [Bool.and_eq_true, List.all_eq_true]
    exact ⟨by simp [hs, hletter], h.scheme_chars⟩
  have hhost : cutWhere isDelimiter (host ++ path) = (host, path) := by
    rcases h.path with rfl | ⟨more, rfl⟩
    · simpa using cutWhere_of_forall h.not_isDelimiter
    · rw [cutWhere_append h.not_isDelimiter]
      simp [cutWhere, isDelimiter]
  rw [parts, h.cleaned_eq, hscheme]
  simp only [splitAuthority, hhost]

theorem dropParameters_ne_nil {path : List Char} (h : '/' ∈ path) : dropParameters path ≠ [] := by
  unfold dropParameters
  split
  · simp
  next hcut => exact absurd h (notMem_of_lastCut_eq_none hcut)

/-- Only an address without a path has the empty path. -/
theorem IsAddress.pathOf_eq_nil_iff (h : IsAddress url scheme host path) {p : List Char}
    (hp : pathOf url.toList = .ok p) : p = [] ↔ path = [] := by
  obtain ⟨-, -, hpath⟩ := pathOf_eq_ok_iff.1 hp
  rw [h.parts_eq] at hpath
  subst hpath
  have hquery : '?' ∉ path := fun hm => h.query (by simp [h.toList, hm])
  have hfragment : '#' ∉ path := fun hm => h.fragment (by simp [h.toList, hm])
  simp only [pathIn, upTo_of_notMem hfragment, upTo_of_notMem hquery]
  rcases h.path with rfl | ⟨more, rfl⟩
  · simp [dropParameters, lastCut, firstCut]
  · refine iff_of_false ?_ (List.cons_ne_nil _ _)
    split
    · exact dropParameters_ne_nil List.mem_cons_self
    · exact List.cons_ne_nil _ _

theorem IsAddress.pathOf_query (h : IsAddress url scheme host path) (query fragment : List Char) :
    pathOf (url.toList ++ '?' :: query ++ '#' :: fragment) = pathOf url.toList := by
  rw [List.append_assoc, List.cons_append]
  exact pathOf_append_query h.query h.fragment (.inl rfl)

/-- An address without a path ends with its host. -/
theorem IsAddress.lastSegment_eq (h : IsAddress url scheme host path) (hpath : path = []) :
    lastSegment url.toList = host := by
  rw [h.toList, hpath, List.append_nil, lastSegment, ← List.singleton_append, ← List.append_assoc,
    segments_append_slash, ← List.nil_append ('/' :: host), segments_append_slash,
    segments_of_notMem h.slash_notMem h.host_ne_nil]
  simp

/-! ## Names of whole URLs -/

/-- A segment that ends a text without slashes keeps what is in it. -/
theorem exists_lastSegment_append {c : Char} (hc : c ≠ '/') {ys : List Char} (h : '/' ∉ ys)
    (xs : List Char) : ∃ ws, lastSegment (xs ++ c :: ys) = ws ++ c :: ys := by
  cases hcut : lastCut '/' xs with
  | none =>
    have hx : '/' ∉ xs ++ c :: ys := by
      simp [notMem_of_lastCut_eq_none hcut, h, hc.symm]
    exact ⟨xs, by rw [lastSegment, segments_of_notMem hx (by simp)]; rfl⟩
  | some cut =>
    obtain ⟨before, after⟩ := cut
    obtain ⟨rfl, hafter⟩ := lastCut_eq_some hcut
    have hx : '/' ∉ after ++ c :: ys := by simp [hafter, h, hc.symm]
    refine ⟨after, ?_⟩
    rw [List.append_assoc, List.cons_append, lastSegment, segments_append_slash,
      segments_of_notMem hx (by simp)]
    simp

/-- A fragment mark in a name is in no suffix. -/
theorem mark_mem_withoutArchiveSuffix {name : List Char} (h : '#' ∈ name) :
    '#' ∈ withoutArchiveSuffix name := by
  rw [withoutArchiveSuffix_eq]
  have hnone : ∀ s ∈ archiveSuffixes, '#' ∉ s.toList := by decide
  rcases withoutSuffix_cases allSteady_archiveSuffixes name
    with ⟨-, suffix, hname, s, hs, hlower⟩ | ⟨hname, -⟩
  · rw [hname] at h
    refine (List.mem_append.1 h).resolve_right fun hm => ?_
    obtain ⟨a, b, rfl⟩ := List.append_of_mem hm
    obtain ⟨ws, hws⟩ := exists_lowerAfter_append [] a ('#' :: b)
    refine hnone s hs ?_
    rw [← hlower, lower, hws]
    exact List.mem_append_right _ List.mem_cons_self
  · rwa [hname]

/-- The last segment stands behind a slash, unless there are only slashes behind it. -/
theorem lastSegment_append_slash (xs ys : List Char) :
    lastSegment (xs ++ '/' :: ys)
      = if lastSegment ys = [] then lastSegment xs else lastSegment ys := by
  rw [lastSegment, segments_append_slash, List.getLast?_append]
  cases hlast : (segments ys).getLast? with
  | none =>
    rw [if_pos (by rw [lastSegment, hlast]; rfl)]
    rfl
  | some s =>
    have hs := (slash_notMem_of_mem_segments (List.mem_of_getLast? hlast)).1
    rw [if_neg (by rw [lastSegment, hlast]; exact hs), lastSegment, hlast]
    rfl

/-- A text with a fragment has a name without the mark of fragments exactly if the name is read
behind a slash of the fragment. -/
theorem name_fragment_iff {front fragment name : List Char} (hname : name ≠ [])
    (hmark : '#' ∉ name) :
    withoutArchiveSuffix (lastSegment (front ++ '#' :: fragment)) = name ↔
      ∃ before after, fragment = before ++ '/' :: after ∧
        withoutArchiveSuffix (lastSegment after) = name := by
  constructor
  · rintro rfl
    -- a last segment that begins in front of the fragment has the mark, and so has its name
    have hmarked : ∀ before : List Char, '/' ∉ before →
        '#' ∈ lastSegment (front ++ '#' :: before) := by
      intro before hbefore
      obtain ⟨ws, hws⟩ := exists_lastSegment_append (c := '#') (by decide) hbefore front
      rw [hws]
      exact List.mem_append_right _ List.mem_cons_self
    have hlost := fun hm => hmark (mark_mem_withoutArchiveSuffix hm)
    by_cases hslash : '/' ∈ fragment
    · obtain ⟨before, after, rfl, hbefore⟩ := List.eq_append_cons_of_mem hslash
      rw [← List.cons_append, ← List.append_assoc, lastSegment_append_slash] at hlost ⊢
      split at hlost
      next hnil => exact absurd (hmarked before hbefore) hlost
      next hne => exact ⟨before, after, rfl, by rw [if_neg hne]⟩
    · exact absurd (hmarked fragment hslash) hlost
  · rintro ⟨before, after, rfl, hafter⟩
    have hne : lastSegment after ≠ [] := by
      intro hnil
      rw [hnil] at hafter
      exact hname (hafter.symm.trans (by decide))
    rw [← List.cons_append, ← List.append_assoc, lastSegment_append_slash, if_neg hne, hafter]

end Url

namespace Zoo

open Url

/-! ## Zoos of one URL -/

theorem splitUrls_of_notMem {text : String} (hcomma : ',' ∉ text.toList)
    (hne : strip text.toList ≠ []) : splitUrls text = [.ofList (strip text.toList)] := by
  rw [splitUrls, splitAt_of_notMem ',' text.toList hcomma]
  simp [hne]

/-- The zoo of one URL has one artifact, which the URL names. -/
theorem ofUrls_eq_ok_of_single {mark : Mark} {text url : String} {z : Zoo}
    (h : splitUrls text = [url]) :
    ofUrls mark text = .ok z ↔ ∃ name, artifactName url = .ok name ∧
      z = ⟨mark, .urls [url], urlGroup, [⟨urlGroup, name, some url, []⟩], []⟩ := by
  rw [ofUrls_eq_ok_iff, h]
  constructor
  · rintro ⟨-, loaders, hl, rfl⟩
    obtain ⟨l, rfl, hurl⟩ := List.map_eq_singleton_iff.1 hl.symm
    obtain ⟨name, hname, rfl⟩ := urlLoader_eq_ok_iff.1 hurl.symm
    exact ⟨name, hname, rfl⟩
  · rintro ⟨name, hname, rfl⟩
    have hl := urlLoader_eq_ok_iff.2 ⟨name, hname, rfl⟩
    exact ⟨List.cons_ne_nil _ _, _, by rw [LoadersOf, List.map_singleton, hl]; rfl, rfl⟩

variable {url : String} {scheme host path : List Char}

theorem splitUrls_address (h : IsAddress url scheme host path) : splitUrls url = [url] := by
  have hstrip : strip url.toList = url.toList := strip_of_trimmed (trimmed_of_forall h.blank)
  rw [splitUrls_of_notMem h.comma (by rw [hstrip, h.toList]; simp), hstrip, String.ofList_toList]

/-- Only the blanks at the end of a fragment are stripped. -/
theorem splitUrls_query (h : IsAddress url scheme host path) {query fragment : String}
    (hquery : ',' ∉ query.toList) (hfragment : ',' ∉ fragment.toList) :
    splitUrls (url ++ "?" ++ query ++ "#" ++ fragment)
      = [.ofList (url.toList ++ '?' :: query.toList ++ '#' :: stripRight fragment.toList)] := by
  have hlist : (url ++ "?" ++ query ++ "#" ++ fragment).toList
      = url.toList ++ '?' :: query.toList ++ '#' :: fragment.toList := by simp
  have hleft : stripLeft (url.toList ++ '?' :: query.toList ++ '#' :: fragment.toList)
      = url.toList ++ '?' :: query.toList ++ '#' :: fragment.toList := by
    obtain ⟨c, rest, hs, -⟩ := h.scheme_head
    have hb : isBlank c = false := h.blank c (by simp [h.toList, hs])
    rw [h.toList, hs]
    exact List.dropWhile_cons_of_neg (by simpa using hb)
  have hstrip : strip (url ++ "?" ++ query ++ "#" ++ fragment).toList
      = url.toList ++ '?' :: query.toList ++ '#' :: stripRight fragment.toList := by
    rw [strip, hlist, hleft]
    exact dropRightWhile_append_cons (by decide) _ _
  have hcomma : ',' ∉ (url ++ "?" ++ query ++ "#" ++ fragment).toList := by
    simp [hlist, h.comma, hquery, hfragment]
  rw [splitUrls_of_notMem hcomma (by rw [hstrip]; simp), hstrip]

/-! ## Main result -/

/-- The name of an artifact does not depend on a query and a fragment exactly if its URL has a path,
or if the last segment of the fragment happens to give the name of the host. -/
theorem artifacts_query_iff (h : IsAddress url scheme host path) {mark : Mark} {z : Zoo}
    (hz : ofUrls mark url = .ok z) {query fragment : String} (hquery : ',' ∉ query.toList)
    (hfragment : ',' ∉ fragment.toList) (other : Mark) :
    ∃ w, ofUrls other (url ++ "?" ++ query ++ "#" ++ fragment) = .ok w ∧
      (w.artifacts = z.artifacts ↔ path ≠ [] ∨
        ∃ before after, stripRight fragment.toList = before ++ '/' :: after ∧
          withoutArchiveSuffix (lastSegment after) = withoutArchiveSuffix host) := by
  obtain ⟨name, hname, rfl⟩ := (ofUrls_eq_ok_of_single (splitUrls_address h)).1 hz
  obtain ⟨p, hp⟩ := exists_pathOf hname
  cases (artifactName_eq hp).symm.trans hname
  have hfull : pathOf (String.ofList
      (url.toList ++ '?' :: query.toList ++ '#' :: stripRight fragment.toList)).toList = .ok p := by
    rw [String.toList_ofList, h.pathOf_query, hp]
  refine ⟨_, (ofUrls_eq_ok_of_single (splitUrls_query h hquery hfragment)).2
    ⟨_, artifactName_eq hfull, rfl⟩, ?_⟩
  simp only [artifacts, List.map_singleton, List.singleton_inj, String.ofList_inj,
    String.toList_ofList]
  by_cases hpath : path = []
  · have hnil := (h.pathOf_eq_nil_iff hp).2 hpath
    have hmark : '#' ∉ withoutArchiveSuffix host := by
      obtain ⟨suffix, hsuffix⟩ := exists_withoutArchiveSuffix_append host
      intro hm
      refine h.fragment ?_
      rw [h.toList, hsuffix]
      simp [hm]
    simp only [hnil, List.isEmpty_nil, if_true, h.lastSegment_eq hpath]
    rw [name_fragment_iff (withoutArchiveSuffix_ne_nil h.host_ne_nil) hmark]
    simp [hpath]
  · have hne : p.isEmpty = false := by
      simpa using fun hnil => hpath ((h.pathOf_eq_nil_iff hp).1 hnil)
    simp [hne, hpath]

/-- A host alone is the artifact, but the query behind it takes its place. -/
theorem artifacts_query_iff_bare :
    IsAddress "http://host" "http".toList "host".toList [] ∧
      ∃ z w, ofUrls (.own 0 0) "http://host" = .ok z ∧ z.artifacts = ["host"] ∧
        ofUrls (.own 0 1) ("http://host" ++ "?" ++ "rev=models/bert.zip" ++ "#" ++ "top") = .ok w ∧
        w.artifacts ≠ z.artifacts := by
  have haddress : IsAddress "http://host" "http".toList "host".toList [] :=
    { toList := by decide
      scheme_head := ⟨'h', "ttp".toList, by decide, by decide⟩
      scheme_chars := forall_of_all (by decide)
      host_ne_nil := by decide
      slash_notMem := by decide
      path := .inl rfl
      query := by decide
      fragment := by decide
      comma := by decide
      blank := forall_of_all (by decide +kernel) }
  have hname : artifactName "http://host" = .ok "host" := by decide +kernel
  obtain ⟨z, hz, hartifacts⟩ : ∃ z, ofUrls (.own 0 0) "http://host" = .ok z ∧
      z.artifacts = ["host"] :=
    ⟨_, (ofUrls_eq_ok_of_single (splitUrls_address haddress)).2 ⟨_, hname, rfl⟩, rfl⟩
  have hquery : ',' ∉ "rev=models/bert.zip".toList := by decide
  have hfragment : ',' ∉ "top".toList := by decide
  obtain ⟨w, hw, hiff⟩ := artifacts_query_iff haddress hz hquery hfragment (.own 0 1)
  refine ⟨haddress, z, w, hz, hartifacts, hw, fun hsame => ?_⟩
  rcases hiff.1 hsame with hpath | ⟨before, after, hcut, -⟩
  · exact hpath rfl
  · have hslash : '/' ∈ stripRight "top".toList := by
      rw [hcut]
      exact List.mem_append_right _ List.mem_cons_self
    exact absurd hslash (by decide +kernel)

end Zoo

end ModelSearch
