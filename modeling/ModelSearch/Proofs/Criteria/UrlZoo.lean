import ModelSearch.Criteria.Builder
import ModelSearch.Proofs.Zoo.Urls

/-!
# Zoos of URLs in a builder

What a text of URLs makes of a builder.  The URLs of a text in two parts are those of the parts, and
joined they are themselves again.  They make a zoo if there are any and none is refused, and if they
make none the builder keeps the zoo that it has.

    splitUrls (s ++ "," ++ t) = splitUrls s ++ splitUrls t          (splitUrls_append)
    List.Forall₂ (IsLoaderOf z) (splitUrls s) z.loaders             (urls_loaders_of_ofUrls)
-/

namespace ModelSearch.Zoo

theorem apply_modelUrls_of_error {mark : Mark} {text : String} {f : ZooFault}
    (h : ofUrls mark text = .error f) (b : Builder) :
    b.apply (.modelUrls mark text) = ⟨b, some (.zoo f), []⟩ := by
  rw [Builder.apply, Builder.setModelUrls, h]

/-- A text makes no zoo exactly if it has no URLs or one of them is refused. -/
theorem ofUrls_isError_iff {mark : Mark} {text : String} :
    (∃ f, ofUrls mark text = .error f) ↔
      splitUrls text = [] ∨ ∃ url ∈ splitUrls text, ¬Accepted url := by
  have hok : (∃ f, ofUrls mark text = .error f) ↔ ¬∃ z, ofUrls mark text = .ok z := by
    cases ofUrls mark text <;> simp
  rw [hok, ofUrls_isOk_iff]
  by_cases he : splitUrls text = []
  · simp [he]
  · simp [he]

/-- If no URL is refused, only a text without URLs makes no zoo. -/
theorem ofUrls_eq_error_iff {mark : Mark} {text : String} {f : ZooFault}
    (h : ∀ url ∈ splitUrls text, Accepted url) :
    ofUrls mark text = .error f ↔ f = .noUrls text ∧ splitUrls text = [] := by
  rw [splitUrls_eq_nil_iff]
  cases f with
  | noUrls given =>
    rw [ofUrls_eq_noUrls_iff, ZooFault.noUrls.injEq]
  | url f =>
    rw [ofUrls_eq_url_iff]
    constructor
    · rintro ⟨before, url, after, hurls, hrefused, -⟩
      obtain ⟨path, hpath⟩ := h url (by simp [hurls])
      rw [hpath] at hrefused
      cases hrefused
    · rintro ⟨hf, -⟩
      cases hf

/-- The laws of texts of URLs: their URLs are trimmed and have no comma, the URLs of two texts joined
are those of both, and the URLs of a text joined are these URLs.  Unless one is refused, they make a
zoo with the loader of each of them in order exactly if there are any; and whenever a text makes no
zoo, a builder stays as it is. -/
theorem urls_laws (s t : String) (mark : Mark) :
    (∀ z, ofUrls mark s = .ok z → z.urls? = some (splitUrls s)) ∧
    (splitUrls s = [] ↔ AllBlank s) ∧
    (∀ url ∈ splitUrls s, IsEntry url) ∧
    splitUrls (s ++ "," ++ t) = splitUrls s ++ splitUrls t ∧
    splitUrls (Text.joinWith "," (splitUrls s)) = splitUrls s ∧
    ((∀ url ∈ splitUrls s, Accepted url) →
      (∀ f, ofUrls mark s = .error f ↔ f = .noUrls s ∧ splitUrls s = []) ∧
      (splitUrls s ≠ [] →
        ∃ z, ofUrls mark s = .ok z ∧ List.Forall₂ (IsLoaderOf z) (splitUrls s) z.loaders)) ∧
    ((∃ f, ofUrls mark s = .error f) ↔
      splitUrls s = [] ∨ ∃ url ∈ splitUrls s, ¬Accepted url) ∧
    ∀ f, ofUrls mark s = .error f →
      ∀ b : Builder, b.apply (.modelUrls mark s) = ⟨b, some (.zoo f), []⟩ := by
  refine ⟨fun z hz => (urls_loaders_of_ofUrls hz).1, splitUrls_eq_nil_iff,
    fun _ => isEntry_of_mem_splitUrls, splitUrls_append s t,
    splitUrls_joinWith fun _ => isEntry_of_mem_splitUrls,
    fun h => ⟨fun f => ofUrls_eq_error_iff h, fun hne => ?_⟩, ofUrls_isError_iff,
    fun f => apply_modelUrls_of_error⟩
  obtain ⟨z, hz⟩ := ofUrls_isOk_iff.2 ⟨hne, h⟩
  exact ⟨z, hz, (urls_loaders_of_ofUrls hz).2⟩

theorem urls_laws_refused :
    (∃ z, ofUrls (.own 0 0) " http://a/m1.zip,, file:///b/ " = .ok z ∧
      z.urls? = some ["http://a/m1.zip", "file:///b/"] ∧ z.artifacts = ["m1", "b"] ∧
      List.Forall₂ (IsLoaderOf z) ["http://a/m1.zip", "file:///b/"] z.loaders) ∧
    ofUrls (.own 0 0) "http://a/m1.zip,http://[" = .error (.url .brackets) ∧
    ∀ b : Builder, b.apply (.modelUrls (.own 0 0) "http://a/m1.zip,http://[")
      = ⟨b, some (.zoo (.url .brackets)), []⟩ := by
  have hurls : splitUrls " http://a/m1.zip,, file:///b/ " = ["http://a/m1.zip", "file:///b/"] := by
    decide +kernel
  obtain ⟨hheld, -, -, -, -, hmade, -⟩ := urls_laws " http://a/m1.zip,, file:///b/ " "" (.own 0 0)
  obtain ⟨-, -, -, -, -, -, -, hkept⟩ := urls_laws "http://a/m1.zip,http://[" "" (.own 0 0)
  rw [hurls] at hheld hmade
  have haccepted : ∀ url ∈ ["http://a/m1.zip", "file:///b/"], Accepted url := by
    intro url hurl
    rcases List.mem_cons.1 hurl with rfl | hurl
    · exact ⟨"/m1.zip".toList, by decide +kernel⟩
    · rw [List.mem_singleton.1 hurl]
      exact ⟨"/b/".toList, by decide +kernel⟩
  obtain ⟨z, hz, hloaders⟩ := (hmade haccepted).2 (by simp)
  have hartifacts : z.artifacts = ["m1", "b"] := by
    have h : ((ofUrls (.own 0 0) " http://a/m1.zip,, file:///b/ ").map artifacts)
        = .ok ["m1", "b"] := by decide +kernel
    rw [hz] at h
    exact Except.ok.inj h
  have hrefused : ofUrls (.own 0 0) "http://a/m1.zip,http://[" = .error (.url .brackets) := by
    rfl
  exact ⟨⟨z, hz, hheld z hz, hartifacts, hloaders⟩, hrefused, hkept _ hrefused⟩

end ModelSearch.Zoo
