import ModelSearch.Proofs.Zoo.Urls

/-!
# Lookup and listing

A zoo may list one id more than once.  A lookup finds the loader at the first place at which the
listing has the id, and nothing if the listing does not have it.  In a zoo made from URLs the places
are those of the URLs: the loader that is found is the one of the first URL that gives the name.

    z.find? id = some l ↔ ∃ i x, FirstAt p xs i x ∧ z.loaders[i]? = some l ∧ R x l
        where R relates xs to the loaders of z, place by place                (find?_along)
-/

namespace ModelSearch

/-- The first place in a list with a property, and what stands there. -/
structure FirstAt {α : Type} (p : α → Prop) (xs : List α) (i : Nat) (x : α) : Prop where
  there : xs[i]? = some x
  holds : p x
  before : ∀ j < i, ∀ y, xs[j]? = some y → ¬p y

section

variable {α β : Type} {R : α → β → Prop} {p : α → Prop} {q : β → Prop} {xs : List α} {ys : List β}
  {x : α} {i : Nat}

theorem find?_eq_some_iff_firstAt {f : α → Bool} :
    xs.find? f = some x ↔ ∃ i, FirstAt (fun y => f y = true) xs i x := by
  rw [List.find?_eq_some_iff_getElem]
  constructor
  · rintro ⟨hx, i, hi, rfl, hbefore⟩
    refine ⟨i, List.getElem?_eq_getElem hi, hx, fun j hj y hy hf => ?_⟩
    obtain ⟨hlt, rfl⟩ := List.getElem?_eq_some_iff.1 hy
    have := hbefore j hj
    rw [hf] at this
    cases this
  · rintro ⟨i, ⟨hi, hx, hbefore⟩⟩
    obtain ⟨hlt, rfl⟩ := List.getElem?_eq_some_iff.1 hi
    refine ⟨hx, i, hlt, rfl, fun j hj => ?_⟩
    have hn := hbefore j hj _ (List.getElem?_eq_getElem (Nat.lt_trans hj hlt))
    simpa using hn

theorem exists_getElem?_of_forall₂ (h : List.Forall₂ R xs ys) (hx : xs[i]? = some x) :
    ∃ y, ys[i]? = some y ∧ R x y := by
  induction h generalizing i with
  | nil => cases hx
  | cons hr _ ih =>
    cases i with
    | zero =>
      cases hx
      exact ⟨_, rfl, hr⟩
    | succ i => exact ih hx

/-- The first place is the same in two lists that are related place by place. -/
theorem FirstAt.along (hx : FirstAt p xs i x) (h : List.Forall₂ R xs ys)
    (hpq : ∀ x y, R x y → (p x ↔ q y)) : ∃ y, FirstAt q ys i y ∧ R x y := by
  obtain ⟨y, hy, hr⟩ := exists_getElem?_of_forall₂ h hx.there
  refine ⟨y, ⟨hy, (hpq x y hr).1 hx.holds, fun j hj w hw hq => ?_⟩, hr⟩
  have hback : List.Forall₂ (flip R) ys xs := List.Forall₂.flip h
  obtain ⟨v, hv, hvw⟩ := exists_getElem?_of_forall₂ hback hw
  exact hx.before j hj v hv ((hpq v w hvw).2 hq)

end

namespace Zoo

variable {z : Zoo} {id : String} {l : ModelLoader}

/-! ## Places of a lookup -/

theorem find?_eq_some_iff : z.find? id = some l ↔ ∃ i, FirstAt (·.artifactId = id) z.loaders i l := by
  simp only [find?, find?_eq_some_iff_firstAt, decide_eq_true_eq]

/-- A lookup can be followed in every list that goes along with the loaders. -/
theorem find?_along {α : Type} {R : α → ModelLoader → Prop} {p : α → Prop} {xs : List α}
    (h : List.Forall₂ R xs z.loaders) (hp : ∀ x l, R x l → (p x ↔ l.artifactId = id)) :
    z.find? id = some l ↔ ∃ i x, FirstAt p xs i x ∧ z.loaders[i]? = some l ∧ R x l := by
  rw [find?_eq_some_iff]
  constructor
  · rintro ⟨i, hl⟩
    have hback : List.Forall₂ (flip R) z.loaders xs := List.Forall₂.flip h
    obtain ⟨x, hx, hr⟩ := hl.along hback fun l x hr => (hp x l hr).symm
    exact ⟨i, x, hx, hl.there, hr⟩
  · rintro ⟨i, x, hx, hi, -⟩
    obtain ⟨m, hm, -⟩ := hx.along h hp
    cases hm.there.symm.trans hi
    exact ⟨i, hm⟩

theorem forall₂_artifacts (z : Zoo) :
    List.Forall₂ (fun a l => a = l.artifactId) z.artifacts z.loaders := by
  rw [artifacts, List.forall₂_map_left_iff, List.forall₂_same]
  exact fun _ _ => rfl

/-! ## Main result -/

/-- A lookup finds nothing exactly if the listing does not have the id, and otherwise the loader at
the first place where it does.  A zoo made from URLs lists as many artifacts as URLs, and a lookup
finds the loader of the first URL, in their order, that gives the name. -/
theorem lookup_laws (z : Zoo) (id : String) :
    (z.find? id = none ↔ id ∉ z.artifacts) ∧
    (∀ l, z.find? id = some l ↔
      ∃ i, FirstAt (· = id) z.artifacts i id ∧ z.loaders[i]? = some l) ∧
    ∀ mark text, ofUrls mark text = .ok z →
      z.urls? = some (splitUrls text) ∧ z.artifacts.length = (splitUrls text).length ∧
        ∀ l, z.find? id = some l ↔
          ∃ i url, FirstAt (fun u => Url.artifactName u = .ok id) (splitUrls text) i url ∧
            z.loaders[i]? = some l ∧ z.IsLoaderOf url l := by
  refine ⟨?_, fun l => ?_, fun mark text h => ?_⟩
  · rw [← find?_isSome, Bool.not_eq_true, Option.isSome_eq_false_iff, Option.isNone_iff_eq_none]
  · rw [find?_along (p := (· = id)) z.forall₂_artifacts fun a l ha => by rw [ha]]
    constructor
    · rintro ⟨i, a, ha, hl, -⟩
      obtain rfl : a = id := ha.holds
      exact ⟨i, ha, hl⟩
    · rintro ⟨i, ha, hl⟩
      obtain ⟨m, hm, hid⟩ := exists_getElem?_of_forall₂ z.forall₂_artifacts ha.there
      cases hm.symm.trans hl
      exact ⟨i, id, ha, hl, hid⟩
  · obtain ⟨hurls, hloaders⟩ := urls_loaders_of_ofUrls h
    refine ⟨hurls, ?_, fun l => find?_along hloaders fun url l hl => ?_⟩
    · rw [artifacts, List.length_map, hloaders.length_eq]
    · rw [hl.name, Except.ok.injEq]

/-- Three URLs for two names. -/
theorem lookup_laws_repeated :
    ∃ z, ofUrls (.own 0 0) "http://a/m2.zip,http://b/m1.tgz,file:///c/m1.tar/" = .ok z ∧
      z.artifacts = ["m2", "m1", "m1"] ∧ z.artifacts.length = 3 ∧ z.find? "m3" = none ∧
      ∃ l, z.find? "m1" = some l ∧ z.loaders[1]? = some l ∧ l.url = some "http://b/m1.tgz" := by
  have hurls : splitUrls "http://a/m2.zip,http://b/m1.tgz,file:///c/m1.tar/"
      = ["http://a/m2.zip", "http://b/m1.tgz", "file:///c/m1.tar/"] := by decide +kernel
  have hartifacts : (ofUrls (.own 0 0) "http://a/m2.zip,http://b/m1.tgz,file:///c/m1.tar/").map
      artifacts = .ok ["m2", "m1", "m1"] := by decide +kernel
  cases hz : ofUrls (.own 0 0) "http://a/m2.zip,http://b/m1.tgz,file:///c/m1.tar/" with
  | error f =>
    rw [hz] at hartifacts
    cases hartifacts
  | ok z =>
    rw [hz] at hartifacts
    have hlisted : z.artifacts = ["m2", "m1", "m1"] := Except.ok.inj hartifacts
    obtain ⟨hmissing, -, -⟩ := lookup_laws z "m3"
    obtain ⟨-, hfound, hmade⟩ := lookup_laws z "m1"
    obtain ⟨-, hlength, -⟩ := hmade _ _ hz
    rw [hurls] at hlength
    have hloaders := (urls_loaders_of_ofUrls hz).2
    rw [hurls] at hloaders
    obtain ⟨l, hl, hloader⟩ := exists_getElem?_of_forall₂ (i := 1) hloaders rfl
    refine ⟨z, rfl, hlisted, hlength, hmissing.2 (by simp [hlisted]), l, ?_, hl, hloader.location⟩
    refine (hfound l).2 ⟨1, ⟨by rw [hlisted]; rfl, rfl, fun j hj y hy => ?_⟩, hl⟩
    obtain rfl : j = 0 := by omega
    rw [hlisted] at hy
    cases hy
    decide

end Zoo

end ModelSearch
