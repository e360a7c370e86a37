import ModelSearch.Proofs.Steps
import ModelSearch.Proofs.Text.Cutting
import ModelSearch.Zoo.Url

/-!
# The parts of a URL

A URL is cut into scheme, authority and the rest, in which the path stands.  What is added at the
end of a URL goes to the rest if a mark begins it: a query, a fragment or parameters leave the path
as it is, and slashes go to the end of the path.

    pathOf (front ++ '?' :: more) = pathOf front                            (pathOf_append_query)
    pathOf (front ++ slashes ++ rest) = .ok (path ++ slashes)             (EndsPath.pathOf_slashes)
-/

namespace ModelSearch.Url

open Text

/-! ## Cutting a URL -/

/-- Line breaks and tabs are taken out of a URL. -/
def kept (c : Char) : Bool := c ≠ '\t' && c ≠ '\r' && c ≠ '\n'

def cleaned (url : List Char) : List Char := (url.dropWhile fun c => c.toNat ≤ 0x20).filter kept

/-- The characters that end an authority. -/
def isDelimiter (c : Char) : Bool := c = '/' || c = '?' || c = '#'

/-- The characters that end an authority or a path. -/
def isMark (c : Char) : Bool := isDelimiter c || c = ';'

/-- The authority behind two slashes, and what follows it. -/
def splitAuthority (rest : List Char) : List Char × List Char :=
  match rest with
  | '/' :: '/' :: more => cutWhere isDelimiter more
  | more => ([], more)

structure Parts where
  scheme : List Char
  authority : List Char
  rest : List Char

def parts (url : List Char) : Parts :=
  let schemed := splitScheme (cleaned url)
  let cut := splitAuthority schemed.2
  ⟨schemed.1, cut.1, cut.2⟩

/-- The path at the front of the rest of a URL. -/
def pathIn (scheme rest : List Char) : List Char :=
  let path := upTo '?' (upTo '#' rest)
  if parameterSchemes.contains (.ofList scheme) then dropParameters path else path

theorem pathOf_eq (url : List Char) :
    pathOf url = do
      checkBrackets (parts url).authority
      checkSeparators (parts url).authority
      return pathIn (parts url).scheme (parts url).rest := by
  rfl

/-- A URL has a path exactly if its authority is one. -/
theorem pathOf_eq_ok_iff {url path : List Char} :
    pathOf url = .ok path ↔ checkBrackets (parts url).authority = .ok () ∧
      checkSeparators (parts url).authority = .ok () ∧
      pathIn (parts url).scheme (parts url).rest = path := by
  rw [pathOf_eq]
  simp only [bind_eq_ok, pure, Except.pure, Except.ok.injEq]
  constructor
  · rintro ⟨⟨⟩, hbrackets, ⟨⟩, hseparators, hpath⟩
    exact ⟨hbrackets, hseparators, hpath⟩
  · rintro ⟨hbrackets, hseparators, hpath⟩
    exact ⟨(), hbrackets, (), hseparators, hpath⟩

/-! ## What is added at the end -/

variable {d : Char} {front more : List Char}

theorem isMark_cases (h : isMark d = true) : d = '/' ∨ d = '?' ∨ d = '#' ∨ d = ';' := by
  simpa [isMark, isDelimiter, or_assoc] using h

theorem cleaned_append (h : isMark d = true) :
    cleaned (front ++ d :: more) = cleaned front ++ d :: more.filter kept := by
  have hd : d.toNat > 0x20 ∧ kept d = true := by
    rcases isMark_cases h with rfl | rfl | rfl | rfl <;> decide
  have hdrop : (front ++ d :: more).dropWhile (fun c => decide (c.toNat ≤ 0x20))
      = front.dropWhile (fun c => decide (c.toNat ≤ 0x20)) ++ d :: more := by
    rw [List.dropWhile_append, List.dropWhile_cons_of_neg (by simpa using hd.1)]
    split
    next hnil => rw [List.isEmpty_iff.1 hnil, List.nil_append]
    · rfl
  rw [cleaned, hdrop, List.filter_append, List.filter_cons_of_pos hd.2]
  rfl

theorem splitScheme_append (h : isMark d = true) (xs ys : List Char) :
    splitScheme (xs ++ d :: ys) = ((splitScheme xs).1, (splitScheme xs).2 ++ d :: ys) := by
  have hd : isSchemeChar d = false ∧ ':' ≠ d := by
    rcases isMark_cases h with rfl | rfl | rfl | rfl <;> decide
  by_cases hx : ':' ∈ xs
  · obtain ⟨a, b, rfl, ha⟩ := List.eq_append_cons_of_mem hx
    rw [List.append_assoc, List.cons_append, splitScheme, splitScheme, firstCut_append_sep ha,
      firstCut_append_sep ha]
    dsimp only
    split <;> simp
  · have hfront : splitScheme xs = ([], xs) := by rw [splitScheme, firstCut_of_notMem hx]
    rw [hfront]
    by_cases hy : ':' ∈ ys
    · -- the colon stands behind the mark, which no scheme has
      obtain ⟨a, b, rfl, ha⟩ := List.eq_append_cons_of_mem hy
      have hcut : firstCut ':' (xs ++ d :: (a ++ ':' :: b)) = some (xs ++ d :: a, b) := by
        rw [← List.cons_append, ← List.append_assoc]
        exact firstCut_append_sep (by simp [hx, hd.2, ha]) b
      rw [splitScheme, hcut]
      simp [hd.1]
    · rw [splitScheme, firstCut_of_notMem (by simp [hx, hd.2, hy])]

theorem splitAuthority_of_ne {rest : List Char} (h : ∀ m, rest ≠ '/' :: '/' :: m) :
    splitAuthority rest = ([], rest) := by
  unfold splitAuthority
  split
  · exact absurd rfl (h _)
  · rfl

/-- A slash behind nothing but slashes could open an authority, and parameters go to an authority
without a path. -/
theorem splitAuthority_append (h : isMark d = true) {rest : List Char}
    (hpath : d = '/' ∨ d = ';' → ∃ c ∈ (splitAuthority rest).2, c ≠ '/') (ys : List Char) :
    splitAuthority (rest ++ d :: ys)
      = ((splitAuthority rest).1, (splitAuthority rest).2 ++ d :: ys) := by
  by_cases hopen : ∃ m, rest = '/' :: '/' :: m
  · obtain ⟨m, rfl⟩ := hopen
    by_cases hd : isDelimiter d = true
    · exact cutWhere_append_cons hd m ys
    · obtain ⟨c, hc, -⟩ := hpath (.inr (by simpa [isMark, hd] using h))
      exact cutWhere_append_of_ne_nil (List.ne_nil_of_mem hc) _
  · have hrest := splitAuthority_of_ne fun m hm => hopen ⟨m, hm⟩
    rw [hrest] at hpath ⊢
    refine splitAuthority_of_ne fun m hm => ?_
    match rest with
    | [] =>
      simp only [List.nil_append, List.cons.injEq] at hm
      obtain ⟨c, hc, -⟩ := hpath (.inl hm.1)
      cases hc
    | [x] =>
      simp only [List.cons_append, List.nil_append, List.cons.injEq] at hm
      obtain ⟨c, hc, hne⟩ := hpath (.inl hm.2.1)
      exact hne ((List.mem_singleton.1 hc).trans hm.1)
    | x :: y :: m' =>
      simp only [List.cons_append, List.cons.injEq] at hm
      exact hopen ⟨m', by rw [hm.1, hm.2.1]⟩

/-- What begins with a mark goes to the rest of a URL. -/
theorem parts_append (h : isMark d = true)
    (hpath : d = '/' ∨ d = ';' → ∃ c ∈ (parts front).rest, c ≠ '/') :
    parts (front ++ d :: more)
      = { parts front with rest := (parts front).rest ++ d :: more.filter kept } := by
  simp only [parts, cleaned_append h, splitScheme_append h]
  rw [splitAuthority_append h hpath]

/-! ## Paths -/

theorem mem_of_mem_cleaned {c : Char} {url : List Char} (h : c ∈ cleaned url) : c ∈ url :=
  (List.dropWhile_sublist _).subset (List.mem_filter.1 h).1

theorem splitScheme_suffix (xs : List Char) : (splitScheme xs).2 <:+ xs := by
  by_cases hx : ':' ∈ xs
  · obtain ⟨a, b, rfl, ha⟩ := List.eq_append_cons_of_mem hx
    rw [splitScheme, firstCut_append_sep ha]
    dsimp only
    split
    · exact ⟨a ++ [':'], by simp⟩
    · exact List.suffix_rfl
  · simp [splitScheme, firstCut_of_notMem hx]

theorem splitAuthority_suffix (rest : List Char) : (splitAuthority rest).2 <:+ rest := by
  unfold splitAuthority
  split
  next m =>
    refine ⟨'/' :: '/' :: (cutWhere isDelimiter m).1, ?_⟩
    rw [List.cons_append, List.cons_append, cutWhere_parts]
  · exact List.suffix_rfl

theorem mem_of_mem_rest {c : Char} {url : List Char} (h : c ∈ (parts url).rest) : c ∈ url :=
  mem_of_mem_cleaned ((splitScheme_suffix _).subset ((splitAuthority_suffix _).subset h))

theorem upTo_append {sep : Char} {xs : List Char} (h : sep ∉ xs) (ys : List Char) :
    upTo sep (xs ++ ys) = xs ++ upTo sep ys := by
  unfold upTo
  by_cases hy : sep ∈ ys
  · obtain ⟨a, b, rfl, ha⟩ := List.eq_append_cons_of_mem hy
    have hx : sep ∉ xs ++ a := by simp [h, ha]
    rw [← List.append_assoc, firstCut_append_sep hx, firstCut_append_sep ha]
  · have hx : sep ∉ xs ++ ys := by simp [h, hy]
    rw [firstCut_of_notMem hx, firstCut_of_notMem hy]

theorem upTo_of_notMem {sep : Char} {xs : List Char} (h : sep ∉ xs) : upTo sep xs = xs := by
  simpa [upTo, firstCut] using upTo_append h []

theorem upTo_cons_self (sep : Char) (xs : List Char) : upTo sep (sep :: xs) = [] := by
  simp [upTo, firstCut]

theorem upTo_append_self (sep : Char) (xs ys : List Char) :
    upTo sep (xs ++ sep :: ys) = upTo sep xs := by
  by_cases hx : sep ∈ xs
  · obtain ⟨a, b, rfl, ha⟩ := List.eq_append_cons_of_mem hx
    rw [List.append_assoc, List.cons_append, upTo_append ha, upTo_append ha, upTo_cons_self,
      upTo_cons_self]
  · rw [upTo_append hx, upTo_cons_self, upTo_of_notMem hx, List.append_nil]

theorem dropParameters_eq (path : List Char) :
    dropParameters path =
      match lastCut '/' path with
      | some (before, last) => before ++ '/' :: upTo ';' last
      | none => upTo ';' path := by
  rfl

theorem dropParameters_append_parameters {ys : List Char} (h : '/' ∉ ys) (xs : List Char) :
    dropParameters (xs ++ ';' :: ys) = dropParameters xs := by
  rw [dropParameters_eq, dropParameters_eq]
  by_cases hx : '/' ∈ xs
  · cases hcut : lastCut '/' xs with
    | none => exact absurd hx (notMem_of_lastCut_eq_none hcut)
    | some cut =>
      obtain ⟨before, last⟩ := cut
      obtain ⟨rfl, hlast⟩ := lastCut_eq_some hcut
      have hnone : '/' ∉ last ++ ';' :: ys := by simp [hlast, h]
      rw [List.append_assoc, List.cons_append, lastCut_append_sep hnone]
      dsimp only
      rw [upTo_append_self]
  · have hnone : '/' ∉ xs ++ ';' :: ys := by simp [hx, h]
    rw [lastCut_of_notMem hnone, lastCut_of_notMem hx]
    exact upTo_append_self ';' xs ys

/-- A path that ends with a slash has no parameters. -/
theorem dropParameters_append_slash (xs : List Char) :
    dropParameters (xs ++ ['/']) = xs ++ ['/'] := by
  rw [dropParameters_eq, lastCut_append_sep List.not_mem_nil]
  rfl

theorem pathIn_of_notMem {scheme rest : List Char} (hquery : '?' ∉ rest) (hfragment : '#' ∉ rest) :
    pathIn scheme rest
      = if parameterSchemes.contains (.ofList scheme) then dropParameters rest else rest := by
  rw [pathIn, upTo_of_notMem hfragment, upTo_of_notMem hquery]

/-- Neither a query nor a fragment belongs to the path. -/
theorem pathIn_append {scheme rest : List Char} (hquery : '?' ∉ rest) (hfragment : '#' ∉ rest)
    (hd : d = '?' ∨ d = '#') (ys : List Char) :
    pathIn scheme (rest ++ d :: ys) = pathIn scheme rest := by
  have hcut : upTo '?' (upTo '#' (rest ++ d :: ys)) = rest := by
    rw [upTo_append hfragment]
    rcases hd with rfl | rfl
    · have hmark : upTo '#' ('?' :: ys) = '?' :: upTo '#' ys := by
        have hne : '#' ∉ ['?'] := by decide
        exact upTo_append hne ys
      rw [upTo_append hquery, hmark, upTo_cons_self, List.append_nil]
    · rw [upTo_cons_self, List.append_nil, upTo_of_notMem hquery]
  rw [pathIn, pathIn, hcut, upTo_of_notMem hfragment, upTo_of_notMem hquery]

theorem pathIn_append_slashes {scheme rest : List Char} (hquery : '?' ∉ rest)
    (hfragment : '#' ∉ rest) (h : pathIn scheme rest = rest) (n : Nat) :
    pathIn scheme (rest ++ List.replicate n '/') = rest ++ List.replicate n '/' := by
  cases n with
  | zero => rw [List.replicate_zero, List.append_nil, h]
  | succ n =>
    rw [pathIn_of_notMem (by simp [hquery]) (by simp [hfragment]), List.replicate_succ',
      ← List.append_assoc, dropParameters_append_slash, ite_self]

/-! ## Main results -/

/-- A query or a fragment behind a URL leaves its path as it is, and whether it is refused. -/
theorem pathOf_append_query (hquery : '?' ∉ front) (hfragment : '#' ∉ front)
    (hd : d = '?' ∨ d = '#') : pathOf (front ++ d :: more) = pathOf front := by
  have hmark : isMark d = true := by rcases hd with rfl | rfl <;> rfl
  have hpath : d = '/' ∨ d = ';' → ∃ c ∈ (parts front).rest, c ≠ '/' := by
    rintro (rfl | rfl) <;> rcases hd with hd | hd <;> cases hd
  rw [pathOf_eq, pathOf_eq, parts_append hmark hpath]
  dsimp only
  rw [pathIn_append (fun h => hquery (mem_of_mem_rest h)) (fun h => hfragment (mem_of_mem_rest h)) hd]

/-- Parameters, if the scheme has them. -/
def IsParameters (scheme parameters : List Char) : Prop :=
  parameters = [] ∨ parameterSchemes.contains (.ofList scheme) = true ∧
    ∃ more, parameters = ';' :: more ∧ ∀ c ∈ more, isDelimiter c = false

/-- A URL cut at the end of its path: behind it stand parameters and a query or a fragment, or
nothing. -/
structure EndsPath (path front rest : List Char) : Prop where
  pathOf : pathOf front = .ok path
  rest_eq : (parts front).rest = path
  query : '?' ∉ front
  fragment : '#' ∉ front
  behind : ∃ parameters more, rest = parameters ++ more ∧
    IsParameters (parts front).scheme parameters ∧
    (more = [] ∨ ∃ d text, more = d :: text ∧ (d = '?' ∨ d = '#'))

variable {path rest : List Char}

theorem pathOf_append_parameters {parameters : List Char} (hquery : '?' ∉ front)
    (hfragment : '#' ∉ front) (hpath : ∃ c ∈ (parts front).rest, c ≠ '/')
    (h : IsParameters (parts front).scheme parameters) :
    Url.pathOf (front ++ parameters) = Url.pathOf front := by
  rcases h with rfl | ⟨hscheme, more, rfl, hmore⟩
  · rw [List.append_nil]
  · have hq : '?' ∉ (parts front).rest := fun hm => hquery (mem_of_mem_rest hm)
    have hf : '#' ∉ (parts front).rest := fun hm => hfragment (mem_of_mem_rest hm)
    have hnone : ∀ {c}, isDelimiter c = true → c ∉ more.filter kept := by
      intro c hc hm
      rw [hmore c (List.mem_filter.1 hm).1] at hc
      cases hc
    rw [pathOf_eq, pathOf_eq, parts_append rfl fun _ => hpath]
    dsimp only
    rw [pathIn_of_notMem (by simp [hq, hnone (c := '?') rfl]) (by simp [hf, hnone (c := '#') rfl]),
      pathIn_of_notMem hq hf, if_pos hscheme, if_pos hscheme,
      dropParameters_append_parameters (hnone rfl)]

namespace EndsPath

theorem pathOf_eq (h : EndsPath path front rest) (hpath : ∃ c ∈ path, c ≠ '/') :
    Url.pathOf (front ++ rest) = .ok path := by
  obtain ⟨parameters, more, rfl, hparameters, hmore⟩ := h.behind
  have hfront : Url.pathOf (front ++ parameters) = .ok path := by
    rw [pathOf_append_parameters h.query h.fragment (by rwa [h.rest_eq]) hparameters, h.pathOf]
  rcases hmore with rfl | ⟨d, text, rfl, hd⟩
  · rw [List.append_nil, hfront]
  · have hnone : ∀ c, isDelimiter c = true → c ∉ front → c ∉ front ++ parameters := by
      intro c hc hm
      rcases hparameters with rfl | ⟨-, rest, rfl, hrest⟩
      · simpa using hm
      · have hmark : c ≠ ';' := by
          rintro rfl
          cases hc
        have hr : c ∉ rest := fun hr => by
          rw [hrest c hr] at hc
          cases hc
        simp [hm, hmark, hr]
    rw [← List.append_assoc, pathOf_append_query (hnone '?' rfl h.query)
      (hnone '#' rfl h.fragment) hd, hfront]

theorem slashes (h : EndsPath path front rest) (hpath : ∃ c ∈ path, c ≠ '/') (n : Nat) :
    EndsPath (path ++ List.replicate n '/') (front ++ List.replicate n '/') rest := by
  cases n with
  | zero => simpa using h
  | succ n =>
    obtain ⟨hbrackets, hseparators, hin⟩ := pathOf_eq_ok_iff.1 h.pathOf
    have hq : '?' ∉ (parts front).rest := fun hm => h.query (mem_of_mem_rest hm)
    have hf : '#' ∉ (parts front).rest := fun hm => h.fragment (mem_of_mem_rest hm)
    have hkept : (List.replicate n '/').filter kept = List.replicate n '/' :=
      List.filter_eq_self.2 fun c hc => by rw [List.eq_of_mem_replicate hc]; rfl
    have hparts : parts (front ++ List.replicate (n + 1) '/')
        = { parts front with rest := path ++ List.replicate (n + 1) '/' } := by
      rw [List.replicate_succ, parts_append rfl fun _ => by rwa [h.rest_eq], hkept, h.rest_eq]
    rw [h.rest_eq] at hq hf hin
    refine ⟨pathOf_eq_ok_iff.2 ?_, by rw [hparts], by simp [h.query], by simp [h.fragment], ?_⟩
    · rw [hparts]
      exact ⟨hbrackets, hseparators, pathIn_append_slashes hq hf hin _⟩
    · rw [hparts]
      exact h.behind

/-- Slashes at the end of the path of a URL go to the path. -/
theorem pathOf_slashes (h : EndsPath path front rest) (hpath : ∃ c ∈ path, c ≠ '/') (n : Nat) :
    Url.pathOf (front ++ List.replicate n '/' ++ rest) = .ok (path ++ List.replicate n '/') := by
  refine (h.slashes hpath n).pathOf_eq ?_
  obtain ⟨c, hc, hne⟩ := hpath
  exact ⟨c, List.mem_append_left _ hc, hne⟩

end EndsPath

end ModelSearch.Url
