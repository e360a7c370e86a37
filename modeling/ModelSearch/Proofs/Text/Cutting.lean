import Mathlib.Data.List.TakeWhile
import ModelSearch.Text.Basic

/-!
# Cutting and joining texts

`splitAt` and joining with the separator undo each other, on pieces that do not hold it, and `strip`
leaves a text alone whose ends are no blanks.

    splitAt sep (sep.intercalate ps) = ps      (splitAt_intercalate)
    sep.intercalate (splitAt sep xs) = xs      (intercalate_splitAt)
    xs trimmed → strip xs = xs                 (strip_of_trimmed)
-/

namespace ModelSearch.Text

/-- What is computed of each of some characters holds of them. -/
theorem forall_of_all {p : Char → Prop} [DecidablePred p] {cs : List Char}
    (h : (cs.all fun c => decide (p c)) = true) : ∀ c ∈ cs, p c :=
  fun c hc => of_decide_eq_true (List.all_eq_true.1 h c hc)

/-! ## Splitting -/

theorem splitAt_cons_sep (sep : Char) (xs : List Char) :
    splitAt sep (sep :: xs) = [] :: splitAt sep xs := by
  simp [splitAt]

theorem splitAt_cons_of_ne {sep c : Char} (h : c ≠ sep) (xs : List Char) :
    ∃ p ps, splitAt sep xs = p :: ps ∧ splitAt sep (c :: xs) = (c :: p) :: ps := by
  cases hs : splitAt sep xs with
  | nil => exact absurd hs (splitAt_ne_nil sep xs)
  | cons p ps => exact ⟨p, ps, rfl, by simp [splitAt, h, hs]⟩

theorem notMem_of_mem_splitAt {sep : Char} {xs p : List Char} (h : p ∈ splitAt sep xs) :
    sep ∉ p := by
  induction xs generalizing p with
  | nil =>
    simp only [splitAt, List.mem_singleton] at h
    simp [h]
  | cons c cs ih =>
    by_cases hc : c = sep
    · subst hc
      rw [splitAt_cons_sep, List.mem_cons] at h
      rcases h with rfl | h
      · simp
      · exact ih h
    · obtain ⟨q, qs, hq, hcq⟩ := splitAt_cons_of_ne hc cs
      rw [hcq, List.mem_cons] at h
      rcases h with rfl | h
      · have hn : sep ∉ q := ih (by rw [hq]; exact List.mem_cons_self)
        simp only [List.mem_cons, not_or]
        exact ⟨fun e => hc e.symm, hn⟩
      · exact ih (by rw [hq]; exact List.mem_cons_of_mem _ h)

theorem exists_mem_splitAt {sep c : Char} {xs : List Char} (h : c ∈ xs) (hne : c ≠ sep) :
    ∃ p ∈ splitAt sep xs, c ∈ p := by
  induction xs with
  | nil => cases h
  | cons d ds ih =>
    by_cases hd : d = sep
    · subst hd
      obtain ⟨p, hp, hcp⟩ := ih ((List.mem_cons.1 h).resolve_left hne)
      rw [splitAt_cons_sep]
      exact ⟨p, List.mem_cons_of_mem _ hp, hcp⟩
    · obtain ⟨q, qs, hq, hdq⟩ := splitAt_cons_of_ne hd ds
      rw [hq] at ih
      rw [hdq]
      rcases List.mem_cons.1 h with rfl | h
      · exact ⟨c :: q, List.mem_cons_self, List.mem_cons_self⟩
      · obtain ⟨p, hp, hcp⟩ := ih h
        rcases List.mem_cons.1 hp with rfl | hp
        · exact ⟨d :: p, List.mem_cons_self, List.mem_cons_of_mem _ hcp⟩
        · exact ⟨p, List.mem_cons_of_mem _ hp, hcp⟩

/-- A piece without the separator, and what follows the separator behind it. -/
theorem splitAt_append_sep {sep : Char} {p : List Char} (h : sep ∉ p) (xs : List Char) :
    splitAt sep (p ++ sep :: xs) = p :: splitAt sep xs := by
  induction p with
  | nil => exact splitAt_cons_sep sep xs
  | cons c cs ih =>
    simp only [List.mem_cons, not_or] at h
    have hc : c ≠ sep := fun e => h.1 e.symm
    obtain ⟨q, qs, hq, hcq⟩ := splitAt_cons_of_ne hc (cs ++ sep :: xs)
    rw [ih h.2, List.cons.injEq] at hq
    obtain ⟨rfl, rfl⟩ := hq
    exact hcq

theorem splitAt_append_cons (sep : Char) (xs ys : List Char) :
    splitAt sep (xs ++ sep :: ys) = splitAt sep xs ++ splitAt sep ys := by
  induction xs with
  | nil => exact splitAt_cons_sep sep ys
  | cons c cs ih =>
    by_cases hc : c = sep
    · subst hc
      rw [List.cons_append, splitAt_cons_sep, splitAt_cons_sep, ih]
      rfl
    · obtain ⟨p, ps, hp, hcp⟩ := splitAt_cons_of_ne hc cs
      obtain ⟨q, qs, hq, hcq⟩ := splitAt_cons_of_ne hc (cs ++ sep :: ys)
      rw [ih, hp, List.cons_append, List.cons.injEq] at hq
      obtain ⟨rfl, rfl⟩ := hq
      rw [List.cons_append, hcq, hcp]
      rfl

theorem intercalate_cons_of_ne_nil {sep p : List Char} {ps : List (List Char)} (h : ps ≠ []) :
    sep.intercalate (p :: ps) = p ++ sep ++ sep.intercalate ps := by
  cases ps with
  | nil => exact absurd rfl h
  | cons q qs => simp [List.intercalate]

theorem splitAt_intercalate {sep : Char} {ps : List (List Char)} (hne : ps ≠ [])
    (h : ∀ p ∈ ps, sep ∉ p) : splitAt sep ([sep].intercalate ps) = ps := by
  induction ps with
  | nil => exact absurd rfl hne
  | cons p ps ih =>
    have hp : sep ∉ p := h p List.mem_cons_self
    by_cases hps : ps = []
    · subst hps
      simpa [List.intercalate] using splitAt_of_notMem sep p hp
    · rw [intercalate_cons_of_ne_nil hps, List.append_assoc, List.singleton_append,
        splitAt_append_sep hp, ih hps fun q hq => h q (List.mem_cons_of_mem _ hq)]

theorem intercalate_splitAt (sep : Char) (xs : List Char) :
    [sep].intercalate (splitAt sep xs) = xs := by
  induction xs with
  | nil => simp [splitAt, List.intercalate]
  | cons c cs ih =>
    by_cases hc : c = sep
    · subst hc
      rw [splitAt_cons_sep, intercalate_cons_of_ne_nil (splitAt_ne_nil c cs), ih]
      simp
    · obtain ⟨q, qs, hq, hcq⟩ := splitAt_cons_of_ne hc cs
      rw [hq] at ih
      rw [hcq]
      cases qs with
      | nil => simpa [List.intercalate] using ih
      | cons r rs =>
        rw [intercalate_cons_of_ne_nil (List.cons_ne_nil r rs)] at ih ⊢
        simpa using ih

theorem splitAt_eq_singleton_iff {sep : Char} {xs p : List Char} :
    splitAt sep xs = [p] ↔ p = xs ∧ sep ∉ xs := by
  constructor
  · intro h
    have hp : p = xs := by simpa [h, List.intercalate] using intercalate_splitAt sep xs
    subst hp
    exact ⟨rfl, notMem_of_mem_splitAt (by rw [h]; exact List.mem_cons_self)⟩
  · rintro ⟨rfl, h⟩
    exact splitAt_of_notMem sep p h

theorem splitAt_eq_pair_iff {sep : Char} {xs p q : List Char} :
    splitAt sep xs = [p, q] ↔ xs = p ++ sep :: q ∧ sep ∉ p ∧ sep ∉ q := by
  constructor
  · intro h
    have hx := intercalate_splitAt sep xs
    have hn : ∀ r ∈ splitAt sep xs, sep ∉ r := fun r hr => notMem_of_mem_splitAt hr
    rw [h] at hx hn
    refine ⟨by simpa [List.intercalate] using hx.symm, ?_, ?_⟩
    · exact hn p (by simp)
    · exact hn q (by simp)
  · rintro ⟨rfl, hp, hq⟩
    rw [splitAt_append_sep hp, splitAt_of_notMem sep q hq]

/-! ## Cutting where a character is met -/

theorem cutWhere_append {p : Char → Bool} {xs : List Char} (h : ∀ c ∈ xs, p c = false)
    (ys : List Char) : cutWhere p (xs ++ ys) = (xs ++ (cutWhere p ys).1, (cutWhere p ys).2) := by
  induction xs with
  | nil => rfl
  | cons c cs ih =>
    have hc := h c List.mem_cons_self
    simp [cutWhere, hc, ih fun d hd => h d (List.mem_cons_of_mem _ hd)]

theorem cutWhere_of_forall {p : Char → Bool} {xs : List Char} (h : ∀ c ∈ xs, p c = false) :
    cutWhere p xs = (xs, []) := by
  simpa [cutWhere] using cutWhere_append h []

theorem cutWhere_parts (p : Char → Bool) (xs : List Char) :
    (cutWhere p xs).1 ++ (cutWhere p xs).2 = xs := by
  induction xs with
  | nil => rfl
  | cons c cs ih =>
    unfold cutWhere
    split
    · rfl
    · rw [List.cons_append, ih]

theorem cutWhere_append_cons {p : Char → Bool} {c : Char} (h : p c = true) (xs ys : List Char) :
    cutWhere p (xs ++ c :: ys) = ((cutWhere p xs).1, (cutWhere p xs).2 ++ c :: ys) := by
  induction xs with
  | nil => simp [cutWhere, h]
  | cons d ds ih => by_cases hd : p d <;> simp [cutWhere, hd, ih]

theorem cutWhere_append_of_ne_nil {p : Char → Bool} {xs : List Char} (h : (cutWhere p xs).2 ≠ [])
    (ys : List Char) :
    cutWhere p (xs ++ ys) = ((cutWhere p xs).1, (cutWhere p xs).2 ++ ys) := by
  induction xs with
  | nil => exact absurd rfl h
  | cons d ds ih =>
    by_cases hd : p d
    · simp [cutWhere, hd]
    · have hds : (cutWhere p ds).2 ≠ [] := by simpa [cutWhere, hd] using h
      simp [cutWhere, hd, ih hds]

theorem neg_of_mem_cutWhere {p : Char → Bool} {xs : List Char} {c : Char}
    (h : c ∈ (cutWhere p xs).1) : p c = false := by
  induction xs with
  | nil => cases h
  | cons d ds ih =>
    unfold cutWhere at h
    split at h
    · cases h
    next hd =>
      rcases List.mem_cons.1 h with rfl | h
      · exact Bool.eq_false_iff.2 hd
      · exact ih h

theorem firstCut_of_notMem {sep : Char} {xs : List Char} (h : sep ∉ xs) :
    firstCut sep xs = none := by
  induction xs with
  | nil => rfl
  | cons c cs ih =>
    simp only [List.mem_cons, not_or] at h
    have hc : ¬c = sep := fun e => h.1 e.symm
    simp [firstCut, hc, ih h.2]

theorem firstCut_append_sep {sep : Char} {xs : List Char} (h : sep ∉ xs) (ys : List Char) :
    firstCut sep (xs ++ sep :: ys) = some (xs, ys) := by
  induction xs with
  | nil => simp [firstCut]
  | cons c cs ih =>
    simp only [List.mem_cons, not_or] at h
    have hc : ¬c = sep := fun e => h.1 e.symm
    simp [firstCut, hc, ih h.2]

theorem firstCut_eq_some {sep : Char} {xs before after : List Char}
    (h : firstCut sep xs = some (before, after)) : xs = before ++ sep :: after := by
  induction xs generalizing before with
  | nil => cases h
  | cons c cs ih =>
    unfold firstCut at h
    split at h
    next hc =>
      cases h
      rw [hc]
      rfl
    · obtain ⟨⟨b, a⟩, hcut, heq⟩ := Option.map_eq_some_iff.1 h
      cases heq
      rw [ih hcut]
      rfl

theorem afterStart_eq_some {pre xs rest : List Char} (h : afterStart pre xs = some rest) :
    xs = pre ++ rest := by
  induction pre generalizing xs with
  | nil =>
    cases h
    rfl
  | cons p ps ih =>
    cases xs with
    | nil => cases h
    | cons x xs =>
      unfold afterStart at h
      split at h
      next hp => rw [ih h, hp, List.cons_append]
      · cases h

theorem notMem_of_lastCut_eq_none {sep : Char} {xs : List Char} (h : lastCut sep xs = none) :
    sep ∉ xs := by
  induction xs with
  | nil => exact List.not_mem_nil
  | cons c cs ih =>
    unfold lastCut at h
    split at h
    · cases h
    next hnone =>
      split at h
      · cases h
      next hc =>
        rw [List.mem_cons, not_or]
        exact ⟨fun e => hc e.symm, ih hnone⟩

theorem lastCut_of_notMem {sep : Char} {xs : List Char} (h : sep ∉ xs) : lastCut sep xs = none := by
  induction xs with
  | nil => rfl
  | cons c cs ih =>
    simp only [List.mem_cons, not_or] at h
    have hc : ¬c = sep := fun e => h.1 e.symm
    simp [lastCut, hc, ih h.2]

theorem lastCut_append_sep {sep : Char} {ys : List Char} (h : sep ∉ ys) (xs : List Char) :
    lastCut sep (xs ++ sep :: ys) = some (xs, ys) := by
  induction xs with
  | nil => simp [lastCut, lastCut_of_notMem h]
  | cons c cs ih => simp [lastCut, ih]

/-- The last separator: none stands behind it. -/
theorem lastCut_eq_some {sep : Char} {xs before after : List Char}
    (h : lastCut sep xs = some (before, after)) : xs = before ++ sep :: after ∧ sep ∉ after := by
  induction xs generalizing before with
  | nil => cases h
  | cons c cs ih =>
    unfold lastCut at h
    split at h
    next b a hcut =>
      cases h
      obtain ⟨rfl, hafter⟩ := ih hcut
      exact ⟨rfl, hafter⟩
    next hnone =>
      split at h
      next hc =>
        cases h
        exact ⟨by rw [hc]; rfl, notMem_of_lastCut_eq_none hnone⟩
      · cases h

/-! ## Stripping -/

theorem dropRightWhile_eq (p : Char → Bool) (xs : List Char) :
    dropRightWhile p xs = (xs.reverse.dropWhile p).reverse := by
  induction xs with
  | nil => rfl
  | cons c cs ih =>
    rw [dropRightWhile, ih, List.reverse_cons, List.dropWhile_append]
    cases hd : cs.reverse.dropWhile p with
    | nil => by_cases hc : p c <;> simp [hc]
    | cons d ds => simp

theorem dropRightWhile_of_getLast {p : Char → Bool} {xs : List Char}
    (h : ∀ c, xs.getLast? = some c → p c = false) : dropRightWhile p xs = xs := by
  rw [dropRightWhile_eq]
  cases hr : xs.reverse with
  | nil => simp [List.reverse_eq_nil_iff.1 hr]
  | cons c cs =>
    have hl : xs.getLast? = some c := by rw [← List.head?_reverse, hr]; rfl
    rw [List.dropWhile_cons_of_neg (by simp [h c hl]), ← hr, List.reverse_reverse]

theorem dropRightWhile_append (p : Char → Bool) (xs : List Char) :
    ∃ ys, xs = dropRightWhile p xs ++ ys ∧ ∀ c ∈ ys, p c = true := by
  refine ⟨(xs.reverse.takeWhile p).reverse, ?_, ?_⟩
  · rw [dropRightWhile_eq, ← List.reverse_append, List.takeWhile_append_dropWhile,
      List.reverse_reverse]
  · intro c hc
    exact List.mem_takeWhile_imp (List.mem_reverse.1 hc)

theorem dropRightWhile_append_of_exists {p : Char → Bool} {ys : List Char}
    (h : ∃ c ∈ ys, p c = false) (xs : List Char) :
    dropRightWhile p (xs ++ ys) = xs ++ dropRightWhile p ys := by
  have hne : ys.reverse.dropWhile p ≠ [] := by
    obtain ⟨c, hc, hp⟩ := h
    intro hnil
    have hall := List.dropWhile_eq_nil_iff.1 hnil c (List.mem_reverse.2 hc)
    rw [hp] at hall
    cases hall
  rw [dropRightWhile_eq, dropRightWhile_eq, List.reverse_append, List.dropWhile_append,
    if_neg (by simpa using hne), List.reverse_append, List.reverse_reverse]

theorem dropRightWhile_append_cons {p : Char → Bool} {c : Char} (h : p c = false)
    (xs ys : List Char) : dropRightWhile p (xs ++ c :: ys) = xs ++ c :: dropRightWhile p ys := by
  rw [dropRightWhile_append_of_exists ⟨c, List.mem_cons_self, h⟩, dropRightWhile]
  cases hys : dropRightWhile p ys <;> simp [h]

/-- A text whose ends are no blanks. -/
def Trimmed (xs : List Char) : Prop :=
  (∀ c, xs.head? = some c → isBlank c = false) ∧ ∀ c, xs.getLast? = some c → isBlank c = false

theorem strip_of_trimmed {xs : List Char} (h : Trimmed xs) : strip xs = xs := by
  have hl : stripLeft xs = xs := by
    cases xs with
    | nil => rfl
    | cons c cs => exact List.dropWhile_cons_of_neg (by simp [h.1 c rfl])
  rw [strip, hl]
  exact dropRightWhile_of_getLast h.2

theorem trimmed_of_forall {xs : List Char} (h : ∀ c ∈ xs, isBlank c = false) : Trimmed xs :=
  ⟨fun c hc => h c (List.mem_of_head? hc), fun c hc => h c (List.mem_of_getLast? hc)⟩

theorem head?_dropWhile_neg {p : Char → Bool} (xs : List Char) {c : Char}
    (h : (xs.dropWhile p).head? = some c) : p c = false := by
  have := List.head?_dropWhile_not p xs
  rw [h] at this
  simpa using this

theorem trimmed_strip (xs : List Char) : Trimmed (strip xs) := by
  unfold strip stripRight
  rw [dropRightWhile_eq]
  constructor
  · intro c hc
    -- the first character survives on the right, so it is the first of what is stripped on the left
    apply head?_dropWhile_neg (p := isBlank) xs
    have hpre : ((stripLeft xs).reverse.dropWhile isBlank).reverse <+: stripLeft xs := by
      have := (List.dropWhile_suffix isBlank (l := (stripLeft xs).reverse)).reverse
      simpa using this
    cases hs : ((stripLeft xs).reverse.dropWhile isBlank).reverse with
    | nil => rw [hs] at hc; simp at hc
    | cons d ds =>
      rw [hs] at hc hpre
      obtain ⟨t, ht⟩ := hpre
      simp only [List.head?_cons, Option.some.injEq] at hc
      subst hc
      show (stripLeft xs).head? = _
      rw [← ht]
      rfl
  · intro c hc
    rw [List.getLast?_reverse] at hc
    exact head?_dropWhile_neg _ hc

/-- A character that is no blank keeps the blanks on its inner sides. -/
theorem strip_append_cons {c : Char} (h : isBlank c = false) (xs ys : List Char) :
    strip (xs ++ c :: ys) = stripLeft xs ++ c :: stripRight ys := by
  have hleft : stripLeft (xs ++ c :: ys) = stripLeft xs ++ c :: ys := by
    unfold stripLeft
    rw [List.dropWhile_append]
    split
    next hnil =>
      rw [List.isEmpty_iff.1 hnil, List.dropWhile_cons_of_neg (by simp [h]), List.nil_append]
    next => rfl
  rw [strip, hleft]
  exact dropRightWhile_append_cons h _ _

theorem mem_of_mem_stripLeft {c : Char} {xs : List Char} (h : c ∈ stripLeft xs) : c ∈ xs :=
  (List.dropWhile_sublist isBlank).subset h

theorem mem_of_mem_stripRight {c : Char} {xs : List Char} (h : c ∈ stripRight xs) : c ∈ xs := by
  obtain ⟨ys, hys, -⟩ := dropRightWhile_append isBlank xs
  rw [hys]
  exact List.mem_append_left ys h

theorem mem_of_mem_strip {c : Char} {xs : List Char} (h : c ∈ strip xs) : c ∈ xs :=
  mem_of_mem_stripLeft (mem_of_mem_stripRight h)

theorem strip_eq_nil_iff {xs : List Char} : strip xs = [] ↔ ∀ c ∈ xs, isBlank c = true := by
  unfold strip stripRight
  rw [dropRightWhile_eq, List.reverse_eq_nil_iff, List.dropWhile_eq_nil_iff]
  constructor
  · intro h
    apply List.dropWhile_eq_nil_iff.1
    cases hd : xs.dropWhile isBlank with
    | nil => rfl
    | cons c cs =>
      have hc : isBlank c = false := head?_dropWhile_neg xs (by rw [hd]; rfl)
      have := h c (by rw [stripLeft, hd]; simp)
      rw [hc] at this
      cases this
  · intro h c hc
    rw [stripLeft, List.dropWhile_eq_nil_iff.2 h] at hc
    cases hc

end ModelSearch.Text
