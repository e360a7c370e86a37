import ModelSearch.Proofs.Console.Filling

/-!
# What wrapping keeps

Wrapping a text never adds a character that is no blank.  It keeps all of those that are none if the
blanks of the text have columns and its words start with characters that have columns.  Otherwise a
line can be too long for its width, and what stands beyond is cropped.

    ink (lines) is within ink xs                                              (ink_wrap_sublist)
    ink (lines) = ink xs, if Upright true xs                                  (ink_wrap)
-/

namespace ModelSearch.Console

open Text Glyph

/-- A blank that breaks or fills lines, or a character that has columns. -/
def Stands (c : Char) : Prop := c = '\n' ∨ c = '\t' ∨ 0 < charColumns c

/-- A text whose blanks stand, and the first characters of its words.  `first` tells whether a word
may start with the text. -/
def Upright (first : Bool) : List Char → Prop
  | [] => True
  | c :: cs => (first = true ∨ isBlank c = true → Stands c) ∧ Upright (isBlank c) cs

instance (c : Char) : Decidable (Stands c) := inferInstanceAs (Decidable (_ ∨ _ ∨ _))

instance decidableUpright : (first : Bool) → (xs : List Char) → Decidable (Upright first xs)
  | _, [] => inferInstanceAs (Decidable True)
  | _, c :: cs =>
    have := decidableUpright (isBlank c) cs
    inferInstanceAs (Decidable ((_ → _) ∧ _))

variable {xs : List Char} {n : Nat}

/-! ## The words of a line -/

/-- Whether a text that starts behind a blank, or not, ends behind one. -/
def blankAfter (first : Bool) (xs : List Char) : Bool := xs.foldl (fun _ c => isBlank c) first

theorem upright_append_iff (first : Bool) (xs ys : List Char) :
    Upright first (xs ++ ys) ↔ Upright first xs ∧ Upright (blankAfter first xs) ys := by
  induction xs generalizing first with
  | nil => exact (and_iff_right trivial).symm
  | cons c cs ih =>
    simp only [List.cons_append, Upright, ih, blankAfter, List.foldl_cons, and_assoc]

theorem Upright.stands {first : Bool} (h : Upright first xs) {b : Char} (hb : b ∈ xs)
    (hblank : isBlank b = true) : Stands b := by
  induction xs generalizing first with
  | nil => cases hb
  | cons c cs ih =>
    rcases List.mem_cons.1 hb with rfl | hb
    · exact h.1 (.inr hblank)
    · exact ih h.2 hb

theorem blankAfter_of_endsBlank (h : EndsBlank xs) (first : Bool) : blankAfter first xs = true := by
  obtain ⟨b, hlast, hb⟩ := h
  rw [← List.dropLast_append_getLast? b hlast, blankAfter, List.foldl_append]
  exact hb

theorem firstWord_append (xs : List Char) : (firstWord xs).1 ++ (firstWord xs).2 = xs := by
  simp only [firstWord, List.append_assoc, List.takeWhile_append_dropWhile]

/-- The first word of a line that is not blank is not blank. -/
theorem exists_mem_firstWord (h : xs.all isBlank = false) :
    ∃ c ∈ (firstWord xs).1, isBlank c = false := by
  cases hrest : xs.dropWhile isBlank with
  | nil =>
    rw [List.all_eq_true.2 (List.dropWhile_eq_nil_iff.1 hrest)] at h
    cases h
  | cons c cs =>
    have hc : isBlank c = false := head?_dropWhile_neg xs (by rw [hrest]; rfl)
    refine ⟨c, ?_, hc⟩
    simp [firstWord, hrest, hc]

/-- What follows the first word is empty or not blank. -/
theorem all_isBlank_firstWord (h : (firstWord xs).2.all isBlank = true) :
    (firstWord xs).2 = [] := by
  cases hrest : (firstWord xs).2 with
  | nil => rfl
  | cons c cs =>
    have hc : isBlank c = false := head?_dropWhile_neg (p := isBlank) _ (congrArg List.head? hrest)
    rw [hrest, List.all_cons, hc] at h
    cases h

/-- The first word ends in a blank if another one follows. -/
theorem endsBlank_firstWord (h : (firstWord xs).2 ≠ []) : EndsBlank (firstWord xs).1 := by
  unfold firstWord at h ⊢
  dsimp only at h ⊢
  cases hrest : (xs.dropWhile isBlank).dropWhile (!isBlank ·) with
  | nil =>
    rw [hrest] at h
    exact absurd rfl h
  | cons c cs =>
    have hc := head?_dropWhile_neg (xs.dropWhile isBlank) (congrArg List.head? hrest)
    have hc : isBlank c = true := by simpa using hc
    have hne : (c :: cs).takeWhile isBlank ≠ [] := by simp [hc]
    rw [endsBlank_append_iff hne]
    exact ⟨_, List.getLast?_eq_some_getLast hne, List.mem_takeWhile_imp (List.getLast_mem hne)⟩

theorem wordsWithin_nil (fuel : Nat) : wordsWithin fuel [] = [] := by
  cases fuel <;> rfl

theorem flatten_wordsWithin_sublist (fuel : Nat) (xs : List Char) :
    (wordsWithin fuel xs).flatten.Sublist xs := by
  induction fuel generalizing xs with
  | zero => exact List.nil_sublist xs
  | succ fuel ih =>
    unfold wordsWithin
    split
    · exact List.nil_sublist xs
    · have h := (List.Sublist.refl (firstWord xs).1).append (ih (firstWord xs).2)
      rwa [firstWord_append] at h

/-- The words of a line are the line, unless it is blank. -/
theorem flatten_wordsWithin {fuel : Nat} (hfuel : xs.length ≤ fuel) (h : xs.all isBlank = false) :
    (wordsWithin fuel xs).flatten = xs := by
  induction fuel generalizing xs with
  | zero =>
    rw [List.length_eq_zero_iff.1 (Nat.le_zero.1 hfuel)] at h
    cases h
  | succ fuel ih =>
    have hsplit := firstWord_append xs
    rw [wordsWithin, h, if_neg Bool.false_ne_true, List.flatten_cons]
    cases hrest : (firstWord xs).2.all isBlank with
    | true =>
      rw [all_isBlank_firstWord hrest] at hsplit ⊢
      rw [wordsWithin_nil]
      exact hsplit
    | false =>
      obtain ⟨c, hc, -⟩ := exists_mem_firstWord h
      have hpos := List.length_pos_of_mem hc
      have hlen := congrArg List.length hsplit
      rw [List.length_append] at hlen
      rw [ih (by omega) hrest, hsplit]

theorem words_wordsWithin (fuel : Nat) (h : Upright true xs) (hn : '\n' ∉ xs) (ht : '\t' ∉ xs) :
    Words (wordsWithin fuel xs) := by
  induction fuel generalizing xs with
  | zero => exact ⟨nofun, .nil⟩
  | succ fuel ih =>
    unfold wordsWithin
    split
    · exact ⟨nofun, .nil⟩
    next hblank =>
      obtain ⟨c, hc, hcblank⟩ := exists_mem_firstWord (Bool.eq_false_iff.2 hblank)
      have hsplit := firstWord_append xs
      have hends : (firstWord xs).2 ≠ [] → EndsBlank (firstWord xs).1 := endsBlank_firstWord
      generalize (firstWord xs).1 = w at hc hsplit hends
      generalize (firstWord xs).2 = rest at hsplit hends
      subst hsplit
      obtain ⟨hw, hrest⟩ := (upright_append_iff true w rest).1 h
      have hstarts : Starts w := by
        cases w with
        | nil => cases hc
        | cons d ds =>
          refine ⟨d, ds, rfl, ?_⟩
          rcases hw.1 (.inl rfl) with rfl | rfl | hd
          · exact absurd List.mem_cons_self hn
          · exact absurd List.mem_cons_self ht
          · exact hd
      have huprest : Upright true rest := by
        by_cases hne : rest = []
        · rw [hne]
          trivial
        · rwa [blankAfter_of_endsBlank (hends hne)] at hrest
      have hwords := ih huprest (fun hm => hn (List.mem_append_right w hm))
        fun hm => ht (List.mem_append_right w hm)
      refine ⟨List.forall_mem_cons.2 ⟨⟨hstarts, c, hc, hcblank⟩, hwords.word⟩,
        List.pairwise_cons.2 ⟨fun v hv => hends ?_, hwords.ends⟩⟩
      rintro rfl
      rw [wordsWithin_nil] at hv
      cases hv

/-! ## Lines between separators -/

variable {sep : Char}

/-- The ink of a text is that of its pieces between blanks. -/
theorem ink_splitAt (sep : Char) (hsep : isBlank sep = true) (xs : List Char) :
    (splitAt sep xs).flatMap ink = ink xs := by
  induction xs with
  | nil => rfl
  | cons c cs ih =>
    by_cases hc : c = sep
    · subst hc
      rw [splitAt_cons_sep, List.flatMap_cons, ih]
      simp [ink, hsep]
    · obtain ⟨p, ps, hp, hcp⟩ := splitAt_cons_of_ne hc cs
      have hcons : ∀ zs, ink (c :: zs) = ink [c] ++ ink zs := ink_append [c]
      rw [hp, List.flatMap_cons] at ih
      rw [hcp, List.flatMap_cons, hcons p, hcons cs, ← ih, List.append_assoc]

theorem mem_of_mem_splitAt {p : List Char} {c : Char} (hp : p ∈ splitAt sep xs) (hc : c ∈ p) :
    c ∈ xs := by
  induction xs generalizing p with
  | nil =>
    rw [List.mem_singleton.1 hp] at hc
    exact hc
  | cons d ds ih =>
    by_cases hd : d = sep
    · subst hd
      rw [splitAt_cons_sep] at hp
      rcases List.mem_cons.1 hp with rfl | hp
      · cases hc
      · exact List.mem_cons_of_mem d (ih hp hc)
    · obtain ⟨q, qs, hq, hdq⟩ := splitAt_cons_of_ne hd ds
      rw [hdq] at hp
      rw [hq] at ih
      rcases List.mem_cons.1 hp with rfl | hp
      · rcases List.mem_cons.1 hc with rfl | hc
        · exact List.mem_cons_self
        · exact List.mem_cons_of_mem d (ih List.mem_cons_self hc)
      · exact List.mem_cons_of_mem d (ih (List.mem_cons_of_mem q hp) hc)

theorem upright_splitAt (sep : Char) (hsep : isBlank sep = true) {first : Bool}
    (h : Upright first xs) :
    ∃ p ps, splitAt sep xs = p :: ps ∧ Upright first p ∧ ∀ q ∈ ps, Upright true q := by
  induction xs generalizing first with
  | nil => exact ⟨[], [], rfl, trivial, nofun⟩
  | cons c cs ih =>
    obtain ⟨hc, hcs⟩ := h
    obtain ⟨p, ps, hp, hfirst, hrest⟩ := ih hcs
    by_cases he : c = sep
    · subst he
      rw [hsep] at hfirst
      exact ⟨[], p :: ps, by rw [splitAt_cons_sep, hp], trivial,
        List.forall_mem_cons.2 ⟨hfirst, hrest⟩⟩
    · exact ⟨c :: p, ps, by simp [splitAt, he, hp], ⟨hc, hfirst⟩, hrest⟩

/-! ## Tabs -/

theorem setTabs_cons (position : Nat) (p : List Char) {ps : List (List Char)} (h : ps ≠ []) :
    ∃ n stop, 0 < n ∧ setTabs position (p :: ps) = p ++ spaces n ++ setTabs stop ps := by
  obtain ⟨q, qs, rfl⟩ := List.exists_cons_of_ne_nil h
  refine ⟨_, _, ?_, rfl⟩
  simp only [tabWidth]
  omega

theorem eq_of_mem_spaces {c : Char} (h : c ∈ spaces n) : c = ' ' := (List.mem_replicate.1 h).2

theorem ink_spaces (n : Nat) : ink (spaces n) = [] :=
  ink_eq_nil_iff.2 fun c hc => by
    rw [eq_of_mem_spaces hc]
    decide

theorem ink_setTabs (position : Nat) (ps : List (List Char)) :
    ink (setTabs position ps) = ps.flatMap ink := by
  induction ps generalizing position with
  | nil => rfl
  | cons p ps ih =>
    by_cases hps : ps = []
    · subst hps
      simp [setTabs]
    · obtain ⟨n, stop, -, hset⟩ := setTabs_cons position p hps
      rw [hset, ink_append, ink_append, ink_spaces, List.append_nil, ih, List.flatMap_cons]

theorem mem_setTabs {position : Nat} {ps : List (List Char)} {c : Char}
    (h : c ∈ setTabs position ps) : c = ' ' ∨ ∃ p ∈ ps, c ∈ p := by
  induction ps generalizing position with
  | nil => cases h
  | cons p ps ih =>
    by_cases hps : ps = []
    · subst hps
      exact .inr ⟨p, List.mem_singleton_self p, h⟩
    · obtain ⟨n, stop, -, hset⟩ := setTabs_cons position p hps
      rw [hset] at h
      rcases List.mem_append.1 h with h | h
      · rcases List.mem_append.1 h with h | h
        · exact .inr ⟨p, List.mem_cons_self, h⟩
        · exact .inl (eq_of_mem_spaces h)
      · exact (ih h).imp_right fun ⟨q, hq, hc⟩ => ⟨q, List.mem_cons_of_mem p hq, hc⟩

theorem upright_spaces (first : Bool) (n : Nat) : Upright first (spaces n) := by
  induction n generalizing first with
  | zero => trivial
  | succ n ih => exact ⟨fun _ => .inr (.inr (by decide)), ih _⟩

theorem upright_setTabs {first : Bool} {position : Nat} {p : List Char} {ps : List (List Char)}
    (hp : Upright first p) (hps : ∀ q ∈ ps, Upright true q) :
    Upright first (setTabs position (p :: ps)) := by
  induction ps generalizing first position p with
  | nil => exact hp
  | cons q qs ih =>
    obtain ⟨hq, hqs⟩ := List.forall_mem_cons.1 hps
    obtain ⟨n, stop, hn, hset⟩ := setTabs_cons position p (List.cons_ne_nil q qs)
    have hne : spaces n ≠ [] := by simpa [spaces] using hn.ne'
    have hblank : EndsBlank (p ++ spaces n) := by
      rw [endsBlank_append_iff hne]
      exact ⟨' ', by simp [spaces, List.getLast?_replicate, hn.ne'], by decide⟩
    rw [hset, upright_append_iff, upright_append_iff, blankAfter_of_endsBlank hblank]
    exact ⟨⟨hp, upright_spaces _ n⟩, ih hq hqs⟩

theorem ink_expandTabs (xs : List Char) : ink (expandTabs xs) = ink xs := by
  unfold expandTabs
  split
  · rw [ink_setTabs, ink_splitAt '\t' (by decide)]
  · rfl

theorem upright_expandTabs (h : Upright true xs) : Upright true (expandTabs xs) := by
  unfold expandTabs
  split
  · obtain ⟨p, ps, hsplit, hp, hps⟩ := upright_splitAt '\t' (by decide) h
    rw [hsplit]
    exact upright_setTabs hp hps
  · exact h

theorem notMem_expandTabs (xs : List Char) : '\t' ∉ expandTabs xs := by
  unfold expandTabs
  split
  · intro hm
    rcases mem_setTabs hm with hc | ⟨p, hp, hc⟩
    · cases hc
    · exact notMem_of_mem_splitAt hp hc
  next h => simpa using h

theorem mem_expandTabs {c : Char} (h : c ∈ expandTabs xs) : c = ' ' ∨ c ∈ xs := by
  unfold expandTabs at h
  split at h
  · exact (mem_setTabs h).imp_right fun ⟨p, hp, hc⟩ => mem_of_mem_splitAt hp hc
  · exact .inr h

/-! ## Main results -/

/-- Fitted lines in place of lines. -/
theorem ink_map_fit_sublist (n : Nat) (ls : List (List Char)) :
    (ink (ls.map fun l => fit .fold n (trimEnd n l)).flatten).Sublist (ink ls.flatten) := by
  induction ls with
  | nil => exact List.Sublist.refl _
  | cons l ls ih =>
    rw [List.map_cons, List.flatten_cons, List.flatten_cons, ink_append, ink_append]
    exact (ink_fit_sublist n l).append ih

theorem ink_map_fit {ls : List (List Char)}
    (h : ∀ l ∈ ls, ink (fit .fold n (trimEnd n l)) = ink l) :
    ink (ls.map fun l => fit .fold n (trimEnd n l)).flatten = ink ls.flatten := by
  rw [ink_flatten, ink_flatten, List.flatMap_map]
  exact List.flatMap_congr h

theorem ink_wrapLine_sublist (n : Nat) (xs : List Char) :
    (ink (wrapLine .ragged .fold n xs).flatten).Sublist (ink xs) := by
  rw [← ink_expandTabs xs]
  unfold wrapLine
  dsimp only
  refine (ink_map_fit_sublist n _).trans (ink_sublist ?_)
  split
  · simp
  · exact (flatten_fill_sublist n [] 0 _).trans (flatten_wordsWithin_sublist _ _)

theorem ink_wrapLine (hn : 3 ≤ n) (h : Upright true xs) (hx : '\n' ∉ xs) :
    ink (wrapLine .ragged .fold n xs).flatten = ink xs := by
  cases hblank : (expandTabs xs).all isBlank with
  | true =>
    have hnil : ink xs = [] := by
      rw [← ink_expandTabs]
      exact ink_eq_nil_iff.2 (List.all_eq_true.1 hblank)
    have hsub := ink_wrapLine_sublist n xs
    rw [hnil] at hsub ⊢
    exact List.sublist_nil.1 hsub
  | false =>
    have hup := upright_expandTabs h
    have ht := notMem_expandTabs xs
    have hn' : '\n' ∉ expandTabs xs := fun hm => (mem_expandTabs hm).elim (by decide) hx
    have hflatten := flatten_wordsWithin (Nat.le_refl _) hblank
    have hwords := words_wordsWithin (expandTabs xs).length hup hn' ht
    rw [← ink_expandTabs xs]
    unfold wrapLine
    dsimp only
    generalize expandTabs xs = line at hblank hup ht hn' hflatten hwords ⊢
    have hstand : ∀ b ∈ line, isBlank b = true → 0 < charColumns b := by
      intro b hb hblank
      rcases hup.stands hb hblank with rfl | rfl | hcolumns
      · exact absurd hb hn'
      · exact absurd hb ht
      · exact hcolumns
    split
    next hnil =>
      rw [words] at hnil
      rw [hnil] at hflatten
      rw [← hflatten] at hblank
      cases hblank
    · have hempty : columns (stripRight []) ≤ n := Nat.zero_le n
      obtain ⟨hfill, hfit⟩ := fill_spec hn hempty (fun _ => rfl) hwords
      rw [List.nil_append, hflatten] at hfill
      have hkept : ∀ l ∈ fill .fold n [] 0 (words line),
          ink (fit .fold n (trimEnd n l)) = ink l := fun l hl =>
        ink_fit (by omega) (hfit l hl) fun b hb =>
          hstand b (hfill ▸ List.mem_flatten_of_mem hl hb)
      exact (ink_map_fit hkept).trans (congrArg ink hfill)

/-- Wrapping adds no character that is no blank. -/
theorem ink_wrap_sublist (n : Nat) (xs : List Char) :
    (ink (wrap .ragged .fold n xs).flatten).Sublist (ink xs) := by
  rw [← ink_splitAt '\n' (by decide) xs, wrap]
  induction splitAt '\n' xs with
  | nil => exact List.Sublist.refl _
  | cons l ls ih =>
    rw [List.flatMap_cons, List.flatten_append, ink_append, List.flatMap_cons]
    exact (ink_wrapLine_sublist n l).append ih

/-- Wrapping keeps every character of an upright text that is no blank. -/
theorem ink_wrap (hn : 3 ≤ n) (h : Upright true xs) :
    ink (wrap .ragged .fold n xs).flatten = ink xs := by
  obtain ⟨p, ps, hsplit, hp, hps⟩ := upright_splitAt '\n' (by decide) h
  have hline : ∀ l ∈ splitAt '\n' xs, ink (wrapLine .ragged .fold n l).flatten = ink l := by
    intro l hl
    refine ink_wrapLine hn ?_ (notMem_of_mem_splitAt hl)
    rw [hsplit] at hl
    rcases List.mem_cons.1 hl with rfl | hl
    · exact hp
    · exact hps l hl
  rw [← ink_splitAt '\n' (by decide) xs, wrap, ink_flatten, List.flatMap_assoc]
  refine List.flatMap_congr fun l hl => ?_
  rw [← ink_flatten]
  exact hline l hl

end ModelSearch.Console
