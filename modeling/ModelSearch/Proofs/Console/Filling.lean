import Mathlib.Data.List.Chain
import ModelSearch.Console.Wrap
import ModelSearch.Proofs.Console.Glyphs
import ModelSearch.Proofs.Text.Cutting

/-!
# Lines filled with words

Words go into lines of a width.  No line gets a character that is not in its words, except for a
blank in the place of half a glyph.  A line keeps all of its characters, blanks at its end apart, if
its words start with characters that have columns: then the columns of the words add up, a folded
word is cut between glyphs, and only blanks stand beyond the width.

    ink (fit n (trimEnd n xs)) = ink xs, if xs without the blanks at its end fits        (ink_fit)
    the filled lines are the words and fit, blanks at their ends apart                   (fill_spec)
-/

namespace ModelSearch.Console

open Text Glyph

/-- The characters of a text that are no blanks. -/
def ink (xs : List Char) : List Char := xs.filter fun c => !isBlank c

variable {xs ys : List Char} {n : Nat}

/-! ## Ink -/

@[simp] theorem ink_nil : ink [] = [] := rfl

@[simp] theorem ink_append (xs ys : List Char) : ink (xs ++ ys) = ink xs ++ ink ys :=
  List.filter_append xs ys

theorem ink_eq_nil_iff : ink xs = [] ↔ ∀ c ∈ xs, isBlank c = true := by
  simp [ink, List.filter_eq_nil_iff]

theorem ink_sublist (h : xs.Sublist ys) : (ink xs).Sublist (ink ys) := h.filter _

/-- The ink of lines is that of each of them. -/
theorem ink_flatten (ls : List (List Char)) : ink ls.flatten = ls.flatMap ink := by
  rw [ink, List.filter_flatten]
  rfl

theorem ink_stripRight (xs : List Char) : ink (stripRight xs) = ink xs := by
  obtain ⟨bs, hbs, hblank⟩ := dropRightWhile_append isBlank xs
  have hink : ink xs = ink (stripRight xs) ++ ink bs := by
    rw [← ink_append]
    exact congrArg ink hbs
  rw [hink, ink_eq_nil_iff.2 hblank, List.append_nil]

/-! ## Cropping -/

theorem ink_cropGlyphs_sublist (n : Nat) (gs : List Glyph) :
    (ink (cropGlyphs n gs)).Sublist (ink (gs.flatMap (·.chars))) := by
  induction gs generalizing n with
  | nil => exact List.Sublist.refl _
  | cons g gs ih =>
    unfold cropGlyphs
    split
    · exact List.nil_sublist _
    split
    · rw [List.flatMap_cons, ink_append, ink_append]
      exact (List.Sublist.refl _).append (ih _)
    · exact List.nil_sublist _

theorem ink_cropped_sublist (n : Nat) (xs : List Char) : (ink (cropped n xs)).Sublist (ink xs) := by
  have h := ink_cropGlyphs_sublist n (ofText xs)
  rwa [flatMap_chars_ofText] at h

theorem cropGlyphs_append {fs : List Glyph} (hpos : ∀ g ∈ fs, 0 < g.columns)
    (hfit : total fs ≤ n) (gs : List Glyph) :
    cropGlyphs n (fs ++ gs) = fs.flatMap (·.chars) ++ cropGlyphs (n - total fs) gs := by
  induction fs generalizing n with
  | nil => rfl
  | cons g fs ih =>
    obtain ⟨hg, hpos⟩ := List.forall_mem_cons.1 hpos
    rw [total_cons] at hfit
    have hn : n ≠ 0 := by omega
    have hle : g.columns ≤ n := by omega
    rw [List.cons_append, cropGlyphs, if_neg hn, if_pos hle, ih hpos (by omega), List.flatMap_cons,
      List.append_assoc, total_cons, Nat.sub_sub]

theorem ink_cropped_of_not_joined {bs : List Char} (hn : 0 < n) (hfit : columns xs ≤ n)
    (hjoined : bs ≠ [] → (read xs).joined = false)
    (hbs : ∀ b ∈ bs, isBlank b = true ∧ 0 < charColumns b) :
    ink (cropped n (xs ++ bs)) = ink xs := by
  have hglyphs : ofText (xs ++ bs) = ofText xs ++ ofText bs := by
    cases bs with
    | nil => rw [List.append_nil]; exact (List.append_nil _).symm
    | cons b bs =>
      have hstarts : Starts (b :: bs) := ⟨b, bs, rfl, (hbs b List.mem_cons_self).2⟩
      exact ofText_append (hjoined (List.cons_ne_nil b bs)) hstarts
  have hblank : ∀ m, ink (cropGlyphs m (ofText bs)) = [] := by
    intro m
    have h := ink_cropGlyphs_sublist m (ofText bs)
    rw [flatMap_chars_ofText, ink_eq_nil_iff.2 fun b hb => (hbs b hb).1] at h
    exact List.sublist_nil.1 h
  have hcrop : ∃ m, cropGlyphs n (ofText xs ++ ofText bs) = xs ++ cropGlyphs m (ofText bs) := by
    have hpos : ∀ g ∈ (ofText xs).tail, 0 < g.columns := fun _ => columns_pos_of_mem_tail
    have hchars := flatMap_chars_ofText xs
    rw [columns_eq_total] at hfit
    -- the first glyph may have no columns, but there is room for it
    cases hfs : ofText xs with
    | nil =>
      rw [hfs] at hchars
      exact ⟨n, by rw [← hchars]; rfl⟩
    | cons g fs =>
      rw [hfs] at hpos hchars hfit
      rw [List.tail_cons] at hpos
      rw [total_cons] at hfit
      have hle : g.columns ≤ n := by omega
      refine ⟨n - g.columns - total fs, ?_⟩
      rw [List.cons_append, cropGlyphs, if_neg (by omega), if_pos hle,
        cropGlyphs_append hpos (by omega), ← List.append_assoc, ← hchars]
      rfl
  obtain ⟨m, hm⟩ := hcrop
  rw [cropped, hglyphs, hm, ink_append, hblank, List.append_nil]

/-- Cropping keeps the text before blanks if it fits. -/
theorem ink_cropped {bs : List Char} (hn : 0 < n) (hfit : columns xs ≤ n)
    (hbs : ∀ b ∈ bs, isBlank b = true ∧ 0 < charColumns b) :
    ink (cropped n (xs ++ bs)) = ink xs := by
  cases hjoined : (read xs).joined with
  | false => exact ink_cropped_of_not_joined hn hfit (fun _ => hjoined) hbs
  | true =>
    cases bs with
    | nil => exact ink_cropped_of_not_joined hn hfit (fun h => absurd rfl h) nofun
    | cons b bs =>
      -- a joiner at the end takes the first blank to its glyph
      have hb := hbs b List.mem_cons_self
      have hnext : (read (xs ++ [b])).joined = false := by
        rw [read_append_singleton, Reading.add_of_joined hjoined]
      have h := ink_cropped_of_not_joined hn (by rwa [columns_append_of_joined hjoined])
        (fun _ => hnext) fun c hc => hbs c (List.mem_cons_of_mem b hc)
      have hblank : ink [b] = [] := ink_eq_nil_iff.2 (by simpa using hb.1)
      rwa [List.append_assoc, ink_append, hblank, List.append_nil] at h

/-! ## Fitted lines -/

theorem trimEnd_eq (n : Nat) (xs : List Char) :
    ∃ bs, trimEnd n xs = stripRight xs ++ bs ∧ ∀ b ∈ bs, isBlank b = true ∧ b ∈ xs := by
  obtain ⟨bs, hbs, hblank⟩ := dropRightWhile_append isBlank xs
  change xs = stripRight xs ++ bs at hbs
  have hlen : xs.length = (stripRight xs).length + bs.length := by
    rw [← List.length_append, ← hbs]
  refine ⟨bs.take (bs.length - min bs.length (xs.length - n)), ?_, fun b hb => ?_⟩
  · have hcount : xs.length - (stripRight xs).length = bs.length := by omega
    have hk : min bs.length (xs.length - n) ≤ bs.length := Nat.min_le_left _ _
    rw [trimEnd, hcount]
    generalize min bs.length (xs.length - n) = k at hk
    calc xs.take (xs.length - k)
        = (stripRight xs ++ bs).take ((stripRight xs).length + (bs.length - k)) := by
          rw [← hbs, hlen, Nat.add_sub_assoc hk]
      _ = stripRight xs ++ bs.take (bs.length - k) := List.take_length_add_append _
  · have hb := List.mem_of_mem_take hb
    exact ⟨hblank b hb, by rw [hbs]; exact List.mem_append_right _ hb⟩

theorem ink_trimEnd (n : Nat) (xs : List Char) : ink (trimEnd n xs) = ink xs := by
  obtain ⟨bs, htrim, hbs⟩ := trimEnd_eq n xs
  rw [htrim, ink_append, ink_eq_nil_iff.2 fun b hb => (hbs b hb).1, List.append_nil, ink_stripRight]

theorem ink_fit_sublist (n : Nat) (xs : List Char) :
    (ink (fit .fold n (trimEnd n xs))).Sublist (ink xs) := by
  rw [← ink_trimEnd n xs]
  unfold fit
  split
  · exact List.Sublist.refl _
  · exact ink_cropped_sublist n _

/-- A line keeps what is no blank if it fits without the blanks at its end. -/
theorem ink_fit (hn : 0 < n) (hfit : columns (stripRight xs) ≤ n)
    (hblank : ∀ b ∈ xs, isBlank b = true → 0 < charColumns b) :
    ink (fit .fold n (trimEnd n xs)) = ink xs := by
  rw [← ink_trimEnd n xs]
  unfold fit
  split
  · rfl
  · obtain ⟨bs, htrim, hbs⟩ := trimEnd_eq n xs
    have hb : ∀ b ∈ bs, isBlank b = true ∧ 0 < charColumns b := fun b hb =>
      ⟨(hbs b hb).1, hblank b (hbs b hb).2 (hbs b hb).1⟩
    rw [htrim]
    dsimp only
    rw [ink_cropped hn hfit hb, ink_append, ink_eq_nil_iff.2 fun b h => (hb b h).1,
      List.append_nil]

/-! ## Folded words -/

theorem flatten_foldGlyphs_sublist (n : Nat) (piece : List Char) (used : Nat) (gs : List Glyph) :
    (foldGlyphs n piece used gs).flatten.Sublist (piece ++ gs.flatMap (·.chars)) := by
  induction gs generalizing piece used with
  | nil =>
    unfold foldGlyphs
    split
    · exact List.nil_sublist _
    · simp
  | cons g gs ih =>
    unfold foldGlyphs
    rw [List.flatMap_cons]
    split
    · rw [← List.append_assoc]
      exact ih _ _
    · rw [List.flatten_cons]
      exact (List.Sublist.refl _).append (ih _ _)

/-- Only glyphs without columns are lost. -/
theorem flatten_foldGlyphs {used : Nat} {gs : List Glyph} (hgs : ∀ g ∈ gs, g.columns ≤ n)
    (hused : used ≤ n) (hpos : 0 < used + total gs) (piece : List Char) :
    (foldGlyphs n piece used gs).flatten = piece ++ gs.flatMap (·.chars) := by
  induction gs generalizing piece used with
  | nil =>
    have hne : used ≠ 0 := by simpa using hpos.ne'
    simp [foldGlyphs, hne]
  | cons g gs ih =>
    obtain ⟨hg, hgs⟩ := List.forall_mem_cons.1 hgs
    rw [total_cons] at hpos
    unfold foldGlyphs
    rw [List.flatMap_cons]
    split
    next hle => rw [ih hgs hle (by omega), List.append_assoc]
    next hlt =>
      have hmore : 0 < g.columns + total gs := by omega
      rw [List.flatten_cons, ih hgs hg hmore]

/-- Each piece is of a run of glyphs that fits. -/
theorem exists_infix_of_mem_foldGlyphs (fs : List Glyph) {gs hs : List Glyph} {p : List Char}
    (hall : fs ++ gs <:+: hs) (hgs : ∀ g ∈ gs, g.columns ≤ n) (hused : total fs ≤ n)
    (h : p ∈ foldGlyphs n (fs.flatMap (·.chars)) (total fs) gs) :
    ∃ run, run <:+: hs ∧ p = run.flatMap (·.chars) ∧ total run ≤ n := by
  induction gs generalizing fs with
  | nil =>
    unfold foldGlyphs at h
    split at h
    · cases h
    · rw [List.append_nil] at hall
      exact ⟨fs, hall, List.mem_singleton.1 h, hused⟩
  | cons g gs ih =>
    obtain ⟨hg, hgs⟩ := List.forall_mem_cons.1 hgs
    unfold foldGlyphs at h
    split at h
    next hle =>
      refine ih (fs ++ [g]) ?_ hgs ?_ ?_
      · simpa using hall
      · simpa using hle
      · simpa using h
    next hlt =>
      rcases List.mem_cons.1 h with rfl | h
      · exact ⟨fs, ((List.prefix_append fs _).isInfix).trans hall, rfl, hused⟩
      · refine ih [g] ?_ hgs ?_ ?_
        · exact ((List.suffix_append fs _).isInfix).trans hall
        · simpa using hg
        · simpa using h

theorem flatten_folded (hn : 3 ≤ n) (hpos : 0 < columns xs) : (folded n xs).flatten = xs := by
  have hgs : ∀ g ∈ ofText xs, g.columns ≤ n := fun g hg =>
    Nat.le_trans (columns_le_of_mem_ofText hg) hn
  rw [columns_eq_total] at hpos
  rw [folded, flatten_foldGlyphs hgs (Nat.zero_le n) (by rwa [Nat.zero_add]), List.nil_append,
    flatMap_chars_ofText]

theorem columns_le_of_mem_folded (hn : 3 ≤ n) (hx : Starts xs) {p : List Char}
    (h : p ∈ folded n xs) : columns p ≤ n := by
  have hgs : ∀ g ∈ ofText xs, g.columns ≤ n := fun g hg =>
    Nat.le_trans (columns_le_of_mem_ofText hg) hn
  obtain ⟨run, hrun, rfl, hfit⟩ := exists_infix_of_mem_foldGlyphs [] List.infix_rfl hgs
    (Nat.zero_le n) h
  rwa [columns_eq_total, ofText_flatMap_chars ((readable_ofText hx).sublist hrun.sublist)]

/-! ## Words -/

theorem stripRight_ne_nil (h : ∃ c ∈ xs, isBlank c = false) : stripRight xs ≠ [] := by
  obtain ⟨c, hc, hblank⟩ := h
  intro hnil
  have hink : c ∈ ink xs := List.mem_filter.2 ⟨hc, by rw [hblank]; rfl⟩
  rw [← ink_stripRight, hnil] at hink
  cases hink

theorem stripRight_append (h : ∃ c ∈ ys, isBlank c = false) (xs : List Char) :
    stripRight (xs ++ ys) = xs ++ stripRight ys :=
  dropRightWhile_append_of_exists h xs

theorem columns_stripRight_le (xs : List Char) : columns (stripRight xs) ≤ columns xs := by
  obtain ⟨bs, hbs, -⟩ := dropRightWhile_append isBlank xs
  have h := columns_le_append (stripRight xs) bs
  rwa [stripRight, ← hbs] at h

/-- A text that ends in a blank. -/
def EndsBlank (xs : List Char) : Prop := ∃ b ∈ xs.getLast?, isBlank b = true

theorem EndsBlank.not_joined (h : EndsBlank xs) : (read xs).joined = false := by
  obtain ⟨b, hlast, hb⟩ := h
  have hne : b ≠ joiner := by
    rintro rfl
    exact absurd hb (by decide)
  rw [← List.dropLast_append_getLast? b hlast, read_append_singleton]
  exact Reading.joined_add hne _

theorem endsBlank_append_iff (h : ys ≠ []) (xs : List Char) :
    EndsBlank (xs ++ ys) ↔ EndsBlank ys := by
  rw [EndsBlank, List.getLast?_append_of_ne_nil xs h]
  rfl

/-- A word with its blanks: it starts with a character that has columns. -/
structure Word (w : List Char) : Prop where
  starts : Starts w
  not_blank : ∃ c ∈ w, isBlank c = false

theorem Word.starts_stripRight {w : List Char} (h : Word w) : Starts (stripRight w) := by
  obtain ⟨c, cs, rfl, hc⟩ := h.starts
  obtain ⟨d, ds, hds⟩ := List.exists_cons_of_ne_nil (stripRight_ne_nil h.not_blank)
  obtain ⟨bs, hbs, -⟩ := dropRightWhile_append isBlank (c :: cs)
  change c :: cs = stripRight (c :: cs) ++ bs at hbs
  rw [hds] at hbs ⊢
  cases hbs
  exact ⟨c, ds, rfl, hc⟩

/-- Words of a line: each of them but the last ends in a blank. -/
structure Words (ws : List (List Char)) : Prop where
  word : ∀ w ∈ ws, Word w
  ends : ws.Pairwise fun w _ => EndsBlank w

theorem Words.tail {w : List Char} {ws : List (List Char)} (h : Words (w :: ws)) : Words ws :=
  ⟨fun v hv => h.word v (List.mem_cons_of_mem w hv), (List.pairwise_cons.1 h.ends).2⟩

theorem Words.endsBlank_head {w : List Char} {ws : List (List Char)} (h : Words (w :: ws))
    (hne : ws ≠ []) : EndsBlank w := by
  obtain ⟨v, vs, rfl⟩ := List.exists_cons_of_ne_nil hne
  exact (List.pairwise_cons.1 h.ends).1 v List.mem_cons_self

/-! ## Filled lines -/

/-- The pieces but the last one, and the last one. -/
theorem flatten_dropLast_append_getLast (ps : List (List Char)) :
    ps.dropLast.flatten ++ ps.getLast?.getD [] = ps.flatten := by
  rcases List.eq_nil_or_concat ps with rfl | ⟨qs, p, rfl⟩
  · rfl
  · simp

theorem flatten_before (line : List Char) :
    (if line.isEmpty then [] else [line] : List (List Char)).flatten = line := by
  cases line <;> simp

theorem flatten_fill_sublist (n : Nat) (line : List Char) (used : Nat) (ws : List (List Char)) :
    (fill .fold n line used ws).flatten.Sublist (line ++ ws.flatten) := by
  induction ws generalizing line used with
  | nil => simp [fill]
  | cons w ws ih =>
    unfold fill
    dsimp only
    rw [List.flatten_cons]
    split
    · rw [← List.append_assoc]
      exact ih _ _
    split
    · rw [List.flatten_append, flatten_before]
      exact (List.Sublist.refl _).append (ih _ _)
    · have hfold := flatten_foldGlyphs_sublist n [] 0 (ofText w)
      rw [flatMap_chars_ofText, List.nil_append] at hfold
      rw [List.flatten_append, List.flatten_append, flatten_before, List.append_assoc]
      refine (List.Sublist.refl _).append (((List.Sublist.refl _).append (ih _ _)).trans ?_)
      rw [← List.append_assoc, flatten_dropLast_append_getLast]
      exact hfold.append (List.Sublist.refl _)

/-- A folded word is its pieces but the last one, on lines of their own, and the last one, which
further words follow. -/
theorem folded_spec (hn : 3 ≤ n) (hx : Starts xs) (hpos : 0 < columns xs) {last : List Char}
    (hlast : (folded n xs).getLast?.getD [] = last) :
    (folded n xs).dropLast.flatten ++ last = xs ∧ columns (stripRight last) ≤ n ∧
      ∀ p ∈ (folded n xs).dropLast, columns (stripRight p) ≤ n := by
  have hpiece : ∀ p ∈ folded n xs, columns (stripRight p) ≤ n := fun p hp =>
    Nat.le_trans (columns_stripRight_le p) (columns_le_of_mem_folded hn hx hp)
  subst hlast
  refine ⟨?_, ?_, fun p hp => hpiece p (List.dropLast_subset _ hp)⟩
  · rw [flatten_dropLast_append_getLast, flatten_folded hn hpos]
  · cases hlast : (folded n xs).getLast? with
    | none => exact Nat.zero_le n
    | some p => exact hpiece p (List.mem_of_getLast? hlast)

/-- Lines that are filled with words keep the words, and fit without the blanks at their ends. -/
theorem fill_spec (hn : 3 ≤ n) {line : List Char} {ws : List (List Char)}
    (hfit : columns (stripRight line) ≤ n) (hend : ws ≠ [] → (read line).joined = false)
    (hws : Words ws) :
    (fill .fold n line (columns line) ws).flatten = line ++ ws.flatten ∧
      ∀ l ∈ fill .fold n line (columns line) ws, columns (stripRight l) ≤ n := by
  induction ws generalizing line with
  | nil => exact ⟨by simp [fill], by simpa [fill] using hfit⟩
  | cons w ws ih =>
    have hw := hws.word w List.mem_cons_self
    have hjoined := hend (List.cons_ne_nil w ws)
    have hends := hws.endsBlank_head
    have hbefore : ∀ l ∈ (if line.isEmpty then [] else [line] : List (List Char)), l = line := by
      cases line <;> simp
    unfold fill
    dsimp only
    rw [List.flatten_cons]
    split
    next hle =>
      rw [← columns_append hjoined hw.starts, ← List.append_assoc]
      refine ih ?_ ?_ hws.tail
      · rwa [stripRight_append hw.not_blank, columns_append hjoined hw.starts_stripRight]
      · intro hne
        rw [joined_read_append hjoined hw.starts]
        exact (hends hne).not_joined
    split
    next hsize =>
      have hsize : columns (stripRight w) ≤ n := by simpa using hsize
      obtain ⟨hflatten, hlines⟩ := ih hsize (fun hne => (hends hne).not_joined) hws.tail
      rw [List.flatten_append, flatten_before, hflatten]
      refine ⟨rfl, fun l hl => ?_⟩
      rcases List.mem_append.1 hl with hl | hl
      · rw [hbefore l hl]
        exact hfit
      · exact hlines l hl
    next hsize =>
      have hsize : n < columns (stripRight w) := by simpa using hsize
      have hpos : 0 < columns w := by
        have := columns_stripRight_le w
        omega
      generalize hlast : (folded n w).getLast?.getD [] = last
      obtain ⟨hpieces, hlastfit, hpiece⟩ := folded_spec hn hw.starts hpos hlast
      have hlastend : ws ≠ [] → (read last).joined = false := by
        intro hne
        by_cases hnil : last = []
        · rw [hnil]
          rfl
        · rw [← hpieces] at hends
          exact ((endsBlank_append_iff hnil _).1 (hends hne)).not_joined
      obtain ⟨hflatten, hlines⟩ := ih hlastfit hlastend hws.tail
      refine ⟨?_, fun l hl => ?_⟩
      · rw [List.flatten_append, List.flatten_append, flatten_before, hflatten,
          List.append_assoc, ← List.append_assoc _ last, hpieces]
      rcases List.mem_append.1 hl with hl | hl
      · rcases List.mem_append.1 hl with hl | hl
        · rw [hbefore l hl]
          exact hfit
        · exact hpiece l hl
      · exact hlines l hl

end ModelSearch.Console
