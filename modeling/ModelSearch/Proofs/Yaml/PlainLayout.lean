import ModelSearch.Proofs.Yaml.QuotedLayout

/-!
# Plain texts are read as they were laid out

A plain text is written word by word; a line ends at a single space once it is long.  The reader
takes runs and the blanks between them, and goes on behind a line break because the next line is
indented further than the block.

    a plain text in front of what ends it                                      (plainScalar_plainOut)
-/

namespace ModelSearch.Yaml

open Out

variable {o e : Out} {c d : Cursor} {x : Char} {column n : Nat} {split : Bool} {least : Int}
  {xs ys text run rest : List Char} {r : Bool × Cursor}

/-! ## Signs inside a text -/

/-- What stands behind the beginning of a text without signs is without signs. -/
theorem hasInnerIndicator_append {before : Char} (h : hasInnerIndicator before (xs ++ ys) = false) :
    hasInnerIndicator (xs.getLast?.getD before) ys = false := by
  induction xs generalizing before with
  | nil => exact h
  | cons x xs ih =>
    simp only [List.cons_append, hasInnerIndicator, Bool.or_eq_false_iff] at h
    rw [List.getLast?_cons, Option.getD_some]
    exact ih h.2

/-- A word ends with no colon, and does not begin with the sign of a comment. -/
theorem unbroken_of_signless {before : Char} (h : hasInnerIndicator before (xs ++ rest) = false)
    (hx : ∀ x ∈ xs, isBlankOrBreak x = false) (hrest : endsWord rest = true) : Unbroken xs := by
  refine ⟨hx, fun hlast => ?_⟩
  obtain ⟨ys, rfl⟩ := List.getLast?_eq_some_iff.1 hlast
  rw [List.append_assoc] at h
  have hcolon := hasInnerIndicator_append h
  simp [hasInnerIndicator, isInnerIndicator, hrest] at hcolon

theorem ne_comment_of_signless {before : Char} (h : hasInnerIndicator before (x :: xs) = false)
    (hbefore : isBlankOrBreak before = true) : x ≠ '#' := by
  rintro rfl
  simp [hasInnerIndicator, isInnerIndicator, hbefore] at h

/-! ## Judgments -/

/-- From the beginning of a run, what remains of a plain scalar is `text`, and whether a line ended
and the place behind it are `r`. -/
def ReadsPlain (least : Int) (c : Cursor) (text : List Char) (r : Bool × Cursor) : Prop :=
  ∀ fuel taken blanks broke, c.rest.length < fuel →
    plainText false least fuel c taken blanks broke = (taken ++ blanks ++ text, r)

/-- The same from the end of a run. -/
def ReadsBehind (least : Int) (c : Cursor) (text : List Char) (r : Bool × Cursor) : Prop :=
  ∀ fuel taken, c.rest.length ≤ fuel →
    (if (plainBlanks c).1.isEmpty || (plainBlanks c).2.2.peek = '#'
        || (plainBlanks c).2.2.column < least then
      (taken, (plainBlanks c).2)
    else plainText false least fuel (plainBlanks c).2.2 taken (plainBlanks c).1 (plainBlanks c).2.1)
      = (taken ++ text, r)

/-- A run, and what stands behind it. -/
theorem readsPlain_run (hrun : Unbroken run) (hne : run ≠ []) (hcomment : run.head? ≠ some '#')
    (hinline : Inline run) (hrest : EndsPlain rest)
    (h : ReadsBehind least ((o.put run).before rest) text r) :
    ReadsPlain least (o.before (run ++ rest)) (run ++ text) r := by
  intro fuel taken blanks broke hfuel
  obtain ⟨fuel, rfl⟩ : ∃ k, fuel = k + 1 := Nat.exists_eq_add_of_le' (Nat.zero_lt_of_lt hfuel)
  have hlength : run.length ≠ 0 := fun h => hne (List.length_eq_zero_iff.1 h)
  have hpeek : (o.before (run ++ rest)).peek ≠ '#' := by
    obtain ⟨x, xs, rfl⟩ := List.exists_cons_of_ne_nil hne
    exact fun hx => hcomment (congrArg some hx)
  have hcount : plainRun false (o.before (run ++ rest)) ((run ++ rest).length + 1) 0 = run.length :=
    plainRun_word hrun hrest rfl (Nat.zero_le _) (by rw [List.length_append]; omega)
  have hread := h fuel (taken ++ blanks ++ run) (by
    simp only [before_rest, List.length_append] at hfuel ⊢
    omega)
  unfold plainText
  rw [if_neg hpeek]
  simp only [before_rest, hcount, hlength, if_false, forward_put hinline, List.take_left]
  simpa using hread

/-- The scalar ends: nothing stands between the run and what comes next, or the next line is not
indented far enough. -/
theorem readsBehind_end {blanks : List Char} {broke : Bool} (h : plainBlanks c = (blanks, broke, d))
    (hends : blanks = [] ∨ (d.column : Int) < least) : ReadsBehind least c [] (broke, d) := by
  intro fuel taken hfuel
  rw [h, if_pos, List.append_nil]
  rcases hends with rfl | hlt
  · rfl
  · simp [hlt]

/-- The scalar goes on behind blanks. -/
theorem ReadsPlain.behind {blanks : List Char} {broke : Bool} (hread : plainBlanks c = (blanks, broke, d))
    (hne : blanks ≠ []) (hcomment : d.peek ≠ '#') (hcolumn : least ≤ d.column)
    (hlength : d.rest.length < c.rest.length) (h : ReadsPlain least d text r) :
    ReadsBehind least c (blanks ++ text) r := by
  intro fuel taken hfuel
  rw [hread, if_neg, h fuel taken blanks broke (by omega), List.append_assoc]
  simp [hne, hcomment, hcolumn]

/-! ## Blanks between runs -/

theorem plainBlanks_spaces (n : Nat) (hs : Solid rest) (o : Out) :
    plainBlanks (o.before (List.replicate n ' ' ++ rest))
      = (List.replicate n ' ', false, (o.put (List.replicate n ' ')).before rest) := by
  obtain ⟨x, ys, rfl, hx⟩ := hs
  have hspan : (o.before (List.replicate n ' ' ++ x :: ys)).span (fun c => decide (c = ' '))
      = (List.replicate n ' ', (o.put (List.replicate n ' ')).before (x :: ys)) := by
    refine span_put (inline_spaces n) (fun c hc => ?_) ?_ o
    · simp [List.eq_of_mem_replicate hc]
    · rintro _ ⟨⟩
      simp [ne_of_not_blank hx (y := ' ') rfl]
  unfold plainBlanks
  simp [hspan, isBreak_of_not_blank hx]

/-- What a line can begin with behind its indentation. -/
def BeginsLine (rest : List Char) : Prop := ∀ x ∈ rest.head?, x ≠ ' ' ∧ isBreak x = false

theorem Solid.beginsLine (h : Solid rest) : BeginsLine rest := fun x hx =>
  ⟨ne_of_not_blank (h.head? x hx) rfl, isBreak_of_not_blank (h.head? x hx)⟩

theorem plainBreaks_spaces (hrest : BeginsLine rest) (o : Out) {fuel : Nat} (hfuel : n < fuel) :
    plainBreaks fuel (o.before (List.replicate n ' ' ++ rest)) []
      = (some [], (o.put (List.replicate n ' ')).before rest) := by
  obtain ⟨fuel, rfl⟩ : ∃ k, fuel = k + 1 := Nat.exists_eq_add_of_le' (Nat.zero_lt_of_lt hfuel)
  induction n generalizing o fuel with
  | zero =>
    have hpeek : (o.before rest).peek ≠ ' ' ∧ isBreak (o.before rest).peek = false := by
      cases rest with
      | nil => exact ⟨by simp [endMark], rfl⟩
      | cons x ys => exact hrest x rfl
    rw [List.replicate_zero, List.nil_append, plainBreaks, if_neg hpeek.1, hpeek.2]
    rfl
  | succ n ih =>
    obtain ⟨fuel, rfl⟩ : ∃ k, fuel = k + 1 := Nat.exists_eq_add_of_le' (by omega)
    have hput : o.put (List.replicate (n + 1) ' ') = (o.put [' ']).put (List.replicate n ' ') :=
      put_append o [' '] (List.replicate n ' ')
    rw [hput, ← ih (o.put [' ']) fuel (by omega), List.replicate_succ, List.cons_append, plainBreaks,
      peek_before_cons, if_pos rfl, advance_put (by decide) (by decide)]

/-- The end of a line and the indentation of the next one, on which no document ends. -/
theorem plainBlanks_line (hrest : BeginsLine rest)
    (hmarker : n = 0 → (o.endLine.before rest).atDocumentMarker = false) :
    plainBlanks (o.before ('\n' :: (List.replicate n ' ' ++ rest)))
      = ([' '], true, (o.endLine.put (List.replicate n ' ')).before rest) := by
  have hmarker' : (o.endLine.before (List.replicate n ' ' ++ rest)).atDocumentMarker = false := by
    cases n with
    | zero => exact hmarker rfl
    | succ n => exact notMarker_of_peek (by simp [List.replicate_succ]) (by simp [List.replicate_succ])
  have hbreaks := plainBreaks_spaces hrest o.endLine
    (show n < (List.replicate n ' ' ++ rest).length + 1 by
      rw [List.length_append, List.length_replicate]
      omega)
  unfold plainBlanks
  simp only [span_empty (p := fun c => decide (c = ' ')) (x := '\n') rfl, peek_before_cons,
    show isBreak '\n' = true from rfl, if_true, lineBreak_endLine, hmarker', Bool.false_eq_true,
    if_false, before_rest, hbreaks]
  rfl

theorem readsBehind_spaces (hn : n ≠ 0) (hs : Solid rest) (hcomment : rest.head? ≠ some '#')
    (hcolumn : least ≤ o.column)
    (h : ReadsPlain least ((o.put (List.replicate n ' ')).before rest) text r) :
    ReadsBehind least (o.before (List.replicate n ' ' ++ rest)) (List.replicate n ' ' ++ text) r := by
  refine h.behind (plainBlanks_spaces n hs o) (by simpa using hn) ?_ ?_ ?_
  · exact peek_before_ne hcomment (by decide) _
  · simp only [before_column, put_column]
    omega
  · simp
    omega

theorem readsBehind_fold (hn : n ≠ 0) (hs : Solid rest) (hcomment : rest.head? ≠ some '#')
    (hcolumn : least ≤ n)
    (h : ReadsPlain least ((o.endLine.put (List.replicate n ' ')).before rest) text r) :
    ReadsBehind least (o.before ('\n' :: (List.replicate n ' ' ++ rest))) (' ' :: text) r := by
  refine h.behind (plainBlanks_line hs.beginsLine fun hzero => absurd hzero hn) nofun ?_ ?_ ?_
  · exact peek_before_ne hcomment (by decide) _
  · simpa [endLine, breakWith] using hcolumn
  · simp only [before_rest, List.length_cons, List.length_append]
    omega

/-! ## Layout -/

/-- What is written begins with the first word of the text, and the word ends there as well. -/
def FirstWord (text zs : List Char) : Prop :=
  ∃ run ws ys, text = run ++ ws ∧ zs = run ++ ys ∧ run ≠ [] ∧ endsWord ws = true ∧
    ∀ after, EndsPlain after → EndsPlain (ys ++ after)

theorem FirstWord.head? {zs : List Char} (h : FirstWord text zs) : zs.head? = text.head? := by
  obtain ⟨run, ws, ys, rfl, rfl, hne, -⟩ := h
  rw [List.head?_append_of_ne_nil _ hne, List.head?_append_of_ne_nil _ hne]

/-- From the beginning of a word, what is written up to `e` is read as `text`. -/
def WordReads (least : Int) (o : Out) (text : List Char) (e : Out) : Prop :=
  ∃ zs, o.Adds zs e ∧ FirstWord text zs ∧
    ∀ after r, EndsPlain after → ReadsBehind least (e.before after) [] r →
      ReadsPlain least (o.before (zs ++ after)) text r

/-- The same from the end of a word. -/
def GapReads (least : Int) (o : Out) (text : List Char) (e : Out) : Prop :=
  ∃ zs, o.Adds zs e ∧ (∀ after, EndsPlain (zs ++ after)) ∧
    ∀ after r, EndsPlain after → ReadsBehind least (e.before after) [] r →
      ReadsBehind least (o.before (zs ++ after)) text r

/-- A word of a plain text. -/
structure IsWord (before : Char) (run rest : List Char) : Prop where
  chars : ∀ x ∈ run, isBlankOrBreak x = false ∧ x ≠ byteOrderMark
  nonempty : run ≠ []
  signless : hasInnerIndicator before (run ++ rest) = false
  ends : endsWord rest = true

theorem IsWord.reads (h : IsWord ' ' run rest) (hrest : EndsPlain ys)
    (hread : ReadsBehind least ((o.put run).before ys) text r) :
    ReadsPlain least (o.before (run ++ ys)) (run ++ text) r := by
  have hcomment : run.head? ≠ some '#' := by
    obtain ⟨x, xs, rfl⟩ := List.exists_cons_of_ne_nil h.nonempty
    exact fun hx => ne_comment_of_signless h.signless rfl (Option.some.inj hx)
  exact readsPlain_run (unbroken_of_signless h.signless (fun x hx => (h.chars x hx).1) h.ends)
    h.nonempty hcomment (fun x hx => ⟨isBreak_of_not_blank (h.chars x hx).1, (h.chars x hx).2⟩) hrest
    hread

theorem WordReads.finish (h : IsWord ' ' run []) : WordReads least o run (o.put run) := by
  have hfirst : FirstWord run run :=
    ⟨run, [], [], (List.append_nil _).symm, (List.append_nil _).symm, h.nonempty, rfl,
      fun _ hafter => hafter⟩
  refine ⟨run, adds_put o run, hfirst, fun after r hafter hread => ?_⟩
  have hall := h.reads hafter hread
  rwa [List.append_nil] at hall

theorem WordReads.gap (h : IsWord ' ' run text) (hgap : GapReads least (o.put run) text e) :
    WordReads least o (run ++ text) e := by
  obtain ⟨zs, hadds, hends, hread⟩ := hgap
  have hfirst : FirstWord (run ++ text) (run ++ zs) :=
    ⟨run, text, zs, rfl, rfl, h.nonempty, h.ends, fun after _ => hends after⟩
  refine ⟨run ++ zs, (adds_put o run).trans hadds, hfirst, fun after r hafter hbehind => ?_⟩
  rw [List.append_assoc]
  exact h.reads (hends after) (hread after r hafter hbehind)

/-- What a word begins with. -/
def BeginsWord (text : List Char) : Prop := Solid text ∧ text.head? ≠ some '#'

theorem WordReads.solid {zs : List Char} (h : BeginsWord text) (hzs : zs.head? = text.head?)
    (after : List Char) : Solid (zs ++ after) ∧ (zs ++ after).head? ≠ some '#' := by
  obtain ⟨⟨x, xs, rfl, hx⟩, hcomment⟩ := h
  obtain ⟨ys, rfl⟩ := List.head?_eq_some_iff.1 hzs
  exact ⟨solid_cons hx _, hcomment⟩

theorem GapReads.spaces (hn : n ≠ 0) (htext : BeginsWord text) (hcolumn : least ≤ o.column)
    (h : WordReads least (o.put (List.replicate n ' ')) text e) :
    GapReads least o (List.replicate n ' ' ++ text) e := by
  obtain ⟨zs, hadds, hfirst, hread⟩ := h
  refine ⟨List.replicate n ' ' ++ zs, (adds_put o _).trans hadds, fun after => ?_,
    fun after r hafter hbehind => ?_⟩
  · obtain ⟨m, rfl⟩ := Nat.exists_eq_succ_of_ne_zero hn
    exact .inl rfl
  · obtain ⟨hsolid, hcomment⟩ := WordReads.solid htext hfirst.head? after
    rw [List.append_assoc]
    exact readsBehind_spaces hn hsolid hcomment hcolumn (hread after r hafter hbehind)

theorem GapReads.fold (hcolumn : column ≠ 0) (htext : BeginsWord text) (hleast : least ≤ column)
    (hfresh : o.fresh = false) (h : WordReads least (o.indent column).weighty text e) :
    GapReads least o (' ' :: text) e := by
  have hindent : o.indent column = _ := indent_breaks (.inl hfresh)
  rw [hindent] at h
  obtain ⟨zs, hadds, hfirst, hread⟩ := h
  refine ⟨'\n' :: (List.replicate column ' ' ++ zs),
    (adds_breakWith o '\n').trans ((adds_put o.endLine _).trans hadds), fun after => .inl rfl,
    fun after r hafter hbehind => ?_⟩
  obtain ⟨hsolid, hcomment⟩ := WordReads.solid htext hfirst.head? after
  rw [List.cons_append, List.append_assoc]
  exact readsBehind_fold hcolumn hsolid hcomment hleast (hread after r hafter hbehind)

/-- What remains of a plain text behind a blank. -/
structure PlainTail (xs : List Char) : Prop where
  chars : ∀ x ∈ xs, x = ' ' ∨ isBlankOrBreak x = false ∧ x ≠ byteOrderMark
  signless : hasInnerIndicator ' ' xs = false
  last : xs.getLast? ≠ some ' '

theorem PlainTail.isWord (h : PlainTail (run ++ rest)) (hne : run ≠ []) (hrun : ∀ x ∈ run, x ≠ ' ')
    (hrest : endsWord rest = true) : IsWord ' ' run rest :=
  ⟨fun x hx => (h.chars x (List.mem_append_left _ hx)).resolve_left (hrun x hx), hne, h.signless, hrest⟩

theorem PlainTail.spaces (h : PlainTail (xs ++ ' ' :: rest)) : PlainTail (' ' :: rest) where
  chars x hx := h.chars x (List.mem_append_right _ hx)
  signless := by simpa [hasInnerIndicator, isInnerIndicator] using hasInnerIndicator_append h.signless
  last := by simpa using h.last

theorem PlainTail.word (hn : n ≠ 0) (h : PlainTail (List.replicate n ' ' ++ x :: rest)) :
    PlainTail (x :: rest) where
  chars y hy := h.chars y (List.mem_append_right _ hy)
  signless := by
    have hlast : (List.replicate n ' ').getLast? = some ' ' := by
      rw [List.getLast?_replicate, if_neg hn]
    simpa [hlast] using hasInnerIndicator_append h.signless
  last := by simpa using h.last

theorem PlainTail.begins (h : PlainTail (x :: rest)) (hx : x ≠ ' ') : BeginsWord (x :: rest) :=
  ⟨solid_cons ((h.chars x List.mem_cons_self).resolve_left hx).1 _, fun hcomment =>
    ne_comment_of_signless h.signless rfl (Option.some.inj hcomment)⟩

/-- Both in the middle of a word and behind spaces the rest is read as it is. -/
theorem reads_plainFrom (least : Int) (hcolumn : column ≠ 0) (hleast : least ≤ column) (split : Bool) :
    ∀ rest : List Char,
      (∀ (o : Out) (run : List Char), PlainTail (run ++ rest) → run ++ rest ≠ [] →
        (run ++ rest).head? ≠ some ' ' → (∀ x ∈ run, x ≠ ' ') → o.fresh = false →
        least ≤ o.column + 1 →
        WordReads least o (run ++ rest) (plainFrom column split o .word run rest)) ∧
      ∀ (o : Out) (n : Nat), n ≠ 0 → PlainTail (List.replicate n ' ' ++ rest) → o.fresh = false →
        least ≤ o.column →
        GapReads least o (List.replicate n ' ' ++ rest)
          (plainFrom column split o .spaces (List.replicate n ' ') rest) := by
  intro rest
  induction rest with
  | nil =>
    constructor
    · intro o run h hne _ hrun _ _
      rw [List.append_nil] at hne
      have hword := h.isWord hne hrun rfl
      rw [List.append_nil]
      exact .finish hword
    · intro o n hn h
      have hlast : (List.replicate n ' ').getLast? = some ' ' := by
        rw [List.getLast?_replicate, if_neg hn]
      exact absurd (by rw [List.append_nil, hlast]) h.last
  | cons c rest ih =>
    constructor
    · intro o run h _ hhead hrun hfresh hroom
      by_cases hc : c = ' '
      · subst hc
        have hne : run ≠ [] := by
          rintro rfl
          exact hhead rfl
        have hlength := List.length_pos_iff.2 hne
        simp only [plainFrom, if_true]
        exact .gap (h.isWord hne hrun rfl) (ih.2 (o.put run) 1 (by decide) h.spaces hfresh (by
          rw [put_column]
          omega))
      · have happend := List.append_cons run c rest
        simp only [plainFrom, hc, if_false]
        rw [happend] at h hhead ⊢
        refine ih.1 o (run ++ [c]) h (by simp) hhead (fun x hx => ?_) hfresh hroom
        rcases List.mem_append.1 hx with hx | hx
        · exact hrun x hx
        · rwa [List.mem_singleton.1 hx]
    · intro o n hn h hfresh hroom
      by_cases hc : c = ' '
      · subst hc
        have hspaces : List.replicate n ' ' ++ [' '] = List.replicate (n + 1) ' ' :=
          List.replicate_succ'.symm
        simp only [plainFrom, if_true]
        rw [List.append_cons, hspaces] at h ⊢
        exact ih.2 o (n + 1) (by omega) h hfresh hroom
      · have htail := h.word hn
        have hword : runOf c = .word := by
          have hblank := ((htail.chars c List.mem_cons_self).resolve_left hc).1
          exact runOf_eq_word.2 ⟨hc, isLineEnd_of_isBreak (isBreak_of_not_blank hblank)⟩
        have hnext : ∀ o' : Out, o'.fresh = false → least ≤ o'.column + 1 →
            WordReads least o' (c :: rest) (plainFrom column split o' .word [c] rest) :=
          fun o' hfresh' hroom' => ih.1 o' [c] htail (List.cons_ne_nil c rest) (by simpa using hc)
            (by simpa using hc) hfresh' hroom'
        simp only [plainFrom, hc, if_false, hword]
        split
        next hcond =>
          simp only [List.length_replicate, Bool.and_eq_true, decide_eq_true_eq] at hcond
          rw [hcond.1.1]
          refine .fold hcolumn (htail.begins hc) hleast hfresh (hnext _ rfl ?_)
          rw [show ((o.indent column).weighty).column = column from indent_column o column]
          omega
        next =>
          refine .spaces hn (htail.begins hc) hroom (hnext _ hfresh ?_)
          rw [put_column]
          omega

theorem plainFrom_flags (column : Nat) (split : Bool) (o : Out) (kind : Run) (run rest : List Char)
    (hfresh : o.fresh = false) (hblank : o.blank = false) :
    (plainFrom column split o kind run rest).fresh = false ∧
      (plainFrom column split o kind run rest).blank = false := by
  induction rest generalizing o kind run with
  | nil => exact ⟨hfresh, hblank⟩
  | cons c rest ih =>
    have hput := fun kind run' => ih (o.put run) kind run' hfresh hblank
    have hstay := fun run' => ih o kind run' hfresh hblank
    cases kind with
    | spaces =>
      simp only [plainFrom]
      split
      · exact hstay _
      split
      · exact ih _ _ _ rfl rfl
      · exact hput _ _
    | word | breaks =>
      simp only [plainFrom]
      split
      · exact hput _ _
      · exact ih _ _ _ hfresh hblank

/-- A text that can be plain. -/
structure PlainText (text : List Char) : Prop extends PlainTail text where
  nonempty : text ≠ []
  head : text.head? ≠ some ' '

/-- A plain text is read back, in front of what ends it. -/
theorem plainScalar_plainOut (h : PlainText text) (hcolumn : column ≠ 0) {indent : Int}
    (hindent : indent < column) (split : Bool) (ho : indent ≤ o.column + o.gap) : ∃ zs,
    (o.put (List.replicate o.gap ' ')).Adds zs (plainOut column split o text) ∧
      FirstWord text zs ∧
      ∀ after blanks broke d, EndsPlain after →
        plainBlanks ((plainOut column split o text).before after) = (blanks, broke, d) →
        blanks = [] ∨ (d.column : Int) < indent + 1 →
        plainScalar false indent ((o.put (List.replicate o.gap ' ')).before (zs ++ after))
          = (.ofList text, broke, d) := by
  have hout : plainOut column split o text = plainFrom column split
      (o.put (List.replicate o.gap ' ')).weighty .word [] text := by
    unfold plainOut gap
    rw [if_neg (by simpa using h.nonempty)]
    cases o.blank <;> rfl
  rw [hout]
  obtain ⟨zs, hadds, hfirst, hread⟩ := (reads_plainFrom (indent + 1) hcolumn hindent split text).1
    (o.put (List.replicate o.gap ' ')).weighty [] h.toPlainTail h.nonempty h.head nofun rfl (by
      simp only [weighty, put_column, List.length_replicate]
      omega)
  refine ⟨zs, hadds, hfirst, fun after blanks broke d hafter hblanks hends => ?_⟩
  have hscalar : plainText false (indent + 1) ((zs ++ after).length + 1)
      ((o.put (List.replicate o.gap ' ')).before (zs ++ after)) [] [] false = (text, broke, d) :=
    hread after (broke, d) hafter (readsBehind_end hblanks hends) _ [] [] false (Nat.lt_succ_self _)
  unfold plainScalar
  simp only [before_rest, hscalar]

end ModelSearch.Yaml
