import ModelSearch.Proofs.Yaml.PlainScalars
import ModelSearch.Yaml.Writer

/-!
# Places in what is laid out

A reader that has come to the end of what has been written so far stands at a place that the writer
knows: the number of characters, the lines that ended among them, and the column.  Readers move with
the writer, over the characters of a line and over the breaks between lines.

    o.before rest          the place behind what `o` has written, in front of `rest`
    o.Adds xs o'           `xs` has been written between `o` and `o'`
    span over xs           (o.before (xs ++ rest)).span p = (xs, (o.put xs).before rest)   (span_put)
-/

namespace ModelSearch.Yaml

namespace Out

variable {o o' o'' : Out} {xs ys rest : List Char} {c : Char} {k : Nat}

/-- The place behind what has been written, in front of `rest`. -/
def before (o : Out) (rest : List Char) : Cursor :=
  ⟨rest, o.reversed.length, o.reversed.countP isLineEnd, o.column⟩

@[simp] theorem before_rest (o : Out) (rest : List Char) : (o.before rest).rest = rest := rfl

@[simp] theorem before_column (o : Out) (rest : List Char) : (o.before rest).column = o.column := rfl

@[simp] theorem peek_before_cons (o : Out) (c : Char) (rest : List Char) :
    (o.before (c :: rest)).peek = c := rfl

@[simp] theorem peek_before_nil (o : Out) : (o.before []).peek = endMark := rfl

theorem peek_before_ne (h : rest.head? ≠ some c) (hc : c ≠ endMark) (o : Out) :
    (o.before rest).peek ≠ c := by
  cases rest with
  | nil => exact hc.symm
  | cons x xs => exact fun hx => h (congrArg some hx)

/-- Between `o` and `o'` the characters `xs` have been written. -/
def Adds (o : Out) (xs : List Char) (o' : Out) : Prop := o'.reversed = xs.reverse ++ o.reversed

theorem Adds.refl (o : Out) : o.Adds [] o := rfl

theorem Adds.trans (h : o.Adds xs o') (k : o'.Adds ys o'') : o.Adds (xs ++ ys) o'' := by
  unfold Adds at *
  rw [k, h, List.reverse_append, List.append_assoc]

theorem adds_put (o : Out) (xs : List Char) : o.Adds xs (o.put xs) := rfl

theorem adds_breakWith (o : Out) (c : Char) : o.Adds [c] (o.breakWith c) := rfl

theorem adds_lineBreaks (o : Out) (bs : List Char) : o.Adds bs (o.lineBreaks bs) := by
  induction bs generalizing o with
  | nil => exact Adds.refl o
  | cons b bs ih => exact (adds_breakWith o b).trans (ih (o.breakWith b))

theorem put_append (o : Out) (xs ys : List Char) : o.put (xs ++ ys) = (o.put xs).put ys := by
  simp [put, Nat.add_assoc]

theorem put_nil (o : Out) : o.put [] = o := rfl

@[simp] theorem put_column (o : Out) (xs : List Char) : (o.put xs).column = o.column + xs.length :=
  rfl

@[simp] theorem put_fresh (o : Out) (xs : List Char) : (o.put xs).fresh = o.fresh := rfl

/-! ## Signs -/

/-- The number of spaces in front of a sign that needs one. -/
def gap (o : Out) : Nat := if o.blank then 0 else 1

theorem sign_eq (o : Out) (text : String) (ofBlock : Bool) :
    o.sign true text ofBlock = { (o.put (List.replicate o.gap ' ')).put text.toList with
      blank := false, fresh := o.fresh && ofBlock } := by
  unfold sign gap
  cases o.blank with
  | true => rfl
  | false =>
    rw [← put_append]
    rfl

/-- A sign that needs no space. -/
theorem sign_false (o : Out) (text : String) (ofBlock : Bool) :
    o.sign false text ofBlock
      = { o.put text.toList with blank := false, fresh := o.fresh && ofBlock } := by
  simp [sign]

theorem adds_sign (o : Out) (text : String) (ofBlock : Bool) :
    o.Adds (List.replicate o.gap ' ' ++ text.toList) (o.sign true text ofBlock) := by
  rw [sign_eq]
  exact (adds_put o _).trans (adds_put _ _)

theorem adds_sign_false (o : Out) (text : String) (ofBlock : Bool) :
    o.Adds text.toList (o.sign false text ofBlock) := by
  rw [sign_false]
  exact adds_put o _

theorem before_sign (o : Out) (text : String) (ofBlock : Bool) (rest : List Char) :
    (o.sign true text ofBlock).before rest
      = ((o.put (List.replicate o.gap ' ')).put text.toList).before rest := by
  rw [sign_eq]
  rfl

theorem before_sign_false (o : Out) (text : String) (ofBlock : Bool) (rest : List Char) :
    (o.sign false text ofBlock).before rest = (o.put text.toList).before rest := by
  rw [sign_false]
  rfl

/-! ## Characters of a line -/

/-- Characters that take a column each and end no line. -/
def Inline (xs : List Char) : Prop := ∀ c ∈ xs, isBreak c = false ∧ c ≠ byteOrderMark

instance (xs : List Char) : Decidable (Inline xs) :=
  decidable_of_iff ((xs.all fun c => decide (isBreak c = false ∧ c ≠ byteOrderMark)) = true)
    (by simp [Inline])

theorem Inline.append (h : Inline xs) (k : Inline ys) : Inline (xs ++ ys) := by
  intro c hc
  rcases List.mem_append.1 hc with hc | hc
  · exact h c hc
  · exact k c hc

theorem inline_nil : Inline [] := nofun

theorem inline_cons (hbreak : isBreak c = false) (hmark : c ≠ byteOrderMark) (h : Inline xs) :
    Inline (c :: xs) := by
  intro d hd
  rcases List.mem_cons.1 hd with rfl | hd
  · exact ⟨hbreak, hmark⟩
  · exact h d hd

theorem inline_spaces (n : Nat) : Inline (List.replicate n ' ') := by
  intro c hc
  rw [List.eq_of_mem_replicate hc]
  decide

theorem isLineEnd_of_isBreak (h : isBreak c = false) : isLineEnd c = false := by
  simp only [isBreak, Bool.or_eq_false_iff] at h
  simp only [isLineEnd, h, Bool.or_self]

theorem isBreak_of_isLineEnd (h : isLineEnd c = true) : isBreak c = true := by
  by_contra hb
  rw [isLineEnd_of_isBreak (by simpa using hb)] at h
  cases h

theorem Inline.countP (h : Inline xs) : xs.countP isLineEnd = 0 :=
  List.countP_eq_zero.2 fun c hc => by rw [isLineEnd_of_isBreak (h c hc).1]; exact Bool.noConfusion

theorem forward_put (h : Inline xs) (o : Out) (rest : List Char) :
    (o.before (xs ++ rest)).forward xs.length = (o.put xs).before rest := by
  have hcount : (xs.reverse ++ o.reversed).countP isLineEnd = o.reversed.countP isLineEnd := by
    rw [List.countP_append, List.countP_reverse, h.countP, Nat.zero_add]
  unfold before put
  dsimp only
  rw [forward_inline h, hcount, List.length_append, List.length_reverse,
    Nat.add_comm xs.length]

theorem advance_put (hbreak : isBreak c = false) (hmark : c ≠ byteOrderMark) (o : Out)
    (rest : List Char) : (o.before (c :: rest)).advance = (o.put [c]).before rest :=
  forward_put (inline_cons hbreak hmark inline_nil) o rest

/-- A run of characters that satisfy `p`, in front of one that does not. -/
theorem span_put {p : Char → Bool} (h : Inline xs) (hp : ∀ c ∈ xs, p c = true)
    (hrest : ∀ c ∈ rest.head?, p c = false) (o : Out) :
    (o.before (xs ++ rest)).span p = (xs, (o.put xs).before rest) := by
  have hrun : (xs ++ rest).takeWhile p = xs := by
    rw [List.takeWhile_append_of_pos hp]
    cases rest with
    | nil => simp
    | cons c rest => rw [List.takeWhile_cons_of_neg (by simp [hrest c rfl]), List.append_nil]
  unfold Cursor.span
  simp only [before_rest, hrun, forward_put h]

theorem skip_put {p : Char → Bool} (h : Inline xs) (hp : ∀ c ∈ xs, p c = true)
    (hrest : ∀ c ∈ rest.head?, p c = false) (o : Out) :
    (o.before (xs ++ rest)).skip p = (o.put xs).before rest := by
  rw [Cursor.skip, span_put h hp hrest]

theorem skipSpaces_put (n : Nat) (hrest : rest.head? ≠ some ' ') (o : Out) :
    (o.before (List.replicate n ' ' ++ rest)).skipSpaces
      = (o.put (List.replicate n ' ')).before rest := by
  refine skip_put (inline_spaces n) (fun c hc => ?_) (fun c hc => ?_) o
  · simp [List.eq_of_mem_replicate hc]
  · rw [decide_eq_false_iff_not]
    rintro rfl
    exact hrest hc

/-! ## Breaks between lines -/

theorem advance_breakWith (h : isLineEnd c = true) (o : Out) (rest : List Char) :
    (o.before (c :: rest)).advance = (o.breakWith c).before rest := by
  have hreturn : c ≠ '\r' := by
    rintro rfl
    cases h
  simp [before, breakWith, Cursor.advance, hreturn, isBreak_of_isLineEnd h, h]

/-- A break between lines is read as it was written, but the next line sign, which is read as a line
feed. -/
theorem lineBreak_breakWith (h : isLineEnd c = true) (hnel : c.toNat ≠ 0x85) (o : Out)
    (rest : List Char) :
    (o.before (c :: rest)).lineBreak = ([c], (o.breakWith c).before rest) := by
  have hreturn : c ≠ '\r' := by
    rintro rfl
    cases h
  unfold Cursor.lineBreak
  rw [peek_before_cons, advance_breakWith h]
  by_cases hfeed : c = '\n'
  · simp [hfeed]
  · simp [hfeed, hreturn, hnel, isBreak_of_isLineEnd h]

theorem lineBreak_endLine (o : Out) (rest : List Char) :
    (o.before ('\n' :: rest)).lineBreak = (['\n'], o.endLine.before rest) :=
  lineBreak_breakWith rfl (by decide) o rest

theorem lineBreaks_append (o : Out) (xs ys : List Char) :
    o.lineBreaks (xs ++ ys) = (o.lineBreaks xs).lineBreaks ys := List.foldl_append

/-- Behind a break nothing stands on the line. -/
theorem lineBreaks_last (hne : xs ≠ []) (o : Out) :
    ∃ o' c, o.lineBreaks xs = breakWith o' c := by
  obtain ⟨ys, c, rfl⟩ := (List.eq_nil_or_concat' xs).resolve_left hne
  exact ⟨o.lineBreaks ys, c, lineBreaks_append o ys [c]⟩

theorem lineBreaks_column (hne : xs ≠ []) (o : Out) : (o.lineBreaks xs).column = 0 := by
  obtain ⟨o', c, h⟩ := lineBreaks_last hne o
  rw [h]
  rfl

theorem lineBreaks_fresh (hne : xs ≠ []) (o : Out) : (o.lineBreaks xs).fresh = true := by
  obtain ⟨o', c, h⟩ := lineBreaks_last hne o
  rw [h]
  rfl

/-! ## Indentation -/

/-- Something stands on the line, or the column is passed: a new line begins. -/
theorem indent_breaks (h : o.fresh = false ∨ k < o.column ∨ (o.column = k ∧ o.blank = false)) :
    o.indent k = { o.endLine.put (List.replicate k ' ') with blank := true } := by
  have hcond : (!o.fresh || k < o.column || (o.column = k && !o.blank)) = true := by
    rcases h with h | h | ⟨h, hb⟩
    · simp [h]
    · simp [h]
    · simp [h, hb]
  unfold indent
  simp only [hcond, if_true, endLine, breakWith, Nat.sub_zero]
  split
  · rfl
  · rw [show k = 0 by omega]
    rfl

/-- Nothing of weight stands on the line, and the column is ahead. -/
theorem indent_stays (hfresh : o.fresh = true) (h : o.column < k ∨ (o.column = k ∧ o.blank = true)) :
    o.indent k = { o.put (List.replicate (k - o.column) ' ') with blank := true } := by
  have hcond : (!o.fresh || k < o.column || (o.column = k && !o.blank)) = false := by
    rcases h with h | ⟨h, hb⟩
    · simp [hfresh, Nat.le_of_lt h, Nat.ne_of_lt h]
    · simp [hfresh, h, hb]
  unfold indent
  simp only [hcond, Bool.false_eq_true, if_false]
  split
  · rfl
  · obtain ⟨h, hb⟩ := h.resolve_left ‹_›
    rw [h, Nat.sub_self, List.replicate_zero, put_nil, ← hb]

theorem indent_cases (o : Out) (k : Nat) :
    o.indent k = { o.endLine.put (List.replicate k ' ') with blank := true } ∨
      (o.fresh = true ∧ o.column ≤ k ∧
        o.indent k = { o.put (List.replicate (k - o.column) ' ') with blank := true }) := by
  by_cases hfresh : o.fresh = true
  · rcases Nat.lt_trichotomy k o.column with h | h | h
    · exact .inl (indent_breaks (.inr (.inl h)))
    · by_cases hb : o.blank = true
      · exact .inr ⟨hfresh, h.symm.le, indent_stays hfresh (.inr ⟨h.symm, hb⟩)⟩
      · exact .inl (indent_breaks (.inr (.inr ⟨h.symm, by simpa using hb⟩)))
    · exact .inr ⟨hfresh, h.le, indent_stays hfresh (.inl h)⟩
  · exact .inl (indent_breaks (.inl (by simpa using hfresh)))

theorem indent_column (o : Out) (k : Nat) : (o.indent k).column = k := by
  rcases indent_cases o k with h | ⟨-, hk, h⟩
  · simp [h, endLine, breakWith]
  · simp only [h, put_column, List.length_replicate]
    omega

theorem indent_blank (o : Out) (k : Nat) : (o.indent k).blank = true := by
  rcases indent_cases o k with h | ⟨-, -, h⟩ <;> rw [h]

theorem indent_fresh (o : Out) (k : Nat) : (o.indent k).fresh = true := by
  rcases indent_cases o k with h | ⟨hfresh, -, h⟩
  · rw [h]
    rfl
  · rw [h]
    exact hfresh

end Out

end ModelSearch.Yaml
