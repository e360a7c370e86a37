import ModelSearch.Proofs.Text.Base64
import ModelSearch.Proofs.Yaml.PlainLayout

/-!
# Blocks are read as they were laid out

Bytes are written as lines of base 64 in a block: a header, and every line at the column of the
block.  The reader takes the column from the first line, and the block ends where a line is indented
less.

    lines without blanks, in front of a line that is indented less                (blockScalar_blockOut)
-/

namespace ModelSearch.Yaml

open Out

variable {o : Out} {x : Char} {column k n : Nat} {l run rest text : List Char} {ls : List (List Char)}

/-! ## Lines -/

/-- A line without blanks. -/
def IsLine (l : List Char) : Prop := l ≠ [] ∧ ∀ x ∈ l, isBlankOrBreak x = false ∧ x ≠ byteOrderMark

theorem IsLine.inline (h : IsLine l) : Inline l := fun x hx =>
  ⟨isBreak_of_not_blank (h.2 x hx).1, (h.2 x hx).2⟩

theorem IsLine.solid (h : IsLine l) (rest : List Char) : Solid (l ++ rest) := by
  obtain ⟨x, xs, rfl⟩ := List.exists_cons_of_ne_nil h.1
  exact solid_cons (h.2 x List.mem_cons_self).1 _

/-- Lines, each with its line feed. -/
def blockText (ls : List (List Char)) : List Char := ls.flatMap fun l => l ++ ['\n']

/-- Lines behind their indentation. -/
def blockLaid (column : Nat) (ls : List (List Char)) : List Char :=
  ls.flatMap fun l => List.replicate column ' ' ++ (l ++ ['\n'])

theorem length_le_blockLaid (column : Nat) (ls : List (List Char)) :
    ls.length ≤ (blockLaid column ls).length := by
  induction ls with
  | nil => exact Nat.le_refl _
  | cons l ls ih =>
    simp only [blockLaid, List.flatMap_cons, List.length_append, List.length_cons] at ih ⊢
    omega

/-- What has been written behind the lines. -/
def linesOut (column : Nat) (o : Out) (ls : List (List Char)) : Out :=
  ls.foldl (fun o l => ((o.put (List.replicate column ' ')).put l).endLine) o

theorem adds_linesOut (column : Nat) (o : Out) (ls : List (List Char)) :
    o.Adds (blockLaid column ls) (linesOut column o ls) := by
  induction ls generalizing o with
  | nil => exact .refl o
  | cons l ls ih =>
    have hline := (adds_put o (List.replicate column ' ')).trans
      ((adds_put _ l).trans (adds_breakWith _ '\n'))
    exact hline.trans (ih _)

/-! ## Writing -/

/-- A line is gathered up to its line feed. -/
theorem blockFrom_line (hl : ∀ x ∈ l, isLineEnd x = false) (o : Out) (rest : List Char) :
    blockFrom column o false run (l ++ '\n' :: rest)
      = blockFrom column (o.put (run ++ l)) true ['\n'] rest := by
  induction l generalizing run with
  | nil =>
    have hfeed : isLineEnd '\n' = true := rfl
    rw [List.nil_append, List.append_nil, blockFrom, hfeed]
    rfl
  | cons x l ih =>
    have hx := hl x List.mem_cons_self
    rw [List.cons_append, blockFrom, if_pos hx, ih fun y hy => hl y (List.mem_cons_of_mem _ hy),
      List.append_assoc]
    rfl

theorem blockFrom_lines (hcolumn : column ≠ 0) (hls : ∀ l ∈ ls, IsLine l) {bs : List Char}
    (ho : (o.lineBreaks bs).column = 0) (hfresh : (o.lineBreaks bs).fresh = true) :
    blockFrom column o true bs (blockText ls) = linesOut column (o.lineBreaks bs) ls := by
  induction ls generalizing o bs with
  | nil => rfl
  | cons l ls ih =>
    obtain ⟨hne, hchars⟩ := hls l List.mem_cons_self
    obtain ⟨x, xs, rfl⟩ := List.exists_cons_of_ne_nil hne
    have hend : ∀ y ∈ x :: xs, isLineEnd y = false := fun y hy =>
      isLineEnd_of_isBreak (isBreak_of_not_blank (hchars y hy).1)
    have hindent : (o.lineBreaks bs).indent column = _ := indent_stays hfresh (.inl (by omega))
    have htext : blockText ((x :: xs) :: ls) = x :: (xs ++ '\n' :: blockText ls) := by
      simp [blockText]
    have hx := hend x List.mem_cons_self
    have hrest : blockFrom column (((o.lineBreaks bs).indent column).put (x :: xs)) true ['\n']
        (blockText ls) = linesOut column
          ((((o.lineBreaks bs).indent column).put (x :: xs)).lineBreaks ['\n']) ls :=
      ih (fun m hm => hls m (List.mem_cons_of_mem _ hm)) rfl rfl
    rw [htext, blockFrom, hx, if_neg (by decide), if_pos rfl,
      blockFrom_line fun y hy => hend y (List.mem_cons_of_mem _ hy), List.singleton_append, hrest,
      hindent, ho]
    rfl

/-! ## Reading -/

theorem takeWhile_spaces (hrest : BeginsLine rest) (n : Nat) :
    (List.replicate n ' ' ++ rest).takeWhile (fun x => decide (x = ' ')) = List.replicate n ' ' := by
  rw [List.takeWhile_append_of_pos (by simp)]
  cases rest with
  | nil => simp
  | cons x xs => rw [List.takeWhile_cons_of_neg (by simpa using (hrest x rfl).1), List.append_nil]

/-- The indentation of a line up to a column. -/
theorem spacesTo_put (hrest : BeginsLine rest) (ho : o.column = 0) (hk : k ≤ column) :
    spacesTo column (o.before (List.replicate k ' ' ++ rest))
      = (o.put (List.replicate k ' ')).before rest := by
  have hmin : min (column - o.column) (List.replicate k ' ').length
      = (List.replicate k ' ').length := by
    rw [List.length_replicate]
    omega
  unfold spacesTo
  rw [before_rest, takeWhile_spaces hrest, before_column, hmin, forward_put (inline_spaces k)]

theorem BeginsLine.peek (h : BeginsLine rest) (o : Out) :
    (o.before rest).peek ≠ ' ' ∧ isBreak (o.before rest).peek = false := by
  cases rest with
  | nil => exact ⟨by simp [endMark], rfl⟩
  | cons x xs => exact h x rfl

theorem blockBreaks_put (hrest : BeginsLine rest) (ho : o.column = 0) (hk : k ≤ column) (fuel : Nat) :
    blockBreaks column (fuel + 1) (o.before (List.replicate k ' ' ++ rest)) []
      = ([], (o.put (List.replicate k ' ')).before rest) := by
  rw [blockBreaks, spacesTo_put hrest ho hk, (hrest.peek _).2]
  rfl

/-- The indentation of the first line is found. -/
theorem blockIndentation_put (hrest : BeginsLine rest) (n : Nat) (o : Out) {fuel : Nat}
    (hfuel : n < fuel) (breaks : List Char) :
    blockIndentation fuel (o.before (List.replicate n ' ' ++ rest)) breaks o.column
      = (breaks, o.column + n, (o.put (List.replicate n ' ')).before rest) := by
  obtain ⟨fuel, rfl⟩ : ∃ k, fuel = k + 1 := Nat.exists_eq_add_of_le' (Nat.zero_lt_of_lt hfuel)
  induction n generalizing o fuel with
  | zero =>
    obtain ⟨hspace, hbreak⟩ := hrest.peek o
    rw [List.replicate_zero, List.nil_append, blockIndentation, if_neg hspace, hbreak]
    rfl
  | succ n ih =>
    obtain ⟨fuel, rfl⟩ : ∃ k, fuel = k + 1 := Nat.exists_eq_add_of_le' (by omega)
    have hput : o.put (List.replicate (n + 1) ' ') = (o.put [' ']).put (List.replicate n ' ') :=
      put_append o [' '] (List.replicate n ' ')
    have hwidest : max o.column ((o.put [' ']).before (List.replicate n ' ' ++ rest)).column
        = (o.put [' ']).column := by simp
    rw [hput, List.replicate_succ, List.cons_append, blockIndentation, peek_before_cons, if_pos rfl,
      advance_put (by decide) (by decide)]
    dsimp only
    rw [hwidest, ih (o.put [' ']) fuel (by omega), put_column, List.length_singleton, Nat.add_assoc,
      Nat.add_comm 1]

theorem span_line (hl : IsLine l) (o : Out) (rest : List Char) :
    (o.before (l ++ '\n' :: rest)).span (fun x => !isBreakOrEnd x)
      = (l, (o.put l).before ('\n' :: rest)) := by
  refine span_put hl.inline (fun x hx => ?_) (fun x hx => ?_) o
  · have hblank := (hl.2 x hx).1
    simp only [isBlankOrBreak, isSpaceOrBreak, Bool.or_eq_false_iff] at hblank
    simp [hblank.2.2]
  · obtain rfl : '\n' = x := Option.some.inj hx
    rfl

/-- The lines of a block, in front of a line that is indented less. -/
theorem blockLines_lines (hk : k < column) (hrest : BeginsLine rest) (ho : o.column = 0) (hl : IsLine l)
    (hls : ∀ m ∈ ls, IsLine m) {fuel : Nat} (hfuel : ls.length < fuel) (text : List Char) :
    blockLines false column fuel ((o.put (List.replicate column ' ')).before
        (l ++ '\n' :: (blockLaid column ls ++ (List.replicate k ' ' ++ rest)))) text []
      = (text ++ l ++ ls.flatMap ('\n' :: ·), ['\n'], [],
          ((linesOut column o (l :: ls)).put (List.replicate k ' ')).before rest) := by
  induction ls generalizing o l text fuel with
  | nil =>
    obtain ⟨fuel, rfl⟩ : ∃ k, fuel = k + 1 := Nat.exists_eq_add_of_le' (Nat.zero_lt_of_lt hfuel)
    have hbreaks := blockBreaks_put (o := ((o.put (List.replicate column ' ')).put l).endLine) hrest rfl
      (Nat.le_of_lt hk) (List.replicate k ' ' ++ rest).length
    have hcolumn : k ≠ column := Nat.ne_of_lt hk
    rw [blockLines]
    simp only [blockLaid, List.flatMap_nil, List.nil_append, span_line hl, lineBreak_endLine,
      before_rest, hbreaks]
    simp [endLine, breakWith, hcolumn, linesOut]
  | cons m ls ih =>
    obtain ⟨fuel, rfl⟩ : ∃ k, fuel = k + 1 := Nat.exists_eq_add_of_le' (Nat.zero_lt_of_lt hfuel)
    have hm := hls m List.mem_cons_self
    obtain ⟨x, xs, rfl⟩ := List.exists_cons_of_ne_nil hm.1
    have hx : x ≠ endMark := ne_of_not_blank (hm.2 x List.mem_cons_self).1 rfl
    generalize hp : ((o.put (List.replicate column ' ')).put l).endLine = p
    have hp' : p.column = 0 := by rw [← hp]; rfl
    have hlaid : blockLaid column ((x :: xs) :: ls) ++ (List.replicate k ' ' ++ rest)
        = List.replicate column ' ' ++ (x :: xs ++ '\n' :: (blockLaid column ls
          ++ (List.replicate k ' ' ++ rest))) := by
      simp [blockLaid]
    have hbreaks := fun fuel => blockBreaks_put (o := p) (hm.solid ('\n' :: (blockLaid column ls
      ++ (List.replicate k ' ' ++ rest)))).beginsLine hp' (Nat.le_refl column) fuel
    have hrest : ls.length < fuel := by
      simp only [List.length_cons] at hfuel
      omega
    have hlines := ih hp' hm (fun m' hm' => hls m' (List.mem_cons_of_mem _ hm')) hrest
      (text ++ l ++ ['\n'])
    rw [blockLines, hlaid]
    simp only [span_line hl, lineBreak_endLine, before_rest, hp, hbreaks]
    simp only [before_column, put_column, hp', Nat.zero_add, List.length_replicate, decide_true,
      Bool.true_and, Bool.false_and, Bool.false_eq_true, if_false, List.append_nil, List.cons_append,
      peek_before_cons, ne_eq, hx, not_false_eq_true, if_true]
    rw [List.cons_append] at hlines
    rw [hlines, show linesOut column o (l :: (x :: xs) :: ls) = linesOut column p ((x :: xs) :: ls) by
      rw [← hp]; rfl]
    simp

theorem blockText_join (l : List Char) (ls : List (List Char)) :
    l ++ ls.flatMap ('\n' :: ·) ++ ['\n'] = blockText (l :: ls) := by
  induction ls generalizing l with
  | nil => simp [blockText]
  | cons m ls ih =>
    have hrest := ih m
    simp only [blockText, List.flatMap_cons, List.append_assoc, List.cons_append] at hrest ⊢
    rw [hrest]
    rfl

/-- Lines without blanks need no indicators. -/
theorem blockHints_blockText (hls : ∀ l ∈ ls, IsLine l) : blockHints (blockText ls) = "" := by
  rcases List.eq_nil_or_concat' ls with rfl | ⟨ms, m, rfl⟩
  · rfl
  obtain ⟨ys, y, rfl⟩ := (List.eq_nil_or_concat' m).resolve_left
    (hls m (List.mem_append_right _ List.mem_cons_self)).1
  have hy : isLineEnd y = false := isLineEnd_of_isBreak (isBreak_of_not_blank
    ((hls _ (List.mem_append_right _ List.mem_cons_self)).2 y (by simp)).1)
  have hreverse : (blockText (ms ++ [ys ++ [y]])).reverse
      = '\n' :: y :: (ys.reverse ++ (blockText ms).reverse) := by
    simp [blockText]
  have hfirst : ∃ l ms', ms ++ [ys ++ [y]] = l :: ms' := List.exists_cons_of_ne_nil (by simp)
  obtain ⟨l, ms', hl⟩ := hfirst
  have hline := hls l (hl ▸ List.mem_cons_self)
  obtain ⟨x, xs, rfl⟩ := List.exists_cons_of_ne_nil hline.1
  have hx := (hline.2 x List.mem_cons_self).1
  have hhead : (blockText (ms ++ [ys ++ [y]])).headD endMark = x := by
    rw [hl]
    rfl
  have hend : isLineEnd '\n' = true := rfl
  unfold blockHints
  rw [hreverse, hhead]
  simp [hend, hy, ne_of_not_blank hx (y := ' ') rfl, isLineEnd_of_isBreak (isBreak_of_not_blank hx)]

/-- Behind a bar and the break of its line, the lines of a block are written. -/
theorem blockOut_eq (hcolumn : column ≠ 0) (hls : ∀ l ∈ ls, IsLine l) (o : Out) :
    blockOut column o (blockText ls) = linesOut column (o.sign true "|" false).endLine ls := by
  unfold blockOut
  rw [blockHints_blockText hls]
  exact blockFrom_lines hcolumn hls rfl rfl

theorem blockHeader_plain (o : Out) (rest : List Char) :
    blockHeader (o.before ('\n' :: rest)) = .ok ((.clip, none), o.before ('\n' :: rest)) := rfl

theorem ignoredLine_empty (o : Out) (rest : List Char) :
    ignoredLine (o.before ('\n' :: rest)) = .ok (o.endLine.before rest) := by
  have hspaces : (o.before ('\n' :: rest)).skipSpaces = o.before ('\n' :: rest) :=
    skipSpaces_put 0 (by simp) o
  have hcomment : '\n' ≠ '#' := by decide
  unfold ignoredLine
  simp only [hspaces, peek_before_cons, hcomment, if_false, lineBreak_endLine]
  rfl

/-- A block with no indicators, at the column of its first line. -/
theorem blockScalar_of_reads {folded : Bool} {indent : Int} {c c₁ c₂ c₃ d : Cursor}
    {lineEnd breaks : List Char} {widest : Nat}
    (hheader : blockHeader c.advance = .ok ((.clip, none), c₁)) (hline : ignoredLine c₁ = .ok c₂)
    (hwidth : blockIndentation (c₂.rest.length + 1) c₂ [] 0 = ([], widest, c₃))
    (hleast : max (max 1 (indent + 1)).toNat widest = c₃.column) (hpeek : c₃.peek ≠ endMark)
    (hlines : blockLines folded c₃.column (c₃.rest.length + 1) c₃ [] [] = (text, lineEnd, breaks, d)) :
    blockScalar folded indent c = .ok (.ofList (text ++ lineEnd), d) := by
  unfold blockScalar
  rw [hheader]
  simp only [bind, Except.bind]
  rw [hline]
  simp only [hwidth, hleast, hpeek, hlines, decide_true, ne_eq, not_false_eq_true, Bool.and_self,
    if_true]

/-- Lines without blanks are read back, in front of a line that is indented less. -/
theorem blockScalar_blockOut (hcolumn : column ≠ 0) (hls : ∀ l ∈ ls, IsLine l) (hne : ls ≠ [])
    {indent : Int} (hindent : indent < column) (o : Out) : ∃ zs,
    (o.put (List.replicate o.gap ' ')).Adds ('|' :: zs) (blockOut column o (blockText ls)) ∧
      ∀ k rest, k < column → BeginsLine rest →
        blockScalar false indent ((o.put (List.replicate o.gap ' ')).before
            ('|' :: zs ++ (List.replicate k ' ' ++ rest)))
          = .ok (.ofList (blockText ls),
              ((blockOut column o (blockText ls)).put (List.replicate k ' ')).before rest) := by
  rw [blockOut_eq hcolumn hls]
  generalize hp : (o.sign true "|" false).endLine = p
  have hcol : p.column = 0 := by
    rw [← hp]
    rfl
  have hopen : (o.put (List.replicate o.gap ' ')).Adds ['|', '\n'] p := by
    rw [← hp, sign_eq]
    exact (adds_put _ ['|']).trans (adds_breakWith _ '\n')
  refine ⟨'\n' :: blockLaid column ls, hopen.trans (adds_linesOut column p ls),
    fun k rest hk hrest => ?_⟩
  obtain ⟨l, ms, rfl⟩ := List.exists_cons_of_ne_nil hne
  have hl := hls l List.mem_cons_self
  have hlaid : blockLaid column (l :: ms) ++ (List.replicate k ' ' ++ rest)
      = List.replicate column ' ' ++ (l ++ '\n' :: (blockLaid column ms
        ++ (List.replicate k ' ' ++ rest))) := by
    simp [blockLaid]
  have hadvance : ((o.put (List.replicate o.gap ' ')).before
      ('|' :: '\n' :: (blockLaid column (l :: ms) ++ (List.replicate k ' ' ++ rest)))).advance
      = (o.sign true "|" false).before
        ('\n' :: (blockLaid column (l :: ms) ++ (List.replicate k ' ' ++ rest))) := by
    rw [advance_put (by decide) (by decide), before_sign]
    rfl
  have hbegins := (hl.solid ('\n' :: (blockLaid column ms ++ (List.replicate k ' ' ++ rest)))).beginsLine
  have hfuel : column < (blockLaid column (l :: ms) ++ (List.replicate k ' ' ++ rest)).length + 1 := by
    rw [hlaid, List.length_append, List.length_replicate]
    omega
  have hwidth := blockIndentation_put hbegins column p hfuel []
  rw [← hlaid, hcol, Nat.zero_add] at hwidth
  have hcolumn' : (p.put (List.replicate column ' ')).column = column := by simp [hcol]
  have hlength := length_le_blockLaid column ms
  have hline : ignoredLine ((o.sign true "|" false).before
      ('\n' :: (blockLaid column (l :: ms) ++ (List.replicate k ' ' ++ rest))))
      = .ok (p.before (blockLaid column (l :: ms) ++ (List.replicate k ' ' ++ rest))) := by
    rw [← hp]
    exact ignoredLine_empty _ _
  have hfuel' : ms.length
      < (l ++ '\n' :: (blockLaid column ms ++ (List.replicate k ' ' ++ rest))).length + 1 := by
    simp
    omega
  have hlines := blockLines_lines hk hrest hcol hl (fun m hm => hls m (List.mem_cons_of_mem _ hm))
    hfuel' []
  have hscalar : blockScalar false indent ((o.put (List.replicate o.gap ' ')).before
      ('|' :: '\n' :: (blockLaid column (l :: ms) ++ (List.replicate k ' ' ++ rest)))) = .ok _ :=
    blockScalar_of_reads (hadvance ▸ blockHeader_plain _ _) hline hwidth
      (by rw [before_column, hcolumn']; omega)
      (by
        obtain ⟨x, xs, rfl⟩ := List.exists_cons_of_ne_nil hl.1
        exact ne_of_not_blank (hl.2 x List.mem_cons_self).1 rfl)
      (Eq.trans (by rw [before_column, hcolumn', before_rest]) hlines)
  rw [List.nil_append, blockText_join] at hscalar
  exact hscalar

/-- Behind the lines nothing stands on the line. -/
theorem linesOut_flags (hne : ls ≠ []) (column : Nat) (o : Out) :
    (linesOut column o ls).fresh = true ∧ (linesOut column o ls).column = 0 ∧
      (linesOut column o ls).blank = true := by
  obtain ⟨ms, m, rfl⟩ := (List.eq_nil_or_concat' ls).resolve_left hne
  rw [linesOut, List.foldl_append]
  exact ⟨rfl, rfl, rfl⟩

/-- The text of bytes is made of lines without blanks. -/
theorem blockText_base64Lines (bs : List UInt8) :
    ∃ ls : List (List Char), Text.base64Lines bs = blockText ls ∧ ∀ l ∈ ls, IsLine l := by
  obtain ⟨ls, hls, hlines⟩ := Text.exists_base64Lines bs
  refine ⟨ls, hls, fun l hl => ?_⟩
  obtain ⟨cs, hcs, rfl⟩ := hlines l hl
  exact ⟨Text.base64Line_ne_nil hcs, Text.forall_base64Line
    (p := fun x => isBlankOrBreak x = false ∧ x ≠ byteOrderMark) (by decide +kernel) (by decide) cs⟩

end ModelSearch.Yaml
