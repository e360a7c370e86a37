import ModelSearch.Proofs.Yaml.Places
import ModelSearch.Proofs.Yaml.PlainTokens

/-!
# Reading quoted texts

The readers of words, of the blanks between them and of the whole text are put together into one
judgment, with a rule for every piece that a writer puts down between quotes: characters as they
are, an apostrophe that is doubled, an escape, a folded space, empty lines, and the closing quote.

    ReadsQuoted double c text d     from `c` inside the quotes, `text` is read up to the closing quote
    an escape of any character gives the character                              (escape_escaped)
-/

namespace ModelSearch.Yaml

open Out

variable {double : Bool} {o : Out} {c d d' : Cursor} {x : Char} {n : Nat}
  {xs bs text word tail rest : List Char}

/-- The text goes on with a character that is no blank. -/
def Solid (xs : List Char) : Prop := ∃ x ys, xs = x :: ys ∧ isBlankOrBreak x = false

theorem Solid.head? (h : Solid xs) : ∀ x ∈ xs.head?, isBlankOrBreak x = false := by
  obtain ⟨x, ys, rfl, hx⟩ := h
  rintro _ ⟨⟩
  exact hx

theorem solid_cons (h : isBlankOrBreak x = false) (xs : List Char) : Solid (x :: xs) := ⟨x, xs, rfl, h⟩

theorem Solid.append (h : Solid xs) (ys : List Char) : Solid (xs ++ ys) := by
  obtain ⟨x, zs, rfl, hx⟩ := h
  exact ⟨x, zs ++ ys, rfl, hx⟩

theorem isBreak_of_not_blank (h : isBlankOrBreak x = false) : isBreak x = false := by
  simp only [isBlankOrBreak, isSpaceOrBreak, isBreakOrEnd, Bool.or_eq_false_iff] at h
  exact h.2.2.2

theorem ne_of_not_blank {y : Char} (h : isBlankOrBreak x = false) (hy : isBlankOrBreak y = true) :
    x ≠ y := by
  rintro rfl
  rw [h] at hy
  cases hy

/-! ## Judgments -/

/-- The quote that closes a text. -/
def quoteSign (double : Bool) : Char := if double then '"' else '\''

theorem quoteSign_eq : (quoteSign double = '"') ↔ double = true := by
  cases double <;> decide

/-- The characters up to a blank or the closing quote are those of `word`. -/
def ReadsWord (double : Bool) (c : Cursor) (word : List Char) (d : Cursor) : Prop :=
  d.rest.length ≤ c.rest.length ∧ ∀ fuel text, c.rest.length < fuel →
    quotedWord double fuel c text = .ok (text ++ word, d)

/-- From a blank or the closing quote on, what remains of the text is `tail`. -/
def ReadsTail (double : Bool) (c : Cursor) (tail : List Char) (d : Cursor) : Prop :=
  ∀ fuel text, c.rest.length < fuel →
    quotedText (quoteSign double) fuel c text = .ok (text ++ tail, d)

/-- From a place inside the quotes on, what remains of the text is `text`. -/
def ReadsQuoted (double : Bool) (c : Cursor) (text : List Char) (d : Cursor) : Prop :=
  ∃ word tail c', text = word ++ tail ∧ ReadsWord double c word c' ∧ ReadsTail double c' tail d

/-- A quoted scalar is what stands behind its quote. -/
theorem quotedScalar_of_reads (hc : c.peek = quoteSign double)
    (h : ReadsQuoted double c.advance text d) : quotedScalar c = .ok (.ofList text, d) := by
  obtain ⟨word, tail, c', rfl, ⟨-, hword⟩, htail⟩ := h
  have hquote : decide (c.peek = '"') = double := by
    rw [hc, Bool.eq_iff_iff, decide_eq_true_eq, quoteSign_eq]
  unfold quotedScalar
  simp only [hquote, hword _ [] (Nat.lt_succ_self _), bind, Except.bind, List.nil_append]
  rw [hc, htail _ word (Nat.lt_succ_self _)]

/-! ## Characters as they are -/

/-- The characters that a word is a run of. -/
def runsOn (x : Char) : Bool := x ≠ '\'' && x ≠ '"' && x ≠ '\\' && !isBlankOrBreak x

theorem quotedWord_succ (double : Bool) (fuel : Nat) (c : Cursor) (text : List Char) :
    quotedWord double (fuel + 1) c text =
      let text := text ++ (c.span runsOn).1
      let c := (c.span runsOn).2
      let x := c.peek
      if !double && x = '\'' && c.peekAt 1 = '\'' then
        quotedWord double fuel (c.forward 2) (text ++ ['\''])
      else if (double && x = '\'') || (!double && (x = '"' || x = '\\')) then
        quotedWord double fuel c.advance (text ++ [x])
      else if double && x = '\\' then
        escape c.advance >>= fun r => quotedWord double fuel r.2 (text ++ r.1)
      else .ok (text, c) := rfl

theorem span_empty {p : Char → Bool} (hx : p x = false) (o : Out) (rest : List Char) :
    (o.before (x :: rest)).span p = ([], o.before (x :: rest)) := by
  have hstop : ∀ y ∈ (x :: rest).head?, p y = false := by
    rintro _ ⟨⟩
    exact hx
  exact span_put inline_nil nofun hstop o

/-- A run begins with each of its characters. -/
theorem span_char {p : Char → Bool} (hx : p x = true) (hbreak : isBreak x = false)
    (hmark : x ≠ byteOrderMark) (o : Out) (rest : List Char) :
    (o.before (x :: rest)).span p
      = (x :: (((o.put [x]).before rest).span p).1, (((o.put [x]).before rest).span p).2) := by
  have hrun : (x :: rest).takeWhile p = x :: rest.takeWhile p := List.takeWhile_cons_of_pos hx
  unfold Cursor.span
  simp only [before_rest, hrun, List.length_cons, Cursor.forward, advance_put hbreak hmark]

/-- A character that stands for itself inside quotes. -/
def Inner (double : Bool) (x : Char) : Prop :=
  isBlankOrBreak x = false ∧ x ≠ byteOrderMark ∧ x ≠ quoteSign double ∧ (double = true → x ≠ '\\')

theorem runsOn_of_inner (h : Inner double x) :
    runsOn x = true ∨ x = '\'' ∧ double = true ∨ (x = '"' ∨ x = '\\') ∧ double = false := by
  obtain ⟨hblank, -, hquote, hslash⟩ := h
  by_cases h₁ : x = '\''
  · cases double with
    | true => exact .inr (.inl ⟨h₁, rfl⟩)
    | false => exact absurd h₁ hquote
  by_cases h₂ : x = '"'
  · cases double with
    | true => exact absurd h₂ hquote
    | false => exact .inr (.inr ⟨.inl h₂, rfl⟩)
  by_cases h₃ : x = '\\'
  · cases double with
    | true => exact absurd h₃ (hslash rfl)
    | false => exact .inr (.inr ⟨.inr h₃, rfl⟩)
  · exact .inl (by simp [runsOn, h₁, h₂, h₃, hblank])

/-- A character that stands for itself is read as part of the word. -/
theorem ReadsWord.char (hx : Inner double x)
    (h : ReadsWord double ((o.put [x]).before rest) word d) :
    ReadsWord double (o.before (x :: rest)) (x :: word) d := by
  have hbreak := isBreak_of_not_blank hx.1
  obtain ⟨hlength, h⟩ := h
  refine ⟨Nat.le_succ_of_le hlength, fun fuel text hfuel => ?_⟩
  obtain ⟨fuel, rfl⟩ : ∃ k, fuel = k + 1 := Nat.exists_eq_add_of_le' (Nat.zero_lt_of_lt hfuel)
  have hfuel' : rest.length < fuel := Nat.lt_of_succ_lt_succ hfuel
  rcases runsOn_of_inner hx with hrun | hsign
  · have hread := h (fuel + 1) (text ++ [x]) (Nat.lt_succ_of_lt hfuel')
    rw [quotedWord_succ] at hread ⊢
    rw [span_char hrun hbreak hx.2.1]
    simpa using hread
  · have hread := h fuel (text ++ [x]) hfuel'
    have hrun : runsOn x = false := by
      rcases hsign with ⟨rfl, -⟩ | ⟨rfl | rfl, -⟩ <;> rfl
    have hstep : quotedWord double (fuel + 1) (o.before (x :: rest)) text
        = quotedWord double fuel ((o.put [x]).before rest) (text ++ [x]) := by
      rw [quotedWord_succ, span_empty hrun]
      rcases hsign with ⟨rfl, rfl⟩ | ⟨rfl | rfl, rfl⟩ <;>
        simp [advance_put hbreak hx.2.1]
    rw [hstep, hread, List.append_assoc]
    rfl

theorem ReadsQuoted.char (hx : Inner double x)
    (h : ReadsQuoted double ((o.put [x]).before rest) text d) :
    ReadsQuoted double (o.before (x :: rest)) (x :: text) d := by
  obtain ⟨word, tail, c', rfl, hword, htail⟩ := h
  exact ⟨x :: word, tail, c', rfl, hword.char hx, htail⟩

/-- An apostrophe is doubled between apostrophes. -/
theorem ReadsQuoted.pair (h : ReadsQuoted false ((o.put ['\'', '\'']).before rest) text d) :
    ReadsQuoted false (o.before ('\'' :: '\'' :: rest)) ('\'' :: text) d := by
  obtain ⟨word, tail, c', rfl, ⟨hlength, hword⟩, htail⟩ := h
  refine ⟨'\'' :: word, tail, c', rfl, ⟨by simp at hlength ⊢; omega, fun fuel text hfuel => ?_⟩,
    htail⟩
  obtain ⟨fuel, rfl⟩ : ∃ k, fuel = k + 1 := Nat.exists_eq_add_of_le' (Nat.zero_lt_of_lt hfuel)
  have hforward : (o.before ('\'' :: '\'' :: rest)).forward 2
      = (o.put ['\'', '\'']).before rest :=
    forward_put (show Inline ['\'', '\''] by decide) o rest
  have hread := hword fuel (text ++ ['\'']) (by simp at hfuel ⊢; omega)
  rw [quotedWord_succ, span_empty rfl]
  simp [hforward, hread, Cursor.peekAt]

/-! ## The closing quote -/

theorem ReadsWord.stop
    (hx : isBlankOrBreak x = true ∨ x = quoteSign double ∧ rest.head? ≠ some '\'') :
    ReadsWord double (o.before (x :: rest)) [] (o.before (x :: rest)) := by
  refine ⟨Nat.le_refl _, fun fuel text hfuel => ?_⟩
  obtain ⟨fuel, rfl⟩ : ∃ k, fuel = k + 1 := Nat.exists_eq_add_of_le' (Nat.zero_lt_of_lt hfuel)
  have hrun : runsOn x = false := by
    rcases hx with hx | ⟨rfl, -⟩
    · simp [runsOn, hx]
    · cases double <;> rfl
  rw [quotedWord_succ, span_empty hrun]
  rcases hx with hx | ⟨rfl, hrest⟩
  · have hne : ∀ y, isBlankOrBreak y = false → x ≠ y := fun y hy => (ne_of_not_blank hy hx).symm
    simp [hne '\'' rfl, hne '"' rfl, hne '\\' rfl]
  · have hnext : rest[0]?.getD endMark ≠ '\'' := by
      cases rest with
      | nil => decide
      | cons y ys => exact fun hy => hrest (congrArg some hy)
    cases double <;> simp [quoteSign, Cursor.peekAt, hnext]

/-- The text ends at its quote, unless an apostrophe stands behind it. -/
theorem readsQuoted_close (hrest : rest.head? ≠ some '\'') :
    ReadsQuoted double (o.before (quoteSign double :: rest)) []
      ((o.put [quoteSign double]).before rest) := by
  refine ⟨[], [], _, rfl, .stop (.inr ⟨rfl, hrest⟩), fun fuel text hfuel => ?_⟩
  obtain ⟨fuel, rfl⟩ : ∃ k, fuel = k + 1 := Nat.exists_eq_add_of_le' (Nat.zero_lt_of_lt hfuel)
  have hadvance : (o.before (quoteSign double :: rest)).advance
      = (o.put [quoteSign double]).before rest := by
    cases double <;> exact advance_put (by decide) (by decide) o rest
  rw [quotedText]
  simp [hadvance]

/-! ## Blanks -/

theorem ReadsQuoted.blanks (hx : isBlankOrBreak x = true)
    (hread : quotedBlanks (o.before (x :: rest)) = .ok (bs, d'))
    (hlength : d'.rest.length ≤ rest.length) (h : ReadsQuoted double d' text d) :
    ReadsQuoted double (o.before (x :: rest)) (bs ++ text) d := by
  obtain ⟨word, tail, c', rfl, ⟨hword, hreadWord⟩, htail⟩ := h
  refine ⟨[], bs ++ (word ++ tail), _, rfl, .stop (.inl hx), fun fuel text hfuel => ?_⟩
  obtain ⟨fuel, rfl⟩ : ∃ k, fuel = k + 1 := Nat.exists_eq_add_of_le' (Nat.zero_lt_of_lt hfuel)
  have hquote : x ≠ quoteSign double := by
    cases double <;> exact (ne_of_not_blank rfl hx).symm
  have hdouble : decide (quoteSign double = '"') = double := by
    rw [Bool.eq_iff_iff, decide_eq_true_eq, quoteSign_eq]
  have hfuel' : c'.rest.length < fuel := by
    simp only [before_rest, List.length_cons] at hfuel
    omega
  rw [quotedText]
  simp only [peek_before_cons, hquote, if_false, hread, bind, Except.bind, hdouble,
    hreadWord _ [] (Nat.lt_succ_self _), List.nil_append, htail fuel _ hfuel', List.append_assoc]

theorem span_spaces (n : Nat) (hrest : ∀ x ∈ rest.head?, x ≠ ' ' ∧ x ≠ '\t') (o : Out) :
    (o.before (List.replicate n ' ' ++ rest)).span (fun c => c = ' ' || c = '\t')
      = (List.replicate n ' ', (o.put (List.replicate n ' ')).before rest) := by
  refine span_put (inline_spaces n) (fun c hc => ?_) (fun c hc => ?_) o
  · simp [List.eq_of_mem_replicate hc]
  · simp [hrest c hc]

theorem Solid.notSpace (hs : Solid rest) : ∀ x ∈ rest.head?, x ≠ ' ' ∧ x ≠ '\t' := fun x hx =>
  ⟨ne_of_not_blank (hs.head? x hx) rfl, ne_of_not_blank (hs.head? x hx) rfl⟩

theorem quotedBlanks_spaces (n : Nat) (hs : Solid rest) (o : Out) :
    quotedBlanks (o.before (List.replicate n ' ' ++ rest))
      = .ok (List.replicate n ' ', (o.put (List.replicate n ' ')).before rest) := by
  have hspan := span_spaces n hs.notSpace o
  obtain ⟨x, ys, rfl, hx⟩ := hs
  have hend : x ≠ endMark := ne_of_not_blank hx rfl
  unfold quotedBlanks
  simp [hspan, hend, isBreak_of_not_blank hx]

/-- Spaces in front of what is no blank. -/
theorem ReadsQuoted.spaces (hs : Solid rest)
    (h : ReadsQuoted double ((o.put (List.replicate n ' ')).before rest) text d) :
    ReadsQuoted double (o.before (List.replicate n ' ' ++ rest)) (List.replicate n ' ' ++ text) d := by
  cases n with
  | zero => exact h
  | succ n => exact ReadsQuoted.blanks (x := ' ') rfl (quotedBlanks_spaces (n + 1) hs o) (by simp) h

/-- A word of characters that stand for themselves. -/
theorem ReadsQuoted.chars (hx : ∀ x ∈ xs, Inner double x)
    (h : ReadsQuoted double ((o.put xs).before rest) text d) :
    ReadsQuoted double (o.before (xs ++ rest)) (xs ++ text) d := by
  induction xs generalizing o with
  | nil => exact h
  | cons x xs ih =>
    have hput : o.put (x :: xs) = (o.put [x]).put xs := put_append o [x] xs
    rw [hput] at h
    exact (ih (fun y hy => hx y (List.mem_cons_of_mem _ hy)) h).char (hx x List.mem_cons_self)

/-- Characters that stand for themselves, with spaces among them. -/
theorem ReadsQuoted.run (hx : ∀ x ∈ xs, x = ' ' ∨ Inner double x) (hs : Solid rest)
    (h : ReadsQuoted double ((o.put xs).before rest) text d) :
    ReadsQuoted double (o.before (xs ++ rest)) (xs ++ text) d := by
  suffices hspaces : ∀ n (o' : Out), o = o'.put (List.replicate n ' ') →
      ReadsQuoted double (o'.before (List.replicate n ' ' ++ (xs ++ rest)))
        (List.replicate n ' ' ++ (xs ++ text)) d from hspaces 0 o rfl
  -- The spaces in front are taken along until the next character that is none.
  induction xs generalizing o with
  | nil =>
    rintro n o' rfl
    exact .spaces hs h
  | cons x xs ih =>
    rintro n o' rfl
    have hrest := fun y hy => hx y (List.mem_cons_of_mem _ hy)
    have hput : (o'.put (List.replicate n ' ')).put (x :: xs)
        = ((o'.put (List.replicate n ' ')).put [x]).put xs := put_append _ [x] xs
    rw [hput] at h
    rcases hx x List.mem_cons_self with rfl | hinner
    · have hspaces : List.replicate n ' ' ++ [' '] = List.replicate (n + 1) ' ' :=
        List.replicate_succ'.symm
      have hread := ih hrest h (n + 1) o' (by rw [← hspaces, put_append])
      simpa [← hspaces] using hread
    · refine .spaces (solid_cons hinner.1 _) ((ih hrest h 0 _ rfl).char hinner)

/-! ## Lines -/

/-- A break between lines that is read as it is. -/
def KeptBreak (x : Char) : Prop := isLineEnd x = true ∧ x.toNat ≠ 0x85

theorem KeptBreak.ne (h : KeptBreak x) {y : Char} (hy : isLineEnd y = false) : x ≠ y := by
  rintro rfl
  rw [h.1] at hy
  cases hy

theorem notMarker_of_peek (hdash : c.peek ≠ '-') (hdot : c.peek ≠ '.') :
    c.atDocumentMarker = false := by
  rw [Cursor.atDocumentMarker, TokenReader.atMarker_of_peek rfl hdash,
    TokenReader.atMarker_of_peek rfl hdot]
  rfl

theorem quotedBreaks_spaces (hn : n ≠ 0) (hs : Solid rest) (o : Out) (fuel : Nat)
    (breaks : List Char) :
    quotedBreaks (fuel + 1) (o.before (List.replicate n ' ' ++ rest)) breaks
      = .ok (breaks, (o.put (List.replicate n ' ')).before rest) := by
  have hpeek : (o.before (List.replicate n ' ' ++ rest)).peek = ' ' := by
    obtain ⟨m, rfl⟩ := Nat.exists_eq_succ_of_ne_zero hn
    rfl
  have hmarker := notMarker_of_peek (c := o.before (List.replicate n ' ' ++ rest))
    (by rw [hpeek]; decide) (by rw [hpeek]; decide)
  have hskip := congrArg Prod.snd (span_spaces n hs.notSpace o)
  obtain ⟨x, ys, rfl, hx⟩ := hs
  rw [quotedBreaks, hmarker]
  simp [Cursor.skip, hskip, isBreak_of_not_blank hx]

/-- Breaks, and the indentation of the line where the text goes on. -/
theorem quotedBreaks_lines (hb : ∀ b ∈ bs, KeptBreak b) (hn : n ≠ 0) (hs : Solid rest) (o : Out)
    {fuel : Nat} (hfuel : bs.length < fuel) (breaks : List Char) :
    quotedBreaks fuel (o.before (bs ++ (List.replicate n ' ' ++ rest))) breaks
      = .ok (breaks ++ bs, ((o.lineBreaks bs).put (List.replicate n ' ')).before rest) := by
  obtain ⟨fuel, rfl⟩ : ∃ k, fuel = k + 1 := Nat.exists_eq_add_of_le' (Nat.zero_lt_of_lt hfuel)
  induction bs generalizing o fuel breaks with
  | nil =>
    rw [List.append_nil]
    exact quotedBreaks_spaces hn hs o fuel breaks
  | cons b bs ih =>
    have hkept := hb b List.mem_cons_self
    obtain ⟨fuel, rfl⟩ : ∃ k, fuel = k + 1 :=
      Nat.exists_eq_add_of_le' (by simp only [List.length_cons] at hfuel; omega)
    have hmarker := notMarker_of_peek (c := o.before (b :: (bs ++ (List.replicate n ' ' ++ rest))))
      (hkept.ne rfl) (hkept.ne rfl)
    have hskip : (o.before (b :: (bs ++ (List.replicate n ' ' ++ rest)))).skip
        (fun c => c = ' ' || c = '\t') = o.before (b :: (bs ++ (List.replicate n ' ' ++ rest))) := by
      have hspan := span_empty (p := fun c => decide (c = ' ') || decide (c = '\t')) (x := b)
        (by simp [hkept.ne (y := ' ') rfl, hkept.ne (y := '\t') rfl]) o
      exact congrArg Prod.snd (hspan _)
    have hrest := ih (fun b' hb' => hb b' (List.mem_cons_of_mem _ hb')) (o.breakWith b) (breaks ++ [b])
      fuel (by simp only [List.length_cons] at hfuel; omega)
    rw [List.cons_append, quotedBreaks, hmarker, hskip]
    simp [isBreak_of_isLineEnd hkept.1, lineBreak_breakWith hkept.1 hkept.2, hrest, lineBreaks]

/-- A break, other breaks and the indentation of the next line. -/
theorem quotedBlanks_lines (hx : KeptBreak x) (hb : ∀ b ∈ bs, KeptBreak b) (hn : n ≠ 0)
    (hs : Solid rest) (o : Out) :
    quotedBlanks (o.before (x :: (bs ++ (List.replicate n ' ' ++ rest))))
      = .ok ((if x ≠ '\n' then [x] else if bs.isEmpty then [' '] else []) ++ bs,
          (((o.breakWith x).lineBreaks bs).put (List.replicate n ' ')).before rest) := by
  have hspan := span_empty (p := fun c => decide (c = ' ') || decide (c = '\t')) (x := x)
    (by simp [hx.ne (y := ' ') rfl, hx.ne (y := '\t') rfl]) o
  have hbreaks := quotedBreaks_lines hb hn hs (o.breakWith x)
    (show bs.length < (bs ++ (List.replicate n ' ' ++ rest)).length + 1 by
      rw [List.length_append]
      omega) []
  rw [List.nil_append] at hbreaks
  unfold quotedBlanks
  simp only [hspan, peek_before_cons, hx.ne (y := endMark) rfl, if_false,
    isBreak_of_isLineEnd hx.1, if_true, lineBreak_breakWith hx.1 hx.2, before_rest, hbreaks, bind,
    Except.bind, List.cons.injEq, ne_eq, and_true]

/-- A space that is folded: a new line stands for it. -/
theorem ReadsQuoted.fold (hn : n ≠ 0) (hs : Solid rest)
    (h : ReadsQuoted double ((o.endLine.put (List.replicate n ' ')).before rest) text d) :
    ReadsQuoted double (o.before ('\n' :: (List.replicate n ' ' ++ rest))) (' ' :: text) d := by
  have hbreaks : ∀ b ∈ ([] : List Char), KeptBreak b := nofun
  have hread := quotedBlanks_lines (x := '\n') ⟨rfl, by decide⟩ hbreaks hn hs o
  exact ReadsQuoted.blanks rfl hread (by simp) h

/-- Breaks are kept behind a break that is not, which is written in front of a line feed. -/
theorem ReadsQuoted.breaks (hb : ∀ b ∈ bs, KeptBreak b) (hne : bs ≠ []) (hn : n ≠ 0)
    (hs : Solid rest)
    (h : ReadsQuoted double ((((if bs.head? = some '\n' then o.endLine else o).lineBreaks bs).put
      (List.replicate n ' ')).before rest) text d) :
    ReadsQuoted double (o.before ((if bs.head? = some '\n' then ['\n'] else []) ++
      (bs ++ (List.replicate n ' ' ++ rest)))) (bs ++ text) d := by
  obtain ⟨b, bs, rfl⟩ := List.exists_cons_of_ne_nil hne
  by_cases hfeed : b = '\n'
  · have hread := quotedBlanks_lines (x := '\n') ⟨rfl, by decide⟩ hb hn hs o
    simp only [hfeed, List.head?_cons, if_true] at h ⊢
    rw [hfeed] at hread
    exact ReadsQuoted.blanks rfl hread (by simp; omega) h
  · have hkept := hb b List.mem_cons_self
    have hread := quotedBlanks_lines hkept (fun b' hb' => hb b' (List.mem_cons_of_mem _ hb')) hn hs o
    simp only [List.head?_cons, Option.some.injEq, hfeed, if_false, List.nil_append] at h ⊢
    simp only [ne_eq, hfeed, not_false_eq_true, if_true, List.singleton_append] at hread
    refine ReadsQuoted.blanks ?_ hread (by simp; omega) h
    simp [isBlankOrBreak, isSpaceOrBreak, isBreakOrEnd, isBreak_of_isLineEnd hkept.1]

/-! ## Escapes -/

theorem ReadsQuoted.escape (hread : escape ((o.put ['\\']).before rest) = .ok (xs, d'))
    (hlength : d'.rest.length ≤ rest.length) (h : ReadsQuoted true d' text d) :
    ReadsQuoted true (o.before ('\\' :: rest)) (xs ++ text) d := by
  obtain ⟨word, tail, c', rfl, ⟨hword, hreadWord⟩, htail⟩ := h
  refine ⟨xs ++ word, tail, c', by rw [List.append_assoc], ⟨?_, fun fuel text hfuel => ?_⟩, htail⟩
  · simp only [before_rest, List.length_cons]
    omega
  obtain ⟨fuel, rfl⟩ : ∃ k, fuel = k + 1 := Nat.exists_eq_add_of_le' (Nat.zero_lt_of_lt hfuel)
  have hadvance : (o.before ('\\' :: rest)).advance = (o.put ['\\']).before rest :=
    advance_put (by decide) (by decide) o rest
  have hfuel' : d'.rest.length < fuel := by
    simp only [before_rest, List.length_cons] at hfuel
    omega
  rw [quotedWord_succ, span_empty rfl]
  simp [hadvance, hread, bind, Except.bind, hreadWord fuel _ hfuel']

/-- A backslash at the end of a line takes the break and the indentation behind it away. -/
theorem ReadsQuoted.continued (hn : n ≠ 0) (hs : Solid rest)
    (h : ReadsQuoted true (((o.put ['\\']).endLine.put (List.replicate n ' ')).before rest) text d) :
    ReadsQuoted true (o.before ('\\' :: '\n' :: (List.replicate n ' ' ++ rest))) text d := by
  change ReadsQuoted true _ ([] ++ text) d
  refine ReadsQuoted.escape ?_ (by simp; omega) h
  have hbreaks := quotedBreaks_spaces hn hs (o.put ['\\']).endLine
    (List.replicate n ' ' ++ rest).length []
  have hshort : shortEscape? '\n' = none := by decide
  have hdigits : escapeDigits? '\n' = none := by decide
  unfold Yaml.escape
  simp only [peek_before_cons, hshort, hdigits, lineBreak_endLine, before_rest, hbreaks]
  rfl

theorem shortEscape?_of_escapeLetter? {x l : Char} (h : escapeLetter? x = some l) :
    shortEscape? l = some x ∧ isBreak l = false ∧ l ≠ byteOrderMark := by
  have hx := Char.ofNat_toNat x
  unfold escapeLetter? at h
  split at h
  case h_16 => cases h
  all_goals
    next heq =>
      rw [heq] at hx
      subst hx
      cases h
      decide

/-- A digit of an upper-case hexadecimal number. -/
theorem upperHexDigits_mem {width : Nat} {x : Char} (h : x ∈ Text.upperHexDigits width n) :
    ∃ k < 16, x = (Text.hexDigit k).toUpper := by
  induction width generalizing n with
  | zero => cases h
  | succ width ih =>
    simp only [Text.upperHexDigits, Text.hexDigits, List.map_append, List.mem_append] at h
    rcases h with h | h
    · exact ih h
    · exact ⟨n % 16, Nat.mod_lt _ (by decide), by simpa using h⟩

theorem upperHexDigits_inline (width n : Nat) : Inline (Text.upperHexDigits width n) := by
  intro x hx
  obtain ⟨k, hk, rfl⟩ := upperHexDigits_mem hx
  have hall : ∀ k : Fin 16, isBreak (Text.hexDigit k).toUpper = false ∧
      (Text.hexDigit k).toUpper ≠ byteOrderMark := by decide
  exact hall ⟨k, hk⟩

theorem length_upperHexDigits (width n : Nat) : (Text.upperHexDigits width n).length = width := by
  induction width generalizing n with
  | zero => rfl
  | succ width ih =>
    have hrest := ih (n / 16)
    simp only [Text.upperHexDigits, List.length_map] at hrest ⊢
    rw [Text.hexDigits, List.length_append, hrest, List.length_singleton]

theorem hexNumber_upperHexDigits {width n : Nat} (h : n < 16 ^ width) :
    hexNumber (Text.upperHexDigits width n) = some n := by
  induction width generalizing n with
  | zero => simp [Text.upperHexDigits, Text.hexDigits, hexNumber, show n = 0 by simpa using h]
  | succ width ih =>
    have hall : ∀ k : Fin 16, Text.hexValue? (Text.hexDigit k).toUpper = some k.val := by decide
    have hdigit : Text.hexValue? (Text.hexDigit (n % 16)).toUpper = some (n % 16) :=
      hall ⟨n % 16, Nat.mod_lt _ (by decide)⟩
    have hrest := ih (n := n / 16) (by rw [Nat.pow_succ] at h; omega)
    unfold hexNumber Text.upperHexDigits at hrest ⊢
    rw [Text.hexDigits, List.map_append, List.foldl_append, hrest]
    simp [hdigit, Nat.div_add_mod']

theorem charOf_toNat (x : Char) : charOf x.toNat = .ok x := by
  have hvalid : x.toNat < 0xD800 ∨ 0xDFFF < x.toNat ∧ x.toNat < 0x110000 := x.valid
  unfold charOf
  rw [if_neg (by omega), if_neg (by omega), if_neg (by simp; omega), Char.ofNat_toNat]

/-- An escape by the number of the character. -/
theorem escape_number {letter : Char} {width : Nat} (hshort : shortEscape? letter = none)
    (hdigits : escapeDigits? letter = some width) (hinline : Inline [letter])
    (hx : x.toNat < 16 ^ width) (o : Out) (rest : List Char) :
    escape (o.before (letter :: Text.upperHexDigits width x.toNat ++ rest))
      = .ok ([x], (o.put (letter :: Text.upperHexDigits width x.toNat)).before rest) := by
  obtain ⟨hbreak, hmark⟩ := hinline letter List.mem_cons_self
  have hlength := length_upperHexDigits width x.toNat
  have htake : (Text.upperHexDigits width x.toNat ++ rest).take width
      = Text.upperHexDigits width x.toNat := List.take_left' hlength
  have hforward := forward_put (upperHexDigits_inline width x.toNat) (o.put [letter]) rest
  rw [hlength, ← put_append] at hforward
  unfold escape
  simp only [List.cons_append, peek_before_cons, hshort, hdigits, advance_put hbreak hmark,
    before_rest, htake, hlength, Nat.lt_irrefl, if_false, hexNumber_upperHexDigits hx, charOf_toNat,
    hforward]
  rfl

/-- The escape of a character gives the character. -/
theorem escape_escaped (x : Char) : ∃ letters, escaped x = '\\' :: letters ∧
    ∀ (o : Out) (rest : List Char),
      escape (o.before (letters ++ rest)) = .ok ([x], (o.put letters).before rest) := by
  unfold escaped
  split
  next l hl =>
    obtain ⟨hshort, hbreak, hmark⟩ := shortEscape?_of_escapeLetter? hl
    refine ⟨[l], rfl, fun o rest => ?_⟩
    unfold escape
    simp [hshort, advance_put hbreak hmark]
  next =>
    have hvalid : x.toNat < 0xD800 ∨ 0xDFFF < x.toNat ∧ x.toNat < 0x110000 := x.valid
    dsimp only
    split
    · exact ⟨_, rfl, escape_number (by decide) (by decide) (by decide) (by omega)⟩
    split
    · exact ⟨_, rfl, escape_number (by decide) (by decide) (by decide) (by omega)⟩
    · exact ⟨_, rfl, escape_number (by decide) (by decide) (by decide) (by omega)⟩

theorem ReadsQuoted.escaped
    (h : ReadsQuoted true ((o.put (escaped x)).before rest) text d) :
    ReadsQuoted true (o.before (escaped x ++ rest)) (x :: text) d := by
  obtain ⟨letters, hletters, hread⟩ := escape_escaped x
  rw [hletters] at h ⊢
  change ReadsQuoted true _ ([x] ++ text) d
  refine ReadsQuoted.escape (hread (o.put ['\\']) rest) (by simp) ?_
  rwa [← put_append]

end ModelSearch.Yaml
