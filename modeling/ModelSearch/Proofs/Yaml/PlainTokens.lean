import ModelSearch.Proofs.Steps
import ModelSearch.Proofs.Yaml.PlainScalars
import ModelSearch.Yaml.Analysis
import ModelSearch.Yaml.Node

/-!
# Scanning a block mapping

Inside blocks a key and its colon take two steps: what was read as a scalar becomes a key when the
colon is met, and a mapping begins in front of it if it is indented further than what it stands in.
A value on the last line takes one step, and the end of the document closes the blocks.

    Passes n s t              n steps lead from s to t, whatever steps follow
    a key and its colon       the start of a mapping, the key, the sign of a value     (passes_key)
    a value on the last line                                                     (passes_lastValue)
    the node of a mapping of one entry in a mapping of one entry                  (document_nested)
-/

namespace ModelSearch.Yaml

namespace TokenReader

/-! ## Steps -/

/-- The reader at the next token, blocks that end in front of it closed. -/
def atToken (s : TokenReader) : Except ScanFault TokenReader := do
  let marked := s.cursor.index = 0 && s.cursor.peek = byteOrderMark
  let s := if marked then s.moved s.cursor.advance else s
  let s ← (skipToToken (s.cursor.rest.length + 1) s).dropStale
  return s.unwind s.column

variable {s t : TokenReader}

theorem atMarker_of_peek {c : Cursor} {word : String} {d : Char}
    (hword : word.toList.head? = some d) (h : c.peek ≠ d) : c.atMarker word = false := by
  unfold Cursor.atMarker Cursor.sees
  rw [Bool.and_eq_false_iff]
  left
  unfold Cursor.peek at h
  rw [← List.cons_head?_tail hword]
  cases hr : c.rest with
  | nil => rfl
  | cons x xs =>
    rw [hr, List.headD_cons] at h
    simp [List.isPrefixOf, Ne.symm h]

/-- Read the token that a reader stands at. -/
def readToken (s : TokenReader) : Except ScanFault TokenReader :=
  let c := s.cursor
  let x := c.peek
  let blankNext := isBlankOrBreak (c.peekAt 1)
  if x = endMark then s.readEnd
  else if x = '%' && c.column = 0 then s.readDirective
  else if c.column = 0 && c.atMarker "---" then s.readDocumentMark .documentStart
  else if c.column = 0 && c.atMarker "..." then s.readDocumentMark .documentEnd
  else if x = '[' then s.readFlowStart .flowSequenceStart
  else if x = '\x7b' then s.readFlowStart .flowMappingStart
  else if x = ']' then s.readFlowEnd .flowSequenceEnd
  else if x = '\x7d' then s.readFlowEnd .flowMappingEnd
  else if x = ',' then s.readFlowEntry
  else if x = '-' && blankNext then s.readEntry
  else if x = '?' && (s.inFlow || blankNext) then s.readKey
  else if x = ':' && (s.inFlow || blankNext) then s.readValue
  else if x = '*' then s.readWith aliasToken
  else if x = '&' then s.readWith anchorToken
  else if x = '!' then s.readWith tagToken
  else if x = '|' && !s.inFlow then s.readBlockScalar false
  else if x = '>' && !s.inFlow then s.readBlockScalar true
  else if x = '\'' || x = '"' then s.readWith quotedToken
  else if s.beginsPlain then s.readPlain
  else bad

/-- A step goes to the next token and reads it. -/
theorem step_eq (s : TokenReader) : s.step = s.atToken >>= readToken := by
  unfold step atToken
  dsimp only
  cases dropStale _ <;> rfl

theorem step_of_atToken (h : s.atToken = .ok t) : s.step = t.readToken := by
  rw [step_eq, h]
  rfl

theorem readToken_end (hx : t.cursor.peek = endMark) : t.readToken = t.readEnd := if_pos hx

theorem readToken_value (hx : t.cursor.peek = ':')
    (hblank : isBlankOrBreak (t.cursor.peekAt 1) = true) : t.readToken = t.readValue := by
  have hdashes : t.cursor.atMarker "---" = false := atMarker_of_peek rfl (by rw [hx]; decide)
  have hdots : t.cursor.atMarker "..." = false := atMarker_of_peek rfl (by rw [hx]; decide)
  simp [readToken, hx, hblank, hdashes, hdots, endMark]

theorem readToken_key (hx : t.cursor.peek = '?')
    (hblank : isBlankOrBreak (t.cursor.peekAt 1) = true) : t.readToken = t.readKey := by
  have hdashes : t.cursor.atMarker "---" = false := atMarker_of_peek rfl (by rw [hx]; decide)
  have hdots : t.cursor.atMarker "..." = false := atMarker_of_peek rfl (by rw [hx]; decide)
  simp [readToken, hx, hblank, hdashes, hdots, endMark]

theorem readToken_entry (hx : t.cursor.peek = '-')
    (hblank : isBlankOrBreak (t.cursor.peekAt 1) = true)
    (hmarker : t.cursor.atDocumentMarker = false) : t.readToken = t.readEntry := by
  rw [Cursor.atDocumentMarker, Bool.or_eq_false_iff] at hmarker
  simp [readToken, hx, hblank, hmarker.1, hmarker.2, endMark]

/-- A plain scalar begins where no sign does. -/
theorem readToken_plain (hflow : t.flow = 0) (hblank : isBlankOrBreak t.cursor.peek = false)
    (hsign : isLeadingIndicator t.cursor.peek t.cursor.rest.tail = false)
    (hmarker : t.cursor.column = 0 → t.cursor.atDocumentMarker = false) :
    t.readToken = t.readPlain := by
  have hnext : t.cursor.peekAt 1 = t.cursor.rest.tail.headD endMark := by
    cases h : t.cursor.rest with
    | nil => simp [Cursor.peekAt, h]
    | cons y ys => cases ys <;> simp [Cursor.peekAt, h]
  have hend : t.cursor.peek ≠ endMark := fun h => by
    rw [h] at hblank
    cases hblank
  have hdashes : ¬(t.cursor.column = 0 ∧ t.cursor.atMarker "---" = true) := by
    rintro ⟨hcolumn, hm⟩
    have hno := hmarker hcolumn
    rw [Cursor.atDocumentMarker, hm] at hno
    cases hno
  have hdots : ¬(t.cursor.column = 0 ∧ t.cursor.atMarker "..." = true) := by
    rintro ⟨hcolumn, hm⟩
    have hno := hmarker hcolumn
    rw [Cursor.atDocumentMarker, hm, Bool.or_true] at hno
    cases hno
  simp only [isLeadingIndicator, endsWord, ← hnext, Bool.or_eq_false_iff] at hsign
  obtain ⟨hsigns, hdash⟩ := hsign
  have hne : ∀ d, "#,[]\x7b\x7d&*!|>'\"%@\x60".toList.contains d = true → t.cursor.peek ≠ d := by
    rintro d hd rfl
    rw [hsigns] at hd
    cases hd
  have hblock : t.inFlow = false := by
    unfold inFlow
    rw [hflow]
    rfl
  -- a dash, a question mark or a colon has no blank behind it
  have hnoBlank : ∀ d, (d = '?' ∨ d = ':' ∨ d = '-') →
      ¬(t.cursor.peek = d ∧ isBlankOrBreak (t.cursor.peekAt 1) = true) := by
    rintro d hd ⟨hx, hb⟩
    rcases hd with rfl | rfl | rfl <;> simp [hx, hb] at hdash
  have hbegins : t.beginsPlain = true := by
    by_cases hx : t.cursor.peek = '?' ∨ t.cursor.peek = ':' ∨ t.cursor.peek = '-'
    · have hb : isBlankOrBreak (t.cursor.peekAt 1) = false := by
        simpa using fun hb => hnoBlank _ hx ⟨rfl, hb⟩
      simp only [beginsPlain, hb, hblock]
      rcases hx with hx | hx | hx <;> simp [hx]
    · simp only [not_or] at hx
      have hsign : "-?:,[]\x7b\x7d#&*!|>'\"%@\x60".toList.contains t.cursor.peek = false := by
        rw [← Bool.not_eq_true, List.contains_iff_mem]
        intro hmem
        have hall : ∀ d ∈ "-?:,[]\x7b\x7d#&*!|>'\"%@\x60".toList, (d = '?' ∨ d = ':' ∨ d = '-') ∨
            "#,[]\x7b\x7d&*!|>'\"%@\x60".toList.contains d = true :=
          Text.forall_of_all (by decide)
        rcases hall _ hmem with (h | h | h) | h
        · exact hx.1 h
        · exact hx.2.1 h
        · exact hx.2.2 h
        · exact hne _ h rfl
      simp only [beginsPlain, hblank, hsign]
      rfl
  unfold readToken
  simp only [Bool.and_eq_true, decide_eq_true_eq, Bool.or_eq_true, hblock, Bool.false_eq_true,
    false_or, Bool.not_false, and_true]
  rw [if_neg hend, if_neg (fun h => hne '%' rfl h.1), if_neg hdashes, if_neg hdots,
    if_neg (hne _ rfl), if_neg (hne _ rfl), if_neg (hne _ rfl), if_neg (hne _ rfl),
    if_neg (hne _ rfl), if_neg (hnoBlank _ (by simp)), if_neg (hnoBlank _ (by simp)),
    if_neg (hnoBlank _ (by simp)), if_neg (hne _ rfl), if_neg (hne _ rfl), if_neg (hne _ rfl),
    if_neg (hne _ rfl), if_neg (hne _ rfl), if_neg (fun h => h.elim (hne _ rfl) (hne _ rfl)),
    if_pos hbegins]

/-! ## Runs of steps -/

theorem run_succ (fuel : Nat) (s : TokenReader) :
    run (fuel + 1) s =
      if s.done then s.reversed.reverse
      else
        match s.step with
        | .ok t => run fuel t
        | .error f => (Token.fault f :: s.reversed).reverse := by
  rfl

theorem run_done (hdone : s.done = true) (fuel : Nat) : run fuel s = s.reversed.reverse := by
  cases fuel with
  | zero => rfl
  | succ fuel =>
    rw [run_succ, hdone]
    rfl

/-- A number of steps lead from a reader to another one. -/
def Passes (n : Nat) (s t : TokenReader) : Prop := ∀ fuel, run (fuel + n) s = run fuel t

theorem Passes.trans {m n : Nat} {u : TokenReader} (h : Passes m s t) (k : Passes n t u) :
    Passes (m + n) s u := by
  intro fuel
  rw [Nat.add_comm m n, ← Nat.add_assoc, h, k]

theorem passes_one (hdone : s.done = false) (h : s.step = .ok t) : Passes 1 s t := by
  intro fuel
  rw [run_succ, hdone, h]
  rfl

/-! ## Blanks in front of a token -/

theorem closeBlocks_of_le {column : Int} (h : s.indent ≤ column) (indents : List Int) :
    closeBlocks column indents s = s := by
  cases indents with
  | nil => rfl
  | cons outer indents => exact if_neg (by omega)

theorem unwind_of_le {column : Int} (h : s.indent ≤ column) : s.unwind column = s := by
  unfold unwind
  split
  · rfl
  · exact closeBlocks_of_le h _

theorem dropStale_of_forall (h : ∀ p ∈ s.places, p.2.line = s.cursor.line ∧
    s.cursor.index - p.2.index ≤ keyReach) : s.dropStale = .ok s := by
  have hstale : ∀ p ∈ s.places, (decide (p.2.line ≠ s.cursor.line) ||
      decide (keyReach < s.cursor.index - p.2.index)) = false := by
    intro p hp
    obtain ⟨hline, hreach⟩ := h p hp
    simpa [hline] using hreach
  unfold dropStale
  rw [if_neg]
  · rw [List.filter_eq_self.2]
    intro p hp
    beta_reduce
    rw [hstale p hp]
    rfl
  · rw [List.any_eq_true]
    rintro ⟨p, hp, hm⟩
    beta_reduce at hm
    rw [hstale p hp] at hm
    cases hm

/-- Behind what is skipped, places where a key may have begun are forgotten and blocks can end. -/
theorem atToken_eq (hmark : s.cursor.peek ≠ byteOrderMark)
    (hskip : skipToToken (s.cursor.rest.length + 1) s = t) :
    s.atToken = t.dropStale >>= fun u => .ok (u.unwind u.column) := by
  unfold atToken
  simp only [hmark, decide_false, Bool.and_false, Bool.false_eq_true, if_false, hskip]
  rfl

/-- With every such place near, nothing is forgotten. -/
theorem atToken_of_skip (hmark : s.cursor.peek ≠ byteOrderMark)
    (hskip : skipToToken (s.cursor.rest.length + 1) s = t)
    (hp : ∀ p ∈ t.places, p.2.line = t.cursor.line ∧ t.cursor.index - p.2.index ≤ keyReach) :
    s.atToken = .ok (t.unwind t.column) := by
  rw [atToken_eq hmark hskip, dropStale_of_forall hp]
  rfl

/-- No block ends that is not indented further than the token. -/
theorem atToken_inside (hmark : s.cursor.peek ≠ byteOrderMark)
    (hskip : skipToToken (s.cursor.rest.length + 1) s = t)
    (hp : ∀ p ∈ t.places, p.2.line = t.cursor.line ∧ t.cursor.index - p.2.index ≤ keyReach)
    (hi : t.indent ≤ t.column) : s.atToken = .ok t := by
  rw [atToken_of_skip hmark hskip hp, unwind_of_le hi]

theorem skipSpaces_eq (n : Nat) {x : Char} (hx : x ≠ ' ') (rest : List Char)
    (index line column : Nat) :
    (⟨List.replicate n ' ' ++ x :: rest, index, line, column⟩ : Cursor).skipSpaces
      = ⟨x :: rest, index + n, line, column + n⟩ := by
  have hrun : (List.replicate n ' ' ++ x :: rest).takeWhile (fun c => decide (c = ' '))
      = List.replicate n ' ' := by
    rw [List.takeWhile_append_of_pos (by simp), List.takeWhile_cons_of_neg (by simpa using hx),
      List.append_nil]
  have hspaces : ∀ c ∈ List.replicate n ' ', isBreak c = false ∧ c ≠ byteOrderMark := by
    intro c hc
    rw [List.eq_of_mem_replicate hc]
    decide
  have hforward := forward_inline hspaces (x :: rest) index line column
  rw [List.length_replicate] at hforward
  unfold Cursor.skipSpaces Cursor.skip Cursor.span
  simp only [hrun, List.length_replicate, hforward]

/-- Spaces are skipped up to the first character of a word or a colon. -/
theorem skipToToken_spaces {n : Nat} {x : Char} {rest : List Char} {index line column : Nat}
    (hx : numberChars.has x = true)
    (hc : s.cursor = ⟨List.replicate n ' ' ++ x :: rest, index, line, column⟩) (fuel : Nat) :
    skipToToken (fuel + 1) s = s.moved ⟨x :: rest, index + n, line, column + n⟩ := by
  have hbreak : isBreak x = false :=
    forall_numberChars (p := fun c => isBreak c = false) (by decide +kernel) hx
  have hcomment : x ≠ '#' := ne_of_numberChars hx rfl
  rw [skipToToken, hc, skipSpaces_eq n (ne_of_numberChars hx rfl)]
  simp [Cursor.peek, hcomment, hbreak]

/-- A line break is skipped, and a key may begin behind it. -/
theorem skipToToken_break {rest : List Char} {index line column : Nat} (hflow : s.flow = 0)
    (hc : s.cursor = ⟨'\n' :: rest, index, line, column⟩) (fuel : Nat) :
    skipToToken (fuel + 1) s = skipToToken fuel
      { s with cursor := ⟨rest, index + 1, line + 1, 0⟩, keyAllowed := true } := by
  have hspaces : s.cursor.skipSpaces = s.cursor := by
    rw [hc]
    exact skipSpaces_eq 0 (show '\n' ≠ ' ' by decide) _ _ _ _
  have hpeek : s.cursor.peek = '\n' := by rw [hc]; rfl
  have hline : s.cursor.lineBreak.2 = ⟨rest, index + 1, line + 1, 0⟩ := by rw [hc]; rfl
  have hblock : ∀ c, (s.moved c).inFlow = false := by
    intro c
    unfold inFlow moved
    rw [hflow]
    rfl
  have hcomment : ¬ '\n' = '#' := by decide
  have hbreak : isBreak '\n' = true := rfl
  rw [skipToToken, hspaces]
  simp only [hpeek, hcomment, if_false, hbreak, if_true, hblock, Bool.false_eq_true, hline]
  rfl

/-! ## Readers inside blocks -/

/-- A reader inside blocks that is not behind a word that may be a key. -/
def inBlock (indent : Int) (outer : List Int) (keyAllowed : Bool) (reversed : List Token)
    (cursor : Cursor) : TokenReader where
  cursor := cursor
  reversed := reversed
  count := reversed.length
  indent := indent
  indents := outer
  keyAllowed := keyAllowed

variable {indent : Int} {outer : List Int} {keyAllowed : Bool} {reversed : List Token}
  {x : Char} {xs rest : List Char} {index line column : Nat}

theorem atToken_spaces (h : PlainWord xs) (n : Nat) (hi : indent ≤ ((column + n : Nat) : Int)) :
    (inBlock indent outer keyAllowed reversed
        ⟨List.replicate n ' ' ++ (xs ++ rest), index, line, column⟩).atToken
      = .ok (inBlock indent outer keyAllowed reversed
        ⟨xs ++ rest, index + n, line, column + n⟩) := by
  obtain ⟨x, ys, rfl⟩ := List.exists_cons_of_ne_nil h.nonempty
  have hx : numberChars.has x = true := h.chars x List.mem_cons_self
  refine atToken_inside ?_ (skipToToken_spaces hx rfl _) (fun p hp => absurd hp List.not_mem_nil) hi
  cases n with
  | zero => exact ne_of_numberChars hx rfl
  | succ n => exact show ' ' ≠ byteOrderMark by decide

/-- Behind the end of a line a key may begin. -/
theorem atToken_nextLine (h : PlainWord xs) (n : Nat) (hi : indent ≤ (n : Int)) :
    (inBlock indent outer keyAllowed reversed
        ⟨'\n' :: (List.replicate n ' ' ++ (xs ++ rest)), index, line, column⟩).atToken
      = .ok (inBlock indent outer true reversed
        ⟨xs ++ rest, index + 1 + n, line + 1, 0 + n⟩) := by
  obtain ⟨x, ys, rfl⟩ := List.exists_cons_of_ne_nil h.nonempty
  have hcolumn : indent ≤ ((0 + n : Nat) : Int) := by rwa [Nat.zero_add]
  refine atToken_inside (show '\n' ≠ byteOrderMark by decide) ?_
    (fun p hp => absurd hp List.not_mem_nil) hcolumn
  rw [skipToToken_break rfl rfl]
  exact skipToToken_spaces (h.chars x List.mem_cons_self) rfl _

/-! ## Entries of block mappings -/

/-- A word begins with no sign. -/
theorem notLeading_of_plainWord {x : Char} {xs : List Char} (h : PlainWord (x :: xs))
    (rest : List Char) : isLeadingIndicator x (xs ++ rest) = false := by
  have hsign : "#,[]\x7b\x7d&*!|>'\"%@\x60".toList.contains x = false :=
    forall_numberChars (p := fun c => "#,[]\x7b\x7d&*!|>'\"%@\x60".toList.contains c = false)
      (by decide +kernel) (h.chars x List.mem_cons_self)
  have hquestion : x ≠ '?' := ne_of_numberChars (h.chars x List.mem_cons_self) rfl
  have hcolon : x ≠ ':' := fun hx => h.head (congrArg some hx)
  rw [isLeadingIndicator, hsign, Bool.false_or]
  by_cases hdash : x = '-'
  · obtain ⟨y, zs, rfl⟩ : ∃ y zs, xs = y :: zs :=
      List.exists_cons_of_ne_nil fun hxs => h.notDash (by rw [hxs, hdash])
    rw [show endsWord (y :: zs ++ rest) = false from
      isBlankOrBreak_of_numberChars (h.chars y (by simp)), Bool.and_false]
  · simp [hquestion, hcolon, hdash]

/-- What can begin a plain scalar at a place. -/
theorem step_word {xs rest : List Char} {index line column : Nat} (h : PlainWord xs)
    (hflow : t.flow = 0) (hat : s.atToken = .ok t)
    (hc : t.cursor = ⟨xs ++ rest, index, line, column⟩)
    (hmarker : column = 0 → xs.head? ≠ some '-' ∧ xs.head? ≠ some '.') :
    s.step = t.readPlain := by
  obtain ⟨x, ys, rfl⟩ := List.exists_cons_of_ne_nil h.nonempty
  have hx : numberChars.has x = true := h.chars x List.mem_cons_self
  have hpeek : t.cursor.peek = x := by rw [hc]; rfl
  refine (step_of_atToken hat).trans (readToken_plain hflow ?_ ?_ fun hcolumn => ?_)
  · rw [hpeek]
    exact isBlankOrBreak_of_numberChars hx
  · rw [hpeek, hc]
    exact notLeading_of_plainWord h rest
  · rw [hc] at hcolumn
    obtain ⟨hdash, hdot⟩ := hmarker hcolumn
    rw [Cursor.atDocumentMarker, atMarker_of_peek rfl (hpeek ▸ fun hx => hdash (congrArg some hx)),
      atMarker_of_peek rfl (hpeek ▸ fun hx => hdot (congrArg some hx))]
    rfl

/-- A key that is indented further than what it stands in begins a mapping. -/
theorem passes_key (h : PlainWord xs) (hlen : xs.length ≤ keyReach)
    (hx : isBlankOrBreak x = true) (hs : s.done = false)
    (hat : s.atToken = .ok (inBlock indent outer true reversed
      ⟨xs ++ ':' :: x :: rest, index, line, column⟩))
    (hindent : indent < column)
    (hmarker : column = 0 → xs.head? ≠ some '-' ∧ xs.head? ≠ some '.') :
    Passes 2 s (inBlock column (indent :: outer) false
      (.value :: .scalar (.ofList xs) true :: .key :: .mappingStart :: reversed)
      ⟨x :: rest, index + xs.length + 1, line, column + xs.length + 1⟩) := by
  -- Behind the word, with the place where it began.
  let behind : TokenReader :=
    { inBlock indent outer false (.scalar (.ofList xs) true :: reversed)
        ⟨':' :: x :: rest, index + xs.length, line, column + xs.length⟩ with
      places := [(0, ⟨reversed.length, false, index, line, column⟩)] }
  have hplain : s.step = .ok behind := by
    have hnot : ¬indent = column := by omega
    rw [step_word h rfl hat rfl hmarker]
    simp [readPlain, markPlace, dropPlace, inBlock, inFlow, TokenReader.column, hnot, bind,
      Except.bind, moved, emit, plainScalar_key h indent hx, behind]
  have hstay : behind.atToken = .ok behind := by
    have hreach : index + xs.length - index ≤ keyReach := by omega
    have hcolumn : indent ≤ ((column + xs.length : Nat) : Int) := by omega
    refine atToken_inside (show ':' ≠ byteOrderMark by decide)
      (skipToToken_spaces (n := 0) (x := ':') rfl rfl _) (fun p hp => ?_) hcolumn
    rw [List.mem_singleton.1 hp]
    exact ⟨rfl, hreach⟩
  have hvalue : behind.step = .ok (inBlock column (indent :: outer) false
      (.value :: .scalar (.ofList xs) true :: .key :: .mappingStart :: reversed)
      ⟨x :: rest, index + xs.length + 1, line, column + xs.length + 1⟩) := by
    have hadvance :
        (⟨':' :: x :: rest, index + xs.length, line, column + xs.length⟩ : Cursor).advance
          = ⟨x :: rest, index + xs.length + 1, line, column + xs.length + 1⟩ := rfl
    have hafter : reversed.length + 1 + 1 - reversed.length = 2 := by omega
    rw [step_of_atToken hstay, readToken_value (t := behind) rfl hx]
    simp [readValue, insert, inBlock, inFlow, indentTo, hindent, bind, Except.bind, moved, emit,
      hadvance, hafter, behind]
  exact (passes_one hs hplain).trans (passes_one rfl hvalue)

/-- A key at the start of a document. -/
theorem passes_firstKey (h : PlainWord xs) (hlen : xs.length ≤ keyReach)
    (hx : isBlankOrBreak x = true) (hmarker : xs.head? ≠ some '-' ∧ xs.head? ≠ some '.') :
    Passes 2 (inBlock (-1) [] true [] ⟨xs ++ ':' :: x :: rest, 0, 0, 0⟩)
      (inBlock 0 [-1] false [.value, .scalar (.ofList xs) true, .key, .mappingStart]
        ⟨x :: rest, 0 + xs.length + 1, 0, 0 + xs.length + 1⟩) :=
  passes_key h hlen hx rfl (atToken_spaces h 0 (show (-1 : Int) ≤ 0 by decide))
    (show (-1 : Int) < 0 by decide) fun _ => hmarker

/-- A key on the next line, further to the right. -/
theorem passes_nextKey {n : Nat} (h : PlainWord xs) (hlen : xs.length ≤ keyReach)
    (hx : isBlankOrBreak x = true) (hn : n ≠ 0) (hindent : indent < n) :
    Passes 2 (inBlock indent outer keyAllowed reversed
        ⟨'\n' :: (List.replicate n ' ' ++ (xs ++ ':' :: x :: rest)), index, line, column⟩)
      (inBlock n (indent :: outer) false
        (.value :: .scalar (.ofList xs) true :: .key :: .mappingStart :: reversed)
        ⟨x :: rest, index + 1 + n + xs.length + 1, line + 1, n + xs.length + 1⟩) := by
  have hat : (inBlock indent outer keyAllowed reversed
      ⟨'\n' :: (List.replicate n ' ' ++ (xs ++ ':' :: x :: rest)), index, line, column⟩).atToken
      = .ok (inBlock indent outer true reversed
        ⟨xs ++ ':' :: x :: rest, index + 1 + n, line + 1, n⟩) := by
    rw [atToken_nextLine h n (Int.le_of_lt hindent), Nat.zero_add]
  exact passes_key h hlen hx rfl hat hindent fun hzero => absurd hzero hn

/-- A value behind a space on the last line. -/
theorem passes_lastValue (h : PlainWord xs) (hindent : 0 ≤ indent) (hi : indent ≤ column) :
    Passes 1 (inBlock indent outer false reversed ⟨' ' :: (xs ++ ['\n']), index, line, column⟩)
      (inBlock indent outer true (.scalar (.ofList xs) true :: reversed)
        ⟨[], index + 1 + xs.length + 1, line + 1, 0⟩) := by
  have hat : (inBlock indent outer false reversed
      ⟨' ' :: (xs ++ ['\n']), index, line, column⟩).atToken
      = .ok (inBlock indent outer false reversed ⟨xs ++ ['\n'], index + 1, line, column + 1⟩) :=
    atToken_spaces h 1 (show indent ≤ ((column + 1 : Nat) : Int) by omega)
  have hstep := step_word h rfl hat rfl fun hzero => absurd hzero (Nat.succ_ne_zero _)
  refine passes_one rfl (hstep.trans ?_)
  simp [readPlain, markPlace, inBlock, inFlow, bind, Except.bind, moved, emit,
    plainScalar_last h hindent]

/-- At the end the open blocks are closed. -/
theorem passes_end : Passes 1 (inBlock 2 [0, -1] true reversed ⟨[], index + 1, line, 0⟩)
    { inBlock (-1) [] false (.blockEnd :: .blockEnd :: reversed) ⟨[], index + 1, line, 0⟩ with
      done := true } := by
  have hskip : skipToToken 1 (inBlock 2 [0, -1] true reversed ⟨[], index + 1, line, 0⟩)
      = inBlock 2 [0, -1] true reversed ⟨[], index + 1, line, 0⟩ := rfl
  have hat : (inBlock 2 [0, -1] true reversed ⟨[], index + 1, line, 0⟩).atToken
      = .ok (inBlock 0 [-1] true (.blockEnd :: reversed) ⟨[], index + 1, line, 0⟩) :=
    atToken_of_skip (s := inBlock 2 [0, -1] true reversed ⟨[], index + 1, line, 0⟩)
      (show endMark ≠ byteOrderMark by decide) hskip fun p hp => absurd hp List.not_mem_nil
  refine passes_one rfl (((step_of_atToken hat).trans (readToken_end rfl)).trans ?_)
  simp [readEnd, dropPlace, bind, Except.bind, unwind, closeBlocks, inBlock, inFlow, emit]

end TokenReader

open TokenReader

/-! ## Documents -/

theorem PlainWord.all_documentChars {xs : List Char} (h : PlainWord xs) :
    xs.all documentChars.has = true :=
  List.all_eq_true.2 fun c hc =>
    forall_numberChars (p := fun c => documentChars.has c = true) (by decide +kernel) (h.chars c hc)

/-- A document of one entry in a mapping that is the value of another one. -/
theorem tokens_nested {name key xs : List Char} (hname : PlainWord name) (hkey : PlainWord key)
    (hxs : PlainWord xs) (hstart : name.head? ≠ some '-' ∧ name.head? ≠ some '.')
    (hlen : name.length ≤ keyReach ∧ key.length ≤ keyReach) :
    tokens (name ++ ':' :: '\n' :: (List.replicate 2 ' ' ++ (key ++ ':' :: ' ' :: (xs ++ ['\n']))))
      = [.mappingStart, .key, .scalar (.ofList name) true, .value, .mappingStart, .key,
          .scalar (.ofList key) true, .value, .scalar (.ofList xs) true, .blockEnd, .blockEnd] := by
  generalize htext :
    name ++ ':' :: '\n' :: (List.replicate 2 ' ' ++ (key ++ ':' :: ' ' :: (xs ++ ['\n']))) = text
  have hall : text.all documentChars.has = true := by
    have hsigns : documentChars.has ':' = true ∧ documentChars.has '\n' = true ∧
        documentChars.has ' ' = true := by decide
    rw [← htext]
    simp [List.all_append, -List.all_eq_true, hname.all_documentChars, hkey.all_documentChars,
      hxs.all_documentChars, hsigns]
  obtain ⟨fuel, hfuel⟩ : ∃ fuel, text.length + 2 = fuel + (2 + (2 + (1 + 1))) :=
    Nat.exists_eq_add_of_le' (by rw [← htext]; simp; omega)
  have hpasses : Passes (2 + (2 + (1 + 1))) { cursor := ⟨text, 0, 0, 0⟩ } _ :=
    htext ▸ (passes_firstKey hname hlen.1 rfl hstart).trans
      ((passes_nextKey hkey hlen.2 rfl (by decide) (by decide)).trans
        ((passes_lastValue hxs (by decide) (by omega)).trans passes_end))
  unfold tokens
  rw [if_pos hall, hfuel, hpasses, run_done rfl]
  rfl

/-- The node of such a document. -/
theorem document_nested {name key xs : List Char} (hname : PlainWord name) (hkey : PlainWord key)
    (hxs : PlainWord xs) (hstart : name.head? ≠ some '-' ∧ name.head? ≠ some '.')
    (hlen : name.length ≤ keyReach ∧ key.length ≤ keyReach) :
    document (name ++ ':' :: '\n' :: (List.replicate 2 ' ' ++ (key ++ ':' :: ' ' :: (xs ++ ['\n']))))
      = .ok (some (.mapping 4 .mapping
          [(.scalar 0 (implicitTag (.ofList name)) (.ofList name),
            .mapping 3 .mapping
              [(.scalar 1 (implicitTag (.ofList key)) (.ofList key),
                .scalar 2 (implicitTag (.ofList xs)) (.ofList xs))])])) := by
  rw [document, tokens_nested hname hkey hxs hstart hlen]
  rfl

end ModelSearch.Yaml
