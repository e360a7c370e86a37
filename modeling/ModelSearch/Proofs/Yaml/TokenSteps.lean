import ModelSearch.Proofs.Yaml.Stages

/-!
# Names, tags and scalars in a layout

Every token that a node is made of leads from its stage to the next one.  A text in quotes ends by
itself, and in a key so does a plain one; elsewhere a plain text ends with the line, in front of what
comes next, and a block of lines with the first line that is indented less.

    reads_alias, reads_anchor, reads_tag    one word behind a mark
    reads_quoted                            a text in quotes, and what it is read as
    reads_plain, reads_block                a text in front of the next line
    reads_plainKey                          a text in front of a colon
-/

namespace ModelSearch.Yaml

open Out TokenReader

variable {m : Memo} {o o' : Out} {xs ys rest text zs : List Char} {ps : List (Nat × KeyPlace)}
  {key : Option KeyPlace} {k n column : Nat} {t : Token} {x : Char} {s : TokenReader}

/-! ## What begins a token -/

/-- What stands behind a key: a colon and a blank. -/
def ColonAhead (rest : List Char) : Prop := ∃ ys, rest = ':' :: ys ∧ BlankAhead ys

theorem BlankAhead.endsPlain (h : BlankAhead rest) : EndsPlain rest := by
  obtain ⟨x, ys, rfl, rfl | rfl⟩ := h.isBlank
  · exact .inl rfl
  · exact .inl rfl

theorem ColonAhead.endsPlain (h : ColonAhead rest) : EndsPlain rest := by
  obtain ⟨ys, rfl, hys⟩ := h
  obtain ⟨x, zs, rfl, rfl | rfl⟩ := hys.isBlank
  · exact .inr ⟨rfl, rfl⟩
  · exact .inr ⟨rfl, rfl⟩

/-- Two signs that are not the same begin no marker. -/
theorem noMarker_of_blank (h : BlankAhead rest) (o : Out) :
    (o.before (x :: rest)).atDocumentMarker = false := by
  obtain ⟨y, ys, rfl, hy⟩ := h.isBlank
  rcases hy with rfl | rfl <;>
    simp [Cursor.atDocumentMarker, Cursor.atMarker, Cursor.sees, List.isPrefixOf]

theorem noMarker_of_ne (hdash : x ≠ '-') (hdot : x ≠ '.') (rest : List Char) (o : Out) :
    (o.before (x :: rest)).atDocumentMarker = false :=
  notMarker_of_peek hdash hdot

theorem tokenAhead_cons (hspace : x ≠ ' ') (hbreak : isBreak x = false) (hcomment : x ≠ '#')
    (hmark : x ≠ byteOrderMark) (hmarker : ∀ o : Out, (o.before (x :: rest)).atDocumentMarker = false) :
    TokenAhead (x :: rest) where
  begins := by
    rintro y ⟨⟩
    exact ⟨hspace, hbreak⟩
  comment h := hcomment (Option.some.inj h)
  mark h := hmark (Option.some.inj h)
  marker := hmarker

/-- The signs that can begin a token wherever one can stand. -/
def isSign (x : Char) : Bool := "*&!'\"|[]\x7b\x7d".toList.contains x

theorem tokenAhead_sign (hx : isSign x = true) (rest : List Char) : TokenAhead (x :: rest) := by
  have hall : ∀ x ∈ "*&!'\"|[]\x7b\x7d".toList, (x ≠ ' ' ∧ isBreak x = false) ∧
      (x ≠ '#' ∧ x ≠ byteOrderMark) ∧ x ≠ '-' ∧ x ≠ '.' := Text.forall_of_all (by decide)
  obtain ⟨⟨hspace, hbreak⟩, ⟨hcomment, hmark⟩, hdash, hdot⟩ := hall x (List.contains_iff_mem.1 hx)
  exact tokenAhead_cons hspace hbreak hcomment hmark (noMarker_of_ne hdash hdot rest)

/-- The signs of blocks have a blank behind them. -/
theorem tokenAhead_blockSign (hx : x = '-' ∨ x = '?' ∨ x = ':') (h : BlankAhead rest) :
    TokenAhead (x :: rest) := by
  rcases hx with rfl | rfl | rfl
  all_goals exact tokenAhead_cons (by decide) rfl (by decide) (by decide) (noMarker_of_blank h)

/-- At a sign the reader is the one of the token that the sign begins. -/
theorem readToken_sign (hs : s.cursor.peek = x) (hx : isSign x = true) : s.readToken =
    if x = '[' then s.readFlowStart .flowSequenceStart
    else if x = '\x7b' then s.readFlowStart .flowMappingStart
    else if x = ']' then s.readFlowEnd .flowSequenceEnd
    else if x = '\x7d' then s.readFlowEnd .flowMappingEnd
    else if x = '*' then s.readWith aliasToken
    else if x = '&' then s.readWith anchorToken
    else if x = '!' then s.readWith tagToken
    else if x = '|' && !s.inFlow then s.readBlockScalar false
    else if x = '\'' || x = '"' then s.readWith quotedToken
    else if s.beginsPlain then s.readPlain else bad := by
  have hne : ∀ y, isSign y = false → s.cursor.peek ≠ y := by
    rintro y hy rfl
    rw [← hs, hy] at hx
    cases hx
  have hdashes : s.cursor.atMarker "---" = false := atMarker_of_peek rfl (hne '-' rfl)
  have hdots : s.cursor.atMarker "..." = false := atMarker_of_peek rfl (hne '.' rfl)
  subst hs
  simp [readToken, hdashes, hdots, hne endMark (by decide), hne '%' rfl, hne ',' rfl, hne '-' rfl,
    hne '?' rfl, hne ':' rfl, hne '>' rfl]

/-! ## Tokens that may begin a key -/

theorem markPlace_reader (h : o.fresh = true → ps = []) (rest : List Char) :
    (m.reader o rest ps).markPlace = .ok (m.reader o rest (m.marked o ps)) := by
  unfold markPlace Memo.marked
  by_cases hfresh : o.fresh = true
  · have hallowed : (m.reader o rest ps).keyAllowed = true := hfresh
    rw [if_pos hallowed, if_pos hfresh, h hfresh]
    rfl
  · have hallowed : ¬(m.reader o rest ps).keyAllowed = true := hfresh
    rw [if_neg hallowed, if_neg hfresh]

theorem readWith_reader {read : Cursor → Except ScanFault (Read Token)} {after : List Char}
    (hread : read (o.before rest) = .ok (t, o'.before after)) (hfresh : o'.fresh = false)
    (h : o.fresh = true → ps = []) :
    (m.reader o rest ps).readWith read = .ok ((m.add [t]).reader o' after (m.marked o ps)) := by
  have hcursor : (m.reader o rest (m.marked o ps)).cursor = o.before rest := rfl
  unfold readWith
  rw [markPlace_reader h]
  simp only [bind, Except.bind, hcursor, hread]
  simp [Memo.reader, Memo.add, emit, moved, hfresh]

theorem readPlain_reader {p : Out} {after : List Char} {content : String}
    (hread : plainScalar false m.indent (o.before rest) = (content, p.fresh, p.before after))
    (h : o.fresh = true → ps = []) : (m.reader o rest ps).readPlain
      = .ok ((m.add [.scalar content true]).reader p after (m.marked o ps)) := by
  have hcursor : (m.reader o rest (m.marked o ps)).cursor = o.before rest := rfl
  have hflow : (m.reader o rest (m.marked o ps)).inFlow = false := rfl
  have hindent : (m.reader o rest (m.marked o ps)).indent = m.indent := rfl
  unfold readPlain
  rw [markPlace_reader h]
  simp only [bind, Except.bind, hcursor, hflow, hindent, hread]
  rfl

/-! ## Names and tags -/

/-- A character of ASCII that can be seen. -/
def IsGraphic (x : Char) : Prop := 0x20 < x.toNat ∧ x.toNat < 0x7F

instance (x : Char) : Decidable (IsGraphic x) :=
  inferInstanceAs (Decidable (0x20 < x.toNat ∧ x.toNat < 0x7F))

theorem IsGraphic.not_blank (h : IsGraphic x) : isBlankOrBreak x = false ∧ x ≠ byteOrderMark := by
  have hne : ∀ y : Char, ¬IsGraphic y → x ≠ y := by
    rintro y hy rfl
    exact hy h
  have hkept : x.toNat ≠ 0x85 ∧ x.toNat ≠ 0x2028 ∧ x.toNat ≠ 0x2029 := by
    have := h.2
    omega
  refine ⟨?_, hne _ (by decide)⟩
  simp [isBlankOrBreak, isSpaceOrBreak, isBreakOrEnd, isBreak, hne '\t' (by decide),
    hne ' ' (by decide), hne endMark (by decide), hne '\n' (by decide), hne '\r' (by decide), hkept]

theorem inline_of_graphic (h : ∀ x ∈ xs, IsGraphic x) : Inline xs := fun x hx =>
  ⟨isBreak_of_not_blank (h x hx).not_blank.1, (h x hx).not_blank.2⟩

theorem isGraphic_of_between {a b : Char} (ha : IsGraphic a) (hb : IsGraphic b) (hax : a ≤ x)
    (hxb : x ≤ b) : IsGraphic x :=
  ⟨Nat.lt_of_lt_of_le ha.1 (UInt32.le_iff_toNat_le.1 hax),
    Nat.lt_of_le_of_lt (UInt32.le_iff_toNat_le.1 hxb) hb.2⟩

theorem isGraphic_of_alphanumeric (h : (Text.isAsciiLetter x || Text.isAsciiDigit x) = true) :
    IsGraphic x := by
  simp only [Text.isAsciiLetter, Text.isAsciiLower, Text.isAsciiDigit, Bool.or_eq_true,
    Bool.and_eq_true, decide_eq_true_eq] at h
  rcases h with (⟨ha, hb⟩ | ⟨ha, hb⟩) | ⟨ha, hb⟩
  · exact isGraphic_of_between (by decide) (by decide) ha hb
  · exact isGraphic_of_between (by decide) (by decide) ha hb
  · exact isGraphic_of_between (by decide) (by decide) ha hb

theorem isGraphic_of_wordChar (h : isWordChar x = true) : IsGraphic x := by
  simp only [isWordChar, Bool.or_eq_true (_ || _), decide_eq_true_eq] at h
  rcases h with (h | rfl) | rfl
  · exact isGraphic_of_alphanumeric h
  · decide
  · decide

theorem isGraphic_of_uriChar (h : isUriChar x = true) : IsGraphic x := by
  have hsigns : ∀ x ∈ "-;/?:@&=+$,_.!~*'()[]".toList, IsGraphic x :=
    Text.forall_of_all (by decide)
  rw [isUriChar, Bool.or_eq_true] at h
  exact h.elim isGraphic_of_alphanumeric fun hx => hsigns x (List.contains_iff_mem.1 hx)

/-- The name of an anchor. -/
def IsName (name : String) : Prop := name.toList ≠ [] ∧ ∀ x ∈ name.toList, isWordChar x = true

/-- A tag in its short form. -/
def IsTag (tag : String) : Prop :=
  tag.toList.take 2 = ['!', '!'] ∧ tag.toList.drop 2 ≠ [] ∧
    ∀ x ∈ tag.toList.drop 2, isUriChar x = true

instance (tag : String) : Decidable (IsTag tag) :=
  decidable_of_iff (tag.toList.take 2 = ['!', '!'] ∧ tag.toList.drop 2 ≠ [] ∧
    (tag.toList.drop 2).all isUriChar = true) (by simp [IsTag])

theorem peek_before (o : Out) (rest : List Char) : (o.before rest).peek = rest.getD 0 endMark := by
  cases rest <;> rfl

theorem not_blank_of_sign (hx : isSign x = true) : isBreak x = false ∧ x ≠ byteOrderMark :=
  ⟨((tokenAhead_sign hx []).begins x rfl).2, fun h => (tokenAhead_sign hx []).mark (congrArg some h)⟩

theorem anchorName_word {name after : List Char} (hne : name ≠ [])
    (hname : ∀ x ∈ name, isWordChar x = true) (hx : isSign x = true) (hafter : EndsPlain after)
    (o : Out) : anchorName (o.before (x :: name ++ after))
      = .ok (.ofList name, (o.put (x :: name)).before after) := by
  obtain ⟨hbreak, hmark⟩ := not_blank_of_sign hx
  have hends : ∀ y ∈ after.head?, isWordChar y = false := by
    rintro y hy
    obtain ⟨ys, rfl⟩ := List.head?_eq_some_iff.1 hy
    by_contra hword
    rw [Bool.not_eq_false] at hword
    rcases hafter with hblank | ⟨rfl, -⟩
    · exact absurd (hblank.symm.trans (isGraphic_of_wordChar hword).not_blank.1) Bool.noConfusion
    · cases hword
  have hspan := span_put (inline_of_graphic fun y hy => isGraphic_of_wordChar (hname y hy)) hname
    hends (o.put [x])
  have hempty : name.isEmpty = false := by simpa using hne
  have hcond : (isBlankOrBreak (after.getD 0 endMark)
      || "?:,]\x7d%@\x60".toList.contains (after.getD 0 endMark)) = true := by
    rcases hafter with hblank | ⟨hcolon, -⟩
    · rw [hblank, Bool.true_or]
    · rw [hcolon]
      rfl
  unfold anchorName
  rw [List.cons_append, advance_put hbreak hmark, hspan, ← put_append]
  simp only [hempty, Bool.false_eq_true, if_false, peek_before, hcond, if_true]
  rfl

theorem uriText_run {suffix after : List Char} (hne : suffix ≠ [])
    (hsuffix : ∀ x ∈ suffix, isUriChar x = true) (hafter : BlankAhead after) (o : Out) (fuel : Nat) :
    uriText (fuel + 2) (o.before (suffix ++ after)) []
      = .ok (suffix, (o.put suffix).before after) := by
  obtain ⟨x, xs, rfl⟩ := List.exists_cons_of_ne_nil hne
  obtain ⟨y, ys, rfl, hy⟩ := hafter.isBlank
  have hpercent : ¬x = '%' := by
    rintro rfl
    exact absurd (hsuffix '%' List.mem_cons_self) (by decide)
  have huri : isUriChar y = false ∧ y ≠ '%' := by rcases hy with rfl | rfl <;> decide
  have hspan := span_put (inline_of_graphic fun z hz => isGraphic_of_uriChar (hsuffix z hz))
    hsuffix (show ∀ z, (y :: ys).head? = some z → isUriChar z = false by rintro z ⟨⟩; exact huri.1) o
  have hpeek : (o.before (x :: xs ++ y :: ys)).peek = x := rfl
  have hstop := span_empty huri.1 (o.put (x :: xs)) ys
  rw [uriText, hpeek, if_neg hpercent, hspan]
  simp only [List.isEmpty_cons, Bool.false_eq_true, if_false]
  rw [uriText, peek_before_cons, if_neg huri.2, hstop]
  rfl

theorem tagToken_short {suffix after : List Char} (hne : suffix ≠ [])
    (hsuffix : ∀ x ∈ suffix, isUriChar x = true) (hafter : BlankAhead after) (o : Out) :
    tagToken (o.before ('!' :: '!' :: suffix ++ after))
      = .ok (.tag (some "!!") (.ofList suffix),
          (o.put ('!' :: '!' :: suffix)).before after) := by
  have hhandle : tagHandle (o.before ('!' :: '!' :: suffix ++ after))
      = .ok ("!!", (o.put ['!', '!']).before (suffix ++ after)) := by
    have hfirst : (o.before ('!' :: ('!' :: (suffix ++ after)))).advance
        = (o.put ['!']).before ('!' :: (suffix ++ after)) := advance_put rfl (by decide) o _
    have hsecond : ((o.put ['!']).before ('!' :: (suffix ++ after))).advance
        = ((o.put ['!']).put ['!']).before (suffix ++ after) := advance_put rfl (by decide) _ _
    have hword := span_empty (p := isWordChar) (x := '!') rfl (o.put ['!']) (suffix ++ after)
    unfold tagHandle
    rw [List.cons_append, List.cons_append, hfirst, hword]
    simp only [peek_before_cons, hsecond]
    rfl
  have huri : tagUri ((o.put ['!', '!']).before (suffix ++ after))
      = .ok (.ofList suffix, (o.put ('!' :: '!' :: suffix)).before after) := by
    obtain ⟨fuel, hfuel⟩ : ∃ k, (suffix ++ after).length + 1 = k + 2 := by
      have := List.length_pos_iff.2 hne
      exact Nat.exists_eq_add_of_le' (by rw [List.length_append]; omega)
    have hput : (o.put ['!', '!']).put suffix = o.put ('!' :: '!' :: suffix) :=
      (put_append o ['!', '!'] suffix).symm
    have hindex : ¬((o.put ('!' :: '!' :: suffix)).before after).index
        = ((o.put ['!', '!']).before (suffix ++ after)).index := by
      have := List.length_pos_iff.2 hne
      simp [before, put]
      omega
    unfold tagUri
    rw [before_rest, hfuel, uriText_run hne hsuffix hafter, hput]
    simp only [bind, Except.bind, if_neg hindex]
  have hblank : isSpaceOrBreak (after.getD 0 endMark) = true := by
    obtain ⟨y, ys, rfl, rfl | rfl⟩ := hafter.isBlank <;> rfl
  have hword : (((o.before ('!' :: '!' :: suffix ++ after)).rest.drop 1).takeWhile
      fun x => !isSpaceOrBreak x).contains '!' = true := by
    rw [before_rest, List.cons_append, List.cons_append, List.drop_one, List.tail_cons,
      List.takeWhile_cons_of_pos rfl]
    rfl
  have hnext : (o.before ('!' :: '!' :: suffix ++ after)).peekAt 1 = '!' := rfl
  have hsign : ¬ '!' = '<' ∧ isBlankOrBreak '!' = false := by decide
  unfold tagToken
  simp only [hnext, hsign, if_false, Bool.false_eq_true, hword, if_true, bind, Except.bind, hhandle,
    huri, peek_before, hblank]

/-- What is written between `o` and `o'` behind the blanks in front of it. -/
theorem Out.Adds.behind (h : o.Adds (ys ++ xs) o') : (o.put ys).Adds xs o' := by
  unfold Adds put at *
  rw [h, List.reverse_append, List.append_assoc]

/-- A token behind a sign. -/
theorem reads_with (read : Cursor → Except ScanFault (Read Token)) {ahead : List Char → Prop}
    (hx : isSign x = true) (hadds : o.Adds (List.replicate o.gap ' ' ++ x :: zs) o')
    (hroom : Room key m o) (hfresh : o'.fresh = false) (hlines : key ≠ none → o'.lines = o.lines)
    (hwithin : Within key o') (htoken : ∀ s, s.cursor.peek = x → readToken s = s.readWith read)
    (hread : ∀ after, ahead after →
      read ((o.put (List.replicate o.gap ' ')).before (x :: zs ++ after)) = .ok (t, o'.before after)) :
    Reads (stage key m o o.Ahead) (stage key (m.add [t]) o' ahead) := by
  refine reads_token (List.cons_ne_nil x zs) hadds.behind hroom hfresh hlines hwithin
    (fun after _ => tokenAhead_sign hx _) fun after ps hafter hps => ?_
  rw [htoken _ rfl]
  exact readWith_reader (hread after hafter) hfresh hps

/-- Signs and names are written on their line. -/
theorem lines_sign {text : String} (h : Inline text.toList) (o : Out) (ofBlock : Bool) :
    (o.sign true text ofBlock).lines = o.lines := by
  have hspaces : (List.replicate o.gap ' ').countP isLineEnd = 0 := (inline_spaces o.gap).countP
  unfold Out.lines
  rw [adds_sign, List.countP_append, List.countP_reverse, List.countP_append, hspaces, h.countP,
    Nat.zero_add]

theorem IsName.inline {name : String} (h : IsName name) : Inline name.toList :=
  inline_of_graphic fun x hx => isGraphic_of_wordChar (h.2 x hx)

/-- A name behind its mark. -/
theorem toList_marked {mark : String} (hmark : mark.toList = [x]) (name : String) :
    (mark ++ name).toList = x :: name.toList := by
  rw [String.toList_append, hmark]
  rfl

theorem IsName.inline_marked {name mark : String} (h : IsName name) (hmark : mark.toList = [x])
    (hx : isSign x = true) : Inline (mark ++ name).toList := by
  rw [toList_marked hmark]
  exact inline_cons (not_blank_of_sign hx).1 (not_blank_of_sign hx).2 h.inline

theorem IsTag.toList {tag : String} (h : IsTag tag) :
    tag.toList = '!' :: '!' :: tag.toList.drop 2 := by
  conv_lhs => rw [← List.take_append_drop 2 tag.toList, h.1]
  rfl

theorem IsTag.inline {tag : String} (h : IsTag tag) : Inline tag.toList := by
  rw [h.toList]
  exact inline_cons rfl (by decide) (inline_cons rfl (by decide)
    (inline_of_graphic fun x hx => isGraphic_of_uriChar (h.2.2 x hx)))

theorem reads_name {name mark : String} {token : String → Token} {ahead : List Char → Prop}
    (hmark : mark.toList = [x]) (hx : isSign x = true)
    (htoken : ∀ s, s.cursor.peek = x →
      readToken s = s.readWith fun c => (anchorName c).map fun r => (token r.1, r.2))
    (hname : IsName name) (hroom : Room key m o)
    (hwithin : Within key (o.sign true (mark ++ name) false))
    (hahead : ∀ after, ahead after → EndsPlain after) :
    Reads (stage key m o o.Ahead)
      (stage key (m.add [token name]) (o.sign true (mark ++ name) false) ahead) := by
  have htext := toList_marked hmark name
  have hinline := hname.inline_marked hmark hx
  have hadds := adds_sign o (mark ++ name) false
  rw [htext] at hadds
  refine reads_with _ hx hadds hroom (by simp [Out.sign]) (fun _ => lines_sign hinline o false) hwithin
    htoken fun after hafter => ?_
  rw [anchorName_word hname.1 hname.2 hx (hahead after hafter), before_sign, htext,
    String.ofList_toList]
  rfl

theorem reads_alias {name : String} {ahead : List Char → Prop} (hname : IsName name)
    (hroom : Room key m o) (hwithin : Within key (o.sign true ("*" ++ name) false))
    (hahead : ∀ after, ahead after → EndsPlain after) :
    Reads (stage key m o o.Ahead)
      (stage key (m.add [.alias name]) (o.sign true ("*" ++ name) false) ahead) := by
  exact reads_name (x := '*') rfl rfl (fun s hs => readToken_sign hs rfl) hname hroom hwithin hahead

theorem reads_anchor {name : String} {ahead : List Char → Prop} (hname : IsName name)
    (hroom : Room key m o) (hwithin : Within key (o.sign true ("&" ++ name) false))
    (hahead : ∀ after, ahead after → EndsPlain after) :
    Reads (stage key m o o.Ahead)
      (stage key (m.add [.anchor name]) (o.sign true ("&" ++ name) false) ahead) := by
  exact reads_name (x := '&') rfl rfl (fun s hs => readToken_sign hs rfl) hname hroom hwithin hahead

theorem reads_tag {tag : String} {ahead : List Char → Prop} (htag : IsTag tag)
    (hroom : Room key m o) (hwithin : Within key (o.sign true tag false))
    (hahead : ∀ after, ahead after → BlankAhead after) :
    Reads (stage key m o o.Ahead)
      (stage key (m.add [.tag (some "!!") (.ofList (tag.toList.drop 2))]) (o.sign true tag false)
        ahead) := by
  have htext := htag.toList
  have hinline := htag.inline
  have hadds := adds_sign o tag false
  rw [htext] at hadds
  refine reads_with tagToken (x := '!') rfl hadds hroom (by simp [Out.sign])
    (fun _ => lines_sign hinline o false) hwithin (fun s hs => readToken_sign hs rfl)
    fun after hafter => ?_
  rw [before_sign]
  conv_rhs => rw [htext]
  exact tagToken_short htag.2.1 htag.2.2 (hahead after hafter) _

/-! ## Scalars -/

/-- A text in quotes. -/
theorem reads_quoted {ahead : List Char → Prop} (hx : x = '\'' ∨ x = '"')
    (hadds : o.Adds (List.replicate o.gap ' ' ++ x :: zs) o') (hroom : Room key m o)
    (hfresh : o'.fresh = false) (hlines : key ≠ none → o'.lines = o.lines) (hwithin : Within key o')
    (hread : ∀ after, after.head? ≠ some '\'' →
      quotedScalar ((o.put (List.replicate o.gap ' ')).before (x :: zs ++ after))
        = .ok (.ofList text, o'.before after))
    (hahead : ∀ after, ahead after → EndsPlain after) :
    Reads (stage key m o o.Ahead) (stage key (m.add [.scalar (.ofList text) false]) o' ahead) := by
  have hsign : isSign x = true := by rcases hx with rfl | rfl <;> rfl
  refine reads_with quotedToken hsign hadds hroom hfresh hlines hwithin (fun s hs => ?_)
    fun after hafter => ?_
  · rw [readToken_sign hs hsign]
    rcases hx with rfl | rfl <;> rfl
  · have hquote : after.head? ≠ some '\'' := by
      intro hhead
      obtain ⟨ys, rfl⟩ := List.head?_eq_some_iff.1 hhead
      rcases hahead _ hafter with h | ⟨h, -⟩
      · cases h
      · exact absurd (show '\'' = ':' from h) (by decide)
    unfold quotedToken
    rw [hread after hquote]
    rfl

/-- A text that can be plain, without signs. -/
structure Signless (text : List Char) : Prop extends PlainText text where
  signs : hasIndicator text = false

theorem plainOut_flags (hne : text ≠ []) (column : Nat) (split : Bool) (o : Out) :
    (plainOut column split o text).fresh = false ∧ (plainOut column split o text).blank = false := by
  unfold plainOut
  rw [if_neg (by simpa using hne)]
  exact plainFrom_flags _ _ _ _ _ _ rfl rfl

/-- What a plain text is written as begins with no sign. -/
theorem FirstWord.notLeading (h : FirstWord text zs) (htext : Signless text) (after : List Char) :
    ∃ x ys, zs ++ after = x :: ys ∧ isBlankOrBreak x = false ∧ x ≠ byteOrderMark ∧
      isLeadingIndicator x ys = false := by
  obtain ⟨run, ws, ys, rfl, rfl, hne, hends, hys⟩ := h
  obtain ⟨x, xs, rfl⟩ := List.exists_cons_of_ne_nil hne
  have hx : isBlankOrBreak x = false ∧ x ≠ byteOrderMark :=
    (htext.chars x List.mem_cons_self).resolve_left fun hspace => htext.head (congrArg some hspace)
  have hsigns := htext.signs
  simp only [List.cons_append, hasIndicator, Bool.or_eq_false_iff] at hsigns
  obtain ⟨⟨-, hleading⟩, -⟩ := hsigns
  refine ⟨x, xs ++ ys ++ after, rfl, hx.1, hx.2, ?_⟩
  cases xs with
  | nil =>
    simp only [isLeadingIndicator, List.nil_append, hends, Bool.and_true, Bool.or_eq_false_iff]
      at hleading
    obtain ⟨hmem, hsign⟩ := hleading
    rw [isLeadingIndicator, hmem]
    simp only [hsign, Bool.false_and, Bool.or_self]
  | cons y xs => exact hleading

/-- Three equal signs that a text does not begin with do not begin what it is written as. -/
theorem FirstWord.noPrefix {word : List Char} (h : FirstWord text zs)
    (htext : word.isPrefixOf text = false) (hword : ∀ y ∈ word, isBlankOrBreak y = false ∧ y ≠ ':')
    {after : List Char} (hafter : EndsPlain after) : word.isPrefixOf (zs ++ after) = false := by
  obtain ⟨run, ws, ys, rfl, rfl, -, -, hys⟩ := h
  have hnot : ¬word <+: run ++ ws := fun h => by
    rw [List.isPrefixOf_iff_prefix.2 h] at htext
    cases htext
  by_contra hstarts
  rw [Bool.not_eq_false, List.isPrefixOf_iff_prefix, List.append_assoc] at hstarts
  rcases List.prefix_or_prefix_of_prefix hstarts (List.prefix_append run (ys ++ after)) with h | h
  · exact hnot (h.trans (List.prefix_append run ws))
  · obtain ⟨tail, rfl⟩ := h
    cases tail with
    | nil => exact hnot (by simp)
    | cons y tail =>
      obtain ⟨zs, hzs⟩ := (List.prefix_append_right_inj run).1 hstarts
      obtain ⟨hblank, hcolon⟩ := hword y (by simp)
      have hends := hys after hafter
      rw [← hzs] at hends
      rcases hends with h | ⟨h, -⟩
      · exact absurd (hblank.symm.trans h) Bool.noConfusion
      · exact hcolon h

theorem FirstWord.tokenAhead (h : FirstWord text zs) (htext : Signless text)
    {after : List Char} (hafter : EndsPlain after) : TokenAhead (zs ++ after) := by
  have hsigns := htext.signs
  obtain ⟨c, cs, hc⟩ := List.exists_cons_of_ne_nil htext.nonempty
  rw [hc] at hsigns
  simp only [hasIndicator, ← hc, Bool.or_eq_false_iff] at hsigns
  have hdashes := h.noPrefix hsigns.1.1.1 (Text.forall_of_all (by decide)) hafter
  have hdots := h.noPrefix hsigns.1.1.2 (Text.forall_of_all (by decide)) hafter
  obtain ⟨x, ys, heq, hblank, hmark, hleading⟩ := h.notLeading htext after
  rw [heq] at hdashes hdots ⊢
  refine tokenAhead_cons (ne_of_not_blank hblank rfl) (isBreak_of_not_blank hblank) ?_ hmark ?_
  · rintro rfl
    simp [isLeadingIndicator] at hleading
  · intro o
    simp only [Cursor.atDocumentMarker, Cursor.atMarker, Cursor.sees, before_rest, hdashes, hdots,
      Bool.false_and, Bool.or_self]

/-- The reader of plain texts reads what a plain text is written as. -/
theorem FirstWord.readToken (h : FirstWord text zs) (htext : Signless text)
    {after : List Char} (hafter : EndsPlain after) (m : Memo) (o : Out)
    (ps : List (Nat × KeyPlace)) :
    readToken (m.reader o (zs ++ after) ps) = (m.reader o (zs ++ after) ps).readPlain := by
  have hahead := h.tokenAhead htext hafter
  obtain ⟨x, ys, heq, hblank, -, hleading⟩ := h.notLeading htext after
  rw [heq] at hahead ⊢
  exact readToken_plain rfl hblank hleading fun _ => hahead.marker o

/-- A plain text that is a key. -/
theorem reads_plainKey {split : Bool} (htext : Signless text) (hcolumn : column ≠ 0)
    (hroom : Room key m o) (hindent : m.indent < column)
    (hlines : key ≠ none → (plainOut column split o text).lines = o.lines)
    (hwithin : Within key (plainOut column split o text)) :
    Reads (stage key m o o.Ahead)
      (stage key (m.add [.scalar (.ofList text) true]) (plainOut column split o text) ColonAhead) := by
  have hfits := hroom.fits
  obtain ⟨zs, hadds, hfirst, hread⟩ := plainScalar_plainOut (o := o) htext.toPlainText hcolumn hindent
    split (by omega)
  have hflags := plainOut_flags htext.nonempty column split o
  have hzs : zs ≠ [] := by
    rintro rfl
    exact htext.nonempty (List.head?_eq_none_iff.1 hfirst.head?.symm)
  refine reads_token hzs hadds hroom hflags.1 hlines hwithin
    (fun after hafter => hfirst.tokenAhead htext hafter.endsPlain) fun after ps hafter hps => ?_
  rw [hfirst.readToken htext hafter.endsPlain]
  refine readPlain_reader ?_ hps
  rw [hflags.1]
  obtain ⟨ys, rfl, -⟩ := id hafter
  have hblanks : plainBlanks ((plainOut column split o text).before (':' :: ys))
      = ([], false, (plainOut column split o text).before (':' :: ys)) := by
    unfold plainBlanks
    rw [span_empty rfl]
    rfl
  exact hread _ _ _ _ hafter.endsPlain hblanks (.inl rfl)

/-- A plain text and the line break behind it. -/
theorem reads_plain (split : Bool) (htext : Signless text) (hcolumn : column ≠ 0)
    (hroom : Room none m o) (hindent : m.indent < column) (hk : (k : Int) ≤ m.indent) :
    Reads (stage none m o o.Ahead)
      (stage none (m.add [.scalar (.ofList text) true]) ((plainOut column split o text).indent k)
        ((plainOut column split o text).indent k).Ahead) := by
  have hfits := hroom.fits
  obtain ⟨zs, hadds, hfirst, hread⟩ := plainScalar_plainOut (o := o) htext.toPlainText hcolumn hindent
    split (by omega)
  have hflags := plainOut_flags htext.nonempty column split o
  generalize hp : plainOut column split o text = p at hadds hread hflags
  rw [indent_breaks (.inl hflags.1)]
  refine ⟨List.replicate o.gap ' ' ++ (zs ++ '\n' :: List.replicate k ' '),
    (adds_put o _).trans (hadds.trans ((adds_breakWith p '\n').trans (adds_put p.endLine _))),
    fun rest hrest => ?_⟩
  have hafter : EndsPlain ('\n' :: (List.replicate k ' ' ++ rest)) := .inl rfl
  have hrest : TokenAhead rest := hrest
  have hstart := hfirst.tokenAhead htext hafter
  have hassoc : List.replicate o.gap ' ' ++ (zs ++ '\n' :: List.replicate k ' ') ++ rest
      = List.replicate o.gap ' ' ++ (zs ++ '\n' :: (List.replicate k ' ' ++ rest)) := by simp
  rw [hassoc]
  refine ⟨ahead_gap hstart, ?_⟩
  rintro s ⟨ps, rfl, hpending⟩
  obtain ⟨ps', hpending', hstep⟩ := exists_step hpending hroom (within_none _) hstart
  have hblanks := plainBlanks_line (o := p) (n := k) hrest.begins fun _ => hrest.marker _
  have hscalar := hread _ _ _ _ hafter hblanks (.inr (by
    simp [endLine, breakWith]
    omega))
  rw [hfirst.readToken htext hafter, readPlain_reader (p := p.endLine.put (List.replicate k ' '))
    hscalar hpending'.fresh] at hstep
  have hbehind : Pending none (m.add [.scalar (.ofList text) true]) p
      (m.marked (o.put (List.replicate o.gap ' ')) ps') :=
    hpending'.token hroom.gap hflags.1
      (lines_le_of_adds hadds) (fun h => absurd rfl h) _
  refine ⟨_, ⟨[], rfl, pending_nil⟩, ((leads_step rfl hstep).trans
    (leads_atToken rfl rfl (hbehind.nextLine hrest _ k))).mono ?_⟩
  simp only [List.length_append, List.length_cons]
  omega

/-- A place outside keys is forgotten with the first token that cannot begin a key. -/
theorem dropPlace_loose {s : TokenReader} (h : ∀ q ∈ s.places, q.2.required = false) :
    s.dropPlace = .ok { s with places := s.places.filter fun q => q.1 ≠ s.flow } := by
  refine if_neg ?_
  rw [List.any_eq_true]
  rintro ⟨q, hq, hneeded⟩
  simp [h q hq] at hneeded

theorem readBlockScalar_reader {p : Out} {after : List Char} {content : String}
    (hread : blockScalar false m.indent (o.before rest) = .ok (content, p.before after))
    (hfresh : p.fresh = true) (hps : ∀ q ∈ ps, q.1 = 0 ∧ q.2.required = false) :
    (m.reader o rest ps).readBlockScalar false
      = .ok ((m.add [.scalar content false]).reader p after []) := by
  have hfilter : ps.filter (fun q => decide (q.1 ≠ 0)) = [] :=
    List.filter_eq_nil_iff.2 fun q hq => by simp [(hps q hq).1]
  have hdrop : { m.reader o rest ps with keyAllowed := true }.dropPlace
      = .ok { m.reader o rest [] with keyAllowed := true } :=
    (dropPlace_loose fun q hq => (hps q hq).2).trans
      (congrArg (fun places => Except.ok { m.reader o rest places with keyAllowed := true }) hfilter)
  have hblock : blockScalar false (m.reader o rest []).indent (m.reader o rest []).cursor
      = .ok (content, p.before after) := hread
  unfold readBlockScalar
  rw [hdrop]
  simp only [bind, Except.bind, hblock]
  simp [Memo.reader, Memo.add, emit, moved, hfresh]

/-- A text in a block of lines, and the indentation of the line behind it. -/
theorem reads_block {ls : List (List Char)} (hls : ∀ l ∈ ls, IsLine l) (hne : ls ≠ [])
    (hcolumn : column ≠ 0) (hroom : Room none m o) (hindent : m.indent < column) (hk : k < column) :
    Reads (stage none m o o.Ahead)
      (stage none (m.add [.scalar (.ofList (blockText ls)) false])
        ((blockOut column o (blockText ls)).indent k)
        ((blockOut column o (blockText ls)).indent k).Ahead) := by
  obtain ⟨zs, hadds, hread⟩ := blockScalar_blockOut hcolumn hls hne hindent o
  have hflags := linesOut_flags hne column (o.sign true "|" false).endLine
  rw [← blockOut_eq hcolumn hls] at hflags
  generalize hp : blockOut column o (blockText ls) = p at hadds hread hflags
  obtain ⟨hfresh, hzero, hblank⟩ := hflags
  have hout : p.indent k = { p.put (List.replicate k ' ') with blank := true } := by
    have hstays := indent_stays (o := p) (k := k) hfresh (by
      rcases Nat.eq_zero_or_pos k with h | h
      · exact .inr ⟨by rw [hzero, h], hblank⟩
      · exact .inl (by rw [hzero]; exact h))
    rwa [hzero] at hstays
  rw [hout]
  refine ⟨List.replicate o.gap ' ' ++ ('|' :: zs ++ List.replicate k ' '),
    (adds_put o _).trans (hadds.trans (adds_put p _)), fun rest hrest => ?_⟩
  have hrest : TokenAhead rest := hrest
  have hstart := tokenAhead_sign (x := '|') rfl (zs ++ (List.replicate k ' ' ++ rest))
  have hassoc : List.replicate o.gap ' ' ++ ('|' :: zs ++ List.replicate k ' ') ++ rest
      = List.replicate o.gap ' ' ++ ('|' :: (zs ++ (List.replicate k ' ' ++ rest))) := by simp
  rw [hassoc]
  refine ⟨ahead_gap hstart, ?_⟩
  rintro s ⟨ps, rfl, hpending⟩
  obtain ⟨ps', hpending', hstep⟩ := exists_step hpending hroom (within_none _) hstart
  have hblock := hread k rest hk hrest.begins
  rw [readToken_sign (x := '|') rfl rfl] at hstep
  have hscalar := hstep.trans (readBlockScalar_reader (p := p.put (List.replicate k ' ')) hblock
    hfresh fun q hq => ⟨(hpending'.loose rfl q hq).1, (hpending'.loose rfl q hq).2.1⟩)
  refine ⟨_, ⟨[], rfl, pending_nil⟩, (leads_step rfl hscalar).mono ?_⟩
  simp only [List.length_append, List.length_cons]
  omega

end ModelSearch.Yaml
