import ModelSearch.Proofs.Yaml.TokenSteps

/-!
# Collections in a layout

The signs of blocks: an item, a key on a line of its own, and its value.  A sign begins a block if
it is indented further than the block it stands in.  A key in front of its colon has been read as a
scalar, and the start of a mapping is put in front of it once the colon is met.  Empty collections are
written as two signs.

    reads_flow                                     an empty collection
    reads_entry, reads_keySign, reads_valueSign    the signs of blocks
    reads_keyValue                                 the colon behind a key that began further ahead
    finishes_end                                   the end of the document
-/

namespace ModelSearch.Yaml

open Out TokenReader

variable {m : Memo} {o o' : Out} {rest : List Char} {ps : List (Nat × KeyPlace)} {t : Token} {x : Char}

/-! ## Empty collections -/

/-- The opening sign of a collection. -/
theorem readFlowStart_reader {start : Token} (h : o.fresh = true → ps = []) (hx : isBreak x = false)
    (hmark : x ≠ byteOrderMark) (rest : List Char) :
    (m.reader o (x :: rest) ps).readFlowStart start
      = .ok { (m.add [start]).reader (o.put [x]) rest (m.marked o ps) with
          flow := 1, keyAllowed := true } := by
  have hadvance : (m.reader o (x :: rest) (m.marked o ps)).cursor.advance
      = (o.put [x]).before rest := advance_put hx hmark o rest
  unfold readFlowStart
  rw [markPlace_reader h]
  simp only [bind, Except.bind, hadvance]
  rfl

/-- The closing sign of a collection, right behind the opening one. -/
theorem step_flowEnd {y : Char} {close : Token} (hy : isSign y = true)
    (hclose : ∀ s, s.cursor.peek = y → readToken s = s.readFlowEnd close)
    (hps : ∀ q ∈ ps, q.2.required = false) (hfresh : o'.fresh = false)
    (ho' : o'.before rest = (o.put [y]).before rest) :
    ∃ qs, (∀ q ∈ qs, q ∈ ps) ∧
      { m.reader o (y :: rest) ps with flow := 1, keyAllowed := true }.step
        = .ok ((m.add [close]).reader o' rest qs) := by
  generalize hv : { m.reader o (y :: rest) ps with flow := 1, keyAllowed := true } = v
  have hcursor : v.cursor = o.before (y :: rest) := by rw [← hv]; rfl
  have hplaces : v.places = ps := by rw [← hv]; rfl
  have hahead := tokenAhead_sign hy rest
  obtain ⟨qs, hdrop, hsub⟩ := dropStale_loose (s := v) (by rwa [hplaces])
  have hat : v.atToken = .ok { v with places := qs } := by
    have hskip := skipToToken_put (s := v) (n := 0) hahead hcursor v.cursor.rest.length
    have hmoved : v.moved ((o.put (List.replicate 0 ' ')).before (y :: rest)) = v := by
      rw [← hv]
      rfl
    rw [hmoved] at hskip
    rw [atToken_eq (by rw [hcursor]; exact hahead.peek_ne_mark o) hskip, hdrop]
    have hflow : ({ v with places := qs } : TokenReader).inFlow = true := by rw [← hv]; rfl
    exact congrArg Except.ok (if_pos hflow)
  rw [hplaces] at hsub
  refine ⟨qs.filter fun q => q.1 ≠ 1, fun q hq => hsub q (List.mem_filter.1 hq).1, ?_⟩
  rw [step_of_atToken hat, hclose _ (by rw [hcursor]; rfl)]
  have hadvance : v.cursor.advance = o'.before rest := by
    rw [hcursor, ho']
    exact advance_put (not_blank_of_sign hy).1 (not_blank_of_sign hy).2 o rest
  unfold readFlowEnd
  rw [dropPlace_loose fun q hq => hps q (hsub q hq)]
  simp only [bind, Except.bind, hadvance]
  rw [← hv]
  simp [Memo.reader, Memo.add, emit, moved, hfresh]

/-- An empty collection: its two signs. -/
theorem reads_flow {y : Char} {first last : String} {start close : Token}
    (hfirst : first.toList = [x]) (hlast : last.toList = [y]) (hx : isSign x = true)
    (hy : isSign y = true) (hopen : ∀ s, s.cursor.peek = x → readToken s = s.readFlowStart start)
    (hclose : ∀ s, s.cursor.peek = y → readToken s = s.readFlowEnd close) (hroom : Room none m o) :
    Reads (stage none m o o.Ahead) (stage none (m.add [start, close])
      ((o.sign true first false).sign false last false)
      ((o.sign true first false).sign false last false).Ahead) := by
  have hadds := (adds_sign o first false).trans (adds_sign_false (o.sign true first false) last false)
  rw [hfirst, hlast, List.append_assoc] at hadds
  generalize hout : (o.sign true first false).sign false last false = p at hadds
  have hfresh : p.fresh = false := by rw [← hout]; simp [Out.sign]
  refine ⟨_, hadds, fun rest hrest => ?_⟩
  have hstart := tokenAhead_sign hx (y :: rest)
  have hassoc : List.replicate o.gap ' ' ++ ([x] ++ [y]) ++ rest
      = List.replicate o.gap ' ' ++ (x :: y :: rest) := by simp
  rw [hassoc]
  refine ⟨ahead_gap hstart, ?_⟩
  rintro s ⟨ps, rfl, hpending⟩
  obtain ⟨ps', hpending', hstep⟩ := exists_step hpending hroom (within_none _) hstart
  have hbehind : Pending none (m.add [start, close]) p
      (m.marked (o.put (List.replicate o.gap ' ')) ps') :=
    hpending'.token hroom.gap hfresh
      (lines_le_of_adds hadds.behind) (fun h => absurd rfl h) _
  rw [hopen _ rfl, readFlowStart_reader hpending'.fresh (not_blank_of_sign hx).1
    (not_blank_of_sign hx).2] at hstep
  have hend : p.before rest = (((o.put (List.replicate o.gap ' ')).put [x]).put [y]).before rest := by
    rw [← hout, before_sign_false, hlast, sign_eq, hfirst]
    rfl
  obtain ⟨qs, hsub, hend⟩ := step_flowEnd (m := m.add [start]) (o := (o.put
    (List.replicate o.gap ' ')).put [x]) hy hclose (fun q hq => (hbehind.loose rfl q hq).2.1) hfresh hend
  rw [Memo.add_add] at hend
  have hpending : Pending none (m.add [start, close]) p qs :=
    pending_none (fun hf => absurd (hf.symm.trans hfresh) Bool.noConfusion) fun q hq =>
      hbehind.loose rfl q (hsub q hq)
  refine ⟨_, ⟨qs, rfl, hpending⟩, ((leads_step rfl hstep).trans (leads_step rfl hend)).mono ?_⟩
  simp

/-! ## Signs of blocks -/

theorem openBlock_reader (m : Memo) (o : Out) (rest : List Char) (ps : List (Nat × KeyPlace))
    (t : Token) : (m.reader o rest ps).openBlock t = (m.opened o.column t).reader o rest ps := by
  unfold openBlock
  by_cases h : m.indent < o.column
  · have hnew : (m.reader o rest ps).indentTo o.column
        = (true, Memo.reader ⟨o.column, m.indent :: m.outer, m.reversed⟩ o rest ps) := if_pos h
    rw [show (m.reader o rest ps).column = o.column from rfl, hnew, Memo.opened_of_lt h]
    rfl
  · have hold : (m.reader o rest ps).indentTo o.column = (false, m.reader o rest ps) := if_neg h
    rw [show (m.reader o rest ps).column = o.column from rfl, hold, Memo.opened, if_neg h]

/-- The sign of a block at the beginning of a line, or behind the signs of outer blocks. -/
theorem reads_blockSign {sign : String} {start t : Token} (hsign : sign.toList = [x])
    (hx : x = '-' ∨ x = '?' ∨ x = ':') (hfresh : o.fresh = true) (hblank : o.blank = true)
    (hindent : m.indent ≤ o.column)
    (hread : ∀ rest, BlankAhead rest → readToken (m.reader o (x :: rest) [])
      = .ok { ((m.opened o.column start).add [t]).reader o (x :: rest) [] with
          cursor := (o.before (x :: rest)).advance }) :
    Reads (stage none m o o.Ahead) (stage none ((m.opened o.column start).add [t])
      (o.sign true sign true) (o.sign true sign true).Ahead) := by
  have hgap : o.gap = 0 := by simp [Out.gap, hblank]
  have hadds := adds_sign o sign true
  rw [hgap, hsign] at hadds
  refine ⟨[x], hadds, fun rest hrest => ?_⟩
  have hrest : BlankAhead rest := hrest
  have hahead := tokenAhead_blockSign hx hrest
  refine ⟨?_, ?_⟩
  · change o.Ahead (x :: rest)
    rwa [Out.Ahead, if_pos hblank]
  rintro s ⟨ps, rfl, hpending⟩
  have hat : (m.reader o (x :: rest) []).atToken = .ok (m.reader o (x :: rest) []) := by
    rw [atToken_reader hahead, dropStale_nil]
    exact congrArg Except.ok (unwind_of_le hindent)
  have hadvance : (o.before (x :: rest)).advance = (o.sign true sign true).before rest := by
    rw [before_sign, hgap, hsign]
    refine advance_put ?_ ?_ o rest
    · rcases hx with rfl | rfl | rfl <;> rfl
    · rcases hx with rfl | rfl | rfl <;> decide
  rw [hpending.fresh hfresh]
  refine ⟨_, ⟨[], rfl, pending_nil⟩, leads_step rfl (((step_of_atToken hat).trans
    (hread rest hrest)).trans ?_)⟩
  rw [hadvance]
  simp [Memo.reader, Out.sign, hfresh]

theorem BlankAhead.peekAt (h : BlankAhead rest) (o : Out) (x : Char) :
    isBlankOrBreak ((o.before (x :: rest)).peekAt 1) = true := by
  obtain ⟨y, ys, rfl, rfl | rfl⟩ := h.isBlank <;> rfl

/-- The sign of an item. -/
theorem reads_entry (hfresh : o.fresh = true) (hblank : o.blank = true)
    (hindent : m.indent ≤ o.column) :
    Reads (stage none m o o.Ahead) (stage none ((m.opened o.column .sequenceStart).add [.entry])
      (o.sign true "-" true) (o.sign true "-" true).Ahead) := by
  refine reads_blockSign (x := '-') rfl (.inl rfl) hfresh hblank hindent fun rest hrest => ?_
  have hallowed : (m.reader o ('-' :: rest) []).keyAllowed = true := hfresh
  have hflow : (m.reader o ('-' :: rest) []).inFlow = false := rfl
  rw [readToken_entry rfl (hrest.peekAt o '-') (noMarker_of_blank hrest o), readEntry, hallowed, hflow,
    openBlock_reader]
  simp [dropPlace, Memo.reader, Memo.add, emit, moved, bind, Except.bind, hfresh]

/-- The sign of a key on a line of its own. -/
theorem reads_keySign (hfresh : o.fresh = true) (hblank : o.blank = true)
    (hindent : m.indent ≤ o.column) :
    Reads (stage none m o o.Ahead) (stage none ((m.opened o.column .mappingStart).add [.key])
      (o.sign true "?" true) (o.sign true "?" true).Ahead) := by
  refine reads_blockSign (x := '?') rfl (.inr (.inl rfl)) hfresh hblank hindent fun rest hrest => ?_
  have hallowed : (m.reader o ('?' :: rest) []).keyAllowed = true := hfresh
  have hflow : (m.reader o ('?' :: rest) []).inFlow = false := rfl
  rw [readToken_key rfl (hrest.peekAt o '?'), readKey, hallowed, hflow, openBlock_reader]
  simp [dropPlace, Memo.reader, Memo.add, emit, moved, inFlow, bind, Except.bind, hfresh]

/-- The sign of the value that belongs to a key on a line of its own. -/
theorem reads_valueSign (hfresh : o.fresh = true) (hblank : o.blank = true)
    (hindent : m.indent ≤ o.column) :
    Reads (stage none m o o.Ahead) (stage none ((m.opened o.column .mappingStart).add [.value])
      (o.sign true ":" true) (o.sign true ":" true).Ahead) := by
  refine reads_blockSign (x := ':') rfl (.inr (.inr rfl)) hfresh hblank hindent fun rest hrest => ?_
  have hallowed : (m.reader o (':' :: rest) []).keyAllowed = true := hfresh
  have hflow : (m.reader o (':' :: rest) []).inFlow = false := rfl
  have hplaces : (m.reader o (':' :: rest) []).places = [] := rfl
  rw [readToken_value rfl (hrest.peekAt o ':'), readValue, hplaces, hallowed, hflow, openBlock_reader]
  simp [dropPlace, Memo.reader, Memo.add, emit, moved, inFlow, bind, Except.bind, hfresh]

/-! ## The colon behind a key -/

theorem insertIdx_behind {α : Type} (xs ys : List α) (a : α) :
    (xs ++ ys).insertIdx xs.length a = xs ++ a :: ys := by
  induction xs with
  | nil => rfl
  | cons x xs ih => simp [ih]

/-- A token is put in behind those of `m`. -/
theorem insert_reader (m : Memo) (ts : List Token) (t : Token) (o : Out) (rest : List Char)
    (ps : List (Nat × KeyPlace)) : ((m.add ts).reader o rest ps).insert m.reversed.length t
      = ((m.add [t]).add ts).reader o rest ps := by
  have hplace : ((m.add ts).reader o rest ps).count - m.reversed.length = ts.reverse.length := by
    simp [Memo.reader, Memo.add]
  have hreversed : ((m.add ts).reader o rest ps).reversed = ts.reverse ++ m.reversed := rfl
  unfold TokenReader.insert
  rw [hplace, hreversed, insertIdx_behind]
  simp [Memo.reader, Memo.add]
  omega

/-- The colon puts the sign of a key, and the start of a mapping, in front of the key. -/
theorem readValue_reader {b : Out} {ts : List Token} (hfresh : o.fresh = false) :
    ((m.add ts).reader o rest [(0, m.place b)]).readValue
      = .ok { ((m.opened b.column .mappingStart).add (.key :: (ts ++ [.value]))).reader o rest [] with
          cursor := (o.before rest).advance } := by
  have hfind : ((m.add ts).reader o rest [(0, m.place b)]).places.find? (fun p => decide
      (p.1 = ((m.add ts).reader o rest [(0, m.place b)]).flow)) = some (0, m.place b) := rfl
  have hfilter : { (m.add ts).reader o rest [(0, m.place b)] with
      places := ((m.add ts).reader o rest [(0, m.place b)]).places.filter (fun p => decide
        (p.1 ≠ ((m.add ts).reader o rest [(0, m.place b)]).flow)) } = (m.add ts).reader o rest [] := rfl
  have hkey := insert_reader m ts .key o rest []
  have hbefore : (m.place b).tokensBefore = m.reversed.length := rfl
  have hcolumn : (m.place b).column = b.column := rfl
  unfold readValue
  rw [hfind]
  simp only [hfilter, hbefore, hkey, hcolumn]
  by_cases h : m.indent < b.column
  · have hnew : (((m.add [.key]).add ts).reader o rest []).indentTo b.column
        = (true, (Memo.add ⟨b.column, m.indent :: m.outer, m.reversed⟩ (.key :: ts)).reader o rest []) := by
      rw [Memo.add_add]
      exact if_pos h
    have hstart := insert_reader ⟨b.column, m.indent :: m.outer, m.reversed⟩ (.key :: ts)
      .mappingStart o rest []
    rw [Memo.opened_of_lt h]
    simp only [hnew, hstart]
    simp [Memo.reader, Memo.add, emit, moved, inFlow, bind, Except.bind, hfresh]
  · have hold : (((m.add [.key]).add ts).reader o rest []).indentTo b.column
        = (false, ((m.add [.key]).add ts).reader o rest []) := if_neg h
    rw [Memo.opened, if_neg h]
    simp only [hold]
    simp [Memo.reader, Memo.add, emit, moved, inFlow, bind, Except.bind, hfresh]

/-- The colon of a key that began at `b` with the tokens of `m`. -/
theorem reads_keyValue {b : Out} (ts : List Token) (hfresh : o.fresh = false)
    (hindent : m.indent ≤ o.column) (hwithin : Within (some (m.place b)) o) :
    Reads (stage (some (m.place b)) (m.add ts) o ColonAhead)
      (stage none ((m.opened b.column .mappingStart).add (.key :: (ts ++ [.value])))
        (o.sign false ":" false) (o.sign false ":" false).Ahead) := by
  refine ⟨[':'], adds_sign_false o ":" false, fun rest hrest => ?_⟩
  have hrest : BlankAhead rest := hrest
  refine ⟨⟨rest, rfl, hrest⟩, ?_⟩
  rintro s ⟨ps, rfl, hpending⟩
  obtain ⟨ps', hat, hpending'⟩ := exists_atToken hpending hwithin
    (tokenAhead_blockSign (.inr (.inr rfl)) hrest) hindent
  have hvalue := (step_of_atToken hat).trans (readToken_value rfl (hrest.peekAt o ':'))
  rw [hpending'.held _ rfl hfresh, readValue_reader hfresh] at hvalue
  have hadvance : (o.before (':' :: rest)).advance = (o.sign false ":" false).before rest := by
    rw [before_sign_false]
    exact advance_put rfl (by decide) o rest
  rw [hadvance] at hvalue
  refine ⟨_, ⟨[], rfl, pending_nil⟩, leads_step rfl (hvalue.trans ?_)⟩
  simp [Memo.reader, Out.sign, hfresh]

/-! ## The end -/

/-- At the end of a document the block at its first column is closed. -/
theorem finishes_end (hindent : m.indent = 0) (houter : m.outer = [-1]) :
    Finishes 1 (m.reader o [] []) (.blockEnd :: m.reversed).reverse := by
  obtain ⟨indent, outer, reversed⟩ := m
  obtain rfl : indent = 0 := hindent
  obtain rfl : outer = [-1] := houter
  have hcolumn : (0 : Int) ≤ ((o.column : Nat) : Int) := Int.natCast_nonneg _
  have hat : (Memo.reader ⟨0, [-1], reversed⟩ o [] []).atToken
      = .ok (Memo.reader ⟨0, [-1], reversed⟩ o [] []) := by
    rw [atToken_reader tokenAhead_nil, dropStale_nil]
    exact congrArg Except.ok (unwind_of_le hcolumn)
  have hend : (Memo.reader ⟨0, [-1], reversed⟩ o [] []).readEnd
      = .ok { Memo.reader ⟨-1, [], .blockEnd :: reversed⟩ o [] [] with
          keyAllowed := false, done := true } := by
    simp [readEnd, dropPlace, bind, Except.bind, unwind, closeBlocks, Memo.reader, inFlow, emit]
  have hdone : Finishes 0 { Memo.reader ⟨-1, [], .blockEnd :: reversed⟩ o [] [] with
      keyAllowed := false, done := true } (.blockEnd :: reversed).reverse := .done 0 rfl
  exact .step rfl (((step_of_atToken hat).trans (readToken_end rfl)).trans hend) hdone

end ModelSearch.Yaml
