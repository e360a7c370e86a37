import ModelSearch.Proofs.Yaml.BlockLayout
import ModelSearch.Proofs.Yaml.TokenRuns

/-!
# Readers in a layout

Behind what has been written the reader of tokens is known: where it stands, which blocks are open,
which tokens it has read, and that a key may begin where nothing of weight stands on the line.  Only
the places where keys may have begun are not determined by the layout.  In a key there is one, the
place where the key began; elsewhere the places go stale at the end of the line.

    m.reader o rest ps     the reader behind `o` with the tokens and the blocks of `m`
    Reads a b              what is written between two stages leads from the one to the other
    one token              Reads (stage key m o _) (stage key (m.add [t]) o' _)       (reads_token)
    indentation            Reads (stage none m o _) (stage none m (o.indent k) _)    (reads_indent)
-/

namespace ModelSearch.Yaml

open Out TokenReader

/-! ## Readers behind what has been written -/

/-- The line breaks written so far. -/
def Out.lines (o : Out) : Nat := o.reversed.countP isLineEnd

/-- What a reader knows of what it has read: the indentation of the open blocks and the tokens, the
last one first. -/
structure Memo where
  indent : Int
  outer : List Int
  reversed : List Token

namespace Memo

def add (m : Memo) (ts : List Token) : Memo := { m with reversed := ts.reverse ++ m.reversed }

/-- A block begins if the column is new. -/
def opened (m : Memo) (column : Nat) (t : Token) : Memo :=
  if m.indent < column then ⟨column, m.indent :: m.outer, t :: m.reversed⟩ else m

def reader (m : Memo) (o : Out) (rest : List Char) (places : List (Nat × KeyPlace)) :
    TokenReader where
  cursor := o.before rest
  reversed := m.reversed
  count := m.reversed.length
  indent := m.indent
  indents := m.outer
  keyAllowed := o.fresh
  places := places

/-- The place where a key begins. -/
def place (m : Memo) (o : Out) : KeyPlace :=
  ⟨m.reversed.length, m.indent = o.column, o.reversed.length, o.lines, o.column⟩

/-- The places behind the first token of what may be a key. -/
def marked (m : Memo) (o : Out) (places : List (Nat × KeyPlace)) : List (Nat × KeyPlace) :=
  if o.fresh then [(0, m.place o)] else places

theorem add_add (m : Memo) (ts us : List Token) : (m.add ts).add us = m.add (ts ++ us) := by
  simp [add]

@[simp] theorem add_indent (m : Memo) (ts : List Token) : (m.add ts).indent = m.indent := rfl

theorem opened_indent {m : Memo} {column : Nat} (h : m.indent ≤ column) (t : Token) :
    (m.opened column t).indent = column := by
  unfold opened
  split
  · rfl
  · omega

theorem opened_of_eq {m : Memo} {column : Nat} (h : m.indent = column) (t : Token) :
    m.opened column t = m := if_neg (by omega)

theorem opened_of_lt {m : Memo} {column : Nat} (h : m.indent < column) (t : Token) :
    m.opened column t = ⟨column, m.indent :: m.outer, t :: m.reversed⟩ := if_pos h

end Memo

variable {m m' : Memo} {o o' b : Out} {xs rest : List Char} {ps : List (Nat × KeyPlace)}
  {key : Option KeyPlace} {k n : Nat} {t : Token}

/-! ## What lies ahead -/

/-- What stands behind indentation: nothing more, or a token, and no marker of a document. -/
structure TokenAhead (rest : List Char) : Prop where
  begins : BeginsLine rest
  comment : rest.head? ≠ some '#'
  mark : rest.head? ≠ some byteOrderMark
  marker : ∀ o : Out, (o.before rest).atDocumentMarker = false

theorem tokenAhead_nil : TokenAhead [] := ⟨nofun, nofun, nofun, fun _ => rfl⟩

/-- What stands behind a word or a sign: a space or the end of the line. -/
def BlankAhead (rest : List Char) : Prop := rest.head? = some ' ' ∨ rest.head? = some '\n'

/-- What may stand behind what has been written. -/
def Out.Ahead (o : Out) (rest : List Char) : Prop :=
  if o.blank then TokenAhead rest else BlankAhead rest

theorem BlankAhead.isBlank (h : BlankAhead rest) :
    ∃ x ys, rest = x :: ys ∧ (x = ' ' ∨ x = '\n') := by
  rcases h with h | h
  · obtain ⟨ys, rfl⟩ := List.head?_eq_some_iff.1 h
    exact ⟨' ', ys, rfl, .inl rfl⟩
  · obtain ⟨ys, rfl⟩ := List.head?_eq_some_iff.1 h
    exact ⟨'\n', ys, rfl, .inr rfl⟩

theorem TokenAhead.peek_ne_mark (h : TokenAhead rest) (o : Out) :
    (o.before rest).peek ≠ byteOrderMark := peek_before_ne h.mark (by decide) o

/-! ## Going to a token -/

/-- Behind indentation nothing is skipped but the spaces in front of the token. -/
theorem skipToToken_put {s : TokenReader} (h : TokenAhead rest)
    (hs : s.cursor = o.before (List.replicate n ' ' ++ rest)) (fuel : Nat) :
    skipToToken (fuel + 1) s = s.moved ((o.put (List.replicate n ' ')).before rest) := by
  have hspace : rest.head? ≠ some ' ' := fun hx => (h.begins _ hx).1 rfl
  have hcomment : ((o.put (List.replicate n ' ')).before rest).peek ≠ '#' :=
    peek_before_ne h.comment (by decide) _
  have hbreak : isBreak ((o.put (List.replicate n ' ')).before rest).peek = false := by
    cases rest with
    | nil => rfl
    | cons x ys => exact (h.begins x rfl).2
  rw [skipToToken, hs, skipSpaces_put n hspace o]
  simp only [if_neg hcomment, hbreak, Bool.false_eq_true, if_false]

theorem skipToToken_line (h : TokenAhead rest) (n fuel : Nat) :
    skipToToken (fuel + 2) (m.reader o ('\n' :: (List.replicate n ' ' ++ rest)) ps)
      = m.reader (o.endLine.put (List.replicate n ' ')) rest ps := by
  have hspaces : (m.reader o ('\n' :: (List.replicate n ' ' ++ rest)) ps).cursor.skipSpaces
      = o.before ('\n' :: (List.replicate n ' ' ++ rest)) := skipSpaces_put 0 (by simp) o
  have hblock : ∀ c, ((m.reader o ('\n' :: (List.replicate n ' ' ++ rest)) ps).moved c).inFlow
      = false := fun _ => rfl
  have hcomment : ¬ '\n' = '#' := by decide
  have hbreak : isBreak '\n' = true := rfl
  rw [skipToToken, hspaces]
  simp only [peek_before_cons, hcomment, if_false, hbreak, if_true, hblock, Bool.false_eq_true,
    lineBreak_endLine]
  exact skipToToken_put (o := o.endLine) (n := n) h rfl fuel

/-- At a token nothing is skipped. -/
theorem atToken_reader (h : TokenAhead rest) : (m.reader o rest ps).atToken
    = (m.reader o rest ps).dropStale >>= fun u => .ok (u.unwind u.column) :=
  atToken_eq (h.peek_ne_mark o) (skipToToken_put (o := o) (n := 0) h rfl _)

/-- What comes to a token depends only on where the blanks in front of it lead to. -/
theorem atToken_spaces_eq (h : TokenAhead rest) (n : Nat) :
    (m.reader o (List.replicate n ' ' ++ rest) ps).atToken
      = (m.reader (o.put (List.replicate n ' ')) rest ps).atToken := by
  have hmark : (o.before (List.replicate n ' ' ++ rest)).peek ≠ byteOrderMark := by
    cases n with
    | zero => exact h.peek_ne_mark o
    | succ n => exact show ' ' ≠ byteOrderMark by decide
  rw [atToken_reader h, atToken_eq hmark (skipToToken_put (o := o) h rfl _)]
  rfl

theorem atToken_line_eq (h : TokenAhead rest) (n : Nat) :
    (m.reader o ('\n' :: (List.replicate n ' ' ++ rest)) ps).atToken
      = (m.reader (o.endLine.put (List.replicate n ' ')) rest ps).atToken := by
  have hmark : (o.before ('\n' :: (List.replicate n ' ' ++ rest))).peek ≠ byteOrderMark :=
    show '\n' ≠ byteOrderMark by decide
  rw [atToken_reader h, atToken_eq hmark (skipToToken_line h n _)]

/-! ## Places where keys may have begun -/

/-- The places that are remembered at `o`: in a key the one where it began, once a token of it has
been read; elsewhere places that need no key and stand on no later line. -/
structure Pending (key : Option KeyPlace) (m : Memo) (o : Out) (ps : List (Nat × KeyPlace)) :
    Prop where
  fresh : o.fresh = true → ps = []
  loose : key = none → ∀ q ∈ ps, q.1 = 0 ∧ q.2.required = false ∧ q.2.line ≤ o.lines
  began : ∀ p, key = some p → o.fresh = true → o.blank = true ∧ p = m.place o
  held : ∀ p, key = some p → o.fresh = false → ps = [(0, p)]
  line : ∀ p, key = some p → p.line = o.lines

/-- A key does not reach further than a reader remembers where it began. -/
def Within (key : Option KeyPlace) (o : Out) : Prop :=
  ∀ p, key = some p → o.reversed.length ≤ p.index + keyReach

theorem Within.of_adds (h : Within key o') (hadds : o.Adds xs o') : Within key o := by
  intro p hp
  have hlength := h p hp
  rw [hadds, List.length_append] at hlength
  omega

theorem within_none (o : Out) : Within none o := nofun

theorem lines_le_of_adds (h : o.Adds xs o') : o.lines ≤ o'.lines := by
  unfold Out.lines
  rw [h, List.countP_append]
  exact Nat.le_add_left _ _

theorem lines_put_spaces (n : Nat) (o : Out) : (o.put (List.replicate n ' ')).lines = o.lines := by
  have hspaces : (List.replicate n ' ').countP isLineEnd = 0 := (inline_spaces n).countP
  unfold Out.lines put
  rw [List.countP_append, List.countP_reverse, hspaces, Nat.zero_add]

/-- Outside keys. -/
theorem pending_none (hfresh : o.fresh = true → ps = [])
    (h : ∀ q ∈ ps, q.1 = 0 ∧ q.2.required = false ∧ q.2.line ≤ o.lines) : Pending none m o ps where
  fresh := hfresh
  loose _ := h
  began := nofun
  held := nofun
  line := nofun

theorem pending_nil : Pending none m o [] := pending_none (fun _ => rfl) (List.forall_mem_nil _)

theorem Pending.gap (h : Pending key m o ps) :
    Pending key m (o.put (List.replicate o.gap ' ')) ps where
  fresh := h.fresh
  loose hkey q hq := by
    rw [lines_put_spaces]
    exact h.loose hkey q hq
  began p hp hfresh := by
    obtain ⟨hblank, hplace⟩ := h.began p hp hfresh
    have hgap : o.gap = 0 := by simp [Out.gap, hblank]
    rw [hgap]
    exact ⟨hblank, hplace⟩
  held := h.held
  line p hp := by
    rw [lines_put_spaces]
    exact h.line p hp

/-- Behind a token, its place is remembered if a key may have begun there. -/
theorem Pending.token (h : Pending key m o ps) (hindent : key = none → m.indent < o.column)
    (hfresh : o'.fresh = false) (hlines : o.lines ≤ o'.lines)
    (hline : key ≠ none → o'.lines = o.lines) (m' : Memo) : Pending key m' o' (m.marked o ps) where
  fresh hf := absurd (hf.symm.trans hfresh) Bool.noConfusion
  loose hkey q hq := by
    unfold Memo.marked at hq
    split at hq
    · rw [List.mem_singleton.1 hq]
      have hnot : ¬m.indent = o.column := by
        have := hindent hkey
        omega
      exact ⟨rfl, by simp [Memo.place, hnot], hlines⟩
    · obtain ⟨hlevel, hrequired, hle⟩ := h.loose hkey q hq
      exact ⟨hlevel, hrequired, hle.trans hlines⟩
  began p _ hf := absurd (hf.symm.trans hfresh) Bool.noConfusion
  held p hp _ := by
    unfold Memo.marked
    split
    next hf => rw [(h.began p hp hf).2]
    next hf => exact h.held p hp (by simpa using hf)
  line p hp := by
    have hkey : key ≠ none := by
      rintro rfl
      cases hp
    rw [hline hkey]
    exact h.line p hp

/-- Where no key is needed stale places are forgotten. -/
theorem dropStale_loose {s : TokenReader} (h : ∀ q ∈ s.places, q.2.required = false) :
    ∃ ps', s.dropStale = .ok { s with places := ps' } ∧ ∀ q ∈ ps', q ∈ s.places := by
  refine ⟨_, if_neg ?_, fun q hq => (List.mem_filter.1 hq).1⟩
  rw [List.any_eq_true]
  rintro ⟨q, hq, hstale⟩
  simp [h q hq] at hstale

/-- In a key that is near its beginning no place is stale. -/
theorem exists_dropStale (h : Pending key m o ps) (hwithin : Within key o) (rest : List Char) :
    ∃ ps', (m.reader o rest ps).dropStale = .ok (m.reader o rest ps') ∧ Pending key m o ps' := by
  cases key with
  | none =>
    obtain ⟨ps', hdrop, hsub⟩ := dropStale_loose (s := m.reader o rest ps)
      fun q hq => (h.loose rfl q hq).2.1
    refine ⟨ps', hdrop, pending_none ?_ fun q hq => h.loose rfl q (hsub q hq)⟩
    intro hfresh
    rw [List.eq_nil_iff_forall_not_mem]
    intro q hq
    have hnil : (m.reader o rest ps).places = [] := h.fresh hfresh
    have hmem := hsub q hq
    rw [hnil] at hmem
    cases hmem
  | some p =>
    refine ⟨ps, dropStale_of_forall fun q hq => ?_, h⟩
    by_cases hfresh : o.fresh = true
    · have hps : (m.reader o rest ps).places = [] := h.fresh hfresh
      rw [hps] at hq
      cases hq
    · have hps : (m.reader o rest ps).places = [(0, p)] := h.held p rfl (by simpa using hfresh)
      rw [hps] at hq
      rw [List.mem_singleton.1 hq]
      have hreach := hwithin p rfl
      refine ⟨h.line p rfl, ?_⟩
      change o.reversed.length - p.index ≤ keyReach
      omega

/-- At a token that is not indented less than the block, no block ends. -/
theorem exists_atToken (h : Pending key m o ps) (hwithin : Within key o) (hahead : TokenAhead rest)
    (hindent : m.indent ≤ o.column) :
    ∃ ps', (m.reader o rest ps).atToken = .ok (m.reader o rest ps') ∧ Pending key m o ps' := by
  obtain ⟨ps', hdrop, hpending⟩ := exists_dropStale h hwithin rest
  refine ⟨ps', ?_, hpending⟩
  rw [atToken_reader hahead, hdrop]
  exact congrArg Except.ok (unwind_of_le hindent)

/-- On a later line all places outside keys are stale. -/
theorem dropStale_later (h : ∀ q ∈ ps, q.2.required = false ∧ q.2.line < o.lines)
    (rest : List Char) : (m.reader o rest ps).dropStale = .ok (m.reader o rest []) := by
  unfold dropStale
  rw [if_neg]
  · have hfilter : ps.filter (fun q => !(decide (q.2.line ≠ o.lines)
        || decide (keyReach < o.reversed.length - q.2.index))) = [] := by
      rw [List.filter_eq_nil_iff]
      intro q hq
      simp [Nat.ne_of_lt (h q hq).2]
    exact congrArg (fun places => Except.ok { m.reader o rest ps with places }) hfilter
  · rw [List.any_eq_true]
    rintro ⟨q, hq, hstale⟩
    simp [(h q hq).1] at hstale

theorem dropStale_nil (m : Memo) (o : Out) (rest : List Char) :
    (m.reader o rest []).dropStale = .ok (m.reader o rest []) := rfl

theorem atToken_later (h : ∀ q ∈ ps, q.2.required = false ∧ q.2.line < o.lines)
    (hahead : TokenAhead rest) :
    (m.reader o rest ps).atToken = (m.reader o rest []).atToken := by
  rw [atToken_reader hahead, atToken_reader hahead, dropStale_later h rest,
    dropStale_nil]

/-- Behind the end of a line no place is remembered, outside keys. -/
theorem Pending.nextLine (h : Pending none m o ps) (hahead : TokenAhead rest) (m' : Memo) (n : Nat) :
    (m'.reader (o.endLine.put (List.replicate n ' ')) rest ps).atToken
      = (m'.reader (o.endLine.put (List.replicate n ' ')) rest []).atToken := by
  refine atToken_later (fun q hq => ?_) hahead
  obtain ⟨-, hrequired, hle⟩ := h.loose rfl q hq
  refine ⟨hrequired, Nat.lt_of_le_of_lt hle ?_⟩
  rw [lines_put_spaces]
  simp [Out.lines, endLine, breakWith, isLineEnd]

/-! ## Stages -/

/-- A stage of a layout: what has been written, what may follow, and which readers stand there. -/
structure Stage where
  out : Out
  ahead : List Char → Prop
  readers : List Char → TokenReader → Prop

/-- What is written between two stages leads readers from the one to the other. -/
def Reads (a b : Stage) : Prop :=
  ∃ xs, a.out.Adds xs b.out ∧ ∀ rest, b.ahead rest →
    a.ahead (xs ++ rest) ∧
      ∀ s, a.readers (xs ++ rest) s → ∃ t, b.readers rest t ∧ Leads xs.length s t

theorem Reads.refl (a : Stage) : Reads a a :=
  ⟨[], Adds.refl _, fun _ h => ⟨h, fun s hs => ⟨s, hs, Leads.refl 0 s⟩⟩⟩

theorem Reads.trans {a b c : Stage} (h : Reads a b) (k : Reads b c) : Reads a c := by
  obtain ⟨xs, hxs, hab⟩ := h
  obtain ⟨ys, hys, hbc⟩ := k
  refine ⟨xs ++ ys, hxs.trans hys, fun rest hrest => ?_⟩
  obtain ⟨hb, hbc⟩ := hbc rest hrest
  obtain ⟨ha, hab⟩ := hab (ys ++ rest) hb
  rw [List.append_assoc]
  refine ⟨ha, fun s hs => ?_⟩
  obtain ⟨t, ht, hst⟩ := hab s hs
  obtain ⟨u, hu, htu⟩ := hbc t ht
  rw [List.length_append]
  exact ⟨u, hu, hst.trans htu⟩

/-- Behind `o`, in front of what satisfies `ahead`. -/
def stage (key : Option KeyPlace) (m : Memo) (o : Out) (ahead : List Char → Prop) : Stage where
  out := o
  ahead := ahead
  readers rest s := ∃ ps, s = m.reader o rest ps ∧ Pending key m o ps

/-- A key begins. -/
theorem reads_key (hfresh : o.fresh = true) (hblank : o.blank = true) :
    Reads (stage none m o o.Ahead) (stage (some (m.place o)) m o o.Ahead) := by
  refine ⟨[], Adds.refl o, fun rest hrest => ⟨hrest, ?_⟩⟩
  rintro s ⟨ps, rfl, hpending⟩
  refine ⟨_, ⟨ps, rfl, hpending.fresh, nofun, ?_, ?_, ?_⟩, Leads.refl 0 _⟩
  · rintro p ⟨⟩ -
    exact ⟨hblank, rfl⟩
  · rintro p - hf
    exact absurd (hfresh.symm.trans hf) Bool.noConfusion
  · rintro p ⟨⟩
    rfl

/-- The end of a line and the indentation of the next one, or the blanks up to a column. -/
theorem reads_indent (hblank : o.blank = false) (k : Nat) :
    Reads (stage none m o o.Ahead) (stage none m (o.indent k) (o.indent k).Ahead) := by
  have hahead : (o.indent k).Ahead = TokenAhead := by
    funext rest
    rw [Out.Ahead, indent_blank, if_pos rfl]
  have hbefore : o.Ahead = BlankAhead := by
    funext rest
    rw [Out.Ahead, hblank]
    rfl
  rw [hahead, hbefore]
  by_cases h : o.fresh = true ∧ o.column < k
  · obtain ⟨hfresh, hcolumn⟩ := h
    have hindent := indent_stays hfresh (.inl hcolumn)
    obtain ⟨n, hn⟩ : ∃ n, k - o.column = n + 1 := Nat.exists_eq_add_of_le' (by omega)
    rw [hindent, hn]
    refine ⟨List.replicate (n + 1) ' ', adds_put o _, fun rest hrest => ⟨.inl rfl, ?_⟩⟩
    rintro s ⟨ps, rfl, hpending⟩
    rw [hpending.fresh hfresh]
    exact ⟨_, ⟨[], rfl, pending_nil⟩,
      (leads_atToken rfl rfl (atToken_spaces_eq hrest (n + 1))).mono (Nat.zero_le _)⟩
  · have hindent : o.indent k = _ := indent_breaks (o := o) (k := k) (by
      by_cases hf : o.fresh = true
      · rcases Nat.lt_or_ge k o.column with hlt | hge
        · exact .inr (.inl hlt)
        · exact .inr (.inr ⟨Nat.le_antisymm hge (Nat.le_of_not_lt fun hlt => h ⟨hf, hlt⟩), hblank⟩)
      · exact .inl (by simpa using hf))
    rw [hindent]
    refine ⟨'\n' :: List.replicate k ' ', (adds_breakWith o '\n').trans (adds_put o.endLine _),
      fun rest hrest => ⟨.inr rfl, ?_⟩⟩
    rintro s ⟨ps, rfl, hpending⟩
    exact ⟨_, ⟨[], rfl, pending_nil⟩, (leads_atToken rfl rfl ((atToken_line_eq hrest k).trans
      (hpending.nextLine hrest m k))).mono (Nat.zero_le _)⟩

/-- A block ends in front of a line that is indented less. -/
theorem reads_close {outer : Int} {outers : List Int} (hfresh : o.fresh = true)
    (hblank : o.blank = true) (hindent : o.column < m.indent) (houter : m.outer = outer :: outers) :
    Reads (stage none m o o.Ahead)
      (stage none ⟨outer, outers, .blockEnd :: m.reversed⟩ o o.Ahead) := by
  refine ⟨[], Adds.refl o, fun rest hrest => ⟨hrest, ?_⟩⟩
  rintro s ⟨ps, rfl, hpending⟩
  rw [hpending.fresh hfresh]
  refine ⟨_, ⟨[], rfl, pending_nil⟩, leads_atToken rfl rfl ?_⟩
  have hahead : TokenAhead rest := by
    unfold Stage.ahead stage at hrest
    simpa [Out.Ahead, hblank] using hrest
  have hclose : closeBlocks o.column m.outer (m.reader o rest []) = closeBlocks o.column outers
      (Memo.reader ⟨outer, outers, .blockEnd :: m.reversed⟩ o rest []) := by
    rw [houter]
    exact if_pos hindent
  rw [List.nil_append, atToken_reader hahead, atToken_reader hahead, dropStale_nil, dropStale_nil]
  exact congrArg Except.ok hclose

/-! ## One token -/

/-- A token has room inside the block; the first one of a block's key may stand at its edge. -/
structure Room (key : Option KeyPlace) (m : Memo) (o : Out) : Prop where
  fits : m.indent ≤ o.column
  loose : key = none → m.indent < o.column

theorem Room.gap (h : Room key m o) (hkey : key = none) :
    m.indent < ((o.put (List.replicate o.gap ' ')).column : Int) := by
  have := h.loose hkey
  rw [put_column]
  omega

theorem ahead_gap (h : TokenAhead rest) : o.Ahead (List.replicate o.gap ' ' ++ rest) := by
  unfold Out.Ahead Out.gap
  cases o.blank with
  | true => exact h
  | false => exact .inl rfl

/-- A step reads the token behind the space that it needs. -/
theorem exists_step (h : Pending key m o ps) (hroom : Room key m o)
    (hwithin : Within key (o.put (List.replicate o.gap ' '))) (hstart : TokenAhead rest) :
    ∃ ps', Pending key m (o.put (List.replicate o.gap ' ')) ps' ∧
      (m.reader o (List.replicate o.gap ' ' ++ rest) ps).step
        = readToken (m.reader (o.put (List.replicate o.gap ' ')) rest ps') := by
  have hindent : m.indent ≤ ((o.put (List.replicate o.gap ' ')).column : Int) := by
    have := hroom.fits
    rw [put_column]
    omega
  obtain ⟨ps', hat, hpending⟩ := exists_atToken h.gap hwithin hstart hindent
  exact ⟨ps', hpending, step_of_atToken ((atToken_spaces_eq hstart o.gap).trans hat)⟩

theorem reads_token {ahead : List Char → Prop} (hne : xs ≠ [])
    (hadds : (o.put (List.replicate o.gap ' ')).Adds xs o') (hroom : Room key m o)
    (hfresh : o'.fresh = false) (hlines : key ≠ none → o'.lines = o.lines) (hwithin : Within key o')
    (hstart : ∀ after, ahead after → TokenAhead (xs ++ after))
    (hread : ∀ after ps, ahead after → (o.fresh = true → ps = []) →
      readToken (m.reader (o.put (List.replicate o.gap ' ')) (xs ++ after) ps)
        = .ok ((m.add [t]).reader o' after (m.marked (o.put (List.replicate o.gap ' ')) ps))) :
    Reads (stage key m o o.Ahead) (stage key (m.add [t]) o' ahead) := by
  refine ⟨List.replicate o.gap ' ' ++ xs, (adds_put o _).trans hadds, fun after hafter => ?_⟩
  rw [List.append_assoc]
  refine ⟨ahead_gap (hstart after hafter), ?_⟩
  rintro s ⟨ps, rfl, hpending⟩
  obtain ⟨ps', hpending', hstep⟩ := exists_step hpending hroom (hwithin.of_adds hadds)
    (hstart after hafter)
  rw [hread after ps' hafter hpending'.fresh] at hstep
  refine ⟨_, ⟨_, rfl, hpending'.token hroom.gap hfresh (lines_le_of_adds hadds) ?_ _⟩, ?_⟩
  · rw [lines_put_spaces]
    exact hlines
  · have hlength := List.length_pos_iff.2 hne
    refine (leads_step rfl hstep).mono ?_
    rw [List.length_append]
    omega

end ModelSearch.Yaml
