import ModelSearch.Proofs.Yaml.Quoted

/-!
# Quoted texts are read as they were laid out

A text in single quotes is written in runs of words, spaces and breaks; a line ends at a single space
or at the breaks themselves.  A text in double quotes is written with escapes, and a line ends at a
backslash.  Both are read back, but for two things: a next line sign in single quotes is read as a
line feed, and where the text is indented by the whole width of a line, a space behind an escape
can be lost in double quotes.

    a quotable text, no spaces beside its breaks, in single quotes         (quotedScalar_singleOut)
    any text, where the columns in front leave room, in double quotes      (quotedScalar_doubleOut)
-/

namespace ModelSearch.Yaml

open Out

variable {o : Out} {x : Char} {column start : Nat} {split : Bool} {kind : Run}
  {run rest bs text : List Char} {next : Option Char} {d : Cursor}

/-! ## Characters of a text that can be quoted -/

theorem ne_of_not_special {y : Char} (hx : isSpecial x = false) (hy : isSpecial y = true) :
    x ≠ y := by
  rintro rfl
  rw [hx] at hy
  cases hy

theorem isBreak_eq_isLineEnd (hx : isSpecial x = false) : isBreak x = isLineEnd x := by
  have hreturn : x ≠ '\r' := ne_of_not_special hx (by decide)
  simp [isBreak, isLineEnd, hreturn]

theorem runOf_eq_word : runOf x = .word ↔ x ≠ ' ' ∧ isLineEnd x = false := by
  unfold runOf
  split
  · simp [*]
  · split <;> simp [*]

theorem runOf_eq_spaces : runOf x = .spaces ↔ x = ' ' := by
  unfold runOf
  split
  · simp [*]
  · split <;> simp [*]

theorem runOf_eq_breaks : runOf x = .breaks ↔ isLineEnd x = true := by
  unfold runOf
  split
  next hx => simp [hx, show isLineEnd ' ' = false from rfl]
  next => split <;> simp [*]

theorem not_blank_of_word (hx : isSpecial x = false) (hrun : runOf x = .word) :
    isBlankOrBreak x = false := by
  obtain ⟨hspace, hend⟩ := runOf_eq_word.1 hrun
  have htab : x ≠ '\t' := ne_of_not_special hx (by decide)
  have hmark : x ≠ endMark := ne_of_not_special hx (by decide)
  simp [isBlankOrBreak, isSpaceOrBreak, isBreakOrEnd, isBreak_eq_isLineEnd hx, hspace, hend, htab,
    hmark]

theorem inner_of_word (hx : isSpecial x = false) (hrun : runOf x = .word) (hquote : x ≠ '\'') :
    Inner false x :=
  ⟨not_blank_of_word hx hrun, ne_of_not_special hx (by decide), hquote, nofun⟩

/-! ## Single quotes -/

/-- A run of one kind, without an apostrophe. -/
def IsRun (kind : Run) (run : List Char) : Prop := ∀ x ∈ run, runOf x = kind ∧ x ≠ '\''

theorem IsRun.eq_spaces (h : IsRun .spaces run) : run = List.replicate run.length ' ' :=
  List.eq_replicate_iff.2 ⟨rfl, fun x hx => runOf_eq_spaces.1 (h x hx).1⟩

/-- Characters that single quotes can hold, and that are read as they are. -/
def Quotable (text : List Char) : Prop := ∀ x ∈ text, isSpecial x = false ∧ x.toNat ≠ 0x85

/-- A run is read as it was written, whatever stands behind it if it is a word, and in front of what
is no blank otherwise. -/
theorem reads_singleRun (hcolumn : column ≠ 0) (hrun : IsRun kind run) (hne : kind ≠ .word → run ≠ [])
    (hq : Quotable run)
    (hfold : kind = .spaces → o.fresh = true → column < o.column) (split : Bool) (start : Nat)
    (next : Option Char) :
    ∃ zs, o.Adds zs (singleRun column split o kind start run next) ∧ (kind = .word → zs = run) ∧
      ∀ after text d, (kind ≠ .word → Solid after) →
        ReadsQuoted false ((singleRun column split o kind start run next).before after) text d →
        ReadsQuoted false (o.before (zs ++ after)) (run ++ text) d := by
  cases kind with
  | word =>
    refine ⟨run, adds_put o run, fun _ => rfl, fun after text d _ h => ?_⟩
    exact .chars (fun x hx => inner_of_word (hq x hx).1 (hrun x hx).1 (hrun x hx).2) h
  | spaces =>
    simp only [singleRun]
    split
    next hcond =>
      simp only [Bool.and_eq_true, decide_eq_true_eq] at hcond
      have hindent : o.indent column = _ := indent_breaks (by
        by_cases hfresh : o.fresh = true
        · exact .inr (.inl (hfold rfl hfresh))
        · exact .inl (by simpa using hfresh))
      rw [hindent]
      refine ⟨'\n' :: List.replicate column ' ', (adds_breakWith o '\n').trans (adds_put _ _), nofun,
        fun after text d hsolid h => ?_⟩
      have hspace : run = [' '] := by
        rw [hrun.eq_spaces, hcond.1.1.1.1]
        rfl
      rw [hspace]
      exact .fold hcolumn (hsolid nofun) h
    next =>
      refine ⟨run, adds_put o run, nofun, fun after text d hsolid h => ?_⟩
      rw [hrun.eq_spaces] at h ⊢
      exact .spaces (hsolid nofun) h
  | breaks =>
    have hne := hne nofun
    have hkept : ∀ x ∈ run, KeptBreak x := fun x hx =>
      ⟨runOf_eq_breaks.1 (hrun x hx).1, (hq x hx).2⟩
    simp only [singleRun]
    generalize ho : (if run.head? = some '\n' then o.endLine else o) = p
    have hindent : (p.lineBreaks run).indent column = _ :=
      indent_stays (lineBreaks_fresh hne p) (.inl (by rw [lineBreaks_column hne]; omega))
    rw [hindent, lineBreaks_column hne, Nat.sub_zero]
    have hfeed : o.Adds (if run.head? = some '\n' then ['\n'] else []) p := by
      rw [← ho]
      split
      · exact adds_breakWith o '\n'
      · exact .refl o
    refine ⟨_, hfeed.trans ((adds_lineBreaks p run).trans (adds_put _ _)), nofun,
      fun after text d hsolid h => ?_⟩
    rw [List.append_assoc, List.append_assoc]
    refine .breaks hkept hne hcolumn (hsolid nofun) ?_
    rw [ho]
    exact h

/-- Where the line has come to in front of a run: past the column, if nothing of weight stands on
it. -/
def Ahead (column : Nat) (o : Out) (kind : Run) (run : List Char) : Prop :=
  kind ≠ .breaks → o.fresh = true → column < o.column + if kind = .word then run.length else 0

theorem singleRun_ahead (h : Ahead column o kind run) (split : Bool) (start : Nat)
    (next : Option Char) : ((singleRun column split o kind start run next).fresh = true →
      column ≤ (singleRun column split o kind start run next).column) ∧
    (kind = .word → (singleRun column split o kind start run next).fresh = true →
      column < (singleRun column split o kind start run next).column) := by
  cases kind with
  | word =>
    have h : o.fresh = true → column < o.column + run.length := h nofun
    exact ⟨fun hfresh => Nat.le_of_lt (h hfresh), fun _ => h⟩
  | spaces =>
    have h : o.fresh = true → column < o.column := h nofun
    simp only [singleRun]
    refine ⟨?_, nofun⟩
    split
    · exact fun _ => (indent_column o column).ge
    · exact fun hfresh => Nat.le_add_right_of_le (Nat.le_of_lt (h hfresh))
  | breaks =>
    simp only [singleRun]
    exact ⟨fun _ => (indent_column _ column).ge, nofun⟩

/-- Spaces and breaks do not stand side by side. -/
def Unmixed (x y : Char) : Prop := runOf x = .word ∨ runOf y = .word ∨ runOf x = runOf y

/-- A run that is no word ends in front of a word. -/
theorem runOf_next (hrun : IsRun kind run) (hne : run ≠ []) (hword : kind ≠ .word)
    (hchain : (run ++ x :: rest).IsChain Unmixed) (hx : runOf x ≠ kind) : runOf x = .word := by
  have hlast := (List.isChain_append.1 hchain).2.2 (run.getLast hne)
    (List.getLast?_eq_some_getLast hne ▸ rfl) x rfl
  have hkind := (hrun _ (List.getLast_mem hne)).1
  rcases hlast with h | h | h
  · exact absurd (hkind.symm.trans h) hword
  · exact h
  · exact absurd (h.symm.trans hkind) hx

theorem reads_singleFrom (hcolumn : column ≠ 0) (split : Bool) (o : Out) (kind : Run) (start : Nat)
    (run rest : List Char) (hrun : IsRun kind run) (hne : kind ≠ .word → run ≠ [])
    (hq : Quotable (run ++ rest))
    (hchain : (run ++ rest).IsChain Unmixed) (hahead : Ahead column o kind run) :
    ∃ zs, o.Adds zs (singleFrom column split o kind start run rest) ∧ (kind = .word → run <+: zs) ∧
      ∀ after, after.head? ≠ some '\'' →
        ReadsQuoted false (o.before (zs ++ '\'' :: after)) (run ++ rest)
          (((singleFrom column split o kind start run rest).put ['\'']).before after) := by
  induction rest generalizing o kind start run with
  | nil =>
    obtain ⟨zs, hadds, hstarts, hread⟩ := reads_singleRun hcolumn hrun hne
      (fun x hx => hq x (List.mem_append_left _ hx)) (fun hkind hfresh => by
        subst hkind
        exact hahead nofun hfresh) split start none
    refine ⟨zs, hadds, fun hkind => ⟨[], by rw [hstarts hkind, List.append_nil]⟩,
      fun after hafter => ?_⟩
    exact hread _ _ _ (fun _ => solid_cons rfl _) (readsQuoted_close hafter)
  | cons c rest ih =>
    have hrest : Quotable rest := fun x hx =>
      hq x (List.mem_append_right _ (List.mem_cons_of_mem _ hx))
    have hspecial := (hq c (List.mem_append_right _ List.mem_cons_self)).1
    have hstep := reads_singleRun hcolumn hrun hne (fun x hx => hq x (List.mem_append_left _ hx))
      (fun hkind hfresh => by
        subst hkind
        exact hahead nofun hfresh) split start (some c)
    have hnext := singleRun_ahead hahead split start (some c)
    simp only [singleFrom]
    generalize singleRun column split o kind start run (some c) = p at hstep hnext
    obtain ⟨zs, hadds, hstarts, hread⟩ := hstep
    by_cases hquote : c = '\''
    · -- the apostrophe is doubled, and a new word begins behind it
      subst hquote
      simp only [if_true]
      obtain ⟨ys, hadds', -, hread'⟩ := ih (p.put ['\'', '\'']) .word
        (start + run.length + 1) [] nofun (fun h => absurd rfl h) hrest
        (hchain.right_of_append.tail) fun _ hfresh => by
          have := hnext.1 hfresh
          simp
          omega
      refine ⟨zs ++ ('\'' :: '\'' :: ys), hadds.trans ((adds_put p _).trans hadds'), fun hkind => ?_,
        fun after hafter => ?_⟩
      · rw [hstarts hkind]
        exact List.prefix_append _ _
      · rw [List.append_assoc]
        exact hread _ _ _ (fun _ => solid_cons rfl _) (hread' after hafter).pair
    simp only [hquote, if_false]
    by_cases hkind : runOf c = kind
    · -- the run goes on
      simp only [hkind, if_true]
      have happend : run ++ c :: rest = (run ++ [c]) ++ rest := by simp
      obtain ⟨ys, hadds', hstarts', hread'⟩ := ih o kind start (run ++ [c])
        (fun x hx => by
          rcases List.mem_append.1 hx with hx | hx
          · exact hrun x hx
          · rw [List.mem_singleton.1 hx]
            exact ⟨hkind, hquote⟩)
        (fun _ => by simp) (happend ▸ hq) (happend ▸ hchain) fun hk hfresh => by
          have := hahead hk hfresh
          simp only [List.length_append, List.length_singleton]
          split at this <;> simp [*] <;> omega
      refine ⟨ys, hadds', fun hk => (List.prefix_append _ _).trans (hstarts' hk), fun after hafter => ?_⟩
      rw [happend]
      exact hread' after hafter
    · -- the run ends
      simp only [hkind, if_false]
      have hword : kind ≠ .word → runOf c = .word := fun hk =>
        runOf_next hrun (hne hk) hk hchain hkind
      obtain ⟨ys, hadds', hstarts', hread'⟩ := ih p (runOf c)
        (start + run.length) [c] (fun x hx => by
          rw [List.mem_singleton.1 hx]
          exact ⟨rfl, hquote⟩)
        (fun _ => by simp) (fun x hx => hq x (List.mem_append_right _ hx))
        (hchain.right_of_append) fun hk hfresh => by
          by_cases hk' : kind = .word
          · exact Nat.lt_add_right _ (hnext.2 hk' hfresh)
          · rw [if_pos (hword hk')]
            exact Nat.lt_succ_of_le (hnext.1 hfresh)
      refine ⟨zs ++ ys, hadds.trans hadds', fun hk => ?_, fun after hafter => ?_⟩
      · rw [hstarts hk]
        exact List.prefix_append _ _
      · rw [List.append_assoc]
        refine hread _ _ _ (fun hk => ?_) (hread' after hafter)
        obtain ⟨t, rfl⟩ := hstarts' (hword hk)
        exact solid_cons (not_blank_of_word hspecial (hword hk)) _

/-- What stands between an opening quote and a closing one is read as a scalar. -/
theorem quotedScalar_of_body (double : Bool) {sign : String} (hsign : sign.toList = [quoteSign double])
    {inner : Out} {zs : List Char} (hadds : (o.sign true sign false).Adds zs inner)
    (hread : ∀ after, after.head? ≠ some '\'' →
      ReadsQuoted double ((o.sign true sign false).before (zs ++ quoteSign double :: after)) text
        ((inner.put [quoteSign double]).before after)) :
    ∃ ys, o.Adds (List.replicate o.gap ' ' ++ quoteSign double :: ys) (inner.sign false sign false) ∧
      ∀ after, after.head? ≠ some '\'' →
        quotedScalar ((o.put (List.replicate o.gap ' ')).before (quoteSign double :: ys ++ after))
          = .ok (.ofList text, (inner.sign false sign false).before after) := by
  refine ⟨zs ++ [quoteSign double], ?_, fun after hafter => ?_⟩
  · have hall := (adds_sign o sign false).trans (hadds.trans (adds_sign_false inner sign false))
    rw [hsign] at hall
    simpa using hall
  · have hquote : ((o.put (List.replicate o.gap ' ')).before
        (quoteSign double :: (zs ++ quoteSign double :: after))).advance
        = (o.sign true sign false).before (zs ++ quoteSign double :: after) := by
      rw [before_sign, hsign]
      cases double <;> exact advance_put (by decide) (by decide) _ _
    rw [before_sign_false, hsign, List.cons_append, List.append_assoc]
    exact quotedScalar_of_reads rfl (hquote ▸ hread after hafter)

/-- A text in single quotes is read back. -/
theorem quotedScalar_singleOut (hcolumn : column ≠ 0) (hq : Quotable text)
    (hchain : text.IsChain Unmixed) (split : Bool) (o : Out) : ∃ zs,
    o.Adds (List.replicate o.gap ' ' ++ '\'' :: zs) (singleOut column split o text) ∧
      ∀ after, after.head? ≠ some '\'' →
        quotedScalar ((o.put (List.replicate o.gap ' ')).before ('\'' :: zs ++ after))
          = .ok (.ofList text, (singleOut column split o text).before after) := by
  have hfresh : ¬(o.sign true "'" false).fresh = true := by simp [Out.sign]
  obtain ⟨zs, hadds, -, hread⟩ := reads_singleFrom hcolumn split (o.sign true "'" false) .word 0 []
    text (List.forall_mem_nil _) (fun h => absurd rfl h) hq hchain fun _ h => absurd h hfresh
  exact quotedScalar_of_body false rfl hadds hread

/-! ## Double quotes -/

/-- Characters that stand for themselves in double quotes, spaces among them. -/
theorem inner_of_unescaped (hx : isUnescaped x = true) : x = ' ' ∨ Inner true x := by
  have hne : ∀ y, isUnescaped y = false → x ≠ y := by
    rintro y hy rfl
    rw [hx] at hy
    cases hy
  by_cases hspace : x = ' '
  · exact .inl hspace
  · refine .inr ⟨?_, hne _ (by decide), hne _ (by decide), fun _ => hne _ (by decide)⟩
    simp only [isUnescaped, Bool.and_eq_true, Bool.or_eq_true, decide_eq_true_eq] at hx
    simp [isBlankOrBreak, isSpaceOrBreak, isBreakOrEnd, isBreak, hspace, hne '\t' (by decide),
      hne endMark (by decide), hne '\n' (by decide), hne '\r' (by decide)]
    omega

/-- The backslash in front of a space that begins a line. -/
def spaceGuard (guarded : Bool) : List Char := if guarded then ['\\'] else []

theorem put_spaceGuard (o : Out) (guarded : Bool) :
    o.put (spaceGuard guarded) = if guarded then o.put ['\\'] else o := by
  cases guarded <;> rfl

/-- What is read but not written, with a backslash in front of it if it begins a line with a space. -/
theorem ReadsQuoted.flush {guarded : Bool} {p : Out} (hx : ∀ x ∈ run, isUnescaped x = true)
    (hguard : guarded = true → run.head? = some ' ') (hsolid : Solid rest)
    (h : ReadsQuoted true (((p.put (spaceGuard guarded)).put run).before rest) text d) :
    ReadsQuoted true (p.before (spaceGuard guarded ++ (run ++ rest))) (run ++ text) d := by
  have hinner : ∀ x ∈ run, x = ' ' ∨ Inner true x := fun x hm => inner_of_unescaped (hx x hm)
  cases guarded with
  | false =>
    show ReadsQuoted true (p.before (run ++ rest)) (run ++ text) d
    exact .run hinner hsolid h
  | true =>
    obtain ⟨xs, rfl⟩ := List.head?_eq_some_iff.1 (hguard rfl)
    have hread : Yaml.escape ((p.put ['\\']).before (' ' :: (xs ++ rest)))
        = .ok ([' '], ((p.put ['\\']).put [' ']).before (xs ++ rest)) := by
      unfold Yaml.escape
      have hshort : shortEscape? ' ' = some ' ' := by decide
      simp only [peek_before_cons, hshort, advance_put (c := ' ') (by decide) (by decide)]
    show ReadsQuoted true (p.before ('\\' :: ' ' :: (xs ++ rest))) ([' '] ++ (xs ++ text)) d
    refine ReadsQuoted.escape hread (by simp) ?_
    refine .run (fun x hm => hinner x (List.mem_cons_of_mem _ hm)) hsolid ?_
    rwa [← put_append]

/-- No line is broken twice at one place: no line is broken at all, the columns in front of the text
leave room, or no escape has a space behind it. -/
def Tame (column : Nat) (split : Bool) (xs : List Char) : Prop :=
  split = false ∨ column < lineWidth ∨
    hasPair (fun c => !isUnescaped c) (fun c => c == ' ') xs.dropLast = false

theorem Tame.tail (h : Tame column split (x :: rest)) : Tame column split rest := by
  refine h.imp id (Or.imp id fun h => ?_)
  match rest with
  | [] | [_] => rfl
  | y :: z :: rest =>
    simp only [List.dropLast_cons_cons, hasPair, Bool.or_eq_false_iff] at h
    simpa only [List.dropLast_cons_cons] using h.2

theorem escaped_head (x : Char) : ∃ ys, escaped x = '\\' :: ys := by
  obtain ⟨letters, h, -⟩ := escape_escaped x
  exact ⟨letters, h⟩

/-- A backslash, a break and the indentation: the text goes on as if nothing stood there. -/
theorem reads_lineEnd (hcolumn : column ≠ 0) (hfresh : o.fresh = false) (hsolid : Solid rest)
    (h : ReadsQuoted true ((((o.put ['\\']).indent column).weighty).before rest) text d) :
    ReadsQuoted true (o.before ('\\' :: '\n' :: (List.replicate column ' ' ++ rest))) text d := by
  have hindent : (o.put ['\\']).indent column = _ := indent_breaks (.inl hfresh)
  rw [hindent] at h
  exact .continued hcolumn hsolid h

theorem adds_lineEnd (hfresh : o.fresh = false) (xs : List Char) :
    o.Adds (xs ++ '\\' :: '\n' :: List.replicate column ' ')
      ((o.put (xs ++ ['\\'])).indent column).weighty := by
  have hindent : (o.put (xs ++ ['\\'])).indent column = _ := indent_breaks (.inl hfresh)
  rw [hindent]
  have hadds := (adds_put o (xs ++ ['\\'])).trans
    ((adds_breakWith _ '\n').trans (adds_put _ (List.replicate column ' ')))
  rw [List.append_cons]
  exact hadds

variable {first guarded : Bool} {p : Out}

theorem doubleFrom_unescaped (hx : isUnescaped x = true) :
    doubleFrom column split first o run (x :: rest) =
      if !first && !rest.isEmpty && (x = ' ' || run.isEmpty)
          && (lineWidth : Int) < (o.column : Int) + run.length && split then
        doubleFrom column split false
          (((o.put (run ++ ['\\'])).indent column).weighty.put (spaceGuard (x = ' '))) [x] rest
      else doubleFrom column split false o (run ++ [x]) rest := by
  simp [doubleFrom, hx, put_spaceGuard]

theorem doubleFrom_escaped (hx : isUnescaped x = false) :
    doubleFrom column split first o run (x :: rest) =
      if !first && !rest.isEmpty
          && (lineWidth : Int) < (((o.put run).put (escaped x)).column : Int) - 1 && split then
        doubleFrom column split false
          (((((o.put run).put (escaped x)).put ['\\']).indent column).weighty.put
            (spaceGuard (rest.head? = some ' '))) [] rest
      else doubleFrom column split false ((o.put run).put (escaped x)) [] rest := by
  have hhead : (rest.head?.getD endMark = ' ') = (rest.head? = some ' ') := by
    cases rest with
    | nil => simp [endMark]
    | cons y rest => simp
  simp [doubleFrom, hx, hhead, put_spaceGuard, Int.sub_eq_add_neg]

theorem solid_of_unescaped (hx : ∀ x ∈ run, isUnescaped x = true) (hhead : run.head? ≠ some ' ')
    (h : run = [] → Solid rest) : Solid (run ++ rest) := by
  cases run with
  | nil => exact h rfl
  | cons x xs =>
    rcases inner_of_unescaped (hx x List.mem_cons_self) with rfl | hinner
    · exact absurd rfl hhead
    · exact solid_cons hinner.1 _

theorem solid_escaped (x : Char) (rest : List Char) : Solid (escaped x ++ rest) := by
  obtain ⟨ys, h⟩ := escaped_head x
  rw [h]
  exact solid_cons rfl _

/-- From `p` and the backslash in front of a space that begins a line, what is written up to `e`
begins with `run` and is read as `text`. -/
def DoubleReads (guarded : Bool) (p : Out) (run text : List Char) (e : Out) : Prop :=
  ∃ zs, (p.put (spaceGuard guarded)).Adds zs e ∧ run <+: zs ∧
    (text.head? ≠ some ' ' → ∀ after, Solid (zs ++ '"' :: after)) ∧
    ∀ after, after.head? ≠ some '\'' →
      ReadsQuoted true (p.before (spaceGuard guarded ++ (zs ++ '"' :: after))) text
        ((e.put ['"']).before after)

namespace DoubleReads

variable {e : Out} {ys : List Char}

theorem of_prefix (h : DoubleReads guarded p ys text e) (hys : run <+: ys) :
    DoubleReads guarded p run text e := by
  obtain ⟨zs, hadds, hstarts, hread⟩ := h
  exact ⟨zs, hadds, hys.trans hstarts, hread⟩

/-- The text ends. -/
theorem close (hx : ∀ x ∈ run, isUnescaped x = true) (hguard : guarded = true → run.head? = some ' ') :
    DoubleReads guarded p run run ((p.put (spaceGuard guarded)).put run) := by
  refine ⟨run, adds_put _ run, List.prefix_rfl, fun hhead after => ?_, fun after hafter => ?_⟩
  · exact solid_of_unescaped hx hhead fun _ => solid_cons rfl _
  · have hread := ReadsQuoted.flush (p := p) hx hguard (solid_cons rfl _)
      (show ReadsQuoted true _ [] _ from readsQuoted_close hafter)
    rwa [List.append_nil] at hread

/-- An escape, and the text goes on. -/
theorem escape (hx : ∀ x ∈ run, isUnescaped x = true) (hguard : guarded = true → run.head? = some ' ')
    (h : DoubleReads false (((p.put (spaceGuard guarded)).put run).put (escaped x)) [] text e) :
    DoubleReads guarded p run (run ++ x :: text) e := by
  obtain ⟨zs, hadds, -, -, hread⟩ := h
  have hall := ((adds_put _ run).trans (adds_put _ (escaped x))).trans hadds
  rw [List.append_assoc] at hall
  refine ⟨_, hall, List.prefix_append _ _, fun hhead after => ?_, fun after hafter => ?_⟩
  · rw [List.append_assoc, List.append_assoc]
    refine solid_of_unescaped hx (fun hrun => hhead ?_) fun _ => solid_escaped x _
    rw [List.head?_append, hrun]
    rfl
  · rw [List.append_assoc, List.append_assoc]
    exact .flush hx hguard (solid_escaped x _) (.escaped (hread after hafter))

/-- The line ends, and the text goes on at the column, behind a backslash if it does so with a
space. -/
theorem lineEnd (hcolumn : column ≠ 0) (hfresh : p.fresh = false)
    (hx : ∀ x ∈ run, isUnescaped x = true) (hguard : guarded = true → run.head? = some ' ')
    (h : DoubleReads (text.head? = some ' ')
      (((p.put (spaceGuard guarded)).put (run ++ ['\\'])).indent column).weighty ys text e) :
    DoubleReads guarded p run (run ++ text) e := by
  obtain ⟨zs, hadds, -, hsolid, hread⟩ := h
  have hall := (adds_lineEnd (o := p.put (spaceGuard guarded)) hfresh run).trans
    ((adds_put _ _).trans hadds)
  rw [List.append_assoc] at hall
  refine ⟨_, hall, List.prefix_append _ _, fun hhead after => ?_, fun after hafter => ?_⟩
  · rw [List.append_assoc]
    refine solid_of_unescaped hx (fun hrun => hhead ?_) fun _ => solid_cons rfl _
    rw [List.head?_append, hrun]
    rfl
  · rw [List.append_assoc]
    refine .flush hx hguard (solid_cons rfl _) ?_
    simp only [List.cons_append, List.append_assoc]
    refine reads_lineEnd hcolumn hfresh ?_ (by rw [← put_append]; exact hread after hafter)
    by_cases hspace : text.head? = some ' '
    · rw [decide_eq_true hspace]
      exact solid_cons rfl _
    · rw [decide_eq_false hspace]
      exact hsolid hspace after

end DoubleReads

/-- Where the writing of a text has come to: `run` has been read but not written, behind `p` and the
backslash in front of a space that begins a line. -/
structure DoubleState (column : Nat) (split first guarded : Bool) (p : Out) (run rest : List Char) :
    Prop where
  unescaped : ∀ x ∈ run, isUnescaped x = true
  fresh : p.fresh = false
  guard : guarded = true → (run ++ rest).head? = some ' '
  /-- No line is broken twice at one place: there is room, or the space is the last character. -/
  room : guarded = true → run = [] →
    split = false ∨ (p.put (spaceGuard guarded)).column ≤ lineWidth ∨ rest.tail = []
  tame : Tame column split (if first then rest.tail else rest)

theorem reads_doubleFrom (hcolumn : column ≠ 0) (first guarded : Bool) (p : Out)
    (run rest : List Char) (h : DoubleState column split first guarded p run rest) :
    DoubleReads guarded p run (run ++ rest)
      (doubleFrom column split first (p.put (spaceGuard guarded)) run rest) := by
  induction rest generalizing run first guarded p with
  | nil =>
    have hguard := h.guard
    rw [List.append_nil] at hguard ⊢
    exact .close h.unescaped hguard
  | cons c rest ih =>
    have htame : Tame column split rest := by
      have htame := h.tame
      cases first with
      | true => exact htame
      | false => exact htame.tail
    have hguard : (guarded = true → run ≠ []) → guarded = true → run.head? = some ' ' := by
      intro hne hg
      obtain ⟨y, ys, rfl⟩ := List.exists_cons_of_ne_nil (hne hg)
      exact h.guard hg
    by_cases hc : isUnescaped c = true
    · rw [doubleFrom_unescaped hc]
      split
      next hcond =>
        -- the line ends in front of `c`
        simp only [Bool.and_eq_true, Bool.not_eq_true', List.isEmpty_eq_false_iff, decide_eq_true_eq]
          at hcond
        have hne : guarded = true → run ≠ [] := by
          rintro hg rfl
          rcases h.room hg rfl with hroom | hroom | hroom
          · exact Bool.false_ne_true (hroom.symm.trans hcond.2)
          · have hwidth := hcond.1.2
            simp only [List.length_nil] at hwidth
            omega
          · exact hcond.1.1.1.2 hroom
        have hread := ih false (decide (c = ' '))
          (((p.put (spaceGuard guarded)).put (run ++ ['\\'])).indent column).weighty [c]
          ⟨by simpa using hc, rfl, by simp, nofun, htame⟩
        exact .lineEnd hcolumn h.fresh h.unescaped (hguard hne) (by simpa using hread)
      next =>
        have hread := ih false guarded p (run ++ [c])
          ⟨by simpa [or_imp, forall_and, hc] using h.unescaped, h.fresh,
            List.append_cons run c rest ▸ h.guard, fun _ hnil => absurd hnil (by simp), htame⟩
        rw [← List.append_cons] at hread
        exact hread.of_prefix (List.prefix_append _ _)
    · have hescaped : isUnescaped c = false := by simpa using hc
      have hne : guarded = true → run ≠ [] := by
        rintro hg rfl
        obtain rfl : c = ' ' := Option.some.inj (h.guard hg)
        cases hescaped
      rw [doubleFrom_escaped hescaped]
      refine .escape h.unescaped (hguard hne) ?_
      split
      next hcond =>
        -- the line ends behind the escape
        simp only [Bool.and_eq_true, Bool.not_eq_true', List.isEmpty_eq_false_iff, decide_eq_true_eq]
          at hcond
        have hroom : rest.head? = some ' ' → split = false ∨ column < lineWidth ∨ rest.tail = [] := by
          intro hspace
          obtain ⟨ys, rfl⟩ := List.head?_eq_some_iff.1 hspace
          have htame' := h.tame
          rw [if_neg (by simp [hcond.1.1.1])] at htame'
          refine htame'.imp id (Or.imp id fun hpair => ?_)
          cases ys with
          | nil => rfl
          | cons y ys => simp [List.dropLast_cons_cons, hasPair, hescaped] at hpair
        have hread := ih false (decide (rest.head? = some ' '))
          (((((p.put (spaceGuard guarded)).put run).put (escaped c)).put ['\\']).indent column).weighty
          []
          ⟨nofun, rfl, by simp, fun hg _ => (hroom (of_decide_eq_true hg)).imp id
            (Or.imp (fun hlt => ?_) id), htame⟩
        · change DoubleReads false _ [] ([] ++ rest) _
          exact .lineEnd hcolumn h.fresh nofun nofun hread
        · rw [hg]
          exact Nat.succ_le_of_lt ((indent_column _ column).symm ▸ hlt)
      next =>
        exact ih false false (((p.put (spaceGuard guarded)).put run).put (escaped c)) []
          ⟨nofun, h.fresh, nofun, nofun, htame⟩

/-- A text in double quotes is read back. -/
theorem quotedScalar_doubleOut (hcolumn : column ≠ 0) (htame : Tame column split text.tail) (o : Out) :
    ∃ zs, o.Adds (List.replicate o.gap ' ' ++ '"' :: zs) (doubleOut column split o text) ∧
      ∀ after, after.head? ≠ some '\'' →
        quotedScalar ((o.put (List.replicate o.gap ' ')).before ('"' :: zs ++ after))
          = .ok (.ofList text, (doubleOut column split o text).before after) := by
  obtain ⟨zs, hadds, -, -, hread⟩ := reads_doubleFrom hcolumn true false (o.sign true "\"" false) [] text
    ⟨nofun, by simp [Out.sign], nofun, nofun, htame⟩
  exact quotedScalar_of_body true rfl hadds hread

end ModelSearch.Yaml
