import Mathlib.Data.List.GetD
import ModelSearch.Proofs.Yaml.NumberForms
import ModelSearch.Yaml.Scalar

/-!
# Plain scalars of one word

A number or a name stands in a document as it is.  It is one run of a plain scalar, which ends at
the colon behind a key or at the end of the line, whatever colons and dashes there are inside.

    plainScalar of a word and a colon = the word                                (plainScalar_key)
    plainScalar of a word on the last line = the word, with a break behind it  (plainScalar_last)
-/

namespace ModelSearch.Yaml

open Text (CharSet)

/-! ## Words -/

/-- A text that is a plain scalar by itself: a number or a name. -/
structure PlainWord (xs : List Char) : Prop where
  chars : ∀ c ∈ xs, numberChars.has c = true
  nonempty : xs ≠ []
  head : xs.head? ≠ some ':'
  last : xs.getLast? ≠ some ':'
  notDash : xs ≠ ['-']

/-- A number is one word, whatever its notation. -/
theorem NumberForm.plainWord {xs : List Char} (h : NumberForm xs) : PlainWord xs := by
  obtain ⟨sign, body, rfl, hsign, hbody⟩ := h
  obtain ⟨c, cs, rfl, hc⟩ := hbody.head
  have hdash : c ≠ '-' := by
    rcases hc with hc | rfl
    · rintro rfl
      cases hc
    · decide
  have hcolon : c ≠ ':' := by
    rcases hc with hc | rfl
    · rintro rfl
      cases hc
    · decide
  have hsigns : ∀ ys ∈ [[], ['-'], ['+']], ys.all numberChars.has = true ∧
      ys.head? ≠ some ':' := by decide
  refine ⟨fun d hd => ?_, by simp, ?_, ?_, ?_⟩
  · rcases List.mem_append.1 hd with hd | hd
    · exact List.all_eq_true.1 (hsigns sign hsign).1 d hd
    · exact hbody.chars d hd
  · cases hs : sign with
    | nil => simpa using hcolon
    | cons d ds => simpa [hs] using (hsigns sign hsign).2
  · rw [List.getLast?_append_of_ne_nil _ (List.cons_ne_nil c cs)]
    exact hbody.last
  · cases hs : sign with
    | nil => simp [hdash]
    | cons d ds => simp

theorem isBlankOrBreak_of_numberChars {c : Char} (h : numberChars.has c = true) :
    isBlankOrBreak c = false :=
  forall_numberChars (p := fun c => isBlankOrBreak c = false) (by decide +kernel) h

/-- Of the characters that numbers have, scanning looks at the dash and the colon only. -/
theorem ne_of_numberChars {c d : Char} (h : numberChars.has c = true)
    (hd : numberChars.has d = false) : c ≠ d := by
  rintro rfl
  rw [h] at hd
  cases hd

/-! ## Runs -/

/-- Characters that a plain scalar does not end among: no blanks, and no colon in front of what comes
next. -/
structure Unbroken (xs : List Char) : Prop where
  chars : ∀ c ∈ xs, isBlankOrBreak c = false
  last : xs.getLast? ≠ some ':'

theorem PlainWord.unbroken {xs : List Char} (h : PlainWord xs) : Unbroken xs :=
  ⟨fun c hc => isBlankOrBreak_of_numberChars (h.chars c hc), h.last⟩

/-- Characters of a line take a column each. -/
theorem forward_inline {xs : List Char} (h : ∀ c ∈ xs, isBreak c = false ∧ c ≠ byteOrderMark)
    (rest : List Char) (index line column : Nat) :
    (⟨xs ++ rest, index, line, column⟩ : Cursor).forward xs.length
      = ⟨rest, index + xs.length, line, column + xs.length⟩ := by
  induction xs generalizing index column with
  | nil => rfl
  | cons x xs ih =>
    obtain ⟨hbreak, hmark⟩ := h x List.mem_cons_self
    have hreturn : x ≠ '\r' := by
      rintro rfl
      cases hbreak
    have hadvance : (⟨x :: (xs ++ rest), index, line, column⟩ : Cursor).advance
        = ⟨xs ++ rest, index + 1, line, column + 1⟩ := by
      simp [Cursor.advance, hbreak, hreturn, hmark]
    rw [List.cons_append, List.length_cons, Cursor.forward, hadvance,
      ih (fun c hc => h c (List.mem_cons_of_mem _ hc)), Nat.add_right_comm, Nat.add_assoc,
      Nat.add_right_comm column, Nat.add_assoc column]

theorem PlainWord.inline {xs : List Char} (h : PlainWord xs) :
    ∀ c ∈ xs, isBreak c = false ∧ c ≠ byteOrderMark := fun c hc =>
  forall_numberChars (p := fun c => isBreak c = false ∧ c ≠ byteOrderMark) (by decide +kernel)
    (h.chars c hc)

/-- What ends a plain scalar in a block: a blank, or a colon in front of one. -/
def EndsPlain (rest : List Char) : Prop :=
  isBlankOrBreak (rest.getD 0 endMark) = true ∨
    (rest.getD 0 endMark = ':' ∧ isBlankOrBreak (rest.getD 1 endMark) = true)

variable {xs rest : List Char} {c : Cursor}

theorem plainGoesOn_block (c : Cursor) (n : Nat) : plainGoesOn false c n = true ↔
    isBlankOrBreak (c.peekAt n) = false ∧
      ¬(c.peekAt n = ':' ∧ isBlankOrBreak (c.peekAt (n + 1)) = true) := by
  simp only [plainGoesOn, Bool.false_and, Bool.or_false, Bool.not_eq_true', Bool.or_eq_false_iff,
    Bool.and_eq_false_iff, decide_eq_false_iff_not, not_and_or, Bool.not_eq_true]

/-- A plain scalar goes on to the end of its word: a colon in it has another character behind it. -/
theorem plainGoesOn_iff (h : Unbroken xs) (hrest : EndsPlain rest) (hc : c.rest = xs ++ rest)
    {n : Nat} (hn : n ≤ xs.length) : plainGoesOn false c n = true ↔ n < xs.length := by
  have hinside : ∀ i < xs.length, ∃ d ∈ xs, c.peekAt i = d := by
    intro i hi
    refine ⟨xs[i], List.getElem_mem hi, ?_⟩
    rw [Cursor.peekAt, hc, List.getD_append _ _ _ _ hi, List.getD_eq_getElem _ _ hi]
  rw [plainGoesOn_block]
  constructor
  · rintro ⟨hblank, hcolon⟩
    refine Nat.lt_of_le_of_ne hn fun heq => ?_
    have hbehind : ∀ i, c.peekAt (n + i) = rest.getD i endMark := by
      intro i
      rw [Cursor.peekAt, hc, heq, List.getD_append_right _ _ _ _ (Nat.le_add_right _ _),
        Nat.add_sub_cancel_left]
    rcases hrest with hx | ⟨hx, hnext⟩
    · rw [← hbehind 0, Nat.add_zero, hblank] at hx
      cases hx
    · exact hcolon ⟨(hbehind 0).trans hx, by rw [hbehind 1]; exact hnext⟩
  · intro hlt
    obtain ⟨d, hd, hpeek⟩ := hinside n hlt
    refine ⟨hpeek ▸ h.chars d hd, ?_⟩
    rintro ⟨hcolon, hnext⟩
    have hlast : n + 1 < xs.length := by
      refine Nat.lt_of_le_of_ne hlt fun heq => h.last ?_
      rw [List.getLast?_eq_getElem?, ← heq, Nat.add_sub_cancel, List.getElem?_eq_getElem hlt,
        ← hcolon, Cursor.peekAt, hc, List.getD_append _ _ _ _ hlt, List.getD_eq_getElem _ _ hlt]
    obtain ⟨e, he, hpeek'⟩ := hinside (n + 1) hlast
    rw [hpeek', h.chars e he] at hnext
    cases hnext

theorem plainRun_word (h : Unbroken xs) (hrest : EndsPlain rest) (hc : c.rest = xs ++ rest)
    {fuel n : Nat} (hn : n ≤ xs.length) (hfuel : xs.length < n + fuel) :
    plainRun false c fuel n = xs.length := by
  induction fuel generalizing n with
  | zero => omega
  | succ fuel ih =>
    unfold plainRun
    by_cases hlt : n < xs.length
    · rw [if_pos ((plainGoesOn_iff h hrest hc hn).2 hlt)]
      exact ih (by omega) (by omega)
    · rw [if_neg (fun hgo => hlt ((plainGoesOn_iff h hrest hc hn).1 hgo))]
      omega

/-- One run of a plain scalar, and what stands behind it. -/
theorem plainText_word (h : PlainWord xs) (hrest : EndsPlain rest) (least : Int)
    (index line column : Nat) {fuel : Nat} {blanks : List Char} {broke : Bool} {c : Cursor}
    (hblanks : plainBlanks ⟨rest, index + xs.length, line, column + xs.length⟩ = (blanks, broke, c))
    (hends : blanks = [] ∨ (c.column : Int) < least) :
    plainText false least (fuel + 1) ⟨xs ++ rest, index, line, column⟩ [] [] false
      = (xs, broke, c) := by
  have hlen : 0 < xs.length := List.length_pos_iff.2 h.nonempty
  have hpeek : (⟨xs ++ rest, index, line, column⟩ : Cursor).peek ≠ '#' := by
    obtain ⟨y, ys, rfl⟩ := List.exists_cons_of_ne_nil h.nonempty
    exact ne_of_numberChars (h.chars y List.mem_cons_self) rfl
  have hrun : plainRun false ⟨xs ++ rest, index, line, column⟩ ((xs ++ rest).length + 1) 0
      = xs.length :=
    plainRun_word h.unbroken hrest rfl (Nat.zero_le _) (by rw [List.length_append]; omega)
  unfold plainText
  rw [if_neg hpeek]
  simp only [hrun, Nat.ne_of_gt hlen, if_false, forward_inline h.inline, hblanks, List.take_left,
    List.nil_append]
  rw [if_pos]
  rcases hends with rfl | hlt
  · rfl
  · simp [hlt]

/-- A word in front of a colon. -/
theorem plainScalar_key (h : PlainWord xs) (indent : Int) {x : Char}
    (hx : isBlankOrBreak x = true) (rest : List Char) (index line column : Nat) :
    plainScalar false indent ⟨xs ++ ':' :: x :: rest, index, line, column⟩
      = (.ofList xs, false, ⟨':' :: x :: rest, index + xs.length, line, column + xs.length⟩) := by
  unfold plainScalar
  have hends : EndsPlain (':' :: x :: rest) := .inr ⟨rfl, hx⟩
  have hblanks : plainBlanks ⟨':' :: x :: rest, index + xs.length, line, column + xs.length⟩
      = ([], false, ⟨':' :: x :: rest, index + xs.length, line, column + xs.length⟩) := rfl
  rw [plainText_word h hends (indent + 1) index line column hblanks (.inl rfl)]

/-- A word at the end of the last line. -/
theorem plainScalar_last (h : PlainWord xs) {indent : Int} (hi : 0 ≤ indent)
    (index line column : Nat) :
    plainScalar false indent ⟨xs ++ ['\n'], index, line, column⟩
      = (.ofList xs, true, ⟨[], index + xs.length + 1, line + 1, 0⟩) := by
  have hblanks : plainBlanks ⟨['\n'], index + xs.length, line, column + xs.length⟩
      = ([' '], true, ⟨[], index + xs.length + 1, line + 1, 0⟩) := rfl
  unfold plainScalar
  have hends : ((0 : Nat) : Int) < indent + 1 := by omega
  rw [plainText_word h (.inl rfl) (indent + 1) index line column hblanks (.inr hends)]

end ModelSearch.Yaml
