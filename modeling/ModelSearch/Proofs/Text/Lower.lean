import Mathlib.Data.List.Infix
import ModelSearch.Text.Lower

/-!
# Lower case

A text of the ASCII range without capitals is its own lower case.  Other texts can be longer in
lower case, and what a sigma becomes depends on the letters around it.  An end without the
characters that only these two rules write is *steady*: it is the lower case of as many characters
of the text, wherever they stand.

    suf <:+ lower xs ↔ ∃ ys zs, xs = ys ++ zs ∧ lower zs = suf        (suffix_lower_iff)
-/

namespace ModelSearch.Text

/-! ## Texts that stay -/

/-- Characters of the ASCII range that are no capitals. -/
def IsLow (c : Char) : Prop := c.toNat < 128 ∧ ¬(65 ≤ c.toNat ∧ c.toNat ≤ 90)

theorem lower_of_isLow {xs : List Char} (h : ∀ c ∈ xs, IsLow c) : lower xs = xs := by
  have hafter : ∀ before, lowerAfter before xs = xs := by
    induction xs with
    | nil => exact fun before => rfl
    | cons c cs ih =>
      intro before
      obtain ⟨hascii, hcapital⟩ := h c List.mem_cons_self
      have hsigma : ¬c.toNat = 0x3A3 := by omega
      have hcapital' : (decide (65 ≤ c.toNat) && decide (c.toNat ≤ 90)) = false := by
        simp only [Bool.and_eq_false_iff, decide_eq_false_iff_not]
        omega
      simp [lowerAfter, hsigma, lowerChar, hascii, hcapital',
        ih fun d hd => h d (List.mem_cons_of_mem _ hd)]
  exact hafter []

/-! ## Ends that are steady -/

/-- A character that neither a sigma nor a dotted capital I leaves in lower case. -/
def Steady (c : Char) : Prop := c.toNat ≠ 0x3C2 ∧ c.toNat ≠ 0x3C3 ∧ c.toNat ≠ 0x307

instance (c : Char) : Decidable (Steady c) := inferInstanceAs (Decidable (_ ∧ _))

variable {xs : List Char} {before : List Char}

theorem lowerChar_cases (c : Char) : lowerChar c = ['i', .ofNat 0x307] ∨ ∃ d, lowerChar c = [d] := by
  unfold lowerChar
  dsimp only
  split
  · exact .inr ⟨_, rfl⟩
  · split
    · exact .inl rfl
    · split <;> exact .inr ⟨_, rfl⟩

/-- A character is written as one, the same wherever it stands, or ends with one that is not
steady. -/
theorem lowerAfter_cons_cases (c : Char) :
    (∃ d, ∀ before xs, lowerAfter before (c :: xs) = d :: lowerAfter (c :: before) xs) ∨
      ∀ before xs, ∃ ds u, ¬Steady u ∧
        lowerAfter before (c :: xs) = ds ++ u :: lowerAfter (c :: before) xs := by
  by_cases hc : c.toNat = 0x3A3
  · refine .inr fun before xs => ⟨[], _, ?_, by rw [lowerAfter, if_pos hc]; rfl⟩
    split <;> decide
  · rcases lowerChar_cases c with hi | ⟨d, hd⟩
    · refine .inr fun before xs => ⟨['i'], .ofNat 0x307, by decide, ?_⟩
      rw [lowerAfter, if_neg hc, hi]
      rfl
    · refine .inl ⟨d, fun before xs => ?_⟩
      rw [lowerAfter, if_neg hc, hd]
      rfl

theorem lower_eq_nil_iff : lower xs = [] ↔ xs = [] := by
  cases xs with
  | nil => simp [lower, lowerAfter]
  | cons c cs =>
    rcases lowerAfter_cons_cases c with ⟨d, hd⟩ | hu
    · simp [lower, hd]
    · obtain ⟨ds, u, -, heq⟩ := hu [] cs
      simp [lower, heq]

/-- A text whose lower case is steady has one character there for each of its own, and the same
wherever it stands. -/
theorem lowerAfter_of_steady (h : ∀ d ∈ lowerAfter before xs, Steady d) :
    (lowerAfter before xs).length = xs.length ∧
      ∀ other, lowerAfter other xs = lowerAfter before xs := by
  induction xs generalizing before with
  | nil => exact ⟨rfl, fun _ => rfl⟩
  | cons c cs ih =>
    rcases lowerAfter_cons_cases c with ⟨d, hd⟩ | hu
    · rw [hd] at h ⊢
      obtain ⟨hlength, hsame⟩ := ih fun e he => h e (List.mem_cons_of_mem _ he)
      refine ⟨by simp [hlength], fun other => ?_⟩
      rw [hd, hsame]
    · obtain ⟨ds, u, hu, heq⟩ := hu before cs
      exact absurd (h u (by simp [heq])) hu

theorem length_of_lower_eq {suf : List Char} (hs : ∀ c ∈ suf, Steady c) (h : lower xs = suf) :
    suf.length = xs.length := by
  subst h
  exact (lowerAfter_of_steady hs).1

theorem exists_lowerAfter_append (before xs ys : List Char) :
    ∃ ws, lowerAfter before (xs ++ ys) = ws ++ lowerAfter (xs.reverse ++ before) ys := by
  induction xs generalizing before with
  | nil => exact ⟨[], rfl⟩
  | cons c cs ih =>
    obtain ⟨ws, hws⟩ := ih (c :: before)
    have hrev : (c :: cs).reverse ++ before = cs.reverse ++ c :: before := by simp
    rw [List.cons_append, lowerAfter, hws, hrev]
    exact ⟨_, (List.append_assoc _ _ _).symm⟩

theorem exists_of_suffix_lowerAfter {suf : List Char} (hs : ∀ c ∈ suf, Steady c)
    (h : suf <:+ lowerAfter before xs) : ∃ ys zs, xs = ys ++ zs ∧ lower zs = suf := by
  induction xs generalizing before with
  | nil => exact ⟨[], [], rfl, (List.suffix_nil.1 h).symm⟩
  | cons c cs ih =>
    -- either the end is written of the other characters, or all of them and more are in it
    have hrest : lowerAfter (c :: before) cs <:+ lowerAfter before (c :: cs) := ⟨_, rfl⟩
    rcases Nat.lt_or_ge (lowerAfter (c :: before) cs).length suf.length with hlt | hle
    · rcases lowerAfter_cons_cases c with ⟨d, hd⟩ | hu
      · rw [hd] at h
        have hsuf : suf = lowerAfter before (c :: cs) := by
          rw [hd]
          exact h.eq_of_length_le hlt
        refine ⟨[], c :: cs, rfl, ?_⟩
        subst hsuf
        exact (lowerAfter_of_steady hs).2 []
      · obtain ⟨ds, u, hu, heq⟩ := hu before cs
        have hin : u :: lowerAfter (c :: before) cs <:+ suf :=
          List.suffix_of_suffix_length_le ⟨ds, heq.symm⟩ h hlt
        exact absurd (hs u (hin.subset List.mem_cons_self)) hu
    · obtain ⟨ys, zs, rfl, hzs⟩ := ih (List.suffix_of_suffix_length_le h hrest hle)
      exact ⟨c :: ys, zs, rfl, hzs⟩

/-- A steady end of a text in lower case is the lower case of an end of the text. -/
theorem suffix_lower_iff {suf : List Char} (hs : ∀ c ∈ suf, Steady c) :
    suf <:+ lower xs ↔ ∃ ys zs, xs = ys ++ zs ∧ lower zs = suf := by
  constructor
  · exact exists_of_suffix_lowerAfter hs
  · rintro ⟨ys, zs, rfl, rfl⟩
    obtain ⟨ws, hws⟩ := exists_lowerAfter_append [] ys zs
    rw [(lowerAfter_of_steady hs).2] at hws
    exact ⟨ws, hws.symm⟩

end ModelSearch.Text
