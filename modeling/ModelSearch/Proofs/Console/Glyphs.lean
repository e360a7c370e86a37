import Mathlib.Data.List.Induction
import ModelSearch.Console.Glyph

/-!
# Glyphs of joined texts

Reading a text loses no character, and a text that starts with a character of its own columns is
read behind another one, which does not end in a joiner, as it is read alone.  So columns add up
where such texts meet, and a run of the glyphs of a text is read as these glyphs again.

    the characters of ofText xs = xs                                     (flatMap_chars_ofText)
    columns (xs ++ ys) = columns xs + columns ys                         (columns_append)
    ofText (the characters of gs) = gs, for a run gs of ofText xs        (ofText_flatMap_chars)
-/

namespace ModelSearch.Console

namespace Glyph

/-- The reading of a text. -/
def read (xs : List Char) : Reading := xs.foldl Reading.add {}

/-- A text whose first character has columns, so that a glyph starts with it. -/
def Starts (xs : List Char) : Prop := ∃ c cs, xs = c :: cs ∧ 0 < charColumns c

variable {xs ys : List Char} {c : Char} {r : Reading}

theorem read_append_singleton (xs : List Char) (c : Char) : read (xs ++ [c]) = (read xs).add c := by
  rw [read, List.foldl_append]
  rfl

theorem Starts.append (h : Starts xs) (ys : List Char) : Starts (xs ++ ys) := by
  obtain ⟨c, cs, rfl, hc⟩ := h
  exact ⟨c, cs ++ ys, rfl, hc⟩

/-! ## One character -/

theorem Reading.add_of_columns (hj : r.joined = false) (hc : 0 < charColumns c) :
    r.add c = ⟨⟨[c], charColumns c⟩ :: r.glyphs, some c, false⟩ := by
  have hne : ∀ d, charColumns d = 0 → c ≠ d := by
    rintro d hd rfl
    omega
  have hjoiner : c ≠ joiner := hne joiner (by decide)
  have hselector : c ≠ emojiSelector := hne emojiSelector (by decide)
  obtain ⟨n, hn⟩ := Nat.exists_eq_add_one.2 hc
  simp only [add, hj, Bool.false_eq_true, if_false, hjoiner, hselector, hn]

theorem Reading.add_of_joined (hj : r.joined = true) (c : Char) :
    r.add c = ⟨extend r.glyphs c 0, r.base, false⟩ := by
  rw [add, if_pos hj]

theorem read_singleton (hc : 0 < charColumns c) :
    read [c] = ⟨[⟨[c], charColumns c⟩], some c, false⟩ :=
  Reading.add_of_columns (r := {}) rfl hc

/-- A character joins the glyph before it, and makes it wider once at most, or starts another one.
It does the same whatever glyphs there are, if there are any or if there are none. -/
theorem Reading.add_cases (r : Reading) (c : Char) :
    (∃ more base joined, (more = 0 ∧ base = r.base ∨ more = 1 ∧ r.base ≠ none ∧ base = none) ∧
      (c ≠ joiner → joined = false) ∧ ∀ gs, gs.isEmpty = r.glyphs.isEmpty →
        Reading.add ⟨gs, r.base, r.joined⟩ c = ⟨extend gs c more, base, joined⟩) ∨
      r.joined = false ∧ 0 < charColumns c := by
  obtain ⟨hs, base, joined⟩ := r
  dsimp only
  by_cases hj : joined = true
  · exact .inl ⟨0, base, false, .inl ⟨rfl, rfl⟩, fun _ => rfl, fun gs _ => by simp [add, hj]⟩
  have hjoined := Bool.eq_false_iff.2 hj
  by_cases hjoiner : c = joiner
  · exact .inl ⟨0, base, !hs.isEmpty, .inl ⟨rfl, rfl⟩, fun h => absurd hjoiner h, fun gs hgs => by
      simp [add, hj, hjoiner, hgs]⟩
  by_cases hselector : c = emojiSelector
  · have hne : emojiSelector ≠ joiner := by decide
    cases base with
    | none =>
      exact .inl ⟨0, none, joined, .inl ⟨rfl, rfl⟩, fun _ => hjoined, fun gs _ => by
        simp [add, hj, hselector, hne]⟩
    | some b =>
      by_cases hb : emojiBases.has b = true
      · exact .inl ⟨1, none, joined, .inr ⟨rfl, nofun, rfl⟩, fun _ => hjoined, fun gs _ => by
          simp [add, hj, hselector, hne, hb]⟩
      · exact .inl ⟨0, some b, joined, .inl ⟨rfl, rfl⟩, fun _ => hjoined, fun gs _ => by
          simp [add, hj, hselector, hne, hb]⟩
  · cases hc : charColumns c with
    | zero =>
      exact .inl ⟨0, base, joined, .inl ⟨rfl, rfl⟩, fun _ => hjoined, fun gs _ => by
        simp [add, hj, hjoiner, hselector, hc]⟩
    | succ n => exact .inr ⟨hjoined, Nat.succ_pos n⟩

/-- Only a joiner joins what follows. -/
theorem Reading.joined_add (hc : c ≠ joiner) (r : Reading) : (r.add c).joined = false := by
  rcases r.add_cases c with ⟨more, base, joined, -, hjoined, hadd⟩ | ⟨hj, hc⟩
  · rw [hadd r.glyphs rfl]
    exact hjoined hc
  · rw [add_of_columns hj hc]

theorem flatMap_chars_extend (gs : List Glyph) (c : Char) (more : Nat) :
    (extend gs c more).reverse.flatMap (·.chars) = gs.reverse.flatMap (·.chars) ++ [c] := by
  cases gs with
  | nil => rfl
  | cons g gs => simp [extend]

theorem Reading.flatMap_chars_add (r : Reading) (c : Char) :
    (r.add c).glyphs.reverse.flatMap (·.chars) = r.glyphs.reverse.flatMap (·.chars) ++ [c] := by
  rcases r.add_cases c with ⟨more, base, joined, -, -, hadd⟩ | ⟨hj, hc⟩
  · rw [hadd r.glyphs rfl]
    exact flatMap_chars_extend r.glyphs c more
  · rw [add_of_columns hj hc]
    simp

/-- Reading a text loses no character. -/
theorem flatMap_chars_ofText (xs : List Char) : (ofText xs).flatMap (·.chars) = xs := by
  show (read xs).glyphs.reverse.flatMap (·.chars) = xs
  induction xs using List.reverseRecOn with
  | nil => rfl
  | append_singleton xs c ih => rw [read_append_singleton, Reading.flatMap_chars_add, ih]

/-! ## Texts that meet -/

/-- The glyphs before the last one stay as they are. -/
theorem foldl_add_append (gs rest : List Glyph) (hne : gs ≠ []) (base : Option Char)
    (joined : Bool) (xs : List Char) :
    ∃ gs' base' joined', xs.foldl Reading.add ⟨gs, base, joined⟩ = ⟨gs', base', joined'⟩ ∧
      xs.foldl Reading.add ⟨gs ++ rest, base, joined⟩ = ⟨gs' ++ rest, base', joined'⟩ := by
  induction xs generalizing gs base joined with
  | nil => exact ⟨gs, base, joined, rfl, rfl⟩
  | cons c cs ih =>
    obtain ⟨g, gs, rfl⟩ := List.exists_cons_of_ne_nil hne
    rw [List.foldl_cons, List.foldl_cons, List.cons_append]
    rcases Reading.add_cases ⟨g :: gs, base, joined⟩ c with
      ⟨more, base', joined', -, -, hadd⟩ | ⟨rfl, hc⟩
    · rw [hadd (g :: gs) rfl, hadd (g :: (gs ++ rest)) rfl]
      exact ih _ (List.cons_ne_nil _ _) base' joined'
    · rw [Reading.add_of_columns rfl hc, Reading.add_of_columns rfl hc]
      exact ih _ (List.cons_ne_nil _ _) (some c) false

/-- A text is read behind another one as it is read alone, unless a joiner or a mark joins them. -/
theorem read_append (hx : (read xs).joined = false) (hy : Starts ys) :
    read (xs ++ ys) = { read ys with glyphs := (read ys).glyphs ++ (read xs).glyphs } := by
  obtain ⟨c, cs, rfl, hc⟩ := hy
  obtain ⟨gs, base, joined, halone, hbehind⟩ :=
    foldl_add_append [⟨[c], charColumns c⟩] (read xs).glyphs (List.cons_ne_nil _ _) (some c) false
      cs
  have hread : read (c :: cs) = ⟨gs, base, joined⟩ := by
    rw [← halone, read, List.foldl_cons, Reading.add_of_columns rfl hc]
  have happend : read (xs ++ c :: cs) = ⟨gs ++ (read xs).glyphs, base, joined⟩ := by
    rw [← hbehind, read, List.foldl_append, List.foldl_cons, ← read, Reading.add_of_columns hx hc]
    rfl
  rw [happend, hread]

theorem joined_read_append (hx : (read xs).joined = false) (hy : Starts ys) :
    (read (xs ++ ys)).joined = (read ys).joined := by
  rw [read_append hx hy]

theorem ofText_append (hx : (read xs).joined = false) (hy : Starts ys) :
    ofText (xs ++ ys) = ofText xs ++ ofText ys := by
  show (read (xs ++ ys)).glyphs.reverse = (read xs).glyphs.reverse ++ (read ys).glyphs.reverse
  rw [read_append hx hy, List.reverse_append]

/-! ## Glyphs on their own -/

/-- A glyph that starts with a character that has columns and is read from its characters alone. -/
structure Whole (g : Glyph) : Prop where
  starts : Starts g.chars
  ofText_chars : ofText g.chars = [g]

/-- What follows the glyph does not join it. -/
def Closed (g : Glyph) : Prop := (read g.chars).joined = false

/-- Glyphs that are read again from their characters. -/
structure Readable (gs : List Glyph) : Prop where
  whole : ∀ g ∈ gs, Whole g
  closed : gs.Pairwise fun g _ => Closed g

theorem Readable.sublist {gs hs : List Glyph} (h : Readable gs) (hsub : hs.Sublist gs) :
    Readable hs :=
  ⟨fun g hg => h.whole g (hsub.subset hg), h.closed.sublist hsub⟩

/-- The last glyph of a text is read as the text is, and no mark joins the others. -/
theorem exists_last_glyph (h : Starts xs) :
    ∃ g rest, (read xs).glyphs = g :: rest ∧ Starts g.chars ∧
      read g.chars = { read xs with glyphs := [g] } ∧ ∀ f ∈ rest, Whole f ∧ Closed f := by
  obtain ⟨c, cs, rfl, hc⟩ := h
  induction cs using List.reverseRecOn with
  | nil =>
    have hread := read_singleton hc
    rw [hread]
    exact ⟨_, [], rfl, ⟨c, [], rfl, hc⟩, hread, nofun⟩
  | append_singleton cs d ih =>
    obtain ⟨g, rest, hglyphs, hstarts, hread, hrest⟩ := ih
    rw [← List.cons_append, read_append_singleton]
    cases hr : read (c :: cs) with
    | mk gs base joined =>
      rw [hr] at hglyphs hread
      subst hglyphs
      rcases Reading.add_cases ⟨g :: rest, base, joined⟩ d with
        ⟨more, base', joined', -, -, hadd⟩ | ⟨rfl, hd⟩
      · rw [hadd (g :: rest) rfl]
        refine ⟨_, rest, rfl, hstarts.append [d], ?_, hrest⟩
        rw [read_append_singleton, hread, hadd [g] rfl]
        rfl
      · rw [Reading.add_of_columns rfl hd]
        refine ⟨_, g :: rest, rfl, ⟨d, [], rfl, hd⟩, read_singleton hd, ?_⟩
        have hwhole : Whole g := ⟨hstarts, by rw [ofText, ← read, hread]; rfl⟩
        have hclosed : Closed g := by rw [Closed, hread]
        exact List.forall_mem_cons.2 ⟨⟨hwhole, hclosed⟩, hrest⟩

/-- The glyphs of a text are read again from their characters. -/
theorem readable_ofText (h : Starts xs) : Readable (ofText xs) := by
  obtain ⟨g, rest, hglyphs, hstarts, hread, hrest⟩ := exists_last_glyph h
  have hwhole : Whole g := ⟨hstarts, by rw [ofText, ← read, hread]; rfl⟩
  rw [ofText, ← read, hglyphs]
  constructor
  · intro f hf
    rcases List.mem_cons.1 (List.mem_reverse.1 hf) with rfl | hf
    · exact hwhole
    · exact (hrest f hf).1
  · rw [List.pairwise_reverse, List.pairwise_cons]
    exact ⟨fun f hf => (hrest f hf).2,
      List.pairwise_of_forall_mem_list fun _ _ f hf => (hrest f hf).2⟩

theorem ofText_flatMap_chars {gs : List Glyph} (h : Readable gs) :
    ofText (gs.flatMap (·.chars)) = gs := by
  induction gs with
  | nil => rfl
  | cons g gs ih =>
    have hmore := h.sublist (List.sublist_cons_self g gs)
    have hg := h.whole g List.mem_cons_self
    rw [List.flatMap_cons]
    cases gs with
    | nil => rw [List.flatMap_nil, List.append_nil, hg.ofText_chars]
    | cons f fs =>
      have hclosed : Closed g := (List.pairwise_cons.1 h.closed).1 f List.mem_cons_self
      have hstarts : Starts ((f :: fs).flatMap (·.chars)) := by
        rw [List.flatMap_cons]
        exact (hmore.whole f List.mem_cons_self).starts.append _
      rw [ofText_append hclosed hstarts, hg.ofText_chars, ih hmore]
      rfl

/-! ## Columns of glyphs -/

/-- The columns of glyphs together. -/
def total : List Glyph → Nat
  | [] => 0
  | g :: gs => g.columns + total gs

@[simp] theorem total_nil : total [] = 0 := rfl

@[simp] theorem total_cons (g : Glyph) (gs : List Glyph) : total (g :: gs) = g.columns + total gs :=
  rfl

@[simp] theorem total_append (fs gs : List Glyph) : total (fs ++ gs) = total fs + total gs := by
  induction fs with
  | nil => exact (Nat.zero_add _).symm
  | cons f fs ih => rw [List.cons_append, total_cons, total_cons, ih, Nat.add_assoc]

theorem total_extend (gs : List Glyph) (c : Char) (more : Nat) :
    total (extend gs c more).reverse = total gs.reverse + more := by
  cases gs with
  | nil => simp [extend]
  | cons g gs =>
    simp only [extend, List.reverse_cons, total_append, total_cons, total_nil]
    omega

theorem charColumns_le (c : Char) : charColumns c ≤ 2 := by
  unfold charColumns
  repeat' split
  all_goals decide

/-- No glyph has more than three columns, and the last one has one left for its emoji form.  Only
the first glyph may have none. -/
structure Reading.Sized (r : Reading) : Prop where
  most : ∀ g ∈ r.glyphs, g.columns ≤ 3
  last : r.base ≠ none → ∀ g ∈ r.glyphs.head?, g.columns ≤ 2
  least : ∀ g ∈ r.glyphs.dropLast, 0 < g.columns

theorem Reading.Sized.add (h : r.Sized) (c : Char) : (r.add c).Sized := by
  have hmost := h.most
  have hlast := h.last
  have hleast := h.least
  rcases r.add_cases c with ⟨more, base, joined, hmore, -, hadd⟩ | ⟨hj, hc⟩
  · rw [hadd r.glyphs rfl]
    cases hg : r.glyphs with
    | nil =>
      have hone : more ≤ 1 := by omega
      refine ⟨?_, ?_, nofun⟩
      · simp only [extend, List.mem_singleton, forall_eq]
        omega
      · simp only [extend, List.head?_cons, Option.mem_def, Option.some.injEq, forall_eq']
        omega
    | cons g gs =>
      rw [hg] at hmost hlast hleast
      have hfirst : g.columns ≤ 3 := hmost g List.mem_cons_self
      have htwo : r.base ≠ none → g.columns ≤ 2 := fun hb => hlast hb g rfl
      refine ⟨?_, ?_, ?_⟩
      · refine List.forall_mem_cons.2 ⟨?_, fun f hf => hmost f (List.mem_cons_of_mem g hf)⟩
        rcases hmore with ⟨rfl, -⟩ | ⟨rfl, hb, -⟩
        · exact hfirst
        · exact Nat.succ_le_succ (htwo hb)
      · rcases hmore with ⟨rfl, rfl⟩ | ⟨-, -, rfl⟩
        · rintro hb f ⟨⟩
          exact htwo hb
        · exact fun hb => absurd rfl hb
      · cases gs with
        | nil => exact nofun
        | cons f fs =>
          obtain ⟨hpos, hrest⟩ := List.forall_mem_cons.1 hleast
          exact List.forall_mem_cons.2 ⟨Nat.add_pos_left hpos more, hrest⟩
  · rw [add_of_columns hj hc]
    have htwo := charColumns_le c
    refine ⟨List.forall_mem_cons.2 ⟨Nat.le_succ_of_le htwo, hmost⟩, ?_, ?_⟩
    · rintro - g ⟨⟩
      exact htwo
    · cases hg : r.glyphs with
      | nil => exact nofun
      | cons g gs =>
        rw [hg] at hleast
        exact List.forall_mem_cons.2 ⟨hc, hleast⟩

theorem sized_read (xs : List Char) : (read xs).Sized := by
  induction xs using List.reverseRecOn with
  | nil => exact ⟨nofun, nofun, nofun⟩
  | append_singleton xs c ih =>
    rw [read_append_singleton]
    exact ih.add c

theorem columns_le_of_mem_ofText {g : Glyph} (h : g ∈ ofText xs) : g.columns ≤ 3 :=
  (sized_read xs).most g (List.mem_reverse.1 h)

theorem columns_pos_of_mem_tail {g : Glyph} (h : g ∈ (ofText xs).tail) : 0 < g.columns := by
  rw [ofText, ← read, List.tail_reverse, List.mem_reverse] at h
  exact (sized_read xs).least g h

end Glyph

/-! ## Columns of texts -/

open Glyph

variable {xs ys : List Char}

theorem columns_eq_total (xs : List Char) : columns xs = total (ofText xs) := by
  rw [columns]
  induction ofText xs with
  | nil => rfl
  | cons g gs ih => rw [List.map_cons, List.sum_cons, ih, total_cons]

/-- Columns add up where texts meet. -/
theorem columns_append (hx : (read xs).joined = false) (hy : Starts ys) :
    columns (xs ++ ys) = columns xs + columns ys := by
  rw [columns_eq_total, ofText_append hx hy, total_append, columns_eq_total, columns_eq_total]

theorem columns_append_singleton (xs : List Char) (c : Char) :
    columns (xs ++ [c]) = total ((read xs).add c).glyphs.reverse := by
  rw [← read_append_singleton]
  exact columns_eq_total (xs ++ [c])

theorem columns_append_of_joined (hx : (read xs).joined = true) (c : Char) :
    columns (xs ++ [c]) = columns xs := by
  rw [columns_append_singleton, Reading.add_of_joined hx, total_extend]
  exact (columns_eq_total xs).symm

theorem columns_le_append (xs ys : List Char) : columns xs ≤ columns (xs ++ ys) := by
  induction ys using List.reverseRecOn with
  | nil => exact Nat.le_of_eq (congrArg columns (List.append_nil xs).symm)
  | append_singleton ys c ih =>
    have hread : columns (xs ++ ys) = total (read (xs ++ ys)).glyphs.reverse :=
      columns_eq_total (xs ++ ys)
    rw [← List.append_assoc, columns_append_singleton]
    refine Nat.le_trans (Nat.le_trans ih (Nat.le_of_eq hread)) ?_
    rcases (read (xs ++ ys)).add_cases c with ⟨more, base, joined, -, -, hadd⟩ | ⟨hj, hc⟩
    · rw [hadd _ rfl, total_extend]
      exact Nat.le_add_right _ more
    · rw [Reading.add_of_columns hj hc, List.reverse_cons, total_append]
      exact Nat.le_add_right _ _

end ModelSearch.Console
