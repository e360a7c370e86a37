import ModelSearch.Console.Table
import ModelSearch.Proofs.Steps

/-!
# Markup that can be shown

Markup stands for a text exactly if each of its closing tags closes something: the name that was
opened last, or the last one of its own name.  A table can be shown if its title and its cells can.

    render xs is a text ↔ WellMarked xs                                   (render_isOk_iff)
    t.text is a text ↔ the title and the cells of t are well marked         (text_isOk_iff)
-/

namespace ModelSearch.Console

open Text (strip)

/-! ## Closing tags -/

/-- The names that a tag leaves open of those that are: it opens one, or closes the one that was
opened last, or the last one of its own name. -/
inductive Leaves (content : List Char) (opened : List (List Char)) : List (List Char) → Prop where
  | opens : (tagName content).head? ≠ some '/' →
      Leaves content opened (normalName (tagName content) :: opened)
  | closesLast {name last : List Char} {left : List (List Char)} : tagName content = '/' :: name →
      strip name = [] → opened = last :: left → Leaves content opened left
  | closesNamed {name : List Char} {before after : List (List Char)} :
      tagName content = '/' :: name → strip name ≠ [] →
      opened = before ++ normalName (strip name) :: after → normalName (strip name) ∉ before →
      Leaves content opened (before ++ after)

/-- Pieces of markup whose closing tags all close something, while these names are open. -/
inductive Balanced : List (List Char) → List Piece → Prop where
  | nil {opened : List (List Char)} : Balanced opened []
  | plain {opened : List (List Char)} {text : List Char} {rest : List Piece} :
      Balanced opened rest → Balanced opened (.plain text :: rest)
  | tag {opened left : List (List Char)} {content : List Char} {position : Nat}
      {rest : List Piece} : Leaves content opened left → Balanced left rest →
      Balanced opened (.tag content position :: rest)

/-- Markup whose closing tags all close something. -/
def WellMarked (xs : List Char) : Prop := Balanced [] (pieces 0 [] xs.length xs)

/-- Closing a name takes out the last one of that name. -/
theorem close_eq_some_iff {name : List Char} {opened left : List (List Char)} :
    close name opened = some left ↔
      ∃ before after, opened = before ++ name :: after ∧ name ∉ before ∧ left = before ++ after := by
  induction opened generalizing left with
  | nil => simp [close]
  | cons n ns ih =>
    unfold close
    by_cases hn : n = name
    · rw [if_pos hn]
      constructor
      · rintro ⟨⟩
        exact ⟨[], ns, by rw [hn]; rfl, List.not_mem_nil, rfl⟩
      · rintro ⟨before, after, h, hb, rfl⟩
        cases before with
        | nil =>
          cases h
          rfl
        | cons b bs =>
          cases h
          exact absurd (hn ▸ List.mem_cons_self) hb
    · rw [if_neg hn, Option.map_eq_some_iff]
      constructor
      · rintro ⟨rest, hr, rfl⟩
        obtain ⟨before, after, rfl, hb, rfl⟩ := ih.1 hr
        refine ⟨n :: before, after, rfl, fun hm => ?_, rfl⟩
        rcases List.mem_cons.1 hm with rfl | hm
        · exact hn rfl
        · exact hb hm
      · rintro ⟨before, after, h, hb, rfl⟩
        cases before with
        | nil =>
          cases h
          exact absurd rfl hn
        | cons b bs =>
          cases h
          exact ⟨bs ++ after, ih.2 ⟨bs, after, rfl, fun hm => hb (List.mem_cons_of_mem _ hm), rfl⟩,
            rfl⟩

/-- A tag goes on with the names that it leaves open, or closes nothing. -/
theorem renderPieces_tag_eq_ok_iff {opened : List (List Char)} {content ys : List Char}
    {position : Nat} {rest : List Piece} :
    renderPieces opened (.tag content position :: rest) = .ok ys ↔
      ∃ left, Leaves content opened left ∧ renderPieces left rest = .ok ys := by
  constructor
  · intro h
    unfold renderPieces at h
    split at h
    next name hname =>
      dsimp only at h
      split at h
      next he =>
        split at h
        · cases h
        next last left => exact ⟨left, .closesLast hname (List.isEmpty_iff.1 he) rfl, h⟩
      next he =>
        split at h
        · cases h
        next left hc =>
          obtain ⟨before, after, ho, hb, rfl⟩ := close_eq_some_iff.1 hc
          exact ⟨_, .closesNamed hname (fun hs => he (List.isEmpty_iff.2 hs)) ho hb, h⟩
    next hname =>
      refine ⟨_, .opens fun hh => ?_, h⟩
      obtain ⟨name, hn⟩ := List.head?_eq_some_iff.1 hh
      exact hname name hn
  · rintro ⟨left, hl, h⟩
    unfold renderPieces
    cases hl with
    | opens hh =>
      split
      next name hname => exact absurd (by rw [hname]; rfl) hh
      · exact h
    | closesLast hname hs ho =>
      simp only [hname, hs, ho, List.isEmpty_nil, if_true]
      exact h
    | closesNamed hname hs ho hb =>
      have hc := close_eq_some_iff.2 ⟨_, _, ho, hb, rfl⟩
      simp only [hname, hc, List.isEmpty_eq_false_iff.2 hs, Bool.false_eq_true, if_false]
      exact h

theorem renderPieces_isOk_iff {opened : List (List Char)} {ps : List Piece} :
    (∃ ys, renderPieces opened ps = .ok ys) ↔ Balanced opened ps := by
  induction ps generalizing opened with
  | nil => exact iff_of_true ⟨[], rfl⟩ .nil
  | cons piece rest ih =>
    cases piece with
    | plain text =>
      unfold renderPieces
      rw [map_isOk_iff, ih]
      refine ⟨.plain, fun h => ?_⟩
      cases h with
      | plain h => exact h
    | tag content position =>
      simp only [renderPieces_tag_eq_ok_iff]
      constructor
      · rintro ⟨ys, left, hl, hr⟩
        exact .tag hl (ih.1 ⟨ys, hr⟩)
      · intro h
        cases h with
        | tag hl h =>
          obtain ⟨ys, hr⟩ := ih.2 h
          exact ⟨ys, _, hl, hr⟩

/-- Markup stands for a text exactly if it is well marked. -/
theorem render_isOk_iff {xs : List Char} : (∃ ys, render xs = .ok ys) ↔ WellMarked xs :=
  renderPieces_isOk_iff

/-! ## Plain text -/

theorem tagAt_of_notMem {xs : List Char} (h : '[' ∉ xs) : tagAt xs = none := by
  unfold tagAt
  split
  · exact absurd List.mem_cons_self h
  · rfl

theorem balanced_flushed (opened : List (List Char)) (held : List Char) :
    Balanced opened (flushed held) := by
  unfold flushed
  split
  · exact .nil
  · exact .plain .nil

/-- Without brackets there are no tags. -/
theorem balanced_pieces_of_notMem {opened : List (List Char)} {xs : List Char} (h : '[' ∉ xs)
    (position fuel : Nat) (held : List Char) : Balanced opened (pieces position held fuel xs) := by
  induction fuel generalizing xs held position with
  | zero =>
    unfold pieces
    exact balanced_flushed opened held
  | succ fuel ih =>
    cases xs with
    | nil =>
      unfold pieces
      exact balanced_flushed opened held
    | cons c cs =>
      unfold pieces
      have hdrop := tagAt_of_notMem fun hm =>
        h (List.mem_of_mem_drop (i := ((c :: cs).takeWhile (· = '\\')).length) hm)
      simp only [hdrop]
      exact ih (fun hm => h (List.mem_cons_of_mem c hm)) _ _

theorem wellMarked_of_notMem {xs : List Char} (h : '[' ∉ xs) : WellMarked xs :=
  balanced_pieces_of_notMem h 0 _ []

/-! ## Tables -/

/-- A table can be shown exactly if its title, its heads and its cells are well marked. -/
theorem Table.text_isOk_iff {t : Table} :
    (∃ s, t.text = .ok s) ↔ WellMarked t.title.toList ∧
      ∀ r ∈ t.heads :: t.rows, WellMarked r.1.toList ∧ WellMarked r.2.toList := by
  unfold Table.text Table.lines
  simp only [map_isOk_iff, bind_isOk_iff, ← render_isOk_iff, pure, Except.pure]
  constructor
  · rintro ⟨left, hl, right, hr, title, ht, -⟩
    refine ⟨⟨title, ht⟩, fun r hm => ⟨?_, ?_⟩⟩
    · exact mapM_isOk_iff.1 ⟨left, hl⟩ r hm
    · exact mapM_isOk_iff.1 ⟨right, hr⟩ r hm
  · rintro ⟨⟨title, ht⟩, hcells⟩
    obtain ⟨left, hl⟩ := mapM_isOk_iff.2 fun r hm => (hcells r hm).1
    obtain ⟨right, hr⟩ := mapM_isOk_iff.2 fun r hm => (hcells r hm).2
    exact ⟨left, hl, right, hr, title, ht, _, rfl⟩

end ModelSearch.Console
