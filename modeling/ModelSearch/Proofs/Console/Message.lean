import ModelSearch.Proofs.Console.Literal

/-!
# Messages behind a sign

A message in markup follows a sign in red.  The sign does not change whether the message can be
shown: its own closing tags have to close something.  A message that is literal is printed whole,
lines and blanks apart, if its words and blanks can stand on lines; and one that is printed whole is
literal.

    the message can be shown ↔ WellMarked xs                      (messageText_signed_isOk_iff)
    the message is printed whole → Literal xs                     (literal_of_messageText)
    Literal xs → the message is printed whole                     (messageText_of_literal)
-/

namespace ModelSearch.Console

open Text

variable {xs ys : List Char}

/-! ## Markup anywhere -/

theorem balanced_plain_iff {opened : List (List Char)} {text : List Char} {ps : List Piece} :
    Balanced opened (.plain text :: ps) ↔ Balanced opened ps := by
  refine ⟨fun h => ?_, .plain⟩
  cases h with
  | plain h => exact h

theorem balanced_tag_iff {opened : List (List Char)} {content : List Char} {position : Nat}
    {ps : List Piece} : Balanced opened (.tag content position :: ps) ↔
      ∃ left, Leaves content opened left ∧ Balanced left ps := by
  refine ⟨fun h => ?_, fun ⟨left, hl, h⟩ => .tag hl h⟩
  cases h with
  | tag hl h => exact ⟨_, hl, h⟩

theorem balanced_append_iff {opened : List (List Char)} {ps qs : List Piece}
    (h : ∀ p ∈ ps, ∃ text, p = .plain text) : Balanced opened (ps ++ qs) ↔ Balanced opened qs := by
  induction ps with
  | nil => rfl
  | cons p ps ih =>
    obtain ⟨⟨text, rfl⟩, hps⟩ := List.forall_mem_cons.1 h
    rw [List.cons_append, balanced_plain_iff, ih hps]

theorem plain_of_mem_flushed {held : List Char} {p : Piece} (h : p ∈ flushed held) :
    ∃ text, p = .plain text := by
  unfold flushed at h
  split at h
  · cases h
  · exact ⟨_, List.mem_singleton.1 h⟩

/-- Whether closing tags close something does not depend on where markup stands. -/
theorem balanced_pieces_iff {opened : List (List Char)} {m n : Nat} (hm : xs.length ≤ m)
    (hn : xs.length ≤ n) (position position' : Nat) (held held' : List Char) :
    Balanced opened (pieces position held m xs) ↔
      Balanced opened (pieces position' held' n xs) := by
  induction m generalizing opened n position position' held held' xs with
  | zero =>
    rw [List.length_eq_zero_iff.1 (Nat.le_zero.1 hm)]
    cases n <;> exact iff_of_true (balanced_flushed _ _) (balanced_flushed _ _)
  | succ m ih =>
    cases xs with
    | nil => cases n <;> exact iff_of_true (balanced_flushed _ _) (balanced_flushed _ _)
    | cons c cs =>
      obtain ⟨n, rfl⟩ := Nat.exists_eq_add_one.2 (Nat.zero_lt_of_lt hn)
      unfold pieces
      dsimp only
      cases htag : tagAt ((c :: cs).drop ((c :: cs).takeWhile (· = '\\')).length) with
      | none => exact ih (Nat.le_of_succ_le_succ hm) (Nat.le_of_succ_le_succ hn) _ _ _ _
      | some tag =>
        obtain ⟨content, rest⟩ := tag
        have hlen := congrArg List.length (eq_of_tagAt htag)
        simp only [List.length_drop, List.length_append, List.length_cons] at hlen hm hn
        have hrest : rest.length ≤ m ∧ rest.length ≤ n := by omega
        have hliteral : ∀ k held, ∀ p ∈ flushed held ++ (if k < 2 then [] else
            [Piece.plain (List.replicate (k / 2) '\\')]), ∃ text, p = .plain text := by
          intro k held p hp
          rcases List.mem_append.1 hp with hp | hp
          · exact plain_of_mem_flushed hp
          · split at hp
            · cases hp
            · exact ⟨_, List.mem_singleton.1 hp⟩
        dsimp only
        rw [balanced_append_iff (hliteral _ held), balanced_append_iff (hliteral _ held')]
        split
        · rw [balanced_plain_iff, balanced_plain_iff]
          exact ih hrest.1 hrest.2 _ _ _ _
        · rw [balanced_tag_iff, balanced_tag_iff]
          exact exists_congr fun left => and_congr_right fun _ => ih hrest.1 hrest.2 _ _ _ _

/-! ## Signs -/

theorem tagAt_cons_of_ne {c : Char} (h : c ≠ '[') (cs : List Char) : tagAt (c :: cs) = none := by
  unfold tagAt
  split
  next he => exact absurd (List.cons.inj he).1 h
  · rfl

theorem pieces_append {sign : List Char} (h : ∀ c ∈ sign, c ≠ '[' ∧ c ≠ '\\') (xs : List Char)
    (position fuel : Nat) (held : List Char) :
    pieces position held (sign.length + fuel) (sign ++ xs)
      = pieces (position + sign.length) (sign.reverse ++ held) fuel xs := by
  induction sign generalizing position held with
  | nil => simp
  | cons c cs ih =>
    obtain ⟨⟨hb, hs⟩, hcs⟩ := List.forall_mem_cons.1 h
    have hstep : pieces position held (cs.length + fuel + 1) (c :: (cs ++ xs))
        = pieces (position + 1) (c :: held) (cs.length + fuel) (cs ++ xs) := by
      rw [pieces]
      simp [hs, tagAt_cons_of_ne hb]
    rw [List.length_cons, Nat.add_right_comm, List.cons_append, hstep, ih hcs]
    simp [Nat.add_assoc, Nat.add_comm 1]

/-- A message behind a sign in red. -/
def signed (sign xs : List Char) : List Char :=
  '[' :: 'r' :: 'e' :: 'd' :: ']' :: (sign ++ '[' :: '/' :: 'r' :: 'e' :: 'd' :: ']' :: xs)

theorem tagAt_red (xs : List Char) :
    tagAt ('[' :: 'r' :: 'e' :: 'd' :: ']' :: xs) = some (['r', 'e', 'd'], xs) := by
  rfl

theorem tagAt_closeRed (xs : List Char) :
    tagAt ('[' :: '/' :: 'r' :: 'e' :: 'd' :: ']' :: xs) = some (['/', 'r', 'e', 'd'], xs) := by
  rfl

theorem renderPieces_red (ps : List Piece) (opened : List (List Char)) (position : Nat) :
    renderPieces opened (.tag ['r', 'e', 'd'] position :: ps)
      = renderPieces (normalName ['r', 'e', 'd'] :: opened) ps := by
  rfl

theorem renderPieces_closeRed (ps : List Piece) (opened : List (List Char)) (position : Nat) :
    renderPieces (normalName ['r', 'e', 'd'] :: opened) (.tag ['/', 'r', 'e', 'd'] position :: ps)
      = renderPieces opened ps := by
  have hstrip : strip ['r', 'e', 'd'] = ['r', 'e', 'd'] := by decide
  have hclose : close (normalName ['r', 'e', 'd']) (normalName ['r', 'e', 'd'] :: opened)
      = some opened := by
    rw [close, if_pos rfl]
  have hname : tagName ['/', 'r', 'e', 'd'] = ['/', 'r', 'e', 'd'] := rfl
  rw [renderPieces]
  simp only [hname, hstrip, hclose, List.isEmpty_cons, Bool.false_eq_true, if_false]

theorem pieces_of_tag {content rest : List Char} (h : tagAt xs = some (content, rest))
    (position fuel : Nat) (held : List Char) :
    pieces position held (fuel + 1) xs = flushed held
      ++ .tag content position :: pieces (position + (content.length + 2)) [] fuel rest := by
  have hxs := eq_of_tagAt h
  subst hxs
  have hrun : ('[' :: content ++ ']' :: rest).takeWhile (· = '\\') = [] := rfl
  rw [List.cons_append] at h hrun ⊢
  rw [pieces]
  simp [hrun, h]

theorem render_signed {sign : List Char} (hsign : ∀ c ∈ sign, c ≠ '[' ∧ c ≠ '\\')
    (xs : List Char) :
    ∃ position fuel, xs.length ≤ fuel ∧ render (signed sign xs)
      = (renderPieces [] (pieces position [] fuel xs)).map (plainPiece sign ++ ·) := by
  have hlen : (signed sign xs).length = sign.length + (xs.length + 9 + 1) + 1 := by
    simp only [signed, List.length_cons, List.length_append]
    omega
  refine ⟨0 + (3 + 2) + sign.length + (4 + 2), xs.length + 9, Nat.le_add_right _ _, ?_⟩
  rw [render, hlen, signed, pieces_of_tag (tagAt_red _), pieces_append hsign,
    pieces_of_tag (tagAt_closeRed xs)]
  show renderPieces [] (.tag ['r', 'e', 'd'] 0 :: _) = _
  rw [renderPieces_red, renderPieces_flushed, renderPieces_closeRed, List.append_nil,
    List.reverse_reverse]
  rfl

variable {sign : List Char}

theorem wellMarked_signed_iff (hsign : ∀ c ∈ sign, c ≠ '[' ∧ c ≠ '\\') :
    WellMarked (signed sign xs) ↔ WellMarked xs := by
  obtain ⟨position, fuel, hfuel, hr⟩ := render_signed hsign xs
  rw [← render_isOk_iff, hr, map_isOk_iff, renderPieces_isOk_iff]
  exact balanced_pieces_iff hfuel (Nat.le_refl _) _ _ _ _

theorem wellMarked_space_iff : WellMarked (' ' :: xs) ↔ WellMarked xs := by
  have hspace : pieces 0 [] (xs.length + 1) (' ' :: xs) = pieces 1 [' '] xs.length xs := by
    have hunmarked : ∀ c ∈ [' '], c ≠ '[' ∧ c ≠ '\\' := by simp
    rw [Nat.add_comm]
    exact pieces_append hunmarked xs 0 xs.length []
  rw [WellMarked, List.length_cons, hspace]
  exact balanced_pieces_iff (Nat.le_refl _) (Nat.le_refl _) _ _ _ _

/-- A literal message is shown behind its sign. -/
theorem render_signed_of_literal (hsign : ∀ c ∈ sign, c ≠ '[' ∧ c ≠ '\\') (h : Literal xs) :
    render (signed sign xs) = .ok (plainPiece sign ++ plainPiece xs) := by
  obtain ⟨position, fuel, hfuel, hr⟩ := render_signed hsign xs
  rw [hr, pieces_eq_flushed h.tag hfuel, ← List.append_nil (flushed _), renderPieces_flushed]
  simp [renderPieces, Except.map]

/-- A message that keeps its marks behind a sign is literal. -/
theorem literal_of_render_signed (hsign : ∀ c ∈ sign, c ≠ '[' ∧ c ≠ '\\')
    (hr : render (signed sign xs) = .ok ys) (hmarks : marks sign + marks xs ≤ marks ys) :
    Literal xs := by
  obtain ⟨position, fuel, hfuel, hsigned⟩ := render_signed hsign xs
  rw [hsigned, append_map_eq_ok] at hr
  obtain ⟨ws, hws, rfl⟩ := hr
  have hsignle := marks_plainPiece_le sign
  obtain ⟨-, hlt⟩ := marks_renderPieces hws
  rw [marks_append] at hmarks
  rw [marks_nil] at hlt
  have htag : ∀ zs, zs <:+ xs → tagAt zs = none := by
    intro zs hzs
    by_contra hne
    have := hlt hfuel zs hzs hne
    omega
  rw [pieces_eq_flushed htag hfuel, ← List.append_nil (flushed _), renderPieces_flushed,
    append_map_eq_ok] at hws
  obtain ⟨vs, hvs, rfl⟩ := hws
  cases hvs
  rw [List.append_nil, List.append_nil, List.reverse_reverse] at hmarks
  rcases plainPiece_cases xs with ⟨hplain, -⟩ | ⟨-, hfew⟩
  · exact { hplain with tag := htag }
  · omega

/-- A sign that markup shows as it is. -/
structure Sign (sign : List Char) : Prop where
  unmarked : ∀ c ∈ sign, c ≠ '[' ∧ c ≠ '\\'
  shown : plainPiece sign = sign
  upright : Upright true sign

theorem literal_space_iff : Literal (' ' :: xs) ↔ Literal xs := by
  have hwithin : ['\\', '['] <:+: ' ' :: xs ↔ ['\\', '['] <:+: xs := by
    rw [List.infix_cons_iff]
    exact or_iff_right fun ⟨rest, hrest⟩ => by cases hrest
  constructor
  · intro h
    exact { bracket := fun hb => h.bracket (hwithin.2 hb)
            emoji := h.emoji
            control := fun c hc => h.control c (List.mem_cons_of_mem ' ' hc)
            tag := fun zs hzs => h.tag zs (hzs.trans (List.suffix_cons ' ' xs)) }
  · intro h
    refine { bracket := fun hb => h.bracket (hwithin.1 hb)
             emoji := h.emoji
             control := List.forall_mem_cons.2 ⟨by decide, h.control⟩
             tag := fun zs hzs => ?_ }
    rcases List.suffix_cons_iff.1 hzs with rfl | hzs
    · rfl
    · exact h.tag zs hzs

/-! ## Printed messages -/

theorem ink_textOfLines (ls : List (List Char)) : ink (textOfLines ls).toList = ink ls.flatten := by
  rw [textOfLines, String.toList_ofList]
  induction ls with
  | nil => rfl
  | cons l ls ih =>
    have hend : ink ['\n'] = [] := by decide
    rw [List.flatMap_cons, ink_append, ink_append, hend, List.append_nil, ih, List.flatten_cons,
      ink_append]

theorem messageText_eq_ok_iff {s : String} :
    messageText (.ofList xs) = .ok s ↔
      ∃ ys, render xs = .ok ys ∧ s = textOfLines (wrap .ragged .fold consoleWidth ys) := by
  rw [messageText, String.toList_ofList]
  cases render xs <;> simp [Except.map, eq_comm]

/-- A message can be shown behind its sign exactly if it is well marked itself. -/
theorem messageText_signed_isOk_iff (hsign : Sign sign) (xs : List Char) :
    (∃ s, messageText (.ofList (signed sign (' ' :: xs))) = .ok s) ↔ WellMarked xs := by
  rw [messageText, String.toList_ofList, map_isOk_iff, render_isOk_iff,
    wellMarked_signed_iff hsign.unmarked, wellMarked_space_iff]

/-- A message that is printed whole is literal. -/
theorem literal_of_messageText (hsign : Sign sign) {s : String}
    (h : messageText (.ofList (signed sign xs)) = .ok s)
    (hwhole : ink s.toList = ink (sign ++ xs)) : Literal xs := by
  obtain ⟨ys, hr, rfl⟩ := messageText_eq_ok_iff.1 h
  refine literal_of_render_signed hsign.unmarked hr ?_
  have hsub := ink_wrap_sublist consoleWidth ys
  rw [← ink_textOfLines, hwhole] at hsub
  have hle := marks_le_of_sublist hsub
  rwa [marks_ink, marks_ink, marks_append] at hle

/-- A literal message is printed whole if it can stand on lines. -/
theorem messageText_of_literal (hsign : Sign sign) (h : Literal xs)
    (hup : Upright true (sign ++ withoutControls xs)) :
    ∃ s, messageText (.ofList (signed sign xs)) = .ok s ∧ ink s.toList = ink (sign ++ xs) := by
  have hr := render_signed_of_literal hsign.unmarked h
  refine ⟨_, messageText_eq_ok_iff.2 ⟨_, hr, rfl⟩, ?_⟩
  rcases plainPiece_cases xs with ⟨-, hplain, hink⟩ | ⟨hn, -⟩
  · rw [hsign.shown, ink_textOfLines]
    rw [hplain] at hink ⊢
    rw [ink_wrap (by decide) hup, ink_append, ink_append, hink]
  · exact absurd h.toPlain hn

end ModelSearch.Console
