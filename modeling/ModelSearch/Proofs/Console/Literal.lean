import ModelSearch.Proofs.Console.WellMarked
import ModelSearch.Proofs.Console.Wrapping

/-!
# Text that markup shows as it is

A text is literal in markup if it holds no tag, no backslash before a bracket, no name of an emoji
between colons and no control that is dropped and is no blank.  Markup loses some of the characters
that it works with, its marks, exactly where a text is not literal.

    plainPiece xs = xs without controls, if Plain xs; else it has fewer marks   (plainPiece_cases)
    what markup stands for has fewer marks than the markup, if a tag is in it (marks_renderPieces)
-/

namespace ModelSearch.Console

open Text

/-- The characters that mean something in markup, or that no console shows. -/
def markers : CharSet := [(0x07, 0x08), (0x3A, 0x3A), (0x5B, 0x5C)]

def marks (xs : List Char) : Nat := xs.countP markers.has

/-- The names between colons.  Colons pair off from the left, and a blank parts them; `name` holds
what follows an open one, in reverse. -/
def namesIn (name : Option (List Char)) : List Char → List (List Char)
  | [] => []
  | c :: cs =>
    match name with
    | none => if c = ':' then namesIn (some []) cs else namesIn none cs
    | some n =>
      if c = ':' then n.reverse :: namesIn none cs
      else if isBlank c then namesIn none cs
      else namesIn (some (c :: n)) cs

/-- A text without what markup reads between tags, and without controls that are dropped. -/
structure Plain (xs : List Char) : Prop where
  bracket : ¬['\\', '['] <:+: xs
  emoji : ∀ n ∈ namesIn none xs, emojiText n = none
  control : ∀ c ∈ xs, c ≠ '\x07' ∧ c ≠ '\x08'

/-- A plain text without tags. -/
structure Literal (xs : List Char) : Prop extends Plain xs where
  tag : ∀ ys, ys <:+ xs → tagAt ys = none

variable {xs ys : List Char}

/-! ## Marks -/

@[simp] theorem marks_nil : marks [] = 0 := rfl

@[simp] theorem marks_append (xs ys : List Char) : marks (xs ++ ys) = marks xs + marks ys :=
  List.countP_append

/-- Whether a character is a marker, as a number. -/
def mark (c : Char) : Nat := if markers.has c then 1 else 0

@[simp] theorem marks_cons (c : Char) (cs : List Char) : marks (c :: cs) = mark c + marks cs := by
  rw [marks, List.countP_cons, Nat.add_comm]
  rfl

@[simp] theorem mark_colon : mark ':' = 1 := by decide

@[simp] theorem mark_bracket : mark '[' = 1 := by decide

@[simp] theorem mark_backslash : mark '\\' = 1 := by decide

@[simp] theorem marks_reverse (xs : List Char) : marks xs.reverse = marks xs := List.countP_reverse

theorem marks_le_of_sublist (h : xs.Sublist ys) : marks xs ≤ marks ys := h.countP_le

/-- A marker is no blank. -/
theorem marks_ink (xs : List Char) : marks (ink xs) = marks xs := by
  have hmarker : ∀ c, markers.has c = true → isBlank c = false := by
    intro c hc
    simp only [markers, CharSet.has, List.any_cons, List.any_nil, Bool.or_false, Bool.or_eq_true,
      Bool.and_eq_true, decide_eq_true_eq] at hc
    simp only [isBlank, blanks, CharSet.has, List.any_cons, List.any_nil, Bool.or_false,
      Bool.or_eq_false_iff, Bool.and_eq_false_iff, decide_eq_false_iff_not]
    omega
  rw [marks, ink, List.countP_filter]
  refine List.countP_congr fun c _ => ?_
  by_cases hc : markers.has c = true
  · simp [hc, hmarker c hc]
  · simp [hc]

/-! ## Emoji -/

theorem marks_emojiTable : ∀ e ∈ emojiTable, marks e.2 = 0 := by
  have hall : (emojiTable.all fun e => marks e.2 == 0) = true := by decide +kernel
  intro e he
  exact beq_iff_eq.1 (List.all_eq_true.1 hall e he)

theorem marks_emojiText {name text : List Char} (h : emojiText name = some text) :
    marks text = 0 := by
  unfold emojiText at h
  dsimp only at h
  obtain ⟨emoji, hemoji, rfl⟩ := Option.map_eq_some_iff.1 h
  obtain ⟨entry, hentry, rfl⟩ := Option.map_eq_some_iff.1 hemoji
  have htable := marks_emojiTable entry (List.mem_of_find?_eq_some hentry)
  have hselector : ∀ v ∈ emojiVariants, marks [v.2] = 0 := by decide
  rw [marks_append, htable, Nat.zero_add]
  cases hv : emojiVariants.findSome? fun v =>
      (cutSuffix v.1.toList name).map fun short => (short, [v.2]) with
  | none => rfl
  | some pair =>
    obtain ⟨v, hmem, hcut⟩ := List.exists_of_findSome?_eq_some hv
    obtain ⟨short, -, rfl⟩ := Option.map_eq_some_iff.1 hcut
    exact hselector v hmem

/-- What an open colon and a name behind it stand for until they are closed. -/
def heldName : Option (List Char) → List Char
  | none => []
  | some n => ':' :: n.reverse

/-- Each emoji takes the place of two colons. -/
theorem marks_withEmoji (name : Option (List Char)) (xs : List Char) :
    marks (withEmoji name xs) + (namesIn name xs).countP (fun n => (emojiText n).isSome)
      ≤ marks (heldName name ++ xs) := by
  induction xs generalizing name with
  | nil => cases name <;> simp [withEmoji, namesIn, heldName]
  | cons c cs ih =>
    have hnone := ih none
    simp only [heldName, List.nil_append] at hnone
    cases name with
    | none =>
      unfold withEmoji namesIn
      dsimp only
      split
      next hc =>
        subst hc
        exact ih (some [])
      next hc =>
        simp only [heldName, List.nil_append, marks_cons]
        omega
    | some n =>
      unfold withEmoji namesIn
      dsimp only [heldName]
      split
      next hc =>
        subst hc
        rw [List.countP_cons]
        cases he : emojiText n.reverse with
        | none =>
          simp only [Option.getD_none, Option.isSome_none, Bool.false_eq_true, if_false,
            List.cons_append, marks_append, marks_cons, marks_nil]
          omega
        | some text =>
          have htext := marks_emojiText he
          simp only [Option.getD_some, Option.isSome_some, if_true, htext, List.cons_append,
            marks_append, marks_cons, mark_colon]
          omega
      next hc =>
      split
      · simp only [List.cons_append, marks_cons, marks_append]
        omega
      · have h := ih (some (c :: n))
        simpa [heldName] using h

theorem withEmoji_eq {name : Option (List Char)}
    (h : ∀ n ∈ namesIn name xs, emojiText n = none) : withEmoji name xs = heldName name ++ xs := by
  induction xs generalizing name with
  | nil => cases name <;> simp [withEmoji, heldName]
  | cons c cs ih =>
    cases name with
    | none =>
      unfold namesIn at h
      unfold withEmoji
      dsimp only at h ⊢
      split at h
      next hc =>
        subst hc
        rw [if_pos rfl, ih h]
        rfl
      next hc =>
        rw [if_neg hc, ih h]
        rfl
    | some n =>
      unfold namesIn at h
      unfold withEmoji
      dsimp only at h ⊢
      split at h
      next hc =>
        subst hc
        obtain ⟨hn, hrest⟩ := List.forall_mem_cons.1 h
        rw [if_pos rfl, hn, ih hrest]
        simp [heldName]
      next hc =>
        rw [if_neg hc]
        split at h
        next hb =>
          rw [if_pos hb, ih h]
          simp [heldName]
        next hb =>
          rw [if_neg hb, ih h]
          simp [heldName]

/-- Text without names of emoji stays, and text with one loses marks. -/
theorem withEmoji_cases (xs : List Char) :
    ((∀ n ∈ namesIn none xs, emojiText n = none) ∧ withEmoji none xs = xs) ∨
      (¬∀ n ∈ namesIn none xs, emojiText n = none) ∧ marks (withEmoji none xs) < marks xs := by
  by_cases h : ∀ n ∈ namesIn none xs, emojiText n = none
  · exact .inl ⟨h, withEmoji_eq h⟩
  · refine .inr ⟨h, ?_⟩
    have hpos : 0 < (namesIn none xs).countP fun n => (emojiText n).isSome := by
      simp only [not_forall] at h
      obtain ⟨n, hn, hsome⟩ := h
      exact List.countP_pos_iff.2 ⟨n, hn, Option.isSome_iff_ne_none.2 hsome⟩
    have hle := marks_withEmoji none xs
    simp only [heldName, List.nil_append] at hle
    omega

/-! ## Plain pieces -/

/-- Text without backslashes before brackets stays, and text with one loses marks. -/
theorem unmarkBrackets_cases (xs : List Char) :
    (¬['\\', '['] <:+: xs ∧ unmarkBrackets xs = xs) ∨
      ['\\', '['] <:+: xs ∧ marks (unmarkBrackets xs) < marks xs := by
  induction xs using unmarkBrackets.induct with
  | case1 => exact .inl ⟨by simp, rfl⟩
  | case2 cs ih =>
    refine .inr ⟨⟨[], cs, rfl⟩, ?_⟩
    have hle : marks (unmarkBrackets cs) ≤ marks cs := by
      rcases ih with ⟨-, he⟩ | ⟨-, hlt⟩
      · rw [he]
      · exact Nat.le_of_lt hlt
    simp only [unmarkBrackets, marks_cons, mark_backslash]
    omega
  | case3 c cs hne ih =>
    have hcons : unmarkBrackets (c :: cs) = c :: unmarkBrackets cs := by
      rw [unmarkBrackets]
      exact hne
    have hwithin : ['\\', '['] <:+: c :: cs ↔ ['\\', '['] <:+: cs := by
      rw [List.infix_cons_iff]
      refine or_iff_right fun ⟨rest, hrest⟩ => ?_
      cases hrest
      exact hne rest rfl rfl
    rw [hwithin, hcons, marks_cons, marks_cons]
    rcases ih with ⟨hn, he⟩ | ⟨hi, hlt⟩
    · exact .inl ⟨hn, by rw [he]⟩
    · exact .inr ⟨hi, by omega⟩

/-- The controls that markup drops are blanks, but for two. -/
theorem isBlank_of_bannedControls {c : Char} (hbell : c ≠ '\x07') (hback : c ≠ '\x08')
    (hb : bannedControls.has c = true) : isBlank c = true := by
  have hne7 : c.toNat ≠ 7 := fun he => hbell (Char.toNat_inj.1 he)
  have hne8 : c.toNat ≠ 8 := fun he => hback (Char.toNat_inj.1 he)
  simp only [bannedControls, CharSet.has, List.any_cons, List.any_nil, Bool.or_false,
    Bool.or_eq_true, Bool.and_eq_true, decide_eq_true_eq] at hb
  refine List.any_eq_true.2 ⟨(0x09, 0x0D), List.mem_cons_self, ?_⟩
  simp only [Bool.and_eq_true, decide_eq_true_eq]
  omega

theorem ink_withoutControls (h : ∀ c ∈ xs, c ≠ '\x07' ∧ c ≠ '\x08') :
    ink (withoutControls xs) = ink xs := by
  rw [ink, withoutControls, List.filter_filter]
  refine List.filter_congr fun c hc => ?_
  obtain ⟨hbell, hback⟩ := h c hc
  cases hb : isBlank c with
  | true => rfl
  | false =>
    have hkept : bannedControls.has c = false := Bool.eq_false_iff.2 fun hbanned => by
      rw [isBlank_of_bannedControls hbell hback hbanned] at hb
      cases hb
    rw [hkept]
    rfl

theorem marks_withoutControls_lt {c : Char} (hc : c ∈ xs) (hcontrol : c = '\x07' ∨ c = '\x08') :
    marks (withoutControls xs) < marks xs := by
  have hdropped : markers.has c = true ∧ bannedControls.has c = true := by
    rcases hcontrol with rfl | rfl
    · decide
    · decide
  have hsum := List.countP_eq_countP_filter_add xs markers.has fun c => !bannedControls.has c
  have hpos : 0 < (xs.filter fun c => !!bannedControls.has c).countP markers.has :=
    List.countP_pos_iff.2 ⟨c, List.mem_filter.2 ⟨hc, by simpa using hdropped.2⟩, hdropped.1⟩
  simp only [marks, withoutControls]
  omega

/-- Text without controls that are no blanks keeps its ink, and text with one loses marks. -/
theorem withoutControls_cases (xs : List Char) :
    ((∀ c ∈ xs, c ≠ '\x07' ∧ c ≠ '\x08') ∧ ink (withoutControls xs) = ink xs) ∨
      (¬∀ c ∈ xs, c ≠ '\x07' ∧ c ≠ '\x08') ∧ marks (withoutControls xs) < marks xs := by
  by_cases h : ∀ c ∈ xs, c ≠ '\x07' ∧ c ≠ '\x08'
  · exact .inl ⟨h, ink_withoutControls h⟩
  · obtain ⟨c, hc, hcontrol⟩ : ∃ c ∈ xs, c = '\x07' ∨ c = '\x08' := by
      simpa [Decidable.or_iff_not_imp_left] using h
    exact .inr ⟨h, marks_withoutControls_lt hc hcontrol⟩

/-- A plain piece is shown but for controls, and any other loses marks. -/
theorem plainPiece_cases (xs : List Char) :
    (Plain xs ∧ plainPiece xs = withoutControls xs ∧ ink (plainPiece xs) = ink xs) ∨
      ¬Plain xs ∧ marks (plainPiece xs) < marks xs := by
  have hcontrols : ∀ zs, marks (withoutControls zs) ≤ marks zs := fun zs =>
    marks_le_of_sublist List.filter_sublist
  have hemoji : ∀ zs, marks (withEmoji none zs) ≤ marks zs := by
    intro zs
    rcases withEmoji_cases zs with ⟨-, he⟩ | ⟨-, hlt⟩
    · rw [he]
    · exact Nat.le_of_lt hlt
  unfold plainPiece
  rcases unmarkBrackets_cases xs with ⟨hbracket, he⟩ | ⟨hbracket, hlt⟩
  · rw [he]
    rcases withEmoji_cases xs with ⟨hnames, he⟩ | ⟨hnames, hlt⟩
    · rw [he]
      rcases withoutControls_cases xs with ⟨hcontrol, hink⟩ | ⟨hcontrol, hlt⟩
      · exact .inl ⟨⟨hbracket, hnames, hcontrol⟩, rfl, hink⟩
      · exact .inr ⟨fun h => hcontrol h.control, hlt⟩
    · exact .inr ⟨fun h => hnames h.emoji, Nat.lt_of_le_of_lt (hcontrols _) hlt⟩
  · refine .inr ⟨fun h => h.bracket hbracket, ?_⟩
    exact Nat.lt_of_le_of_lt (hcontrols _) (Nat.lt_of_le_of_lt (hemoji _) hlt)

theorem marks_plainPiece_le (xs : List Char) : marks (plainPiece xs) ≤ marks xs := by
  rcases plainPiece_cases xs with ⟨-, he, -⟩ | ⟨-, hlt⟩
  · rw [he]
    exact marks_le_of_sublist List.filter_sublist
  · exact Nat.le_of_lt hlt

/-! ## Tags -/

theorem eq_of_tagAt {content rest : List Char} (h : tagAt xs = some (content, rest)) :
    xs = '[' :: content ++ ']' :: rest := by
  unfold tagAt at h
  split at h
  next c cs =>
    have hparts := cutWhere_parts (fun d => d = '[' || d = ']') cs
    split at h
    · split at h
      next body after hcut =>
        cases h
        rw [hcut] at hparts
        rw [← hparts]
        rfl
      · cases h
    · cases h
  · cases h

/-- A run of backslashes, and what stands behind it. -/
theorem backslashes_append (xs : List Char) :
    xs = List.replicate (xs.takeWhile (· = '\\')).length '\\'
      ++ xs.drop (xs.takeWhile (· = '\\')).length := by
  have hrun : xs.takeWhile (· = '\\') = List.replicate (xs.takeWhile (· = '\\')).length '\\' :=
    List.eq_replicate_iff.2 ⟨rfl, fun c hc => by simpa using List.mem_takeWhile_imp hc⟩
  have hdrop : ∀ run rest, run ++ rest = xs → xs = run ++ xs.drop run.length := by
    rintro run rest rfl
    rw [List.drop_left]
  rw [← hrun]
  exact hdrop _ _ List.takeWhile_append_dropWhile

theorem append_map_eq_ok {x : Except MarkupFault (List Char)} {zs : List Char} :
    x.map (zs ++ ·) = .ok ys ↔ ∃ ws, x = .ok ws ∧ ys = zs ++ ws := by
  cases x <;> simp [Except.map, eq_comm]

theorem renderPieces_flushed (opened : List (List Char)) (held : List Char) (ps : List Piece) :
    renderPieces opened (flushed held ++ ps)
      = (renderPieces opened ps).map (plainPiece held.reverse ++ ·) := by
  unfold flushed
  split
  next h =>
    rw [List.isEmpty_iff.1 h]
    cases hr : renderPieces opened ps with
    | error e => rw [List.nil_append, hr]; rfl
    | ok ws => rw [List.nil_append, hr]; rfl
  · rfl

/-- Markup without tags is one piece. -/
theorem pieces_eq_flushed (h : ∀ ys, ys <:+ xs → tagAt ys = none) {fuel : Nat}
    (hfuel : xs.length ≤ fuel) (position : Nat) (held : List Char) :
    pieces position held fuel xs = flushed (xs.reverse ++ held) := by
  induction fuel generalizing xs position held with
  | zero =>
    rw [List.length_eq_zero_iff.1 (Nat.le_zero.1 hfuel)]
    rfl
  | succ fuel ih =>
    cases xs with
    | nil => rfl
    | cons c cs =>
      have hnone := h _ (List.drop_suffix ((c :: cs).takeWhile (· = '\\')).length (c :: cs))
      unfold pieces
      simp only [hnone]
      have hcs : ∀ ys, ys <:+ cs → tagAt ys = none := fun ys hys =>
        h ys (hys.trans (List.suffix_cons c cs))
      rw [ih hcs (Nat.le_of_succ_le_succ hfuel)]
      simp

/-- Where no tag starts behind its backslashes, a text itself starts no tag. -/
theorem tagAt_of_drop {c : Char} {cs : List Char}
    (h : tagAt ((c :: cs).drop ((c :: cs).takeWhile (· = '\\')).length) = none) :
    tagAt (c :: cs) = none := by
  by_cases hc : c = '\\'
  · subst hc
    rfl
  · simpa [hc] using h

theorem marks_renderPieces_flushed {opened : List (List Char)} {held : List Char}
    (h : renderPieces opened (flushed held) = .ok ys) : marks ys ≤ marks held := by
  rw [← List.append_nil (flushed held), renderPieces_flushed, append_map_eq_ok] at h
  obtain ⟨ws, hws, rfl⟩ := h
  cases hws
  rw [List.append_nil, ← marks_reverse held]
  exact marks_plainPiece_le _

theorem marks_backslashes (n : Nat) : marks (List.replicate n '\\') = n := by
  induction n with
  | zero => rfl
  | succ n ih => rw [List.replicate_succ, marks_cons, ih, mark_backslash, Nat.add_comm]

/-- Backslashes before a tag stand for half of them. -/
theorem marks_renderPieces_backslashes {opened : List (List Char)} {n : Nat} {ps : List Piece}
    (h : renderPieces opened ((if n < 2 then [] else [.plain (List.replicate (n / 2) '\\')]) ++ ps)
      = .ok ys) : ∃ us vs, ys = us ++ vs ∧ marks us ≤ n / 2 ∧ renderPieces opened ps = .ok vs := by
  by_cases hn : n < 2
  · rw [if_pos hn] at h
    exact ⟨[], ys, rfl, Nat.zero_le _, h⟩
  · rw [if_neg hn] at h
    obtain ⟨vs, hvs, rfl⟩ := append_map_eq_ok.1 h
    have hle := marks_plainPiece_le (List.replicate (n / 2) '\\')
    rw [marks_backslashes] at hle
    exact ⟨_, vs, rfl, hle, hvs⟩

/-- A tag gives up its bracket, or one of the backslashes before it. -/
theorem marks_renderPieces_tag {opened : List (List Char)} {content : List Char}
    {n position bound : Nat} {ps : List Piece}
    (hps : ∀ {left zs}, renderPieces left ps = .ok zs → marks zs ≤ bound)
    (h : renderPieces opened ((if n < 2 then [] else [.plain (List.replicate (n / 2) '\\')]) ++
      (if n % 2 = 1 then .plain ('[' :: content ++ [']']) else .tag content position) :: ps)
        = .ok ys) : marks ys < n + marks ('[' :: content ++ [']']) + bound := by
  obtain ⟨us, vs, rfl, hus, hvs⟩ := marks_renderPieces_backslashes h
  have hbracket : 0 < marks ('[' :: content ++ [']']) := by
    rw [List.cons_append, marks_cons, mark_bracket]
    omega
  rw [marks_append]
  split at hvs
  next hodd =>
    obtain ⟨zs, hzs, rfl⟩ := append_map_eq_ok.1 hvs
    have hle := hps hzs
    have hpiece := marks_plainPiece_le ('[' :: content ++ [']'])
    rw [marks_append]
    omega
  next heven =>
    obtain ⟨left, -, hzs⟩ := renderPieces_tag_eq_ok_iff.1 hvs
    have hle := hps hzs
    omega

/-- What markup stands for has no more marks than the markup, and less if a tag stands in it. -/
theorem marks_renderPieces {opened : List (List Char)} {position fuel : Nat} {held : List Char}
    (h : renderPieces opened (pieces position held fuel xs) = .ok ys) :
    marks ys ≤ marks held + marks xs ∧ (xs.length ≤ fuel → ∀ zs, zs <:+ xs → tagAt zs ≠ none →
      marks ys < marks held + marks xs) := by
  have hnil : ∀ {zs}, zs <:+ [] → tagAt zs ≠ none → False := by
    rintro zs hzs htag
    rw [List.suffix_nil.1 hzs] at htag
    exact htag rfl
  induction fuel generalizing opened position held xs ys with
  | zero =>
    refine ⟨Nat.le_trans (marks_renderPieces_flushed h) (Nat.le_add_right _ _), ?_⟩
    intro hfuel zs hzs htag
    rw [List.length_eq_zero_iff.1 (Nat.le_zero.1 hfuel)] at hzs
    exact (hnil hzs htag).elim
  | succ fuel ih =>
    cases xs with
    | nil => exact ⟨marks_renderPieces_flushed h, fun _ zs hzs htag => (hnil hzs htag).elim⟩
    | cons c cs =>
      unfold pieces at h
      dsimp only at h
      split at h
      next content rest htag =>
        have hrun := congrArg marks (backslashes_append (c :: cs))
        rw [eq_of_tagAt htag] at hrun
        generalize ((c :: cs).takeWhile (· = '\\')).length = n at h hrun
        suffices hfewer : marks ys < marks held + marks (c :: cs) from
          ⟨Nat.le_of_lt hfewer, fun _ _ _ _ => hfewer⟩
        rw [List.append_assoc, renderPieces_flushed, append_map_eq_ok] at h
        obtain ⟨ws, hws, rfl⟩ := h
        have hheld := marks_plainPiece_le held.reverse
        have htagged := marks_renderPieces_tag (fun hzs => (ih hzs).1) hws
        rw [marks_append, marks_backslashes, List.append_cons, marks_append] at hrun
        rw [marks_reverse] at hheld
        rw [marks_nil] at htagged
        rw [marks_append]
        omega
      next hnone =>
        obtain ⟨hle, hlt⟩ := ih h
        rw [marks_cons] at hle hlt ⊢
        refine ⟨by omega, fun hfuel zs hzs htag => ?_⟩
        rcases List.suffix_cons_iff.1 hzs with rfl | hzs
        · exact absurd (tagAt_of_drop hnone) htag
        · have := hlt (Nat.le_of_succ_le_succ hfuel) zs hzs htag
          omega

end ModelSearch.Console
