import ModelSearch.Proofs.Yaml.BlockSigns
import ModelSearch.Proofs.Yaml.DocTokens

/-!
# Documents that are read as they were laid out

What a text permits, by its analysis, is what the reader needs of it: a text that may be plain has no
signs, and one that may stand in single quotes has no spaces beside its breaks.  Two things are lost
all the same: a next line sign in single quotes, which is read as a line feed, and a space behind an
escape in double quotes that are indented by the whole width of a line.  A key in front of its colon
must not be longer than a reader remembers where it began.

    Sound d                        anchors, tags, blocks and keys as values are presented with them
    legible place column fresh d   nothing in the document is lost, and no key is too long
-/

namespace ModelSearch.Yaml

variable {xs : List Char} {text : String}

/-! ## What a text permits -/

/-- Characters of two kinds do not stand side by side, in either order. -/
theorem isChain_of_hasPair {p q : Char → Bool} (h : hasPair p q xs = false)
    (k : hasPair q p xs = false) :
    xs.IsChain fun a b => (p a && q b) = false ∧ (q a && p b) = false := by
  induction xs with
  | nil => exact .nil
  | cons a xs ih =>
    cases xs with
    | nil => exact .singleton a
    | cons b xs =>
      simp only [hasPair, Bool.or_eq_false_iff] at h k
      exact List.isChain_cons_cons.2 ⟨⟨h.1, k.1⟩, ih h.2 k.2⟩

theorem analyze_of_ne_nil (h : text.toList ≠ []) : analyze text =
    { empty := false
      multiline := text.toList.any isLineEnd
      plain := !(((text.toList.head?.map fun c => c == ' ' || isLineEnd c).getD false
          || (text.toList.getLast?.map fun c => c == ' ' || isLineEnd c).getD false)
        || hasPair isLineEnd (fun c => c == ' ') text.toList
        || (hasPair (fun c => c == ' ') isLineEnd text.toList || text.toList.any isSpecial)
        || text.toList.any isLineEnd || hasIndicator text.toList)
      singleQuoted := !(hasPair isLineEnd (fun c => c == ' ') text.toList
        || (hasPair (fun c => c == ' ') isLineEnd text.toList || text.toList.any isSpecial))
      block := !((text.toList.getLast?.map fun c => c == ' ').getD false
        || (hasPair (fun c => c == ' ') isLineEnd text.toList || text.toList.any isSpecial)) } := by
  unfold analyze
  rw [if_neg (by simpa using h)]

theorem analyze_empty (h : text.toList = []) : analyze text = ⟨true, false, true, true, false⟩ := by
  unfold analyze
  rw [if_pos (by simpa using h)]

theorem ne_nil_of_not_empty (h : (analyze text).empty = false) : text.toList ≠ [] := by
  intro hnil
  rw [analyze_empty hnil] at h
  cases h

theorem ne_nil_of_block (h : (analyze text).block = true) : text.toList ≠ [] := by
  intro hnil
  rw [analyze_empty hnil] at h
  cases h

theorem lineless_of_analyze (h : (analyze text).multiline = false) :
    ∀ x ∈ text.toList, isLineEnd x = false := by
  by_cases hnil : text.toList = []
  · rw [hnil]
    nofun
  · rw [analyze_of_ne_nil hnil] at h
    simpa using h

/-- Signs inside a text are signs behind a blank, but for those that the text begins with. -/
theorem hasInnerIndicator_of_hasIndicator (h : hasIndicator xs = false) :
    hasInnerIndicator ' ' xs = false := by
  cases xs with
  | nil => rfl
  | cons c rest =>
    simp only [hasIndicator, isLeadingIndicator, Bool.or_eq_false_iff] at h
    obtain ⟨⟨-, hsigns, hdash⟩, hinner⟩ := h
    have hcomment : c ≠ '#' := by
      rintro rfl
      cases hsigns
    rw [hasInnerIndicator, hinner, Bool.or_false, isInnerIndicator]
    by_cases hcolon : c = ':'
    · subst hcolon
      simp at hdash
      simp [hdash]
    · simp [hcolon, hcomment]

/-- A text that may be plain. -/
theorem signless_of_analyze (hne : text.toList ≠ []) (h : (analyze text).plain = true) :
    Signless text.toList := by
  rw [analyze_of_ne_nil hne] at h
  simp only [Bool.not_eq_true', Bool.or_eq_false_iff] at h
  obtain ⟨⟨⟨⟨⟨hhead, hlast⟩, -⟩, -, hspecial⟩, hlines⟩, hsigns⟩ := h
  rw [List.any_eq_false] at hspecial hlines
  refine ⟨⟨⟨fun x hx => ?_, hasInnerIndicator_of_hasIndicator hsigns, fun hx => ?_⟩, hne,
    fun hx => ?_⟩, hsigns⟩
  · by_cases hspace : x = ' '
    · exact .inl hspace
    · have hs : isSpecial x = false := by simpa using hspecial x hx
      exact .inr ⟨not_blank_of_word hs (runOf_eq_word.2 ⟨hspace, by simpa using hlines x hx⟩),
        ne_of_not_special hs (by decide)⟩
  · rw [hx] at hlast
    cases hlast
  · rw [hx] at hhead
    cases hhead

/-- A text that may stand in single quotes. -/
theorem unmixed_of_analyze (h : (analyze text).singleQuoted = true) :
    (∀ x ∈ text.toList, isSpecial x = false) ∧ text.toList.IsChain Unmixed := by
  by_cases hnil : text.toList = []
  · rw [hnil]
    exact ⟨nofun, .nil⟩
  rw [analyze_of_ne_nil hnil] at h
  simp only [Bool.not_eq_true', Bool.or_eq_false_iff] at h
  obtain ⟨hbreakSpace, hspaceBreak, hspecial⟩ := h
  refine ⟨fun x hx => by simpa using (List.any_eq_false.1 hspecial) x hx, ?_⟩
  refine (isChain_of_hasPair hbreakSpace hspaceBreak).imp fun a b hab => ?_
  by_cases ha : a = ' '
  · subst ha
    by_cases hb : b = ' '
    · exact .inr (.inr (by rw [hb]))
    · exact .inr (.inl (runOf_eq_word.2 ⟨hb, by simpa using hab.2⟩))
  · by_cases hend : isLineEnd a = true
    · by_cases hb : isLineEnd b = true
      · exact .inr (.inr ((runOf_eq_breaks.2 hend).trans (runOf_eq_breaks.2 hb).symm))
      · have hspace : b ≠ ' ' := by
          rintro rfl
          simp [hend] at hab
        exact .inr (.inl (runOf_eq_word.2 ⟨hspace, by simpa using hb⟩))
    · exact .inl (runOf_eq_word.2 ⟨ha, by simpa using hend⟩)

/-! ## Documents -/

/-- Scalars and aliases. -/
def Doc.isLeaf : Doc → Bool
  | .alias _ | .scalar _ _ _ _ _ _ => true
  | _ => false

/-- A node that is presented has an anchor and a tag that can be read. -/
def SoundProperties (anchor : Option String) (tag : String) : Prop :=
  (∀ a, anchor = some a → IsName a) ∧ IsTag tag

mutual

/-- A document that values are presented as: with names of anchors, short tags, blocks made of
lines, and scalars for keys. -/
def Doc.Sound : Doc → Prop
  | .alias name => IsName name
  | .scalar anchor tag plainImplied _ block text =>
    SoundProperties anchor tag ∧ (plainImplied = true → text.toList ≠ []) ∧
      (block = true → ∃ ls, text.toList = blockText ls ∧ ∀ l ∈ ls, IsLine l)
  | .sequence anchor tag _ items => SoundProperties anchor tag ∧ SoundItems items
  | .mapping anchor tag _ entries => SoundProperties anchor tag ∧ SoundEntries entries

def SoundItems : List Doc → Prop
  | [] => True
  | d :: ds => d.Sound ∧ SoundItems ds

def SoundEntries : List (Doc × Doc) → Prop
  | [] => True
  | (k, v) :: es => (k.isLeaf = true ∧ k.Sound) ∧ v.Sound ∧ SoundEntries es

end

/-- Whether a text at a column is read as it was laid out. -/
def legibleText (key : Bool) (column : Nat) (style : Style) (text : List Char) : Bool :=
  match style with
  | .plain | .block => true
  | .single => text.all fun x => x.toNat ≠ 0x85
  | .double =>
    key || column < lineWidth
      || !hasPair (fun x => !isUnescaped x) (fun x => x == ' ') text.tail.dropLast

mutual

/-- Whether a node whose surroundings are indented by `column` is read as it was laid out; `fresh`
tells whether nothing of weight stands in front of it. -/
def legible (place : Place) (column : Nat) (fresh : Bool) : Doc → Bool
  | .alias _ => true
  | .scalar _ _ plainImplied _ block text =>
    legibleText (place = .simpleKey) (column + blockWidth)
      (styleOf (place = .simpleKey) plainImplied block (analyze text)) text.toList
  | .sequence anchor _ implied items =>
    legibleItems (if isFlat place fresh anchor implied then column else column + blockWidth) items
  | .mapping _ _ _ entries =>
    legibleEntries (if place = .root then column else column + blockWidth) entries

def legibleItems (column : Nat) : List Doc → Bool
  | [] => true
  | d :: ds => legible .item column true d && legibleItems column ds

def legibleEntries (column : Nat) : List (Doc × Doc) → Bool
  | [] => true
  | (k, v) :: es =>
    (if isSimpleKey k then
      legible .simpleKey column true k && (nodeOut .simpleKey column {} k).column ≤ keyReach
    else legible .entry column true k)
      && legible .entry column (!isSimpleKey k) v && legibleEntries column es

end

end ModelSearch.Yaml
