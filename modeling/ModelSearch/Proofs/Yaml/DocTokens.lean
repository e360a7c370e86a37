import ModelSearch.Proofs.Number.Decimal
import ModelSearch.Yaml.Node
import ModelSearch.Yaml.Writer

/-!
# The tokens of a document

What the layout of a document is to be read as: the anchor and the tag of every node, and its text
or its items between the tokens that open and close a block.  A sequence that stands behind a key
has no tokens of its own around its items.

    anchorOf again m = anchorOf again n = some a → m = n        (anchorOf_injective)
    the tokens of a document begin a node                        (exists_docTokens)
-/

namespace ModelSearch.Yaml

/-! ## Anchors -/

theorem anchorOf_injective {again : List Mark} {m n : Mark} {a : String}
    (hm : anchorOf again m = some a) (hn : anchorOf again n = some a) : m = n := by
  unfold anchorOf at hm hn
  obtain ⟨i, hi, hia⟩ := Option.map_eq_some_iff.1 hm
  obtain ⟨j, hj, hja⟩ := Option.map_eq_some_iff.1 hn
  have hnumber : Text.padded 3 (i + 1) = Text.padded 3 (j + 1) := by
    have htext := congrArg String.toList (hia.trans hja.symm)
    rw [String.toList_append, String.toList_append, List.append_cancel_left_eq] at htext
    exact String.toList_inj.1 htext
  have hij : i = j := by
    have h := Text.numberOf_padded 3 (i + 1)
    rw [hnumber, Text.numberOf_padded] at h
    omega
  subst hij
  obtain ⟨h₁, hmi, -⟩ := List.findIdx?_eq_some_iff_getElem.1 hi
  obtain ⟨_, hnj, -⟩ := List.findIdx?_eq_some_iff_getElem.1 hj
  exact (of_decide_eq_true hmi).symm.trans (of_decide_eq_true hnj)

/-! ## Styles -/

variable {key plainImplied block : Bool}

theorem styleOf_plain {a : Analysis} (h : styleOf key plainImplied block a = .plain) :
    plainImplied = true ∧ a.plain = true := by
  unfold styleOf at h
  split at h
  next hc =>
    simp only [Bool.and_eq_true] at hc
    exact ⟨hc.1.1.2, hc.2⟩
  · split at h
    · cases h
    · split at h <;> cases h

theorem styleOf_block {a : Analysis} (h : styleOf key plainImplied block a = .block) :
    block = true ∧ key = false ∧ a.block = true := by
  unfold styleOf at h
  split at h
  · cases h
  split at h
  next hc =>
    simp only [Bool.and_eq_true, Bool.not_eq_true'] at hc
    exact ⟨hc.1.1, hc.1.2, hc.2⟩
  · split at h <;> cases h

theorem styleOf_single {a : Analysis} (h : styleOf key plainImplied block a = .single) :
    a.singleQuoted = true := by
  unfold styleOf at h
  split at h
  · cases h
  split at h
  · cases h
  split at h
  next hc =>
    simp only [Bool.and_eq_true] at hc
    exact hc.1.2
  · cases h

/-! ## Tokens -/

/-- The token of a tag in its short form: two exclamation marks and a name. -/
def shortTag (tag : String) : Token := .tag (some "!!") (.ofList (tag.toList.drop 2))

/-- The tokens of an anchor and of a tag that does not go without saying. -/
def propertyTokens (anchor : Option String) (tag : String) (implied : Bool) : List Token :=
  (anchor.map Token.anchor).toList ++ if implied then [] else [shortTag tag]

/-- Whether the tag of a scalar goes without saying in the way in which it is written. -/
def isImplied (style : Style) (plainImplied quotedImplied : Bool) : Bool :=
  if style = .plain then plainImplied else quotedImplied

/-- Whether the items of a sequence stand at the column of its surroundings: behind a colon, or
behind properties. -/
def isFlat (place : Place) (fresh : Bool) (anchor : Option String) (implied : Bool) : Bool :=
  (place = .simpleKey || place = .entry) && !(fresh && anchor.isNone && implied)

mutual

/-- The tokens of a node; `fresh` tells whether nothing of weight stands in front of it. -/
def docTokens (place : Place) (fresh : Bool) : Doc → List Token
  | .alias name => [.alias name]
  | .scalar anchor tag plainImplied quotedImplied block text =>
    let style := styleOf (place = .simpleKey) plainImplied block (analyze text)
    propertyTokens anchor tag (isImplied style plainImplied quotedImplied)
      ++ [.scalar text (style = .plain)]
  | .sequence anchor tag implied items =>
    propertyTokens anchor tag implied ++
      if items.isEmpty then [.flowSequenceStart, .flowSequenceEnd]
      else if isFlat place fresh anchor implied then itemTokens items
      else .sequenceStart :: (itemTokens items ++ [.blockEnd])
  | .mapping anchor tag implied entries =>
    propertyTokens anchor tag implied ++
      if entries.isEmpty then [.flowMappingStart, .flowMappingEnd]
      else .mappingStart :: (entryTokens entries ++ [.blockEnd])

def itemTokens : List Doc → List Token
  | [] => []
  | d :: ds => .entry :: (docTokens .item true d ++ itemTokens ds)

def entryTokens : List (Doc × Doc) → List Token
  | [] => []
  | (k, v) :: es =>
    .key ::
      (docTokens (if isSimpleKey k then .simpleKey else .entry) true k
        ++ .value :: (docTokens .entry (!isSimpleKey k) v ++ entryTokens es))

end

/-- Tokens that begin a node. -/
def Token.begins : Token → Bool
  | .alias _ | .anchor _ | .tag _ _ | .scalar _ _ | .flowSequenceStart | .flowMappingStart
  | .sequenceStart | .mappingStart => true
  | _ => false

/-- Tokens that can stand where a node begins: those that begin one, and in an entry the sign of an
item. -/
def Token.Opens (place : Place) (t : Token) : Prop :=
  t.begins = true ∨ (t = .entry ∧ (place = .simpleKey ∨ place = .entry))

theorem exists_propertyTokens {place : Place} {anchor : Option String} {tag : String}
    {implied : Bool} {ts : List Token} (h : ∃ t rest, ts = t :: rest ∧ t.Opens place) :
    ∃ t rest, propertyTokens anchor tag implied ++ ts = t :: rest ∧ t.Opens place := by
  unfold propertyTokens
  cases anchor with
  | some a => exact ⟨.anchor a, _, rfl, .inl rfl⟩
  | none =>
    cases implied with
    | true => exact h
    | false => exact ⟨shortTag tag, _, rfl, .inl rfl⟩

/-- The tokens of a node begin a node, or are those of the items of a sequence. -/
theorem exists_docTokens (place : Place) (fresh : Bool) : ∀ d : Doc,
    ∃ t rest, docTokens place fresh d = t :: rest ∧ t.Opens place
  | .alias name => ⟨.alias name, [], rfl, .inl rfl⟩
  | .scalar _ _ _ _ _ text => by
    rw [docTokens]
    exact exists_propertyTokens ⟨.scalar text _, [], rfl, .inl rfl⟩
  | .sequence anchor tag implied items => by
    rw [docTokens]
    refine exists_propertyTokens ?_
    cases items with
    | nil => exact ⟨_, _, rfl, .inl rfl⟩
    | cons d ds =>
      by_cases hflat : isFlat place fresh anchor implied = true
      · refine ⟨.entry, docTokens .item true d ++ itemTokens ds, by simp [hflat, itemTokens],
          .inr ⟨rfl, ?_⟩⟩
        simp only [isFlat, Bool.and_eq_true, Bool.or_eq_true, decide_eq_true_eq] at hflat
        exact hflat.1
      · exact ⟨.sequenceStart, itemTokens (d :: ds) ++ [.blockEnd], by simp [hflat], .inl rfl⟩
  | .mapping _ _ _ entries => by
    rw [docTokens]
    refine exists_propertyTokens ?_
    cases entries with
    | nil => exact ⟨_, _, rfl, .inl rfl⟩
    | cons e es => exact ⟨_, _, rfl, .inl rfl⟩

end ModelSearch.Yaml
