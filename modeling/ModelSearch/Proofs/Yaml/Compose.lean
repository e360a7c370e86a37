import ModelSearch.Proofs.Yaml.DocTokens
import ModelSearch.Proofs.Yaml.Holds

/-!
# Composing what was written

The tokens of the document of a value compose to a node that holds the value.  The reader registers a
node under the anchor of its object when it is complete; a later occurrence of the object is an alias,
which gives that node again, and the two occurrences are the same value because parts of one value that
are one object are equal.  A node is begun with an anchor that no other one has.

    Composes root again v       for every part v of a coherent value root        (composes)
    NodeReader.document on the tokens of `present v` gives a node that holds v    (document_present)
-/

namespace ModelSearch.Yaml

/-- A token that is no fault. -/
def Token.sound : Token → Bool
  | .fault _ => false
  | _ => true

/-- Tokens that can follow the properties of a node. -/
def Token.isContent : Token → Bool
  | .scalar _ _ | .flowSequenceStart | .flowMappingStart | .sequenceStart | .mappingStart
  | .entry => true
  | _ => false

/-- The full tag of a node whose tag may go without saying. -/
def fullTag (tag : String) (implied : Bool) : Option String :=
  if implied then none else some (commonTags ++ .ofList (tag.toList.drop 2))

namespace NodeReader

/-! ## Readers in front of tokens -/

/-- The reader in front of other tokens. -/
def before (p : NodeReader) (ts : List Token) : NodeReader := { p with tokens := ts }

variable {p : NodeReader} {t : Token} {ts us : List Token}

@[simp] theorem before_before : (p.before ts).before us = p.before us := rfl

@[simp] theorem before_anchors : (p.before ts).anchors = p.anchors := rfl

@[simp] theorem before_opened : (p.before ts).opened = p.opened := rfl

@[simp] theorem before_handles : (p.before ts).handles = p.handles := rfl

@[simp] theorem before_tokens : (p.before ts).tokens = ts := rfl

@[simp] theorem skip_before : (p.before (t :: ts)).skip = p.before ts := rfl

theorem peek_before (h : t.sound = true) : (p.before (t :: ts)).peek = .ok (some t) := by
  cases t with
  | fault f => cases h
  | _ => rfl

theorem sees_before (h : t.sound = true) : (p.before (t :: ts)).sees us = .ok (us.contains t) := by
  simp only [sees, peek_before h, bind, Except.bind, pure, Except.pure]

theorem tagName_short (h : p.handles = commonHandles) (suffix : String) :
    p.tagName (some "!!") suffix = .ok (commonTags ++ suffix) := by
  simp [tagName, h, commonHandles]

/-- The reader that begins a node with an anchor. -/
def opening (p : NodeReader) (anchor : Option String) : NodeReader :=
  { p with opened := anchor.toList ++ p.opened }

@[simp] theorem opening_none : p.opening none = p := rfl

@[simp] theorem opening_anchors (anchor : Option String) : (p.opening anchor).anchors = p.anchors := rfl

@[simp] theorem opening_handles (anchor : Option String) : (p.opening anchor).handles = p.handles := rfl

/-- An anchor that no node was begun with. -/
def Free (p : NodeReader) (anchor : Option String) : Prop := ∀ a ∈ anchor, a ∉ p.opened

theorem free_none : p.Free none := nofun

theorem opens_before {anchor : Option String} (h : p.Free anchor) :
    (p.before ts).opens anchor = .ok ((p.opening anchor).before ts) := by
  cases anchor with
  | none => rfl
  | some a =>
    have hnew : p.opened.contains a = false := by simpa using h a rfl
    simp only [opens, before_opened, hnew, Bool.false_eq_true, if_false]
    rfl

/-- Properties are read up to the content of their node. -/
theorem properties_before (hh : p.handles = commonHandles) (ht : t.isContent = true)
    (ts : List Token) (anchor : Option String) (tag : String) (implied : Bool) :
    (p.before (propertyTokens anchor tag implied ++ t :: ts)).properties
      = .ok ((anchor, fullTag tag implied), p.before (t :: ts)) := by
  have hsound : t.sound = true := by
    cases t <;> first | rfl | cases ht
  have htag : ∀ q : NodeReader, q.handles = p.handles → q.tagName (some "!!")
      (.ofList (tag.toList.drop 2)) = .ok (commonTags ++ .ofList (tag.toList.drop 2)) :=
    fun q hq => tagName_short (hq.trans hh) _
  unfold propertyTokens fullTag
  cases anchor with
  | none =>
    cases implied with
    | true =>
      show (p.before (t :: ts)).properties = _
      unfold properties
      rw [peek_before hsound]
      cases t <;> first | rfl | cases ht
    | false =>
      show (p.before (shortTag tag :: t :: ts)).properties = _
      unfold properties
      rw [peek_before rfl]
      have hname := htag (p.before (shortTag tag :: t :: ts)) rfl
      simp only [shortTag] at hname
      simp only [shortTag, bind, Except.bind, skip_before, peek_before hsound, hname]
      cases t <;> first | rfl | cases ht
  | some a =>
    cases implied with
    | true =>
      show (p.before (.anchor a :: t :: ts)).properties = _
      unfold properties
      rw [peek_before rfl]
      simp only [bind, Except.bind, skip_before, peek_before hsound]
      cases t <;> first | rfl | cases ht
    | false =>
      show (p.before (.anchor a :: shortTag tag :: t :: ts)).properties = _
      unfold properties
      rw [peek_before rfl]
      simp only [bind, Except.bind, skip_before]
      rw [peek_before rfl]
      have hname := htag (p.before (shortTag tag :: t :: ts)) rfl
      simp only [shortTag] at hname
      simp only [shortTag, hname]
      rfl

/-! ## Nodes by their content -/

variable {block indentless : Bool} {fuel : Nat} {anchor : Option String} {tag : String}
  {implied : Bool}

/-- The first token of a node with properties is no alias. -/
theorem exists_head (ht : t.isContent = true) (ts : List Token) (anchor : Option String)
    (tag : String) (implied : Bool) :
    ∃ u us, propertyTokens anchor tag implied ++ t :: ts = u :: us ∧ u.sound = true ∧
      ∀ a, u ≠ .alias a := by
  unfold propertyTokens
  cases anchor with
  | some a => exact ⟨_, _, rfl, rfl, fun b h => Token.noConfusion h⟩
  | none =>
    cases implied with
    | false => exact ⟨_, _, rfl, rfl, fun b h => Token.noConfusion h⟩
    | true =>
      refine ⟨t, ts, rfl, ?_, ?_⟩
      · cases t <;> first | rfl | cases ht
      · rintro a rfl
        cases ht

section

variable (hh : p.handles = commonHandles) (hf : p.Free anchor)

include hh hf

theorem node_scalar (text : String) (plain : Bool) :
    node block indentless
        (p.before (propertyTokens anchor tag implied ++ .scalar text plain :: ts)) (fuel + 1)
      = .ok (((p.opening anchor).before ts).scalarNode anchor
          (scalarTag (fullTag tag implied) plain text) text) := by
  obtain ⟨u, us, hu, hs, ha⟩ := exists_head (t := .scalar text plain) rfl ts anchor tag implied
  have hp := properties_before (t := .scalar text plain) hh rfl ts anchor tag implied
  rw [hu] at hp ⊢
  unfold node
  rw [peek_before hs]
  simp only [bind, Except.bind, hp, peek_before (t := .scalar text plain) rfl, opens_before hf,
    skip_before]
  split
  next heq =>
    cases heq
    exact absurd rfl (ha _)
  · rfl

theorem node_flowSequence :
    node block indentless (p.before (propertyTokens anchor tag implied
        ++ .flowSequenceStart :: .flowSequenceEnd :: ts)) (fuel + 2)
      = .ok (((p.opening anchor).before ts).sequenceNode anchor (fullTag tag implied) []) := by
  obtain ⟨u, us, hu, hs, ha⟩ := exists_head (t := .flowSequenceStart) rfl (.flowSequenceEnd :: ts) anchor tag
    implied
  have hp := properties_before (t := .flowSequenceStart) hh rfl (.flowSequenceEnd :: ts) anchor tag
    implied
  have hitems : flowItems true ((p.opening anchor).before (.flowSequenceEnd :: ts)) (fuel + 1)
      = .ok ([], (p.opening anchor).before ts) := by
    unfold flowItems
    rw [sees_before (t := .flowSequenceEnd) rfl]
    rfl
  rw [hu] at hp ⊢
  unfold node
  rw [peek_before hs]
  simp only [bind, Except.bind, hp, peek_before (t := .flowSequenceStart) rfl, opens_before hf,
    skip_before, hitems]
  split
  next heq =>
    cases heq
    exact absurd rfl (ha _)
  · rfl

theorem node_flowMapping :
    node block indentless (p.before (propertyTokens anchor tag implied
        ++ .flowMappingStart :: .flowMappingEnd :: ts)) (fuel + 2)
      = .ok (((p.opening anchor).before ts).mappingNode anchor (fullTag tag implied) []) := by
  obtain ⟨u, us, hu, hs, ha⟩ := exists_head (t := .flowMappingStart) rfl (.flowMappingEnd :: ts) anchor tag
    implied
  have hp := properties_before (t := .flowMappingStart) hh rfl (.flowMappingEnd :: ts) anchor tag
    implied
  have hentries : flowEntries true ((p.opening anchor).before (.flowMappingEnd :: ts)) (fuel + 1)
      = .ok ([], (p.opening anchor).before ts) := by
    unfold flowEntries
    rw [sees_before (t := .flowMappingEnd) rfl]
    rfl
  rw [hu] at hp ⊢
  unfold node
  rw [peek_before hs]
  simp only [bind, Except.bind, hp, peek_before (t := .flowMappingStart) rfl, opens_before hf,
    skip_before, hentries]
  split
  next heq =>
    cases heq
    exact absurd rfl (ha _)
  · rfl

theorem node_blockSequence :
    node true indentless (p.before (propertyTokens anchor tag implied ++ .sequenceStart :: ts))
        (fuel + 1)
      = (blockItems ((p.opening anchor).before ts) fuel >>= fun r =>
          .ok (r.2.sequenceNode anchor (fullTag tag implied) r.1)) := by
  obtain ⟨u, us, hu, hs, ha⟩ := exists_head (t := .sequenceStart) rfl ts anchor tag implied
  have hp := properties_before (t := .sequenceStart) hh rfl ts anchor tag implied
  rw [hu] at hp ⊢
  unfold node
  rw [peek_before hs]
  simp only [bind, Except.bind, hp, peek_before (t := .sequenceStart) rfl, opens_before hf,
    skip_before]
  split
  next heq =>
    cases heq
    exact absurd rfl (ha _)
  · rfl

theorem node_flatSequence :
    node true true (p.before (propertyTokens anchor tag implied ++ .entry :: ts)) (fuel + 1)
      = (indentlessItems ((p.opening anchor).before (.entry :: ts)) fuel >>= fun r =>
          .ok (r.2.sequenceNode anchor (fullTag tag implied) r.1)) := by
  obtain ⟨u, us, hu, hs, ha⟩ := exists_head (t := .entry) rfl ts anchor tag implied
  have hp := properties_before (t := .entry) hh rfl ts anchor tag implied
  rw [hu] at hp ⊢
  unfold node
  rw [peek_before hs]
  simp only [bind, Except.bind, hp, peek_before (t := .entry) rfl, opens_before hf,
    skip_before]
  split
  next heq =>
    cases heq
    exact absurd rfl (ha _)
  · rfl

theorem node_blockMapping :
    node true indentless (p.before (propertyTokens anchor tag implied ++ .mappingStart :: ts))
        (fuel + 1)
      = (blockEntries ((p.opening anchor).before ts) fuel >>= fun r =>
          .ok (r.2.mappingNode anchor (fullTag tag implied) r.1)) := by
  obtain ⟨u, us, hu, hs, ha⟩ := exists_head (t := .mappingStart) rfl ts anchor tag implied
  have hp := properties_before (t := .mappingStart) hh rfl ts anchor tag implied
  rw [hu] at hp ⊢
  unfold node
  rw [peek_before hs]
  simp only [bind, Except.bind, hp, peek_before (t := .mappingStart) rfl, opens_before hf,
    skip_before]
  split
  next heq =>
    cases heq
    exact absurd rfl (ha _)
  · rfl

end

end NodeReader

end ModelSearch.Yaml
