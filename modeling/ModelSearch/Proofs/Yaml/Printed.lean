import ModelSearch.Proofs.Yaml.LayoutTokens

/-!
# The characters of a layout

Whatever is laid out consists of characters that a document may hold, and none of them is a carriage
return: texts with others stand in double quotes, and there they are escaped.  So the text of a layout
is left as it is when breaks of any convention are unified, and its tokens are those of its document.

    sound and legible → tokens of the layout = tokens of the document       (tokens_layOut)
-/

namespace ModelSearch.Yaml

open Out TokenReader

variable {o : Out} {x : Char} {xs run rest : List Char} {column k : Nat} {split : Bool}

/-! ## Characters -/

/-- A character that a document may hold, and that is no carriage return. -/
def IsPrinted (x : Char) : Prop := documentChars.has x = true ∧ x ≠ '\r'

instance (x : Char) : Decidable (IsPrinted x) :=
  inferInstanceAs (Decidable (documentChars.has x = true ∧ x ≠ '\r'))

theorem isPrinted_of_bounds (h : 0x20 ≤ x.toNat)
    (hx : x.toNat ≤ 0x7E ∨ x.toNat = 0x85 ∨ 0xA0 ≤ x.toNat ∧ x.toNat ≠ 0xFFFE ∧ x.toNat ≠ 0xFFFF) :
    IsPrinted x := by
  constructor
  · have hvalid := x.valid
    have hrange : x.toNat < 0xD800 ∨ 0xDFFF < x.toNat ∧ x.toNat < 0x110000 := hvalid
    simp only [documentChars, Text.CharSet.has, List.any_cons, List.any_nil, Bool.or_false,
      Bool.or_eq_true, Bool.and_eq_true, decide_eq_true_eq]
    omega
  · rintro rfl
    exact absurd h (by decide)

theorem isPrinted_of_graphic (h : IsGraphic x) : IsPrinted x :=
  isPrinted_of_bounds (by have := h.1; omega) (by have := h.2; omega)

theorem isPrinted_of_not_special (h : isSpecial x = false) : IsPrinted x := by
  simp only [isSpecial, Bool.not_eq_false', Bool.or_eq_true, Bool.and_eq_true, decide_eq_true_eq,
    plainUnicode, Text.CharSet.has, List.any_cons, List.any_nil, Bool.or_false] at h
  rcases h with (rfl | ⟨hlow, hhigh⟩) | h
  · decide
  · have hlow : 0x20 ≤ x.toNat := hlow
    have hhigh : x.toNat ≤ 0x7E := hhigh
    exact isPrinted_of_bounds hlow (.inl hhigh)
  · exact isPrinted_of_bounds (by omega) (by omega)

theorem isPrinted_of_unescaped (h : isUnescaped x = true) : IsPrinted x := by
  simp only [isUnescaped, Bool.and_eq_true, Bool.or_eq_true, decide_eq_true_eq] at h
  exact isPrinted_of_bounds (by omega) (by omega)

/-! ## Writing -/

/-- Nothing but printed characters has been written. -/
def Out.Printed (o : Out) : Prop := ∀ x ∈ o.reversed, IsPrinted x

theorem Out.Printed.put (h : o.Printed) (hxs : ∀ x ∈ xs, IsPrinted x) : (o.put xs).Printed := by
  intro x hx
  rcases List.mem_append.1 hx with hx | hx
  · exact hxs x (List.mem_reverse.1 hx)
  · exact h x hx

theorem isPrinted_spaces (n : Nat) : ∀ x ∈ List.replicate n ' ', IsPrinted x := by
  intro x hx
  rw [(List.mem_replicate.1 hx).2]
  decide

theorem Out.Printed.breakWith (h : o.Printed) (hx : IsPrinted x) : (o.breakWith x).Printed :=
  List.forall_mem_cons.2 ⟨hx, h⟩

theorem Out.Printed.endLine (h : o.Printed) : o.endLine.Printed := h.breakWith (by decide)

theorem Out.Printed.lineBreaks (h : o.Printed) (hxs : ∀ x ∈ xs, IsPrinted x) :
    (o.lineBreaks xs).Printed := by
  induction xs generalizing o with
  | nil => exact h
  | cons x xs ih =>
    exact ih (h.breakWith (hxs x List.mem_cons_self)) fun y hy => hxs y (List.mem_cons_of_mem _ hy)

theorem Out.Printed.indent (h : o.Printed) (k : Nat) : (o.indent k).Printed := by
  have hline : ∀ {p : Out}, p.Printed → (if p.column < k then
      { p.put (List.replicate (k - p.column) ' ') with blank := true } else p).Printed := by
    intro p hp
    split
    · exact hp.put (isPrinted_spaces _)
    · exact hp
  unfold Out.indent
  refine hline ?_
  split
  · exact h.endLine
  · exact h

theorem Out.Printed.sign (h : o.Printed) {text : String} (htext : ∀ x ∈ text.toList, IsPrinted x)
    (needsBlank ofBlock : Bool) : (o.sign needsBlank text ofBlock).Printed := by
  unfold Out.sign
  refine h.put ?_
  split
  · exact htext
  · exact List.forall_mem_cons.2 ⟨by decide, htext⟩

/-! ## Scalars -/

theorem printed_plainFrom {kind : Run} (h : o.Printed) (hrun : ∀ x ∈ run, IsPrinted x)
    (hrest : ∀ x ∈ rest, IsPrinted x) : (plainFrom column split o kind run rest).Printed := by
  induction rest generalizing o kind run with
  | nil => exact h.put hrun
  | cons c rest ih =>
    obtain ⟨hc, hrest⟩ := List.forall_mem_cons.1 hrest
    have hsingle : ∀ x ∈ [c], IsPrinted x := List.forall_mem_singleton.2 hc
    have hlonger : ∀ x ∈ run ++ [c], IsPrinted x := List.forall_mem_append.2 ⟨hrun, hsingle⟩
    unfold plainFrom
    cases kind with
    | spaces =>
      dsimp only
      split
      · exact ih h hlonger hrest
      · refine ih ?_ hsingle hrest
        split
        · exact h.indent column
        · exact h.put hrun
    | word | breaks =>
      dsimp only
      split
      · exact ih (h.put hrun) hsingle hrest
      · exact ih h hlonger hrest

theorem printed_plainOut (h : o.Printed) (hxs : ∀ x ∈ xs, IsPrinted x) :
    (plainOut column split o xs).Printed := by
  unfold plainOut
  split
  · exact h
  · refine printed_plainFrom ?_ (List.forall_mem_nil _) hxs
    split
    · exact h
    · exact h.put (Text.forall_of_all (by decide))

theorem printed_singleRun {kind : Run} {start : Nat} {next : Option Char} (h : o.Printed)
    (hrun : ∀ x ∈ run, IsPrinted x) : (singleRun column split o kind start run next).Printed := by
  unfold singleRun
  cases kind with
  | word => exact h.put hrun
  | spaces =>
    dsimp only
    split
    · exact h.indent column
    · exact h.put hrun
  | breaks =>
    dsimp only
    split
    · exact (h.endLine.lineBreaks hrun).indent column
    · exact (h.lineBreaks hrun).indent column

theorem printed_singleFrom {kind : Run} {start : Nat} (h : o.Printed)
    (hrun : ∀ x ∈ run, IsPrinted x) (hrest : ∀ x ∈ rest, IsPrinted x) :
    (singleFrom column split o kind start run rest).Printed := by
  induction rest generalizing o kind start run with
  | nil => exact printed_singleRun h hrun
  | cons c rest ih =>
    obtain ⟨hc, hrest⟩ := List.forall_mem_cons.1 hrest
    have hsingle : ∀ x ∈ [c], IsPrinted x := List.forall_mem_singleton.2 hc
    unfold singleFrom
    dsimp only
    split
    · exact ih ((printed_singleRun h hrun).put (Text.forall_of_all (by decide))) (List.forall_mem_nil _) hrest
    split
    · exact ih h (List.forall_mem_append.2 ⟨hrun, hsingle⟩) hrest
    · exact ih (printed_singleRun h hrun) hsingle hrest

theorem printed_singleOut (h : o.Printed) (hxs : ∀ x ∈ xs, IsPrinted x) :
    (singleOut column split o xs).Printed := by
  have hquote : ∀ x ∈ "'".toList, IsPrinted x := Text.forall_of_all (by decide)
  exact (printed_singleFrom (h.sign hquote _ _) (List.forall_mem_nil _) hxs).sign hquote _ _

/-- In double quotes any character can stand. -/
theorem printed_doubleFrom {first : Bool} (h : o.Printed) (hrun : ∀ x ∈ run, IsPrinted x)
    (rest : List Char) : (doubleFrom column split first o run rest).Printed := by
  induction rest generalizing o first run with
  | nil => exact h.put hrun
  | cons c rest ih =>
    have hslash : IsPrinted '\\' := by decide
    have hguard : ∀ {p : Out} (next : Char), p.Printed →
        (if next = ' ' then p.put ['\\'] else p).Printed := by
      intro p next hp
      split
      · exact hp.put (List.forall_mem_singleton.2 hslash)
      · exact hp
    by_cases hc : isUnescaped c = true
    · have hsingle : ∀ x ∈ [c], IsPrinted x :=
        List.forall_mem_singleton.2 (isPrinted_of_unescaped hc)
      simp only [doubleFrom, hc, if_true]
      split
      · refine ih (hguard _ ?_) hsingle
        exact (h.put (List.forall_mem_append.2
          ⟨hrun, List.forall_mem_singleton.2 hslash⟩)).indent column
      · exact ih h (List.forall_mem_append.2 ⟨hrun, hsingle⟩)
    · have hescaped : ((o.put run).put (escaped c)).Printed :=
        (h.put hrun).put fun x hx => isPrinted_of_graphic (isGraphic_escaped c x hx)
      simp only [doubleFrom, hc, Bool.false_eq_true, if_false]
      split
      · exact ih (hguard _ ((hescaped.put (List.forall_mem_singleton.2 hslash)).indent column))
          (List.forall_mem_nil _)
      · exact ih hescaped (List.forall_mem_nil _)

theorem printed_doubleOut (h : o.Printed) (xs : List Char) :
    (doubleOut column split o xs).Printed := by
  have hquote : ∀ x ∈ "\"".toList, IsPrinted x := Text.forall_of_all (by decide)
  exact (printed_doubleFrom (h.sign hquote _ _) (List.forall_mem_nil _) xs).sign hquote _ _

theorem printed_blockFrom {inBreaks : Bool} (h : o.Printed) (hrun : ∀ x ∈ run, IsPrinted x)
    (hrest : ∀ x ∈ rest, IsPrinted x) : (blockFrom column o inBreaks run rest).Printed := by
  induction rest generalizing o inBreaks run with
  | nil =>
    unfold blockFrom
    split
    · exact h.lineBreaks hrun
    · exact (h.put hrun).endLine
  | cons c rest ih =>
    obtain ⟨hc, hrest⟩ := List.forall_mem_cons.1 hrest
    have hsingle : ∀ x ∈ [c], IsPrinted x := List.forall_mem_singleton.2 hc
    unfold blockFrom
    split
    · exact ih h (List.forall_mem_append.2 ⟨hrun, hsingle⟩) hrest
    split
    · exact ih ((h.lineBreaks hrun).indent column) hsingle hrest
    · exact ih (h.put hrun) hsingle hrest

theorem isPrinted_blockHints (xs : List Char) : ∀ x ∈ ("|" ++ blockHints xs).toList, IsPrinted x := by
  have happend : ∀ {s t : String}, (∀ x ∈ s.toList, IsPrinted x) → (∀ x ∈ t.toList, IsPrinted x) →
      ∀ x ∈ (s ++ t).toList, IsPrinted x := by
    intro s t hs ht
    rw [String.toList_append]
    exact List.forall_mem_append.2 ⟨hs, ht⟩
  have hempty : ∀ x ∈ "".toList, IsPrinted x := List.forall_mem_nil _
  have hwidth : ∀ x ∈ (toString blockWidth).toList, IsPrinted x := Text.forall_of_all (by decide)
  have hplus : ∀ x ∈ "+".toList, IsPrinted x := Text.forall_of_all (by decide)
  refine happend (Text.forall_of_all (by decide)) ?_
  unfold blockHints
  split
  · exact hempty
  · refine happend ?_ ?_
    · split
      · exact hwidth
      · exact hempty
    · split
      · exact Text.forall_of_all (by decide)
      split
      · exact hplus
      split
      · exact hplus
      · exact hempty

theorem printed_blockOut (h : o.Printed) (hxs : ∀ x ∈ xs, IsPrinted x) :
    (blockOut column o xs).Printed :=
  printed_blockFrom (h.sign (isPrinted_blockHints xs) _ _).endLine (List.forall_mem_nil _) hxs

/-- What is not put into double quotes has no special characters. -/
theorem isPrinted_of_styleOf {key plainImplied block : Bool} {text : String}
    (h : styleOf key plainImplied block (analyze text) ≠ .double) : ∀ x ∈ text.toList, IsPrinted x := by
  by_cases hnil : text.toList = []
  · rw [hnil]
    exact List.forall_mem_nil _
  have hany : text.toList.any isSpecial = false := by
    have hanalysis := analyze_of_ne_nil hnil
    cases hstyle : styleOf key plainImplied block (analyze text) with
    | plain =>
      have hplain := (styleOf_plain hstyle).2
      rw [hanalysis] at hplain
      simp only [Bool.not_eq_true', Bool.or_eq_false_iff] at hplain
      exact hplain.1.1.2.2
    | single =>
      have hsingle := styleOf_single hstyle
      rw [hanalysis] at hsingle
      simp only [Bool.not_eq_true', Bool.or_eq_false_iff] at hsingle
      exact hsingle.2.2
    | double => exact absurd hstyle h
    | block =>
      have hblock := (styleOf_block hstyle).2.2
      rw [hanalysis] at hblock
      simp only [Bool.not_eq_true', Bool.or_eq_false_iff] at hblock
      exact hblock.2.2
  intro x hx
  exact isPrinted_of_not_special (by simpa using List.any_eq_false.1 hany x hx)

/-! ## Nodes -/

theorem isPrinted_name {name : String} (h : IsName name) : ∀ x ∈ name.toList, IsPrinted x := fun x hx =>
  isPrinted_of_graphic (isGraphic_of_wordChar (h.2 x hx))

theorem isPrinted_tag {tag : String} (h : IsTag tag) : ∀ x ∈ tag.toList, IsPrinted x := by
  rw [h.toList]
  refine List.forall_mem_cons.2 ⟨by decide, List.forall_mem_cons.2 ⟨by decide, fun x hx => ?_⟩⟩
  exact isPrinted_of_graphic (isGraphic_of_uriChar (h.2.2 x hx))

theorem Out.Printed.mark (h : o.Printed) {mark name : String} (hmark : ∀ x ∈ mark.toList, IsPrinted x)
    (hname : IsName name) : (o.sign true (mark ++ name) false).Printed := by
  refine h.sign ?_ _ _
  rw [String.toList_append]
  exact List.forall_mem_append.2 ⟨hmark, isPrinted_name hname⟩

theorem printed_propertiesOut {anchor : Option String} {tag : String} {implied : Bool}
    (h : o.Printed) (hp : SoundProperties anchor tag) :
    (propertiesOut o anchor tag implied).Printed := by
  have hanchor : (anchorOut o "&" anchor).Printed := by
    unfold anchorOut
    cases anchor with
    | none => exact h
    | some a => exact h.mark (Text.forall_of_all (by decide)) (hp.1 a rfl)
  unfold propertiesOut
  split
  · exact hanchor
  · exact hanchor.sign (isPrinted_tag hp.2) _ _

theorem printed_scalarOut {key plainImplied quotedImplied block : Bool} {anchor : Option String}
    {tag text : String} (h : o.Printed) (hp : SoundProperties anchor tag) :
    (scalarOut key column o anchor tag plainImplied quotedImplied block text).Printed := by
  have hproperties : ∀ implied, (propertiesOut o anchor tag implied).Printed := fun _ =>
    printed_propertiesOut h hp
  rw [scalarOut_eq]
  have htext : styleOf key plainImplied block (analyze text) ≠ .double →
      ∀ x ∈ text.toList, IsPrinted x := isPrinted_of_styleOf
  cases hstyle : styleOf key plainImplied block (analyze text) with
  | plain => exact printed_plainOut (hproperties _) (htext (by rw [hstyle]; exact Style.noConfusion))
  | single => exact printed_singleOut (hproperties _) (htext (by rw [hstyle]; exact Style.noConfusion))
  | double => exact printed_doubleOut (hproperties _) _
  | block => exact printed_blockOut (hproperties _) (htext (by rw [hstyle]; exact Style.noConfusion))

mutual

theorem printed_nodeOut (place : Place) (column : Nat) : ∀ (d : Doc) {o : Out}, o.Printed → d.Sound →
    (nodeOut place column o d).Printed
  | .alias name, o, h, hd => h.mark (Text.forall_of_all (by decide)) hd
  | .scalar anchor tag plainImplied quotedImplied block text, o, h, hd => by
    rw [nodeOut]
    exact printed_scalarOut h hd.1
  | .sequence anchor tag implied items, o, h, hd => by
    have hproperties : (propertiesOut o anchor tag implied).Printed := printed_propertiesOut h hd.1
    simp only [nodeOut]
    split
    · exact (hproperties.sign (Text.forall_of_all (by decide)) _ _).sign (Text.forall_of_all (by decide)) _ _
    · exact printed_itemsOut _ items hproperties hd.2
  | .mapping anchor tag implied entries, o, h, hd => by
    have hproperties : (propertiesOut o anchor tag implied).Printed := printed_propertiesOut h hd.1
    simp only [nodeOut]
    split
    · exact (hproperties.sign (Text.forall_of_all (by decide)) _ _).sign (Text.forall_of_all (by decide)) _ _
    · exact printed_entriesOut _ entries hproperties hd.2

theorem printed_itemsOut (column : Nat) : ∀ (ds : List Doc) {o : Out}, o.Printed → SoundItems ds →
    (itemsOut column o ds).Printed
  | [], o, h, _ => h
  | d :: ds, o, h, hds =>
    printed_itemsOut column ds (printed_nodeOut .item column d
      ((h.indent column).sign (Text.forall_of_all (by decide)) _ _) hds.1) hds.2

theorem printed_entriesOut (column : Nat) : ∀ (es : List (Doc × Doc)) {o : Out}, o.Printed →
    SoundEntries es → (entriesOut column o es).Printed
  | [], o, h, _ => h
  | (c, v) :: es, o, h, ⟨⟨_, hc⟩, hv, hes⟩ => by
    simp only [entriesOut]
    refine printed_entriesOut column es ?_ hes
    split
    · refine printed_nodeOut .entry column v (Printed.sign ?_ (Text.forall_of_all (by decide)) _ _) hv
      exact printed_nodeOut .simpleKey column c (h.indent column) hc
    · refine printed_nodeOut .entry column v (Printed.sign (Printed.indent ?_ column) (Text.forall_of_all (by decide)) _ _) hv
      exact printed_nodeOut .entry column c ((h.indent column).sign (Text.forall_of_all (by decide)) _ _) hc

end

/-- What is laid out is printed. -/
theorem isPrinted_layOut {d : Doc} (h : d.Sound) : ∀ x ∈ (layOut d).toList, IsPrinted x := by
  have hempty : ({} : Out).Printed := List.forall_mem_nil _
  intro x hx
  rw [layOut, String.toList_ofList, List.mem_reverse] at hx
  exact (printed_nodeOut .root 0 d hempty h).indent 0 x hx

/-! ## Tokens -/

theorem unifyBreaks_of_printed : ∀ {xs : List Char}, (∀ x ∈ xs, IsPrinted x) →
    Text.unifyBreaks xs = xs
  | [], _ => rfl
  | x :: xs, h => by
    have hx := (h x List.mem_cons_self).2
    have hxs := unifyBreaks_of_printed fun y hy => h y (List.mem_cons_of_mem x hy)
    rw [Text.unifyBreaks, hxs]
    · rintro cs rfl
      exact absurd rfl hx
    · exact hx

/-- The tokens of what is laid out of a sound and legible mapping are those of the mapping. -/
theorem tokens_layOut {anchor : Option String} {tag : String} {implied : Bool}
    {entries : List (Doc × Doc)} (hne : entries ≠ [])
    (h : (Doc.mapping anchor tag implied entries).Sound)
    (hlegible : legible .root 0 true (.mapping anchor tag implied entries) = true) :
    tokens (Text.unifyBreaks (layOut (.mapping anchor tag implied entries)).toList)
      = docTokens .root true (.mapping anchor tag implied entries) := by
  have hprinted := isPrinted_layOut h
  rw [unifyBreaks_of_printed hprinted, tokens, if_pos]
  · exact (finishes_layOut hne h hlegible).run (Nat.le_succ _)
  · exact List.all_eq_true.2 fun x hx => (hprinted x hx).1

end ModelSearch.Yaml
