import ModelSearch.Proofs.Yaml.KeyLayout

/-!
# The layout of a document is read as its tokens

A node is laid out behind a sign or a colon of the block it stands in; its properties come first, then
its text on the same line, or its items or entries on lines that are indented further.  What is read
from the sign up to the next line is the tokens of the node.  A collection opens a block with its
first item, and the block ends with the line that is indented less.

    a node, up to a line that is indented no further than its surroundings            (reads_node)
    a sound and legible mapping, as a document                                        (finishes_layOut)
-/

namespace ModelSearch.Yaml

open Out TokenReader

variable {m : Memo} {o : Out} {key : Option KeyPlace} {k column : Nat}

/-! ## Properties -/

theorem propertiesOut_column (o : Out) (anchor : Option String) (tag : String) (implied : Bool) :
    o.column ≤ (propertiesOut o anchor tag implied).column := by
  have hsign : ∀ (o : Out) (text : String), o.column ≤ (o.sign true text false).column := by
    intro o text
    rw [sign_eq]
    simp only [put_column]
    omega
  unfold propertiesOut anchorOut
  cases anchor with
  | none =>
    cases implied with
    | true => exact Nat.le_refl _
    | false => exact hsign o tag
  | some a =>
    cases implied with
    | true => exact hsign o _
    | false => exact (hsign o _).trans (hsign _ tag)

theorem propertiesOut_blank (anchor : Option String) (tag : String) (implied : Bool)
    (h : o.blank = false) : (propertiesOut o anchor tag implied).blank = false := by
  unfold propertiesOut anchorOut
  cases anchor <;> cases implied <;> first | exact h | rfl

theorem propertiesOut_fresh (o : Out) (anchor : Option String) (tag : String) (implied : Bool) :
    (propertiesOut o anchor tag implied).fresh = (o.fresh && anchor.isNone && implied) := by
  unfold propertiesOut anchorOut
  cases anchor <;> cases implied <;> simp [Out.sign]

theorem Room.later (h : Room key m o) {p : Out} (hp : o.column ≤ p.column) (ts : List Token) :
    Room key (m.add ts) p where
  fits := by
    have := h.fits
    rw [Memo.add_indent]
    omega
  loose hkey := by
    have := h.loose hkey
    rw [Memo.add_indent]
    omega

theorem endsPlain_of_ahead {after : List Char} (h : o.Ahead after) (hblank : o.blank = false) :
    EndsPlain after := by
  rw [Out.Ahead, hblank] at h
  exact BlankAhead.endsPlain h

/-- An anchor and a tag. -/
theorem reads_properties {anchor : Option String} {tag : String} (h : SoundProperties anchor tag)
    (implied : Bool) (hroom : Room key m o)
    (hwithin : Within key (propertiesOut o anchor tag implied)) :
    Reads (stage key m o o.Ahead) (stage key (m.add (propertyTokens anchor tag implied))
      (propertiesOut o anchor tag implied) (propertiesOut o anchor tag implied).Ahead) := by
  obtain ⟨hanchor, htag⟩ := h
  have hreadTag : ∀ (m : Memo) (o : Out), Room key m o → Within key (o.sign true tag false) →
      Reads (stage key m o o.Ahead) (stage key (m.add [shortTag tag]) (o.sign true tag false)
        (o.sign true tag false).Ahead) :=
    fun m o hroom hwithin => reads_tag htag hroom hwithin fun _ hafter => hafter
  cases anchor with
  | none =>
    cases implied with
    | true => exact Reads.refl _
    | false => exact hreadTag m o hroom hwithin
  | some a =>
    have hreadAnchor : ∀ hwithin : Within key (o.sign true ("&" ++ a) false),
        Reads (stage key m o o.Ahead) (stage key (m.add [.anchor a]) (o.sign true ("&" ++ a) false)
          (o.sign true ("&" ++ a) false).Ahead) :=
      fun hwithin => reads_anchor (hanchor a rfl) hroom hwithin fun _ hafter =>
        endsPlain_of_ahead hafter rfl
    cases implied with
    | true => exact hreadAnchor hwithin
    | false =>
      have hlater := hroom.later (propertiesOut_column o (some a) tag true) [.anchor a]
      have hboth := (hreadAnchor (hwithin.of_adds (adds_sign _ tag false))).trans
        (hreadTag _ _ hlater hwithin)
      rwa [Memo.add_add] at hboth

/-! ## Scalars -/

theorem quoted_flags (p : Out) (sign : String) :
    (p.sign false sign false).fresh = false ∧ (p.sign false sign false).blank = false := by
  simp [Out.sign]

/-- A text in single quotes. -/
theorem reads_single {text : List Char} {split : Bool} {ahead : List Char → Prop}
    (hq : Quotable text) (hchain : text.IsChain Unmixed) (hcolumn : column ≠ 0)
    (hroom : Room key m o) (hlines : key ≠ none → (singleOut column split o text).lines = o.lines)
    (hwithin : Within key (singleOut column split o text))
    (hahead : ∀ after, ahead after → EndsPlain after) :
    Reads (stage key m o o.Ahead)
      (stage key (m.add [.scalar (.ofList text) false]) (singleOut column split o text) ahead) := by
  obtain ⟨zs, hadds, hread⟩ := quotedScalar_singleOut hcolumn hq hchain split o
  exact reads_quoted (.inl rfl) hadds hroom (quoted_flags _ _).1 hlines hwithin hread hahead

/-- A text in double quotes. -/
theorem reads_double {text : List Char} {split : Bool} {ahead : List Char → Prop}
    (htame : Tame column split text.tail) (hcolumn : column ≠ 0) (hroom : Room key m o)
    (hlines : key ≠ none → (doubleOut column split o text).lines = o.lines)
    (hwithin : Within key (doubleOut column split o text))
    (hahead : ∀ after, ahead after → EndsPlain after) :
    Reads (stage key m o o.Ahead)
      (stage key (m.add [.scalar (.ofList text) false]) (doubleOut column split o text) ahead) := by
  obtain ⟨zs, hadds, hread⟩ := quotedScalar_doubleOut hcolumn htame o
  exact reads_quoted (.inr rfl) hadds hroom (quoted_flags _ _).1 hlines hwithin hread hahead

/-- What stands in single quotes, and is legible there, is read as it was laid out. -/
theorem quotable_of_legible {key : Bool} {text : String}
    (hsingle : (analyze text).singleQuoted = true)
    (hlegible : legibleText key column .single text.toList = true) :
    Quotable text.toList ∧ text.toList.IsChain Unmixed := by
  obtain ⟨hspecial, hchain⟩ := unmixed_of_analyze hsingle
  refine ⟨fun x hx => ⟨hspecial x hx, ?_⟩, hchain⟩
  have hall := List.all_eq_true.1 hlegible x hx
  simpa using hall

theorem tame_of_legible {key : Bool} {text : List Char}
    (hlegible : legibleText key column .double text = true) : Tame column (!key) text.tail := by
  simp only [legibleText, Bool.or_eq_true, decide_eq_true_eq, Bool.not_eq_true'] at hlegible
  rcases hlegible with (hkey | hlt) | hpair
  · exact .inl (by rw [hkey]; rfl)
  · exact .inr (.inl hlt)
  · exact .inr (.inr hpair)

/-- The text of a scalar, and the end of the line it ends on. -/
theorem reads_scalarText {text : String} {plainImplied block : Bool} {style : Style}
    (hstyle : styleOf false plainImplied block (analyze text) = style)
    (hplain : plainImplied = true → text.toList ≠ [])
    (hblock : block = true → ∃ ls, text.toList = blockText ls ∧ ∀ l ∈ ls, IsLine l)
    (hlegible : legibleText false (column + blockWidth) style text.toList = true)
    (hroom : Room none m o) (hindent : m.indent = column) (hk : k ≤ column) :
    Reads (stage none m o o.Ahead)
      (stage none (m.add [.scalar text (style = .plain)])
        ((textOut (column + blockWidth) true o style text.toList).indent k)
        ((textOut (column + blockWidth) true o style text.toList).indent k).Ahead) := by
  have hcolumn : column + blockWidth ≠ 0 := Nat.succ_ne_zero _
  have hdeeper : m.indent < (column + blockWidth : Nat) := by
    rw [hindent]
    unfold blockWidth
    omega
  have hquoted : ∀ {p : Out}, p.blank = false →
      Reads (stage none m o o.Ahead) (stage none (m.add [.scalar (.ofList text.toList) false]) p p.Ahead)
      → Reads (stage none m o o.Ahead)
        (stage none (m.add [.scalar text false]) (p.indent k) (p.indent k).Ahead) := by
    intro p hblank h
    rw [String.ofList_toList] at h
    exact h.trans (reads_indent hblank k)
  cases style with
  | plain =>
    obtain ⟨himplied, hplainText⟩ := styleOf_plain hstyle
    have hread := reads_plain true (signless_of_analyze (hplain himplied) hplainText)
      hcolumn hroom hdeeper (k := k) (by omega)
    rw [String.ofList_toList] at hread
    exact hread
  | single =>
    obtain ⟨hq, hchain⟩ := quotable_of_legible (styleOf_single hstyle) hlegible
    refine hquoted (quoted_flags _ _).2 (reads_single hq hchain hcolumn hroom (fun h => absurd rfl h)
      (within_none _) fun after hafter => endsPlain_of_ahead hafter (quoted_flags _ _).2)
  | double =>
    refine hquoted (quoted_flags _ _).2 (reads_double (tame_of_legible hlegible) hcolumn hroom
      (fun h => absurd rfl h) (within_none _) fun after hafter =>
        endsPlain_of_ahead hafter (quoted_flags _ _).2)
  | block =>
    obtain ⟨hb, -, hanalysis⟩ := styleOf_block hstyle
    obtain ⟨ls, hls, hlines⟩ := hblock hb
    have hne : ls ≠ [] := by
      rintro rfl
      exact ne_nil_of_block hanalysis hls
    have hread := reads_block hlines hne hcolumn hroom hdeeper (k := k) (by
      unfold blockWidth
      omega)
    rw [← hls, String.ofList_toList] at hread
    exact hread

/-! ## Keys in front of their colons -/

/-- The text of a key. -/
theorem reads_keyText {text : String} {plainImplied block : Bool} {style : Style}
    (hstyle : styleOf true plainImplied block (analyze text) = style) (hne : text.toList ≠ [])
    (hlines : Lineless text.toList) (hlegible : legibleText true column style text.toList = true)
    (hcolumn : column ≠ 0) (hroom : Room key m o) (hindent : m.indent < column)
    (hwithin : Within key (textOut column false o style text.toList)) :
    Reads (stage key m o o.Ahead) (stage key (m.add [.scalar text (style = .plain)])
      (textOut column false o style text.toList) ColonAhead) := by
  have hblock : style ≠ .block := by
    rintro rfl
    cases (styleOf_block hstyle).2.1
  have hout : key ≠ none → (textOut column false o style text.toList).lines = o.lines := by
    intro _
    rw [textOut_key hne hlines hblock]
    exact lines_word (lineless_keyText hlines) o
  have htext : String.ofList text.toList = text := String.ofList_toList
  cases style with
  | plain =>
    have hread := reads_plainKey (signless_of_analyze hne (styleOf_plain hstyle).2) hcolumn hroom
      hindent hout hwithin
    rwa [htext] at hread
  | single =>
    obtain ⟨hq, hchain⟩ := quotable_of_legible (styleOf_single hstyle) hlegible
    have hread := reads_single hq hchain hcolumn hroom hout hwithin fun _ hafter =>
      ColonAhead.endsPlain hafter
    rwa [htext] at hread
  | double =>
    have hread := reads_double (tame_of_legible hlegible) hcolumn hroom hout hwithin
      fun _ hafter => ColonAhead.endsPlain hafter
    rwa [htext] at hread
  | block => exact absurd rfl hblock

/-- A key in front of its colon, from the place where it began. -/
theorem reads_keyLeaf {d : Doc} (hs : isSimpleKey d = true) (hleaf : d.isLeaf = true)
    (h : d.Sound) (hlegible : legible .simpleKey column true d = true)
    (hroom : Room key m o) (hindent : m.indent ≤ column)
    (hwithin : Within key (nodeOut .simpleKey column o d)) :
    Reads (stage key m o o.Ahead) (stage key (m.add (docTokens .simpleKey true d))
      (nodeOut .simpleKey column o d) ColonAhead) := by
  cases d with
  | «alias» name => exact reads_alias h hroom hwithin fun _ hafter => hafter.endsPlain
  | scalar anchor tag plainImplied quotedImplied block text =>
    obtain ⟨hproperties, -, -⟩ := h
    simp only [isSimpleKey, Bool.and_eq_true, Bool.not_eq_true'] at hs
    have hlines : Lineless text.toList := lineless_of_analyze hs.2
    have hne := ne_nil_of_not_empty hs.1.2
    have hdeeper : m.indent < (column + blockWidth : Nat) := by
      unfold blockWidth
      omega
    simp only [legible, decide_true] at hlegible
    simp only [nodeOut, decide_true, scalarOut_eq, Bool.not_true] at hwithin ⊢
    have hadds := adds_word (propertiesOut o anchor tag (isImplied
      (styleOf true plainImplied block (analyze text)) plainImplied quotedImplied))
      (keyText (styleOf true plainImplied block (analyze text)) text.toList)
    rw [← textOut_key hne hlines (fun hblock => Bool.noConfusion (styleOf_block hblock).2.1)
      (column + blockWidth)] at hadds
    have hread := (reads_properties hproperties _ hroom (hwithin.of_adds hadds)).trans
      (reads_keyText rfl hne hlines hlegible (Nat.succ_ne_zero _)
        (hroom.later (propertiesOut_column o anchor tag _) _) hdeeper hwithin)
    rwa [Memo.add_add] at hread
  | sequence | mapping => cases hleaf

/-! ## Nodes -/

/-- A node behind a sign or a colon is read as its tokens, up to the next line. -/
def NodeReads (d : Doc) : Prop :=
  ∀ (place : Place) (column : Nat) (m : Memo) (o : Out), place = .item ∨ place = .entry →
    d.Sound → legible place column o.fresh d = true → m.indent = column → o.blank = false →
    column < o.column → ∀ k ≤ column,
      Reads (stage none m o o.Ahead) (stage none (m.add (docTokens place o.fresh d))
        ((nodeOut place column o d).indent k) ((nodeOut place column o d).indent k).Ahead)

/-- Where the sign of a block leads to. -/
theorem blockSign_measures (o : Out) (column : Nat) (sign : String) (hsign : sign.toList.length = 1) :
    ((o.indent column).sign true sign true).fresh = true ∧
      ((o.indent column).sign true sign true).blank = false ∧
      column < ((o.indent column).sign true sign true).column := by
  have hfresh := indent_fresh o column
  have hcolumn := indent_column o column
  rw [sign_eq]
  refine ⟨by simp [hfresh], rfl, ?_⟩
  simp only [put_column, hcolumn, hsign]
  omega

/-- A node behind the sign of a block, up to the next line. -/
theorem reads_behindSign {place : Place} {d : Doc} {sign : String} {u : Memo}
    (hplace : place = .item ∨ place = .entry) (hlength : sign.toList.length = 1)
    (hsign : Reads (stage none m (o.indent column) (o.indent column).Ahead)
      (stage none u ((o.indent column).sign true sign true)
        ((o.indent column).sign true sign true).Ahead))
    (hindent : u.indent = column) (hnode : NodeReads d) (h : d.Sound)
    (hlegible : legible place column true d = true) (hk : k ≤ column) :
    Reads (stage none m (o.indent column) (o.indent column).Ahead)
      (stage none (u.add (docTokens place true d))
        ((nodeOut place column ((o.indent column).sign true sign true) d).indent k)
        ((nodeOut place column ((o.indent column).sign true sign true) d).indent k).Ahead) := by
  obtain ⟨hfresh, hblank, hcolumn⟩ := blockSign_measures o column sign hlength
  have hread := hnode place column u ((o.indent column).sign true sign true) hplace h
    (by rw [hfresh]; exact hlegible) hindent hblank hcolumn k hk
  rw [hfresh] at hread
  exact hsign.trans hread

/-- An item, up to the next line. -/
theorem reads_item {d : Doc} (hnode : NodeReads d) (h : d.Sound)
    (hlegible : legible .item column true d = true) (hindent : m.indent ≤ column) (hk : k ≤ column)
    (o : Out) :
    Reads (stage none m (o.indent column) (o.indent column).Ahead)
      (stage none ((m.opened column .sequenceStart).add (.entry :: docTokens .item true d))
        ((nodeOut .item column ((o.indent column).sign true "-" true) d).indent k)
        ((nodeOut .item column ((o.indent column).sign true "-" true) d).indent k).Ahead) := by
  have hsign := reads_entry (indent_fresh o column) (indent_blank o column) (by rwa [indent_column])
  rw [indent_column] at hsign
  have hread := reads_behindSign (.inl rfl) rfl hsign (Memo.opened_indent hindent _) hnode h hlegible hk
  rwa [Memo.add_add] at hread

/-- The items of a sequence. -/
theorem reads_items {ds : List Doc} (hnode : ∀ d ∈ ds, NodeReads d) (hne : ds ≠ [])
    (h : SoundItems ds) (hlegible : legibleItems column ds = true) (hindent : m.indent ≤ column)
    (hk : k ≤ column) (o : Out) :
    Reads (stage none m (o.indent column) (o.indent column).Ahead)
      (stage none ((m.opened column .sequenceStart).add (itemTokens ds))
        ((itemsOut column o ds).indent k) ((itemsOut column o ds).indent k).Ahead) := by
  induction ds generalizing m o with
  | nil => exact absurd rfl hne
  | cons d ds ih =>
    rw [legibleItems, Bool.and_eq_true] at hlegible
    have hitem := fun {k : Nat} (hk : k ≤ column) =>
      reads_item (hnode d List.mem_cons_self) h.1 hlegible.1 hindent hk o
    cases ds with
    | nil =>
      rw [itemTokens, itemTokens, List.append_nil]
      exact hitem hk
    | cons e es =>
      have hopened := Memo.opened_indent hindent .sequenceStart
      have hrest := ih (m := (m.opened column .sequenceStart).add (.entry :: docTokens .item true d))
        (fun d hd => hnode d (List.mem_cons_of_mem _ hd)) (List.cons_ne_nil e es) h.2 hlegible.2
        hopened.le (nodeOut .item column ((o.indent column).sign true "-" true) d)
      have hstay : ((m.opened column .sequenceStart).add
          (.entry :: docTokens .item true d)).indent = column := hopened
      rw [Memo.opened_of_eq hstay, Memo.add_add] at hrest
      exact (hitem (Nat.le_refl column)).trans hrest

/-! ## Entries -/

/-- An entry whose key stands in front of its colon, up to the next line. -/
theorem reads_pair {c v : Doc} (hs : isSimpleKey c = true) (hleaf : c.isLeaf = true) (hc : c.Sound)
    (hnode : NodeReads v) (h : v.Sound) (hkey : legible .simpleKey column true c = true)
    (hreach : (nodeOut .simpleKey column {} c).column ≤ keyReach)
    (hlegible : legible .entry column false v = true) (hindent : m.indent ≤ column) (hk : k ≤ column)
    (o : Out) :
    Reads (stage none m (o.indent column) (o.indent column).Ahead)
      (stage none ((m.opened column .mappingStart).add
          (.key :: (docTokens .simpleKey true c ++ [.value]) ++ docTokens .entry false v))
        ((nodeOut .entry column ((nodeOut .simpleKey column (o.indent column) c).sign false ":" false)
          v).indent k)
        ((nodeOut .entry column ((nodeOut .simpleKey column (o.indent column) c).sign false ":" false)
          v).indent k).Ahead) := by
  obtain ⟨hfresh, -, -, hcolumn, hlength⟩ := key_measures hs hleaf hc column (indent_blank o column)
  rw [indent_column] at hcolumn
  have hedge : m.indent ≤ ((o.indent column).column : Int) := by rwa [indent_column]
  have hwithin : Within (some (m.place (o.indent column)))
      (nodeOut .simpleKey column (o.indent column) c) := by
    rintro p ⟨⟩
    rw [hlength]
    exact Nat.add_le_add_left hreach _
  -- the colon looks back to the place where the key began, at the beginning of the line
  have hbegin := (reads_key (m := m) (indent_fresh o column) (indent_blank o column)).trans
    (reads_keyLeaf hs hleaf hc hkey ⟨hedge, nofun⟩ hindent hwithin)
  have hcolon := reads_keyValue (m := m) (docTokens .simpleKey true c) hfresh (by omega) hwithin
  rw [indent_column] at hcolon
  have hvalue := hnode .entry column ((m.opened column .mappingStart).add
      (.key :: (docTokens .simpleKey true c ++ [.value])))
    ((nodeOut .simpleKey column (o.indent column) c).sign false ":" false) (.inr rfl) h
    (by rw [quoted_flags _ ":" |>.1]; exact hlegible) (Memo.opened_indent hindent _)
    (quoted_flags _ ":").2 (by
      rw [sign_false]
      exact Nat.lt_succ_of_le hcolumn) k hk
  rw [Memo.add_add, (quoted_flags _ ":").1] at hvalue
  exact (hbegin.trans hcolon).trans hvalue

/-- An entry with a key on a line of its own, up to the next line. -/
theorem reads_longPair {c v : Doc} (hkeyNode : NodeReads c) (hc : c.Sound) (hnode : NodeReads v)
    (h : v.Sound) (hkey : legible .entry column true c = true)
    (hlegible : legible .entry column true v = true) (hindent : m.indent ≤ column) (hk : k ≤ column)
    (o : Out) :
    Reads (stage none m (o.indent column) (o.indent column).Ahead)
      (stage none ((m.opened column .mappingStart).add
          (.key :: docTokens .entry true c ++ .value :: docTokens .entry true v))
        ((nodeOut .entry column (((nodeOut .entry column ((o.indent column).sign true "?" true) c).indent
          column).sign true ":" true) v).indent k)
        ((nodeOut .entry column (((nodeOut .entry column ((o.indent column).sign true "?" true) c).indent
          column).sign true ":" true) v).indent k).Ahead) := by
  have hopened := Memo.opened_indent hindent .mappingStart
  have hsign := reads_keySign (indent_fresh o column) (indent_blank o column) (by rwa [indent_column])
  rw [indent_column] at hsign
  have hkeyRead := reads_behindSign (.inr rfl) rfl hsign hopened hkeyNode hc hkey (Nat.le_refl column)
  generalize nodeOut .entry column ((o.indent column).sign true "?" true) c = p at hkeyRead ⊢
  rw [Memo.add_add] at hkeyRead
  -- the sign of the value stands in the block that the sign of the key has opened
  have hstay : ((m.opened column .mappingStart).add ([.key] ++ docTokens .entry true c)).indent
      = column := hopened
  have hcolon := reads_valueSign (indent_fresh p column) (indent_blank p column)
    (by rw [indent_column, hstay])
  rw [indent_column, Memo.opened_of_eq hstay] at hcolon
  have hvalue := reads_behindSign (.inr rfl) rfl hcolon hstay hnode h hlegible hk
  rw [Memo.add_add, Memo.add_add] at hvalue
  have hpair := hkeyRead.trans hvalue
  rw [List.append_assoc] at hpair
  exact hpair

/-- Entries whose keys and values are read. -/
def EntriesRead (es : List (Doc × Doc)) : Prop := ∀ e ∈ es, NodeReads e.1 ∧ NodeReads e.2

/-- An entry, up to the next line. -/
theorem reads_entryPair {e : Doc × Doc} (hnode : NodeReads e.1 ∧ NodeReads e.2)
    (h : SoundEntries [e]) (hlegible : legibleEntries column [e] = true) (hindent : m.indent ≤ column)
    (hk : k ≤ column) (o : Out) :
    Reads (stage none m (o.indent column) (o.indent column).Ahead)
      (stage none ((m.opened column .mappingStart).add (entryTokens [e]))
        ((entriesOut column o [e]).indent k) ((entriesOut column o [e]).indent k).Ahead) := by
  obtain ⟨c, v⟩ := e
  obtain ⟨⟨hleaf, hc⟩, hv, -⟩ := h
  simp only [legibleEntries, Bool.and_eq_true] at hlegible
  obtain ⟨⟨hkey, hvalue⟩, -⟩ := hlegible
  by_cases hs : isSimpleKey c = true
  · simp only [hs, if_true, Bool.and_eq_true, decide_eq_true_eq] at hkey
    rw [hs] at hvalue
    have hread := reads_pair hs hleaf hc hnode.2 hv hkey.1 hkey.2 hvalue hindent hk o
    simpa [entriesOut, entryTokens, hs] using hread
  · simp only [hs, Bool.false_eq_true, if_false] at hkey
    have hlong : isSimpleKey c = false := by simpa using hs
    rw [hlong] at hvalue
    have hread := reads_longPair hnode.1 hc hnode.2 hv hkey hvalue hindent hk o
    simpa [entriesOut, entryTokens, hlong] using hread

/-- The entries of a mapping. -/
theorem reads_entries {es : List (Doc × Doc)} (hnode : EntriesRead es) (hne : es ≠ [])
    (h : SoundEntries es) (hlegible : legibleEntries column es = true) (hindent : m.indent ≤ column)
    (hk : k ≤ column) (o : Out) :
    Reads (stage none m (o.indent column) (o.indent column).Ahead)
      (stage none ((m.opened column .mappingStart).add (entryTokens es))
        ((entriesOut column o es).indent k) ((entriesOut column o es).indent k).Ahead) := by
  induction es generalizing m o with
  | nil => exact absurd rfl hne
  | cons e es ih =>
    have hsound : SoundEntries [e] ∧ SoundEntries es := ⟨⟨h.1, h.2.1, trivial⟩, h.2.2⟩
    have hboth : legibleEntries column [e] = true ∧ legibleEntries column es = true := by
      simpa [legibleEntries] using hlegible
    have hpair := fun {k : Nat} (hk : k ≤ column) =>
      reads_entryPair (hnode e List.mem_cons_self) hsound.1 hboth.1 hindent hk o
    cases es with
    | nil => exact hpair hk
    | cons f fs =>
      have hopened := Memo.opened_indent hindent .mappingStart
      have hrest := ih (m := (m.opened column .mappingStart).add (entryTokens [e]))
        (fun e he => hnode e (List.mem_cons_of_mem _ he)) (List.cons_ne_nil f fs) hsound.2 hboth.2
        hopened.le (entriesOut column o [e])
      have hstay : ((m.opened column .mappingStart).add (entryTokens [e])).indent = column := hopened
      have htokens : entryTokens [e] ++ entryTokens (f :: fs) = entryTokens (e :: f :: fs) := by
        simp [entryTokens]
      rw [Memo.opened_of_eq hstay, Memo.add_add, htokens] at hrest
      exact (hpair (Nat.le_refl column)).trans hrest

/-! ## Documents -/

/-- A block behind what it stands in, from the end of the line to the line behind it. -/
theorem reads_indented {start : Token} {ts : List Token} {p q : Out} (hp : p.blank = false)
    (hindent : m.indent = column) (hk : k ≤ column) {inner : Nat} (hinner : column < inner)
    (hread : Reads (stage none m (p.indent inner) (p.indent inner).Ahead)
      (stage none ((m.opened inner start).add ts) (q.indent k) (q.indent k).Ahead)) :
    Reads (stage none m p p.Ahead) (stage none (m.add (start :: (ts ++ [.blockEnd]))) (q.indent k)
      (q.indent k).Ahead) := by
  have hdeeper : m.indent < inner := by omega
  have hopened := Memo.opened_of_lt hdeeper start
  have houter : ((m.opened inner start).add ts).outer = m.indent :: m.outer := by
    rw [hopened]
    rfl
  have hlast := reads_close (indent_fresh q k) (indent_blank q k)
    (by rw [hopened, indent_column]; exact Int.ofNat_lt.2 (Nat.lt_of_le_of_lt hk hinner)) houter
  have hclosed : Memo.mk m.indent m.outer (.blockEnd :: ((m.opened inner start).add ts).reversed)
      = m.add (start :: (ts ++ [.blockEnd])) := by
    rw [hopened]
    simp [Memo.add]
  rw [hclosed] at hlast
  exact ((reads_indent hp inner).trans hread).trans hlast

theorem not_simpleKey {place : Place} (h : place = .item ∨ place = .entry) :
    decide (place = .simpleKey) = false := by
  rcases h with rfl | rfl <;> rfl

theorem room_of_lt (hindent : m.indent = column) (hcolumn : column < o.column) : Room none m o :=
  ⟨by omega, fun _ => by omega⟩

theorem nodeReads_alias (name : String) : NodeReads (.alias name) := by
  intro place column m o _ h _ hindent hblank hcolumn k _
  rw [docTokens, nodeOut]
  exact (reads_alias h (room_of_lt hindent hcolumn) (within_none _) fun after hafter =>
    endsPlain_of_ahead hafter rfl).trans (reads_indent rfl k)

theorem nodeReads_scalar (anchor : Option String) (tag : String) (plainImplied quotedImplied : Bool)
    (block : Bool) (text : String) :
    NodeReads (.scalar anchor tag plainImplied quotedImplied block text) := by
  intro place column m o hplace h hlegible hindent hblank hcolumn k hk
  obtain ⟨hproperties, hplain, hblock⟩ := h
  simp only [legible, not_simpleKey hplace] at hlegible
  simp only [docTokens, nodeOut, not_simpleKey hplace, scalarOut_eq, Bool.not_false]
  have hroom := room_of_lt hindent hcolumn
  generalize hstyle : styleOf false plainImplied block (analyze text) = style at hlegible ⊢
  have hread := (reads_properties hproperties (isImplied style plainImplied quotedImplied) hroom
    (within_none _)).trans (reads_scalarText hstyle hplain hblock hlegible
      (hroom.later (propertiesOut_column o anchor tag _) _) hindent hk)
  rwa [Memo.add_add] at hread

/-- Behind the properties of a node that stands behind a sign. -/
theorem reads_collection {anchor : Option String} {tag : String} {implied : Bool} {ts : List Token}
    {q : Out} (h : SoundProperties anchor tag) (hindent : m.indent = column)
    (hcolumn : column < o.column)
    (hread : ∀ m : Memo, m.indent = column → Room none m (propertiesOut o anchor tag implied) →
      Reads (stage none m (propertiesOut o anchor tag implied)
        (propertiesOut o anchor tag implied).Ahead) (stage none (m.add ts) q q.Ahead)) :
    Reads (stage none m o o.Ahead)
      (stage none (m.add (propertyTokens anchor tag implied ++ ts)) q q.Ahead) := by
  have hroom := room_of_lt hindent hcolumn
  have hlater := hroom.later (propertiesOut_column o anchor tag implied)
    (propertyTokens anchor tag implied)
  have hall := (reads_properties h implied hroom (within_none _)).trans (hread _ hindent hlater)
  rwa [Memo.add_add] at hall

theorem nodeReads_sequence {items : List Doc} (hitems : ∀ d ∈ items, NodeReads d)
    (anchor : Option String) (tag : String) (implied : Bool) :
    NodeReads (.sequence anchor tag implied items) := by
  intro place column m o hplace h hlegible hindent hblank hcolumn k hk
  rw [docTokens, nodeOut]
  refine reads_collection h.1 hindent hcolumn fun m hindent hroom => ?_
  have hpblank := propertiesOut_blank anchor tag implied hblank
  generalize hp : propertiesOut o anchor tag implied = p at hroom hpblank ⊢
  cases items with
  | nil =>
    exact (reads_flow (x := '[') (y := ']') rfl rfl rfl rfl (fun _ hs => readToken_sign hs rfl)
      (fun _ hs => readToken_sign hs rfl) hroom).trans
      (reads_indent (quoted_flags _ "]").2 k)
  | cons d ds =>
    have hflat : isFlat place o.fresh anchor implied
        = ((place = .simpleKey || place = .entry) && !p.fresh) := by
      rw [← hp, propertiesOut_fresh]
      rfl
    rw [legible, hflat] at hlegible
    simp only [hflat, List.isEmpty_cons, Bool.false_eq_true, if_false]
    -- a flat sequence opens no block of its own; its items are those of the block around it
    by_cases hf : ((place = .simpleKey || place = .entry) && !p.fresh) = true
    · rw [if_pos hf] at hlegible
      have hread := reads_items hitems (List.cons_ne_nil d ds) h.2 hlegible hindent.le hk p
      rw [Memo.opened_of_eq hindent] at hread
      rw [if_pos hf, if_pos hf]
      exact (reads_indent hpblank column).trans hread
    · rw [if_neg hf] at hlegible
      rw [if_neg hf, if_neg hf]
      have hinner : column < column + blockWidth := by unfold blockWidth; omega
      exact reads_indented hpblank hindent hk hinner
        (reads_items hitems (List.cons_ne_nil d ds) h.2 hlegible (by omega) (by omega) p)

theorem nodeReads_mapping {entries : List (Doc × Doc)} (hentries : EntriesRead entries)
    (anchor : Option String) (tag : String) (implied : Bool) :
    NodeReads (.mapping anchor tag implied entries) := by
  intro place column m o hplace h hlegible hindent hblank hcolumn k hk
  rw [docTokens, nodeOut]
  refine reads_collection h.1 hindent hcolumn fun m hindent hroom => ?_
  have hpblank := propertiesOut_blank anchor tag implied hblank
  generalize hp : propertiesOut o anchor tag implied = p at hroom hpblank ⊢
  cases entries with
  | nil =>
    exact (reads_flow (x := '\x7b') (y := '\x7d') rfl rfl rfl rfl (fun _ hs => readToken_sign hs rfl)
      (fun _ hs => readToken_sign hs rfl) hroom).trans
      (reads_indent (quoted_flags _ "\x7d").2 k)
  | cons e es =>
    have hroot : place ≠ .root := by rcases hplace with rfl | rfl <;> exact Place.noConfusion
    rw [legible, if_neg hroot] at hlegible
    simp only [List.isEmpty_cons, Bool.false_eq_true, if_false, if_neg hroot]
    have hinner : column < column + blockWidth := by unfold blockWidth; omega
    exact reads_indented hpblank hindent hk hinner
      (reads_entries hentries (List.cons_ne_nil e es) h.2 hlegible (by omega) (by omega) p)

mutual

/-- A node is read as its tokens. -/
theorem reads_node : ∀ d : Doc, NodeReads d
  | .alias name => nodeReads_alias name
  | .scalar anchor tag plainImplied quotedImplied block text =>
    nodeReads_scalar anchor tag plainImplied quotedImplied block text
  | .sequence anchor tag implied items => nodeReads_sequence (reads_nodes items) anchor tag implied
  | .mapping anchor tag implied entries =>
    nodeReads_mapping (reads_nodePairs entries) anchor tag implied

theorem reads_nodes : ∀ ds : List Doc, ∀ d ∈ ds, NodeReads d
  | [] => nofun
  | d :: ds => List.forall_mem_cons.2 ⟨reads_node d, reads_nodes ds⟩

theorem reads_nodePairs : ∀ es : List (Doc × Doc), EntriesRead es
  | [] => nofun
  | (k, v) :: es =>
    List.forall_mem_cons.2 ⟨⟨reads_node k, reads_node v⟩, reads_nodePairs es⟩

end

/-- The memo of a reader that has read nothing. -/
def Memo.start : Memo := ⟨-1, [], []⟩

/-- The properties of a document, and the end of the line they stand on. -/
theorem reads_rootProperties {anchor : Option String} {tag : String}
    (h : SoundProperties anchor tag) (implied : Bool) :
    Reads (stage none .start {} (Out.Ahead {}))
      (stage none (Memo.start.add (propertyTokens anchor tag implied))
        ((propertiesOut {} anchor tag implied).indent 0)
        ((propertiesOut {} anchor tag implied).indent 0).Ahead) := by
  have hroom : Room none .start {} := ⟨by decide, fun _ => by decide⟩
  refine (reads_properties h implied hroom (within_none _)).trans ?_
  cases anchor with
  | none =>
    cases implied with
    | true => exact Reads.refl _
    | false => exact reads_indent rfl 0
  | some a => cases implied <;> exact reads_indent rfl 0

/-- A mapping that is laid out is read as its tokens. -/
theorem finishes_layOut {anchor : Option String} {tag : String} {implied : Bool}
    {entries : List (Doc × Doc)} (hne : entries ≠ [])
    (h : (Doc.mapping anchor tag implied entries).Sound)
    (hlegible : legible .root 0 true (.mapping anchor tag implied entries) = true) :
    Finishes ((layOut (.mapping anchor tag implied entries)).toList.length + 1)
      (Memo.start.reader {} (layOut (.mapping anchor tag implied entries)).toList [])
      (docTokens .root true (.mapping anchor tag implied entries)) := by
  have hempty : entries.isEmpty = false := by simpa using hne
  have hlegible : legibleEntries 0 entries = true := hlegible
  have hindent : (-1 : Int) ≤ (0 : Nat) := by decide
  obtain ⟨xs, hadds, hread⟩ := (reads_rootProperties h.1 implied).trans
    (reads_entries (reads_nodePairs entries) hne h.2 hlegible hindent (Nat.le_refl 0)
      (propertiesOut {} anchor tag implied))
  have hlaid : layOut (.mapping anchor tag implied entries) = .ofList
      ((entriesOut 0 (propertiesOut {} anchor tag implied) entries).indent 0).reversed.reverse := by
    simp only [layOut, nodeOut, hempty, Bool.false_eq_true, if_false, if_true]
  have htext : (layOut (.mapping anchor tag implied entries)).toList = xs := by
    have hreversed : ((entriesOut 0 (propertiesOut {} anchor tag implied) entries).indent 0).reversed
        = xs.reverse ++ [] := hadds
    rw [hlaid, String.toList_ofList, hreversed, List.append_nil, List.reverse_reverse]
  have hahead : ((entriesOut 0 (propertiesOut {} anchor tag implied) entries).indent 0).Ahead [] := by
    rw [Out.Ahead, indent_blank, if_pos rfl]
    exact tokenAhead_nil
  obtain ⟨-, hreaders⟩ := hread [] hahead
  rw [List.append_nil] at hreaders
  obtain ⟨_, ⟨ps, rfl, hpending⟩, hleads⟩ := hreaders _ ⟨[], rfl, pending_nil⟩
  rw [hpending.fresh (indent_fresh _ 0)] at hleads
  have hfinish := hleads _ _ (finishes_end rfl rfl)
  have htokens : docTokens .root true (.mapping anchor tag implied entries) = (.blockEnd ::
      (((Memo.start.add (propertyTokens anchor tag implied)).opened 0 .mappingStart).add
        (entryTokens entries)).reversed).reverse := by
    simp [docTokens, hempty, Memo.start, Memo.opened, Memo.add]
  rw [htext, htokens]
  exact hfinish.mono (by omega)

end ModelSearch.Yaml
