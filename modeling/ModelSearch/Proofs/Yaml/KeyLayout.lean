import ModelSearch.Proofs.Yaml.Legible

/-!
# Keys in front of their colons

A key in front of its colon is written on one line, word by word: its anchor, its tag and its text.
How much is written does not depend on where the line has come to, so the length of a key at the
beginning of a line is its length anywhere.

    nodeOut .simpleKey column o k = o.words (keyWords k)         (nodeOut_key)
-/

namespace ModelSearch.Yaml

open Out

variable {o : Out} {xs run text : List Char} {ws : List (List Char)} {column : Nat}

/-! ## Words -/

/-- A word behind the space that it needs. -/
def Out.word (o : Out) (xs : List Char) : Out :=
  { (o.put (List.replicate o.gap ' ')).put xs with blank := false, fresh := false }

def Out.words (o : Out) (ws : List (List Char)) : Out := ws.foldl Out.word o

/-- Characters that end no line. -/
def Lineless (xs : List Char) : Prop := ∀ x ∈ xs, isLineEnd x = false

/-- How many characters words take, with the spaces between them. -/
def wordsWidth (blank : Bool) : List (List Char) → Nat
  | [] => 0
  | w :: ws => (if blank then 0 else 1) + w.length + wordsWidth false ws

theorem adds_word (o : Out) (xs : List Char) :
    o.Adds (List.replicate o.gap ' ' ++ xs) (o.word xs) := (adds_put o _).trans (adds_put _ xs)

theorem words_append (o : Out) (ws ws' : List (List Char)) :
    o.words (ws ++ ws') = (o.words ws).words ws' := List.foldl_append

theorem words_column (o : Out) (ws : List (List Char)) :
    (o.words ws).column = o.column + wordsWidth o.blank ws := by
  induction ws generalizing o with
  | nil => rfl
  | cons w ws ih =>
    have hgap : (List.replicate o.gap ' ').length = if o.blank then 0 else 1 := by
      rw [List.length_replicate]
      rfl
    rw [Out.words, List.foldl_cons, ← Out.words, ih, wordsWidth]
    simp only [Out.word, put_column, hgap]
    omega

theorem words_length (o : Out) (ws : List (List Char)) :
    (o.words ws).reversed.length = o.reversed.length + wordsWidth o.blank ws := by
  induction ws generalizing o with
  | nil => rfl
  | cons w ws ih =>
    have hgap : (List.replicate o.gap ' ').length = if o.blank then 0 else 1 := by
      rw [List.length_replicate]
      rfl
    rw [Out.words, List.foldl_cons, ← Out.words, ih, wordsWidth]
    simp only [Out.word, put, List.length_append, List.length_reverse, hgap]
    omega

theorem lines_word (h : Lineless xs) (o : Out) : (o.word xs).lines = o.lines := by
  have hcount : xs.countP isLineEnd = 0 :=
    List.countP_eq_zero.2 fun x hx => by rw [h x hx]; exact Bool.noConfusion
  have hgap := lines_put_spaces o.gap o
  unfold Out.lines at hgap ⊢
  rw [← hgap]
  unfold Out.word put
  rw [List.countP_append, List.countP_reverse, hcount, Nat.zero_add]

theorem lines_words (h : ∀ w ∈ ws, Lineless w) (o : Out) : (o.words ws).lines = o.lines := by
  induction ws generalizing o with
  | nil => rfl
  | cons w ws ih =>
    rw [Out.words, List.foldl_cons, ← Out.words, ih fun v hv => h v (List.mem_cons_of_mem _ hv),
      lines_word (h w List.mem_cons_self)]

theorem words_flags (h : ws ≠ []) (o : Out) :
    (o.words ws).fresh = false ∧ (o.words ws).blank = false := by
  obtain ⟨vs, w, rfl⟩ := (List.eq_nil_or_concat' ws).resolve_left h
  rw [words_append]
  exact ⟨rfl, rfl⟩

/-! ## Texts on one line -/

theorem sign_word (o : Out) (text : String) : o.sign true text false = o.word text.toList := by
  rw [sign_eq, Bool.and_false]
  rfl

theorem word_put (o : Out) (xs ys : List Char) : (o.word xs).put ys = o.word (xs ++ ys) := by
  have h := put_append (o.put (List.replicate o.gap ' ')) xs ys
  unfold Out.word
  rw [h]
  rfl

theorem word_sign (o : Out) (xs : List Char) (text : String) :
    (o.word xs).sign false text false = o.word (xs ++ text.toList) := by
  rw [sign_false, Bool.and_false, word_put]
  rfl

theorem plainFrom_unsplit (column : Nat) (o : Out) (kind : Run) (run rest : List Char) :
    plainFrom column false o kind run rest = o.put (run ++ rest) := by
  induction rest generalizing o kind run with
  | nil => rw [plainFrom, List.append_nil]
  | cons c rest ih =>
    have hrun : ∀ kind, plainFrom column false (o.put run) kind [c] rest
        = o.put (run ++ c :: rest) := by
      intro kind
      rw [ih, ← put_append]
      rfl
    have hgo : ∀ kind, plainFrom column false o kind (run ++ [c]) rest = o.put (run ++ c :: rest) := by
      intro kind
      rw [ih, List.append_assoc]
      rfl
    cases kind with
    | spaces =>
      simp only [plainFrom]
      split
      · exact hgo _
      · simp only [Bool.and_false, Bool.false_eq_true, if_false]
        exact hrun _
    | word | breaks =>
      simp only [plainFrom]
      split
      · exact hrun _
      · exact hgo _

theorem plainOut_key (hne : text ≠ []) (column : Nat) (o : Out) :
    plainOut column false o text = o.word text := by
  unfold plainOut
  rw [if_neg (by simpa using hne), plainFrom_unsplit]
  unfold Out.word gap
  cases o.blank <;> rfl

/-- An apostrophe is doubled in single quotes. -/
def singleChar (c : Char) : List Char := if c = '\'' then ['\'', '\''] else [c]

theorem singleFrom_unsplit {kind : Run} (hkind : kind ≠ .breaks) {rest : List Char}
    (h : Lineless rest) (column : Nat) (o : Out) (start : Nat) (run : List Char) :
    singleFrom column false o kind start run rest = o.put (run ++ rest.flatMap singleChar) := by
  induction rest generalizing o kind start run with
  | nil =>
    rw [singleFrom, List.flatMap_nil, List.append_nil]
    cases kind with
    | word => rfl
    | spaces => simp [singleRun]
    | breaks => exact absurd rfl hkind
  | cons c rest ih =>
    have hrest : Lineless rest := fun x hx => h x (List.mem_cons_of_mem _ hx)
    have hrun : singleRun column false o kind start run (some c) = o.put run := by
      cases kind with
      | word => rfl
      | spaces => simp [singleRun]
      | breaks => exact absurd rfl hkind
    have hc : runOf c ≠ .breaks := by
      rw [Ne, runOf_eq_breaks, h c List.mem_cons_self]
      exact Bool.noConfusion
    rw [singleFrom, List.flatMap_cons]
    by_cases hquote : c = '\''
    · simp only [hquote, if_true]
      rw [← hquote, hrun, ih (by simp) hrest, hquote, ← put_append, ← put_append]
      rfl
    · have hchar : singleChar c = [c] := if_neg hquote
      rw [if_neg hquote, hchar]
      split
      · rw [ih hkind hrest, List.append_assoc]
      · dsimp only
        rw [hrun, ih hc hrest, ← put_append]

theorem singleOut_key (h : Lineless text) (column : Nat) (o : Out) :
    singleOut column false o text = o.word ('\'' :: (text.flatMap singleChar ++ ['\''])) := by
  unfold singleOut
  rw [singleFrom_unsplit (show Run.word ≠ .breaks by decide) h, sign_word, word_put, word_sign]
  rfl

/-- A character in double quotes. -/
def doubleChar (c : Char) : List Char := if isUnescaped c then [c] else escaped c

theorem doubleFrom_unsplit (column : Nat) (first : Bool) (o : Out) (run rest : List Char) :
    doubleFrom column false first o run rest = o.put (run ++ rest.flatMap doubleChar) := by
  induction rest generalizing o first run with
  | nil => rw [doubleFrom, List.flatMap_nil, List.append_nil]
  | cons c rest ih =>
    rw [doubleFrom, List.flatMap_cons]
    simp only [Bool.and_false, Bool.false_eq_true, if_false]
    by_cases hc : isUnescaped c = true
    · have hchar : doubleChar c = [c] := if_pos hc
      simp only [hc, if_true, ih, hchar, List.append_assoc]
    · have hchar : doubleChar c = escaped c := if_neg hc
      simp only [hc, if_false, ih, hchar, List.nil_append, put_append, Bool.false_eq_true]

theorem doubleOut_key (column : Nat) (o : Out) (text : List Char) :
    doubleOut column false o text = o.word ('"' :: (text.flatMap doubleChar ++ ['"'])) := by
  unfold doubleOut
  rw [doubleFrom_unsplit, sign_word, word_put, word_sign]
  rfl

/-! ## Keys -/

/-- The text of a key in a style. -/
def keyText (style : Style) (text : List Char) : List Char :=
  match style with
  | .plain => text
  | .single => '\'' :: (text.flatMap singleChar ++ ['\''])
  | _ => '"' :: (text.flatMap doubleChar ++ ['"'])

/-- The text of a scalar behind its properties. -/
def textOut (column : Nat) (split : Bool) (o : Out) (style : Style) (text : List Char) : Out :=
  match style with
  | .plain => plainOut column split o text
  | .single => singleOut column split o text
  | .double => doubleOut column split o text
  | .block => blockOut column o text

theorem scalarOut_eq (key : Bool) (column : Nat) (o : Out) (anchor : Option String) (tag : String)
    (plainImplied quotedImplied block : Bool) (text : String) :
    scalarOut key column o anchor tag plainImplied quotedImplied block text
      = textOut column (!key)
        (propertiesOut o anchor tag
          (isImplied (styleOf key plainImplied block (analyze text)) plainImplied quotedImplied))
        (styleOf key plainImplied block (analyze text)) text.toList := rfl

theorem textOut_key {style : Style} (hne : text ≠ []) (h : Lineless text) (hblock : style ≠ .block)
    (column : Nat) (o : Out) : textOut column false o style text = o.word (keyText style text) := by
  cases style with
  | plain => exact plainOut_key hne column o
  | single => exact singleOut_key h column o
  | double => exact doubleOut_key column o text
  | block => exact absurd rfl hblock

/-- The words of a key. -/
def keyWords : Doc → List (List Char)
  | .alias name => [("*" ++ name).toList]
  | .scalar anchor tag plainImplied quotedImplied block text =>
    let style := styleOf true plainImplied block (analyze text)
    (anchor.map fun a => ("&" ++ a).toList).toList
      ++ (if isImplied style plainImplied quotedImplied then [] else [tag.toList])
      ++ [keyText style text.toList]
  | _ => []

theorem lineless_of_inline (h : Inline xs) : Lineless xs := fun x hx =>
  isLineEnd_of_isBreak (h x hx).1

theorem isGraphic_of_escapeLetter {c l : Char} (h : escapeLetter? c = some l) : IsGraphic l := by
  unfold escapeLetter? at h
  split at h
  case h_16 => cases h
  all_goals
    cases h
    decide

theorem isGraphic_upperHexDigits {width n : Nat} {x : Char} (h : x ∈ Text.upperHexDigits width n) :
    IsGraphic x := by
  obtain ⟨k, hk, rfl⟩ := upperHexDigits_mem h
  have hall : ∀ k : Fin 16, IsGraphic (Text.hexDigit k).toUpper := by decide
  exact hall ⟨k, hk⟩

/-- Escapes are written in ASCII. -/
theorem isGraphic_escaped (c : Char) : ∀ x ∈ escaped c, IsGraphic x := by
  have hsigns : IsGraphic '\\' ∧ IsGraphic 'x' ∧ IsGraphic 'u' ∧ IsGraphic 'U' := by decide
  obtain ⟨hback, hx, hu, hU⟩ := hsigns
  unfold escaped
  split
  next l hl => simpa [hback] using isGraphic_of_escapeLetter hl
  next =>
    dsimp only
    split
    · simpa [hback, hx] using fun x => isGraphic_upperHexDigits
    split
    · simpa [hback, hu] using fun x => isGraphic_upperHexDigits
    · simpa [hback, hU] using fun x => isGraphic_upperHexDigits

theorem lineless_of_graphic (h : ∀ x ∈ xs, IsGraphic x) : Lineless xs :=
  lineless_of_inline (inline_of_graphic h)

theorem Lineless.flatMap {f : Char → List Char} (h : Lineless xs)
    (hf : ∀ c, isLineEnd c = false → Lineless (f c)) : Lineless (xs.flatMap f) := by
  intro x hx
  obtain ⟨c, hc, hxc⟩ := List.mem_flatMap.1 hx
  exact hf c (h c hc) x hxc

theorem lineless_cons {c : Char} (hc : isLineEnd c = false) (h : Lineless xs) : Lineless (c :: xs) := by
  simpa [Lineless, hc] using h

theorem lineless_singleChar {c : Char} (hc : isLineEnd c = false) : Lineless (singleChar c) := by
  unfold singleChar
  split
  · exact lineless_cons rfl (lineless_cons rfl nofun)
  · exact lineless_cons hc nofun

theorem lineless_doubleChar {c : Char} (hc : isLineEnd c = false) : Lineless (doubleChar c) := by
  unfold doubleChar
  split
  · exact lineless_cons hc nofun
  · exact lineless_of_graphic (isGraphic_escaped c)

theorem Lineless.quoted {c : Char} (h : Lineless xs) (hc : isLineEnd c = false) :
    Lineless (c :: (xs ++ [c])) := by
  refine lineless_cons hc fun x hx => ?_
  rcases List.mem_append.1 hx with hx | hx
  · exact h x hx
  · rwa [List.mem_singleton.1 hx]

theorem lineless_keyText {style : Style} (h : Lineless text) : Lineless (keyText style text) := by
  have hdouble : Lineless ('"' :: (text.flatMap doubleChar ++ ['"'])) :=
    (h.flatMap fun _ => lineless_doubleChar).quoted rfl
  cases style with
  | plain => exact h
  | single => exact (h.flatMap fun _ => lineless_singleChar).quoted rfl
  | double | block => exact hdouble

/-- A key in front of its colon is the words of the key. -/
theorem nodeOut_key {k : Doc} (hs : isSimpleKey k = true) (hleaf : k.isLeaf = true) (column : Nat)
    (o : Out) : nodeOut .simpleKey column o k = o.words (keyWords k) := by
  cases k with
  | «alias» name =>
    rw [nodeOut, sign_word]
    rfl
  | scalar anchor tag plainImplied quotedImplied block text =>
    simp only [isSimpleKey, Bool.and_eq_true, Bool.not_eq_true'] at hs
    obtain ⟨⟨-, hempty⟩, hmultiline⟩ := hs
    have hne := ne_nil_of_not_empty hempty
    have hlines : Lineless text.toList := lineless_of_analyze hmultiline
    have hproperties : ∀ implied, propertiesOut o anchor tag implied
        = o.words ((anchor.map fun a => ("&" ++ a).toList).toList
          ++ if implied then [] else [tag.toList]) := by
      intro implied
      unfold propertiesOut anchorOut
      cases anchor <;> cases implied <;> simp [Out.words, sign_word]
    rw [nodeOut, decide_eq_true rfl, scalarOut_eq, Bool.not_true, hproperties, textOut_key hne hlines
      fun hblock => Bool.noConfusion (styleOf_block hblock).2.1]
    exact (words_append o _ [_]).symm
  | sequence | mapping => cases hleaf

theorem keyWords_ne_nil {k : Doc} (hleaf : k.isLeaf = true) : keyWords k ≠ [] := by
  cases k with
  | «alias» | scalar => simp [keyWords]
  | sequence | mapping => cases hleaf

theorem lineless_keyWords {k : Doc} (hs : isSimpleKey k = true) (h : k.Sound) :
    ∀ w ∈ keyWords k, Lineless w := by
  cases k with
  | «alias» name =>
    intro w hw
    rw [List.mem_singleton.1 hw]
    exact lineless_of_inline (IsName.inline_marked (x := '*') h rfl rfl)
  | scalar anchor tag plainImplied quotedImplied block text =>
    simp only [isSimpleKey, Bool.and_eq_true, Bool.not_eq_true'] at hs
    have hlines : Lineless text.toList := lineless_of_analyze hs.2
    obtain ⟨⟨hanchor, htag⟩, -⟩ := h
    intro w hw
    simp only [keyWords, List.mem_append, Option.mem_toList, Option.map_eq_some_iff] at hw
    rcases hw with (⟨a, ha, rfl⟩ | hw) | hw
    · exact lineless_of_inline ((hanchor a ha).inline_marked (x := '&') rfl rfl)
    · split at hw
      · cases hw
      · rw [List.mem_singleton.1 hw]
        exact lineless_of_inline htag.inline
    · rw [List.mem_singleton.1 hw]
      exact lineless_keyText hlines
  | sequence | mapping => exact List.forall_mem_nil _

/-- Where a key leads to: its length is the one it has on an empty line. -/
theorem key_measures {k : Doc} (hs : isSimpleKey k = true) (hleaf : k.isLeaf = true)
    (h : k.Sound) (column : Nat) (hblank : o.blank = true) :
    (nodeOut .simpleKey column o k).fresh = false ∧ (nodeOut .simpleKey column o k).blank = false ∧
      (nodeOut .simpleKey column o k).lines = o.lines ∧
      o.column ≤ (nodeOut .simpleKey column o k).column ∧
      (nodeOut .simpleKey column o k).reversed.length
        = o.reversed.length + (nodeOut .simpleKey column {} k).column := by
  have hflags := words_flags (keyWords_ne_nil hleaf) o
  rw [nodeOut_key hs hleaf, nodeOut_key hs hleaf, words_column, words_column, words_length, hblank]
  refine ⟨hflags.1, hflags.2, lines_words (lineless_keyWords hs h) o, Nat.le_add_right _ _, ?_⟩
  rw [Nat.zero_add]

end ModelSearch.Yaml
