import ModelSearch.Proofs.Yaml.Holds

/-!
# Faults of the grammar

The grammar has two faults of its own, that of the document and that of a node inside itself.  Every
other one is met among the tokens: no reader looks at tokens that were not there at the beginning, so
the fault at which the tokens end is the only other one.

    document text = .error f → f = .document, f = .recursive, or f ends the tokens of the text
                                                                                 (document_blames)
-/

namespace ModelSearch.Yaml

/-- What goes wrong is the document, a node inside itself, or a fault among some tokens. -/
def Blames {α : Type} (ts : List Token) (x : Except Fault α) : Prop :=
  ∀ f, x = .error f → f = .document ∨ f = .recursive ∨ ∃ g, Token.fault g ∈ ts ∧ g.fault = f

theorem blames_ok {α : Type} (ts : List Token) (a : α) : Blames ts (.ok a) := nofun

theorem blames_document {α : Type} (ts : List Token) :
    Blames ts (.error .document : Except Fault α) := by
  rintro f ⟨⟩
  exact .inl rfl

theorem Blames.mono {α : Type} {ts us : List Token} {x : Except Fault α} (h : Blames ts x)
    (hs : ts ⊆ us) : Blames us x := by
  intro f hf
  rcases h f hf with hd | hr | ⟨g, hg, he⟩
  · exact .inl hd
  · exact .inr (.inl hr)
  · exact .inr (.inr ⟨g, hs hg, he⟩)

theorem Blames.bind {α β : Type} {ts : List Token} {x : Except Fault α} {k : α → Except Fault β}
    (h : Blames ts x) (hk : ∀ a, x = .ok a → Blames ts (k a)) : Blames ts (x >>= k) := by
  cases x with
  | ok a => exact hk a rfl
  | error e => exact fun f hf => h f (by cases hf; rfl)

namespace NodeReader

variable {α β : Type} {p q : NodeReader}

/-- A reader that blames only the tokens in front of it and leaves a part of them. -/
structure Reads (p : NodeReader) (x : Except Fault (Parsed α)) : Prop where
  blames : Blames p.tokens x
  rest : ∀ a q, x = .ok (a, q) → q.tokens ⊆ p.tokens

theorem reads_ok {a : α} (h : q.tokens ⊆ p.tokens) : Reads p (.ok (a, q)) := by
  refine ⟨blames_ok _ _, ?_⟩
  rintro b r ⟨⟩
  exact h

theorem reads_document (p : NodeReader) :
    Reads p (.error .document : Except Fault (Parsed α)) :=
  ⟨blames_document _, nofun⟩

/-- Reading on from tokens further behind. -/
theorem Reads.mono {x : Except Fault (Parsed α)} (h : Reads q x) (hs : q.tokens ⊆ p.tokens) :
    Reads p x :=
  ⟨h.blames.mono hs, fun a r hr => List.Subset.trans (h.rest a r hr) hs⟩

theorem Reads.bind {x : Except Fault (Parsed α)} {k : Parsed α → Except Fault (Parsed β)}
    (h : Reads p x) (hk : ∀ a q, Reads q (k (a, q))) : Reads p (x >>= k) := by
  cases x with
  | ok r => exact (hk r.1 r.2).mono (h.rest _ _ rfl)
  | error e =>
    refine ⟨fun f hf => h.blames f (by cases hf; rfl), ?_⟩
    rintro b r ⟨⟩

/-- A look at the tokens, and reading on from the same place. -/
theorem Reads.look {x : Except Fault α} {k : α → Except Fault (Parsed β)} (h : Blames p.tokens x)
    (hk : ∀ a, Reads p (k a)) : Reads p (x >>= k) := by
  cases x with
  | ok a => exact hk a
  | error e =>
    refine ⟨fun f hf => h f (by cases hf; rfl), ?_⟩
    rintro b r ⟨⟩

/-- The same, where what is read first depends on a test. -/
theorem Reads.ite_bind {c : Bool} {x y : Except Fault (Parsed α)}
    {k : Parsed α → Except Fault (Parsed β)} (h : Reads p (if c then x else y))
    (hk : ∀ a q, Reads q (k (a, q))) : Reads p (if c then x >>= k else y >>= k) := by
  cases c with
  | true => exact h.bind hk
  | false => exact h.bind hk

/-! ## Steps -/

theorem skip_subset (p : NodeReader) : p.skip.tokens ⊆ p.tokens :=
  List.drop_subset 1 p.tokens

theorem blames_peek (p : NodeReader) : Blames p.tokens p.peek := by
  intro f hf
  unfold peek at hf
  split at hf
  next g _ ht =>
    cases hf
    exact .inr (.inr ⟨g, by rw [ht]; exact List.mem_cons_self, rfl⟩)
  · cases hf
  · cases hf

theorem blames_sees (p : NodeReader) (ts : List Token) : Blames p.tokens (p.sees ts) := by
  refine (blames_peek p).bind fun t _ => ?_
  split <;> exact blames_ok _ _

theorem blames_tagName (p : NodeReader) (handle : Option String) (suffix : String)
    (ts : List Token) : Blames ts (p.tagName handle suffix) := by
  unfold tagName
  split
  · exact blames_ok _ _
  · split
    · exact blames_ok _ _
    · exact blames_document _

theorem blames_opens (p : NodeReader) (anchor : Option String) (ts : List Token) :
    Blames ts (p.opens anchor) := by
  unfold opens
  split
  · exact blames_ok _ _
  · split
    · exact blames_document _
    · exact blames_ok _ _

theorem tokens_of_opens {anchor : Option String} (h : p.opens anchor = .ok q) :
    q.tokens = p.tokens := by
  unfold opens at h
  split at h
  · cases h
    rfl
  · split at h <;> cases h
    rfl

theorem blames_aliased (p : NodeReader) (anchor : String) (ts : List Token) :
    Blames ts (p.aliased anchor) := by
  unfold aliased
  split
  · exact blames_ok _ _
  · rintro f ⟨⟩
    split
    · exact .inr (.inl rfl)
    · exact .inl rfl

theorem reads_emptyScalar (p : NodeReader) : Reads p (.ok p.emptyScalar) :=
  reads_ok fun _ => id

theorem reads_named (p : NodeReader) (anchor : Option String) (n : Node) :
    Reads p (.ok (p.named anchor n)) := by
  unfold named
  split <;> exact reads_ok fun _ => id

theorem reads_scalarNode (p : NodeReader) (anchor : Option String) (tag : Tag) (text : String) :
    Reads p (.ok (p.scalarNode anchor tag text)) :=
  (reads_named (p.take 1).2 anchor _).mono fun _ => id

theorem reads_sequenceNode (p : NodeReader) (anchor tag : Option String) (items : List Node) :
    Reads p (.ok (p.sequenceNode anchor tag items)) :=
  (reads_named (p.take (items.length + 1)).2 anchor _).mono fun _ => id

theorem reads_mappingNode (p : NodeReader) (anchor tag : Option String)
    (entries : List (Node × Node)) : Reads p (.ok (p.mappingNode anchor tag entries)) :=
  (reads_named (p.take 1).2 anchor _).mono fun _ => id

theorem reads_emptyNode (p : NodeReader) (anchor tag : Option String) :
    Reads p (p.emptyNode anchor tag) := by
  unfold emptyNode
  split
  · exact reads_document p
  · exact reads_scalarNode p _ _ _

theorem reads_properties (p : NodeReader) : Reads p p.properties := by
  have hskip : ∀ q : NodeReader, q.tokens ⊆ p.tokens → q.skip.tokens ⊆ p.tokens :=
    fun q hq => List.Subset.trans (skip_subset q) hq
  have hp : p.tokens ⊆ p.tokens := fun _ => id
  unfold properties
  refine .look (blames_peek p) fun t => ?_
  split
  · refine .look ((blames_peek p.skip).mono (skip_subset p)) fun u => ?_
    split
    · exact .look (blames_tagName _ _ _ _) fun _ => reads_ok (hskip _ (hskip p hp))
    · exact reads_ok (hskip p hp)
  · refine .look ((blames_peek p.skip).mono (skip_subset p)) fun u => ?_
    split
    · exact .look (blames_tagName _ _ _ _) fun _ => reads_ok (hskip _ (hskip p hp))
    · exact .look (blames_tagName _ _ _ _) fun _ => reads_ok (hskip p hp)
  · exact reads_ok hp

/-- A node is begun where the reader stands. -/
theorem reads_opens {anchor : Option String} {k : NodeReader → Except Fault (Parsed β)}
    (hk : ∀ q, Reads q (k q)) : Reads p (p.opens anchor >>= k) := by
  cases ho : p.opens anchor with
  | error e =>
    refine ⟨fun f hf => blames_opens p anchor _ f (by cases hf; exact ho), ?_⟩
    rintro b r ⟨⟩
  | ok q =>
    refine (hk q).mono ?_
    rw [tokens_of_opens ho]
    exact fun _ => id

/-! ## The grammar -/

/-- What every reader of the grammar does at most `fuel` deep. -/
structure GrammarReads (fuel : Nat) : Prop where
  node : ∀ block indentless p, Reads p (node block indentless p fuel)
  blockItems : ∀ p, Reads p (blockItems p fuel)
  indentlessItems : ∀ p, Reads p (indentlessItems p fuel)
  blockPart : ∀ p, Reads p (blockPart p fuel)
  blockEntries : ∀ p, Reads p (blockEntries p fuel)
  flowPart : ∀ close key p, Reads p (flowPart close key p fuel)
  flowValue : ∀ close p, Reads p (flowValue close p fuel)
  flowItems : ∀ first p, Reads p (flowItems first p fuel)
  flowEntries : ∀ first p, Reads p (flowEntries first p fuel)

theorem reads_node {fuel : Nat} (ih : GrammarReads fuel) (block indentless : Bool)
    (p : NodeReader) : Reads p (NodeReader.node block indentless p (fuel + 1)) := by
  unfold NodeReader.node
  refine .look (blames_peek p) fun t => ?_
  split
  · exact .look (blames_aliased p _ _) fun n => reads_ok (skip_subset p)
  · refine (reads_properties p).bind fun a q => ?_
    refine .look (blames_peek q) fun u => ?_
    refine reads_opens fun q => ?_
    dsimp only
    split
    · split
      · exact (ih.indentlessItems q).bind fun _ r => reads_sequenceNode r _ _ _
      · exact reads_emptyNode q _ _
    · exact (reads_scalarNode q.skip _ _ _).mono (skip_subset q)
    · exact ((ih.flowItems true q.skip).bind fun _ r => reads_sequenceNode r _ _ _).mono
        (skip_subset q)
    · exact ((ih.flowEntries true q.skip).bind fun _ r => reads_mappingNode r _ _ _).mono
        (skip_subset q)
    · split
      · exact ((ih.blockItems q.skip).bind fun _ r => reads_sequenceNode r _ _ _).mono
          (skip_subset q)
      · exact reads_emptyNode q _ _
    · split
      · exact ((ih.blockEntries q.skip).bind fun _ r => reads_mappingNode r _ _ _).mono
          (skip_subset q)
      · exact reads_emptyNode q _ _
    · exact reads_emptyNode q _ _

/-- A node, or the scalar of nothing where a sign tells that nothing is there. -/
theorem reads_orEmpty {fuel : Nat} (ih : GrammarReads fuel) (block indentless stop : Bool)
    (p : NodeReader) :
    Reads p (if stop then .ok p.emptyScalar else NodeReader.node block indentless p fuel) := by
  split
  · exact reads_emptyScalar p
  · exact ih.node _ _ _

theorem reads_blockItems {fuel : Nat} (ih : GrammarReads fuel) (p : NodeReader) :
    Reads p (NodeReader.blockItems p (fuel + 1)) := by
  unfold NodeReader.blockItems
  refine .look (blames_peek p) fun t => ?_
  split
  · refine Reads.mono (.look (blames_sees p.skip _) fun stop => ?_) (skip_subset p)
    refine (reads_orEmpty ih true false stop p.skip).ite_bind fun item q => ?_
    exact (ih.blockItems q).bind fun items r => reads_ok fun _ => id
  · exact reads_ok (skip_subset p)
  · exact reads_document p

theorem reads_indentlessItems {fuel : Nat} (ih : GrammarReads fuel) (p : NodeReader) :
    Reads p (NodeReader.indentlessItems p (fuel + 1)) := by
  unfold NodeReader.indentlessItems
  refine .look (blames_peek p) fun t => ?_
  split
  · refine Reads.mono (.look (blames_sees p.skip _) fun stop => ?_) (skip_subset p)
    refine (reads_orEmpty ih true false stop p.skip).ite_bind fun item q => ?_
    exact (ih.indentlessItems q).bind fun items r => reads_ok fun _ => id
  · exact reads_ok fun _ => id

theorem reads_blockPart {fuel : Nat} (ih : GrammarReads fuel) (p : NodeReader) :
    Reads p (NodeReader.blockPart p (fuel + 1)) := by
  unfold NodeReader.blockPart
  exact .look (blames_sees p _) fun stop => reads_orEmpty ih true true stop p

/-- The value of an entry, or the scalar of nothing. -/
theorem reads_valueOrEmpty {fuel : Nat} (ih : GrammarReads fuel) (sees : Bool) (p : NodeReader) :
    Reads p (if sees then NodeReader.blockPart p.skip fuel else .ok p.emptyScalar) := by
  split
  · exact (ih.blockPart p.skip).mono (skip_subset p)
  · exact reads_emptyScalar p

theorem reads_blockEntries {fuel : Nat} (ih : GrammarReads fuel) (p : NodeReader) :
    Reads p (NodeReader.blockEntries p (fuel + 1)) := by
  unfold NodeReader.blockEntries
  refine .look (blames_peek p) fun t => ?_
  split
  · exact reads_ok (skip_subset p)
  · refine ((ih.blockPart p.skip).mono (skip_subset p)).bind fun key q => ?_
    refine .look (blames_sees q _) fun sees => ?_
    refine (reads_valueOrEmpty ih sees q).ite_bind fun value r => ?_
    exact (ih.blockEntries r).bind fun entries s => reads_ok fun _ => id
  · exact reads_document p

theorem reads_flowPart {fuel : Nat} (ih : GrammarReads fuel) (close : Token) (key : Bool)
    (p : NodeReader) : Reads p (NodeReader.flowPart close key p (fuel + 1)) := by
  unfold NodeReader.flowPart
  exact .look (blames_sees p _) fun stop => reads_orEmpty ih false false stop p

theorem reads_flowValue {fuel : Nat} (ih : GrammarReads fuel) (close : Token) (p : NodeReader) :
    Reads p (NodeReader.flowValue close p (fuel + 1)) := by
  unfold NodeReader.flowValue
  refine .look (blames_sees p _) fun sees => ?_
  split
  · exact (ih.flowPart _ _ p.skip).mono (skip_subset p)
  · exact reads_emptyScalar p

/-- Behind a comma, reading goes on from a part of the tokens. -/
theorem reads_separated {first : Bool} {k : NodeReader → Except Fault (Parsed β)}
    (hk : ∀ q, Reads q (k q)) : Reads p (separated first p >>= k) := by
  unfold separated
  split
  · exact hk p
  · cases hs : p.sees [.flowEntry] with
    | error e =>
      refine ⟨fun f hf => blames_sees p _ f (by cases hf; exact hs), ?_⟩
      rintro b r ⟨⟩
    | ok sees =>
      cases sees with
      | true => exact (hk p.skip).mono (skip_subset p)
      | false => exact reads_document p

theorem reads_flowItems {fuel : Nat} (ih : GrammarReads fuel) (first : Bool) (p : NodeReader) :
    Reads p (NodeReader.flowItems first p (fuel + 1)) := by
  unfold NodeReader.flowItems
  refine .look (blames_sees p _) fun ends => ?_
  split
  · exact reads_ok (skip_subset p)
  · refine reads_separated fun q => .look (blames_peek q) fun t => ?_
    split
    · exact reads_ok (skip_subset q)
    · refine ((ih.flowPart _ _ q.skip).mono (skip_subset q)).bind fun key r => ?_
      refine (ih.flowValue _ r).bind fun value s => ?_
      show Reads s (Except.ok (s.mappingNode none none [(key, value)]) >>= fun r =>
        NodeReader.flowItems false r.2 fuel >>= fun v => .ok (r.1 :: v.1, v.2))
      refine (reads_mappingNode s _ _ _).bind fun item u => ?_
      exact (ih.flowItems false u).bind fun items v => reads_ok fun _ => id
    · refine (ih.node _ _ q).bind fun item r => ?_
      exact (ih.flowItems false r).bind fun items s => reads_ok fun _ => id

theorem reads_flowEntries {fuel : Nat} (ih : GrammarReads fuel) (first : Bool) (p : NodeReader) :
    Reads p (NodeReader.flowEntries first p (fuel + 1)) := by
  unfold NodeReader.flowEntries
  refine .look (blames_sees p _) fun ends => ?_
  split
  · exact reads_ok (skip_subset p)
  · refine reads_separated fun q => .look (blames_peek q) fun t => ?_
    split
    · exact reads_ok (skip_subset q)
    · refine ((ih.flowPart _ _ q.skip).mono (skip_subset q)).bind fun key r => ?_
      refine (ih.flowValue _ r).bind fun value s => ?_
      exact (ih.flowEntries false s).bind fun entries u => reads_ok fun _ => id
    · refine (ih.node _ _ q).bind fun key r => ?_
      have hr : Reads r (NodeReader.flowEntries false r.emptyScalar.2 fuel) :=
        (ih.flowEntries false r.emptyScalar.2).mono fun _ => id
      show Reads r (NodeReader.flowEntries false r.emptyScalar.2 fuel >>= _)
      exact hr.bind fun entries s => reads_ok fun _ => id

theorem grammarReads (fuel : Nat) : GrammarReads fuel := by
  induction fuel with
  | zero => constructor <;> intros <;> exact reads_document _
  | succ fuel ih =>
    exact ⟨reads_node ih, reads_blockItems ih, reads_indentlessItems ih, reads_blockPart ih,
      reads_blockEntries ih, reads_flowPart ih, reads_flowValue ih, reads_flowItems ih,
      reads_flowEntries ih⟩

/-! ## Documents -/

theorem blames_atEnd (ts : List Token) : Blames ts (atEnd ts) := by
  induction ts with
  | nil => exact blames_ok _ _
  | cons t ts ih =>
    unfold atEnd
    split
    · exact blames_ok _ _
    next rest ht =>
      cases ht
      exact ih.mono (List.subset_cons_self _ _)
    next g rest ht =>
      cases ht
      rintro f ⟨⟩
      exact .inr (.inr ⟨g, List.mem_cons_self, rfl⟩)
    · exact blames_document _

/-- A node that is read, and the end behind it. -/
theorem blames_toEnd {x : Except Fault (Parsed Node)} (h : Reads p x) :
    Blames p.tokens (do
      let (n, q) ← x
      atEnd q.tokens
      return some n) := by
  refine h.blames.bind ?_
  rintro ⟨n, q⟩ hq
  exact ((blames_atEnd q.tokens).mono (h.rest n q hq)).bind fun _ _ => blames_ok _ _

/-- The same for a node that may be the scalar of nothing. -/
theorem blames_orEmpty_toEnd (empty : Bool) (fuel : Nat) (p : NodeReader) :
    Blames p.tokens (if empty then (do
        let (n, q) ← .ok p.emptyScalar
        atEnd q.tokens
        return some n)
      else (do
        let (n, q) ← NodeReader.node true false p fuel
        atEnd q.tokens
        return some n)) := by
  split
  · exact blames_toEnd (reads_emptyScalar p)
  · exact blames_toEnd ((grammarReads fuel).node _ _ p)

theorem directives_spec (ts : List Token) (version : Bool) (handles : List (String × String)) :
    directives version handles ts = .error .document ∨
      ∃ hs rest, directives version handles ts = .ok (hs, rest) ∧ rest ⊆ ts := by
  induction ts generalizing version handles with
  | nil => exact .inr ⟨_, [], rfl, fun _ => id⟩
  | cons t ts ih =>
    have hcons : ∀ {v : Bool} {h : List (String × String)},
        directives v h ts = .error .document ∨
          ∃ hs rest, directives v h ts = .ok (hs, rest) ∧ rest ⊆ t :: ts := by
      intro v h
      rcases ih v h with he | ⟨hs, rest, he, hr⟩
      · exact .inl he
      · exact .inr ⟨hs, rest, he, List.Subset.trans hr (List.subset_cons_self _ _)⟩
    unfold directives
    split
    next heq =>
      cases heq
      split
      · exact .inl rfl
      · exact hcons
    next heq =>
      cases heq
      split
      · exact .inl rfl
      · exact hcons
    next heq =>
      cases heq
      exact hcons
    · exact .inr ⟨_, _, rfl, fun _ => id⟩

theorem blames_markedDocument (p : NodeReader) (fuel : Nat) :
    Blames p.tokens (markedDocument p fuel) := by
  unfold markedDocument
  rcases directives_spec p.tokens false [] with he | ⟨hs, rest, he, hr⟩
  · rw [he]
    exact blames_document _
  · rw [he]
    let q : NodeReader := { p with tokens := rest, handles := hs }
    show Blames p.tokens (q.sees [.documentStart] >>= _)
    refine ((blames_sees q _).mono hr).bind fun sees _ => ?_
    split
    · have hq := List.Subset.trans (skip_subset q) hr
      exact ((blames_peek q.skip).mono hq).bind fun t _ =>
        (blames_orEmpty_toEnd _ fuel q.skip).mono hq
    · exact blames_document _

theorem blames_readDocument (p : NodeReader) : Blames p.tokens (document p) := by
  unfold document
  refine (blames_peek p).bind fun t _ => ?_
  split
  · exact blames_ok _ _
  · exact blames_markedDocument p _
  · exact blames_markedDocument p _
  · exact blames_toEnd (p := { p with handles := commonHandles }) ((grammarReads _).node _ _ _)

end NodeReader

/-- A text has a node, or the document is at fault, or a node is inside itself, or the tokens end with
the fault. -/
theorem document_blames (text : List Char) : Blames (tokens text) (document text) :=
  NodeReader.blames_readDocument _

end ModelSearch.Yaml
