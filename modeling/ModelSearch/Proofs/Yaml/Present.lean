import ModelSearch.Proofs.Yaml.Compose
import ModelSearch.Proofs.Yaml.Construct

/-!
# The document of a value

The tokens of the document of a value compose to a node that holds the value.  The reader registers a
node under the anchor of its object when it is complete; a later occurrence of the object is an alias,
which gives that node again, and the two occurrences are the same value because parts of one value that
are one object are equal.

    every part of a coherent value is composed from the tokens of its document     (composes)
    the tokens of `present v` give a node that holds v                   (document_present)
-/

namespace ModelSearch.Yaml

/-! ## Objects that are read -/

/-- What a reader knows when the objects `seen` were met and `opened` of them are not complete. -/
structure Registers (root : Value) (again seen opened : List Mark) (p : NodeReader) : Prop where
  begun : ∀ a ∈ p.opened, ∃ m ∈ seen, anchorOf again m = some a
  found : ∀ m ∈ seen, m ∉ opened → ∀ name, anchorOf again m = some name →
    ∃ n, p.anchors.find? (fun e => decide (e.1 = name)) = some (name, n) ∧
      ∀ u ∈ root.parts, u.mark? = some m → n.Holds u

section

variable {root : Value} {again seen opened : List Mark} {p : NodeReader} {m : Mark} {a : String}

theorem registers_start (root : Value) (again : List Mark) (h : p.opened = []) :
    Registers root again [] [] p where
  begun a ha := by
    rw [h] at ha
    cases ha
  found _ h := absurd h List.not_mem_nil

/-- The anchor of an object that was not met is still free. -/
theorem Registers.free (h : Registers root again seen opened p) (hm : m ∉ seen)
    (ha : anchorOf again m = some a) : p.Free (some a) := by
  rintro _ ⟨⟩ hb
  obtain ⟨k, hks, hname⟩ := h.begun a hb
  rw [anchorOf_injective hname ha] at hks
  exact hm hks

/-- Begin an object that has an anchor. -/
theorem Registers.begin_anchored (h : Registers root again seen opened p)
    (ha : anchorOf again m = some a) :
    Registers root again (m :: seen) (m :: opened) (p.opening (some a)) := by
  refine ⟨fun b hb => ?_, fun k hk hko => ?_⟩
  · rcases List.mem_cons.1 hb with rfl | hb
    · exact ⟨m, List.mem_cons_self, ha⟩
    · obtain ⟨k, hks, hname⟩ := h.begun b hb
      exact ⟨k, List.mem_cons_of_mem _ hks, hname⟩
  · rcases List.mem_cons.1 hk with rfl | hk
    · exact absurd List.mem_cons_self hko
    · exact h.found k hk fun hk => hko (List.mem_cons_of_mem _ hk)

/-- Begin an object that has none. -/
theorem Registers.begin_plain (h : Registers root again seen opened p) (m : Mark) :
    Registers root again seen (m :: opened) p :=
  ⟨h.begun, fun k hk hko => h.found k hk fun hk => hko (List.mem_cons_of_mem _ hk)⟩

/-- Complete an object that has an anchor. -/
theorem Registers.end_anchored (h : Registers root again seen (m :: opened) p)
    (ha : anchorOf again m = some a) {n : Node}
    (hn : ∀ u ∈ root.parts, u.mark? = some m → n.Holds u) :
    Registers root again seen opened { p with anchors := (a, n) :: p.anchors } := by
  refine ⟨h.begun, fun k hk hko name hname => ?_⟩
  by_cases hkm : k = m
  · subst hkm
    cases ha.symm.trans hname
    exact ⟨n, by simp, hn⟩
  · have hne : a ≠ name := by
      rintro rfl
      exact hkm (anchorOf_injective hname ha)
    obtain ⟨x, hx, hxu⟩ := h.found k hk (by simp [hkm, hko]) name hname
    exact ⟨x, by simpa [hne] using hx, hxu⟩

/-- Complete an object that has none. -/
theorem Registers.end_plain (h : Registers root again seen (m :: opened) p)
    (hm : anchorOf again m = none) : Registers root again seen opened p := by
  refine ⟨h.begun, fun k hk hko name hname => h.found k hk ?_ name hname⟩
  rintro hkm
  rcases List.mem_cons.1 hkm with rfl | hkm
  · rw [hm] at hname
    cases hname
  · exact hko hkm

end

/-! ## Values that are composed -/

/-- Whether a sequence may stand at the column of its surroundings. -/
def Place.inEntry : Place → Bool
  | .simpleKey | .entry => true
  | .root | .item => false

/-- What may follow a node: behind a sequence that may not be indented, no sign of an item. -/
def Follows (place : Place) (rest : List Token) : Prop :=
  place.inEntry = true → ∀ t ∈ rest.head?, t.sound = true ∧ t ≠ .entry

open NodeReader (commonHandles)

section

variable (root : Value) (again : List Mark)

/-- The tokens of a node that holds `v` are read up to the anchor that it is to be named by. -/
def Gathers (opened seen' : List Mark) (v : Value) (anchor : Option String) (toks : List Token)
    (place : Place) (p : NodeReader) : Prop :=
  ∃ (n : Node) (q : NodeReader), n.Holds v ∧ q.handles = commonHandles ∧
    Registers root again seen' opened q ∧
    ∀ rest fuel, Follows place rest → 2 * toks.length + 2 ≤ fuel →
      NodeReader.node true place.inEntry (p.before (toks ++ rest)) fuel
        = .ok ((q.before rest).named anchor n)

/-- The tokens of the document of a value give a node that holds it, wherever it stands. -/
def Composes (v : Value) : Prop :=
  ∀ (seen opened : List Mark) (place : Place) (fresh : Bool) (p : NodeReader),
    p.handles = commonHandles → Registers root again seen opened p →
    (∀ u ∈ v.parts, ∀ m, u.mark? = some m → m ∉ opened) →
    (∀ m ∈ seen, m ∈ (docOf again seen v).2) ∧
    Gathers root again opened (docOf again seen v).2 v none
      (docTokens place fresh (docOf again seen v).1) place p

/-- What makes the document of an object, once its anchor is known. -/
def Builds (m : Mark) (v : Value) (build : Option String → List Mark → Doc × List Mark) : Prop :=
  ∀ (anchor : Option String) (seen opened : List Mark) (place : Place) (fresh : Bool)
    (p : NodeReader), p.handles = commonHandles → p.Free anchor →
    Registers root again seen (m :: opened) (p.opening anchor) →
    (∀ u ∈ v.parts, ∀ k, u.mark? = some k → k ∉ opened) →
    (∀ k ∈ seen, k ∈ (build anchor seen).2) ∧
    Gathers root again (m :: opened) (build anchor seen).2 v anchor
      (docTokens place fresh (build anchor seen).1) place p

end

variable {root : Value} {again : List Mark}

theorem alias_before {p : NodeReader} {a : String} {ts : List Token} {n : Node} {block indentless}
    {fuel : Nat} (h : p.anchors.find? (fun e => decide (e.1 = a)) = some (a, n)) :
    NodeReader.node block indentless (p.before (.alias a :: ts)) (fuel + 1) = .ok (n, p.before ts) := by
  unfold NodeReader.node
  rw [NodeReader.peek_before (t := .alias a) rfl]
  simp only [bind, Except.bind, NodeReader.aliased, NodeReader.before_anchors, h, pure, Except.pure,
    NodeReader.skip_before]

/-- An object is written once, and named again where it occurs again. -/
theorem composes_of_builds {v : Value} {m : Mark}
    {build : Option String → List Mark → Doc × List Mark} (hm : v.mark? = some m)
    (hroot : v ∈ root.parts) (hc : Coherent root)
    (hdoc : ∀ seen, docOf again seen v = once again m seen build)
    (hbuild : Builds root again m v build) : Composes root again v := by
  intro seen opened place fresh p hh hr hopen
  have hmo : m ∉ opened := hopen v v.self_mem_parts m hm
  have hall : ∀ {n : Node}, n.Holds v → ∀ u ∈ root.parts, u.mark? = some m → n.Holds u := by
    intro n hn u hu hum
    rwa [hc u hu v hroot m hum hm]
  rw [hdoc]
  unfold once
  cases ha : anchorOf again m with
  | none =>
    obtain ⟨hgrows, n, q, hn, hq, hreg, hnode⟩ :=
      hbuild none seen opened place fresh p hh NodeReader.free_none (hr.begin_plain m) hopen
    exact ⟨hgrows, n, q, hn, hq, hreg.end_plain ha, hnode⟩
  | some a =>
    dsimp only
    by_cases hs : seen.contains m = true
    · rw [if_pos hs]
      obtain ⟨n, hfind, hholds⟩ := hr.found m (List.contains_iff_mem.1 hs) hmo a ha
      refine ⟨fun k hk => hk, n, p, hholds v hroot hm, hh, hr, fun rest fuel _ hfuel => ?_⟩
      obtain ⟨fuel, rfl⟩ : ∃ f, fuel = f + 1 := ⟨fuel - 1, by omega⟩
      simp only [docTokens, List.singleton_append, alias_before hfind]
      rfl
    · rw [if_neg hs]
      have hms : m ∉ seen := fun h => hs (List.contains_iff_mem.2 h)
      obtain ⟨hgrows, n, q, hn, hq, hreg, hnode⟩ :=
        hbuild (some a) (m :: seen) opened place fresh p hh (hr.free hms ha) (hr.begin_anchored ha)
          hopen
      refine ⟨fun k hk => hgrows k (List.mem_cons_of_mem _ hk), n,
        { q with anchors := (a, n) :: q.anchors }, hn, hq, hreg.end_anchored ha (hall hn),
        fun rest fuel hrest hfuel => ?_⟩
      rw [hnode rest fuel hrest hfuel]
      rfl

/-! ## Scalars -/

theorem ofName_short {tag : Tag} {text : String} {v : Value}
    (h : scalarForm? v = some (tag, text)) :
    Tag.ofName (commonTags ++ .ofList (tag.short.toList.drop 2)) = tag ∧
      commonTags ++ .ofList (tag.short.toList.drop 2) ≠ "!" := by
  cases v <;> cases h <;> exact ⟨by decide, by decide⟩

/-- The tag of a written scalar is read again. -/
theorem scalarTag_written {tag : Tag} {text : String} {v : Value}
    (h : scalarForm? v = some (tag, text)) (style : Style)
    (hs : style = .plain → implicitTag text = tag) :
    NodeReader.scalarTag
      (fullTag tag.short (isImplied style (implicitTag text = tag) (tag = .text)))
      (style = .plain) text = tag := by
  by_cases hp : style = .plain
  · simp [isImplied, hp, hs hp, fullTag, NodeReader.scalarTag]
  · by_cases ht : tag = .text
    · simp [isImplied, hp, ht, fullTag, NodeReader.scalarTag]
    · obtain ⟨hname, hne⟩ := ofName_short h
      simp [isImplied, hp, ht, fullTag, NodeReader.scalarTag, hname, hne]

theorem gathers_scalar {opened seen : List Mark} {v : Value} {tag : Tag} {text : String}
    (h : scalarForm? v = some (tag, text)) (anchor : Option String) (place : Place) (fresh : Bool)
    {p : NodeReader} (hh : p.handles = commonHandles) (hf : p.Free anchor)
    (hr : Registers root again seen opened (p.opening anchor)) :
    Gathers root again opened seen v anchor (docTokens place fresh (scalarDoc anchor tag text)) place
      p := by
  refine ⟨.scalar p.nextSerial tag text, { p.opening anchor with nextSerial := p.nextSerial + 1 }, ?_,
    hh, ⟨hr.begun, hr.found⟩, fun rest fuel _ hfuel => ?_⟩
  · cases v <;> first | exact ⟨_, tag, text, h, rfl⟩ | cases h
  · obtain ⟨fuel, rfl⟩ : ∃ f, fuel = f + 1 := ⟨fuel - 1, by omega⟩
    unfold scalarDoc docTokens
    dsimp only
    rw [List.append_assoc, List.singleton_append, NodeReader.node_scalar hh hf, scalarTag_written h]
    · rfl
    · intro hp
      exact of_decide_eq_true (styleOf_plain hp).1

/-! ## Collections -/

theorem Token.Opens.sound {place : Place} {t : Token} (h : t.Opens place) : t.sound = true := by
  rcases h with h | ⟨rfl, -⟩
  · cases t <;> first | rfl | cases h
  · rfl

/-- Tokens that a node does not begin with are not seen where it stands. -/
theorem sees_docTokens {p : NodeReader} {stops : List Token} {place : Place}
    (h : ∀ t, t.Opens place → t ∉ stops) (fresh : Bool) (d : Doc) (rest : List Token) :
    (p.before (docTokens place fresh d ++ rest)).sees stops = .ok false := by
  obtain ⟨t, ts, hts, ht⟩ := exists_docTokens place fresh d
  rw [hts, List.cons_append, NodeReader.sees_before ht.sound]
  simpa using h t ht

theorem follows_item (rest : List Token) : Follows .item rest := fun h => Bool.noConfusion h

/-- The items of a sequence or of a set are read one after the other. -/
def ItemsGather (root : Value) (again opened seen : List Mark) (xs : List Value) (p : NodeReader) :
    Prop :=
  (∀ m ∈ seen, m ∈ (docsOf again seen xs).2) ∧
  ∃ (ns : List Node) (q : NodeReader), AllHold ns xs ∧ q.handles = commonHandles ∧
    Registers root again (docsOf again seen xs).2 opened q ∧
    ∀ rest fuel, 2 * (itemTokens (docsOf again seen xs).1).length + 1 ≤ fuel →
      NodeReader.blockItems
          (p.before (itemTokens (docsOf again seen xs).1 ++ .blockEnd :: rest)) fuel
        = .ok (ns, q.before rest) ∧
      (Follows .entry rest → NodeReader.indentlessItems
          (p.before (itemTokens (docsOf again seen xs).1 ++ rest)) fuel
        = .ok (ns, q.before rest))

theorem indentlessItems_end {p : NodeReader} {rest : List Token} (h : Follows .entry rest)
    (fuel : Nat) : NodeReader.indentlessItems (p.before rest) (fuel + 1) = .ok ([], p.before rest) := by
  unfold NodeReader.indentlessItems
  cases rest with
  | nil => rfl
  | cons t rest =>
    obtain ⟨hs, hne⟩ := h rfl t rfl
    rw [NodeReader.peek_before hs]
    simp only [bind, Except.bind]
    split
    next heq =>
      cases heq
      exact absurd rfl hne
    · rfl

theorem itemsGather {xs : List Value} (hx : ∀ x ∈ xs, Composes root again x) :
    ∀ {seen opened : List Mark} {p : NodeReader}, p.handles = commonHandles →
      Registers root again seen opened p →
      (∀ x ∈ xs, ∀ u ∈ x.parts, ∀ m, u.mark? = some m → m ∉ opened) →
      ItemsGather root again opened seen xs p := by
  induction xs with
  | nil =>
    intro seen opened p hh hr _
    refine ⟨fun m hm => hm, [], p, rfl, hh, hr, fun rest fuel hfuel => ?_⟩
    obtain ⟨fuel, rfl⟩ : ∃ f, fuel = f + 1 := ⟨fuel - 1, by omega⟩
    exact ⟨rfl, fun hrest => indentlessItems_end hrest fuel⟩
  | cons x xs ih =>
    intro seen opened p hh hr hopen
    obtain ⟨hgx, n, q, hn, hq, hrq, hnode⟩ := hx x List.mem_cons_self seen opened .item true p hh hr
      (hopen x List.mem_cons_self)
    obtain ⟨hgxs, ns, q', hns, hq', hrq', hitems⟩ := ih
      (fun y hy => hx y (List.mem_cons_of_mem _ hy)) hq hrq
      fun y hy => hopen y (List.mem_cons_of_mem _ hy)
    refine ⟨fun m hm => hgxs m (hgx m hm), n :: ns, q', ⟨n, ns, rfl, hn, hns⟩, hq', hrq',
      fun rest fuel hfuel => ?_⟩
    simp only [docsOf, itemTokens, List.length_cons, List.length_append] at hfuel ⊢
    obtain ⟨fuel, rfl⟩ : ∃ f, fuel = f + 1 := ⟨fuel - 1, by omega⟩
    have hfree : ∀ t : Token, t.Opens .item → t ∉ [Token.entry, .key, .value, .blockEnd] := by
      rintro t (ht | ⟨-, ht | ht⟩) hm
      · simp only [List.mem_cons, List.not_mem_nil, or_false] at hm
        rcases hm with rfl | rfl | rfl | rfl <;> cases ht
      · cases ht
      · cases ht
    constructor
    · unfold NodeReader.blockItems
      rw [List.cons_append, List.append_assoc, NodeReader.peek_before (t := .entry) rfl]
      simp only [bind, Except.bind, NodeReader.skip_before]
      rw [sees_docTokens fun t ht hm => hfree t ht (by
        simp only [List.mem_cons, List.not_mem_nil, or_false] at hm ⊢
        rcases hm with rfl | rfl <;> simp)]
      have hread := hnode (itemTokens (docsOf again (docOf again seen x).2 xs).1 ++ .blockEnd :: rest)
        fuel (follows_item _) (by omega)
      simp only [Place.inEntry, NodeReader.named] at hread
      simp only [Bool.false_eq_true, if_false, hread, ((hitems rest fuel (by omega)).1), pure,
        Except.pure]
    · intro hrest
      unfold NodeReader.indentlessItems
      rw [List.cons_append, List.append_assoc, NodeReader.peek_before (t := .entry) rfl]
      simp only [bind, Except.bind, NodeReader.skip_before]
      rw [sees_docTokens hfree]
      have hread := hnode (itemTokens (docsOf again (docOf again seen x).2 xs).1 ++ rest)
        fuel (follows_item _) (by omega)
      simp only [Place.inEntry, NodeReader.named] at hread
      simp only [Bool.false_eq_true, if_false, hread, ((hitems rest fuel (by omega)).2 hrest), pure,
        Except.pure]

/-- The entries of a mapping are read one after the other. -/
def EntriesGather (root : Value) (again opened seen : List Mark) (es : List (Value × Value))
    (p : NodeReader) : Prop :=
  (∀ m ∈ seen, m ∈ (pairDocs again seen es).2) ∧
  ∃ (ns : List (Node × Node)) (q : NodeReader), EntriesHold ns es ∧ q.handles = commonHandles ∧
    Registers root again (pairDocs again seen es).2 opened q ∧
    ∀ rest fuel, 2 * (entryTokens (pairDocs again seen es).1).length + 2 ≤ fuel →
      NodeReader.blockEntries
          (p.before (entryTokens (pairDocs again seen es).1 ++ .blockEnd :: rest)) fuel
        = .ok (ns, q.before rest)

/-- A part of an entry stands where it is looked for. -/
theorem blockPart_docTokens {p : NodeReader} {place : Place} {fresh : Bool} {d : Doc}
    {rest : List Token} {fuel : Nat} :
    NodeReader.blockPart (p.before (docTokens place fresh d ++ rest)) (fuel + 1)
      = NodeReader.node true true (p.before (docTokens place fresh d ++ rest)) fuel := by
  unfold NodeReader.blockPart
  rw [sees_docTokens]
  · rfl
  · rintro t (ht | ⟨rfl, -⟩) hm
    · simp only [List.mem_cons, List.not_mem_nil, or_false] at hm
      rcases hm with rfl | rfl | rfl <;> cases ht
    · simp at hm

theorem follows_cons {place : Place} {t : Token} (hs : t.sound = true) (hne : t ≠ .entry)
    (rest : List Token) : Follows place (t :: rest) := by
  intro _ u hu
  cases hu
  exact ⟨hs, hne⟩

/-- What follows an entry: another one, or the end of the mapping. -/
theorem follows_entryTokens (place : Place) (ds : List (Doc × Doc)) (rest : List Token) :
    Follows place (entryTokens ds ++ .blockEnd :: rest) := by
  cases ds with
  | nil => exact follows_cons (t := .blockEnd) rfl (by decide) rest
  | cons d ds => exact follows_cons (t := .key) rfl (by decide) _

theorem entriesGather {es : List (Value × Value)}
    (hx : ∀ e ∈ es, Composes root again e.1 ∧ Composes root again e.2) :
    ∀ {seen opened : List Mark} {p : NodeReader}, p.handles = commonHandles →
      Registers root again seen opened p →
      (∀ e ∈ es, ∀ u, u ∈ e.1.parts ∨ u ∈ e.2.parts → ∀ m, u.mark? = some m → m ∉ opened) →
      EntriesGather root again opened seen es p := by
  induction es with
  | nil =>
    intro seen opened p hh hr _
    refine ⟨fun m hm => hm, [], p, rfl, hh, hr, fun rest fuel hfuel => ?_⟩
    obtain ⟨fuel, rfl⟩ : ∃ f, fuel = f + 1 := ⟨fuel - 1, by omega⟩
    rfl
  | cons e es ih =>
    obtain ⟨x, y⟩ := e
    intro seen opened p hh hr hopen
    obtain ⟨hcx, hcy⟩ : Composes root again x ∧ Composes root again y :=
      hx (x, y) List.mem_cons_self
    have hopenx := hopen (x, y) List.mem_cons_self
    -- the key stands in front of its colon or on a line of its own; both are parts of an entry
    have hplace : (if isSimpleKey (docOf again seen x).1 then Place.simpleKey else .entry).inEntry
        = true := by split <;> rfl
    obtain ⟨hgx, k, q, hk, hq, hrq, hkey⟩ := hcx seen opened
      (if isSimpleKey (docOf again seen x).1 then .simpleKey else .entry) true p hh hr
      fun u hu => hopenx u (.inl hu)
    obtain ⟨hgy, v, q', hv, hq', hrq', hvalue⟩ := hcy _ opened .entry
      (!isSimpleKey (docOf again seen x).1) q hq hrq fun u hu => hopenx u (.inr hu)
    obtain ⟨hges, ns, q'', hns, hq'', hrq'', hentries⟩ := ih
      (fun f hf => hx f (List.mem_cons_of_mem _ hf)) hq' hrq'
      fun f hf => hopen f (List.mem_cons_of_mem _ hf)
    refine ⟨fun m hm => hges m (hgy m (hgx m hm)), (k, v) :: ns, q'', ⟨k, v, ns, rfl, hk, hv, hns⟩,
      hq'', hrq'', fun rest fuel hfuel => ?_⟩
    simp only [pairDocs, entryTokens, List.length_cons, List.length_append] at hfuel ⊢
    obtain ⟨fuel, rfl⟩ : ∃ f, fuel = f + 2 := ⟨fuel - 2, by omega⟩
    have hkey' := hkey (.value :: (docTokens .entry (!isSimpleKey (docOf again seen x).1)
      (docOf again (docOf again seen x).2 y).1 ++ (entryTokens (pairDocs again
        (docOf again (docOf again seen x).2 y).2 es).1 ++ .blockEnd :: rest))) fuel
      (follows_cons (t := .value) rfl (by decide) _) (by omega)
    have hvalue' := hvalue (entryTokens (pairDocs again
      (docOf again (docOf again seen x).2 y).2 es).1 ++ .blockEnd :: rest) fuel
      (follows_entryTokens _ _ _) (by omega)
    rw [hplace] at hkey'
    simp only [NodeReader.named] at hkey' hvalue'
    unfold NodeReader.blockEntries
    simp only [List.cons_append, List.append_assoc]
    rw [NodeReader.peek_before (t := .key) rfl]
    simp only [bind, Except.bind, NodeReader.skip_before]
    rw [blockPart_docTokens, hkey']
    simp only [NodeReader.sees_before (t := .value) rfl, NodeReader.skip_before]
    rw [blockPart_docTokens]
    simp only [Place.inEntry] at hvalue'
    simp only [List.contains_cons, BEq.rfl, Bool.true_or, if_true, hvalue', hentries rest (fuel + 1)
      (by omega), pure, Except.pure]

/-! ## Nodes of collections -/

variable {opened seen : List Mark} {place : Place} {p : NodeReader} {fresh : Bool}
  {anchor : Option String} {tag : String} {implied : Bool}

theorem Place.inEntry_iff {place : Place} :
    (place = .simpleKey || place = .entry) = place.inEntry := by
  cases place <;> rfl

theorem isEmpty_docsOf (again seen : List Mark) (xs : List Value) :
    (docsOf again seen xs).1.isEmpty = xs.isEmpty := by
  cases xs <;> rfl

theorem isEmpty_pairDocs (again seen : List Mark) (es : List (Value × Value)) :
    (pairDocs again seen es).1.isEmpty = es.isEmpty := by
  cases es <;> rfl

/-- A sequence is read, indented or not. -/
theorem gathers_sequence {v : Value} {xs : List Value} {t : Tag}
    (ht : NodeReader.collectionTag (fullTag tag implied) .sequence = t)
    (hv : ∀ s ns, AllHold ns xs → (Node.sequence s t ns).Holds v)
    (hh : p.handles = commonHandles) (hf : p.Free anchor)
    (hx : ItemsGather root again opened seen xs (p.opening anchor)) :
    Gathers root again opened (docsOf again seen xs).2 v anchor
      (docTokens place fresh (.sequence anchor tag implied (docsOf again seen xs).1)) place p := by
  obtain ⟨-, ns, q, hns, hq, hr, hitems⟩ := hx
  refine ⟨.sequence q.nextSerial t ns, { q with nextSerial := q.nextSerial + (ns.length + 1) },
    hv _ _ hns, hq, ⟨hr.begun, hr.found⟩, fun rest fuel hrest hfuel => ?_⟩
  simp only [docTokens, List.length_append, isEmpty_docsOf] at hfuel ⊢
  have hnode : (q.before rest).sequenceNode anchor (fullTag tag implied) ns
      = ({ q with nextSerial := q.nextSerial + (ns.length + 1) }.before rest).named anchor
        (.sequence q.nextSerial t ns) := by
    unfold NodeReader.sequenceNode
    rw [ht]
    rfl
  by_cases hempty : xs.isEmpty = true
  · -- nothing was read: the brackets of no items
    obtain rfl := List.isEmpty_iff.1 hempty
    obtain ⟨hread, -⟩ := hitems rest 1 (Nat.le_refl 1)
    cases hns
    have hpq : (p.opening anchor).before rest = q.before rest :=
      (Prod.mk.inj (Except.ok.inj hread)).2
    obtain ⟨fuel, rfl⟩ : ∃ f, fuel = f + 2 := ⟨fuel - 2, by omega⟩
    rw [← hnode, ← hpq, if_pos hempty, List.append_assoc]
    exact NodeReader.node_flowSequence hh hf
  rw [if_neg hempty] at hfuel ⊢
  obtain ⟨fuel, rfl⟩ : ∃ f, fuel = f + 1 := ⟨fuel - 1, by omega⟩
  by_cases hflat : isFlat place fresh anchor implied = true
  · rw [if_pos hflat] at hfuel ⊢
    have hplace : place.inEntry = true := by
      simp only [isFlat, Place.inEntry_iff, Bool.and_eq_true] at hflat
      exact hflat.1
    obtain ⟨x, xs, rfl⟩ := List.exists_cons_of_ne_nil fun h => hempty (List.isEmpty_iff.2 h)
    have hread := (hitems rest fuel (by omega)).2 fun _ => hrest hplace
    rw [← hnode, hplace, List.append_assoc]
    simp only [docsOf, itemTokens, List.cons_append] at hread ⊢
    rw [NodeReader.node_flatSequence hh hf, hread]
    rfl
  · rw [if_neg hflat] at hfuel ⊢
    simp only [List.length_cons, List.length_append] at hfuel
    have hread := (hitems rest fuel (by omega)).1
    rw [← hnode, List.append_assoc, List.cons_append, List.append_assoc, List.singleton_append,
      NodeReader.node_blockSequence hh hf, hread]
    rfl

theorem gathers_mapping {v : Value} {es : List (Value × Value)} {t : Tag}
    (ht : NodeReader.collectionTag (fullTag tag implied) .mapping = t)
    (hv : ∀ s ns, EntriesHold ns es → (Node.mapping s t ns).Holds v)
    (hh : p.handles = commonHandles) (hf : p.Free anchor)
    (hx : EntriesGather root again opened seen es (p.opening anchor)) :
    Gathers root again opened (pairDocs again seen es).2 v anchor
      (docTokens place fresh (.mapping anchor tag implied (pairDocs again seen es).1)) place p := by
  obtain ⟨-, ns, q, hns, hq, hr, hentries⟩ := hx
  refine ⟨.mapping q.nextSerial t ns, { q with nextSerial := q.nextSerial + 1 }, hv _ _ hns, hq,
    ⟨hr.begun, hr.found⟩, fun rest fuel hrest hfuel => ?_⟩
  simp only [docTokens, List.length_append, isEmpty_pairDocs] at hfuel ⊢
  have hnode : (q.before rest).mappingNode anchor (fullTag tag implied) ns
      = ({ q with nextSerial := q.nextSerial + 1 }.before rest).named anchor
        (.mapping q.nextSerial t ns) := by
    unfold NodeReader.mappingNode
    rw [ht]
    rfl
  by_cases hempty : es.isEmpty = true
  · obtain rfl := List.isEmpty_iff.1 hempty
    have hread := hentries rest 2 (Nat.le_refl 2)
    cases hns
    have hpq : (p.opening anchor).before rest = q.before rest :=
      (Prod.mk.inj (Except.ok.inj hread)).2
    obtain ⟨fuel, rfl⟩ : ∃ f, fuel = f + 2 := ⟨fuel - 2, by omega⟩
    rw [← hnode, ← hpq, if_pos hempty, List.append_assoc]
    exact NodeReader.node_flowMapping hh hf
  · rw [if_neg hempty] at hfuel ⊢
    simp only [List.length_cons, List.length_append] at hfuel
    obtain ⟨fuel, rfl⟩ : ∃ f, fuel = f + 1 := ⟨fuel - 1, by omega⟩
    have hread := hentries rest fuel (by omega)
    rw [← hnode, List.append_assoc, List.cons_append, List.append_assoc, List.singleton_append,
      NodeReader.node_blockMapping hh hf, hread]
    rfl

/-! ## Values -/

theorem composes_null : Composes root again .null := by
  intro seen opened place fresh p hh hr _
  exact ⟨fun m hm => hm, gathers_scalar rfl none place fresh hh NodeReader.free_none hr⟩

/-- The document of a set is that of a mapping of its items to nothing. -/
theorem pairDocs_members (again seen : List Mark) (xs : List Value) :
    pairDocs again seen (xs.map fun x => (x, .null))
      = ((docsOf again seen xs).1.map fun d => (d, scalarDoc none .null "null"),
          (docsOf again seen xs).2) := by
  induction xs generalizing seen with
  | nil => rfl
  | cons x xs ih =>
    simp only [List.map_cons, pairDocs, docsOf, docOf, ih]

/-- A set is a mapping to nothing. -/
theorem docOf_set (again : List Mark) (k : Mark) (xs : List Value) (seen : List Mark) :
    docOf again seen (.set k xs) = once again k seen fun a seen =>
      (.mapping a "!!set" false (pairDocs again seen (xs.map fun x => (x, .null))).1,
        (pairDocs again seen (xs.map fun x => (x, .null))).2) := by
  simp only [docOf, pairDocs_members]

/-- The parts of an object that are inside it are other objects. -/
theorem Coherent.inside (hc : Coherent root) {v x : Value} (hv : v ∈ root.parts) {m : Mark}
    (hm : v.mark? = some m) (hx : x ∈ root.parts) (hlt : sizeOf x < sizeOf v)
    (hopen : ∀ u ∈ x.parts, ∀ k, u.mark? = some k → k ∉ opened) :
    ∀ u ∈ x.parts, ∀ k, u.mark? = some k → k ∉ m :: opened := by
  intro u hu k hk hmem
  rcases List.mem_cons.1 hmem with rfl | hmem
  · have huv := hc u (Value.mem_parts_trans hx hu) v hv k hk hm
    have := Value.sizeOf_le_of_mem_parts hu
    rw [huv] at this
    omega
  · exact hopen u hu k hk hmem

/-- What stands inside an object: smaller parts of it, and nothing else. -/
def Inside (root v x : Value) : Prop :=
  x ∈ root.parts ∧ sizeOf x < sizeOf v ∧ ∀ u ∈ x.parts, u ∈ v.parts

/-- The parts inside an object are none of the objects that are not complete. -/
theorem Coherent.notMem_opened (hc : Coherent root) {v x : Value} (hv : v ∈ root.parts) {m : Mark}
    (hm : v.mark? = some m) (hopen : ∀ u ∈ v.parts, ∀ k, u.mark? = some k → k ∉ opened)
    (hx : Inside root v x) : ∀ u ∈ x.parts, ∀ k, u.mark? = some k → k ∉ m :: opened := by
  obtain ⟨hroot, hlt, hsub⟩ := hx
  intro u hu k hk hmem
  rcases List.mem_cons.1 hmem with rfl | hmem
  · have huv := hc u (Value.mem_parts_trans hroot hu) v hv k hk hm
    have := Value.sizeOf_le_of_mem_parts hu
    rw [huv] at this
    omega
  · exact hopen u (hsub u hu) k hk hmem

/-- Sequences are composed when their items are. -/
theorem builds_sequence (hc : Coherent root) {v : Value} (hroot : v ∈ root.parts) {m : Mark}
    (hm : v.mark? = some m) {xs : List Value} (hx : ∀ x ∈ xs, Composes root again x)
    (hin : ∀ x ∈ xs, Inside root v x) {t : Tag}
    (ht : NodeReader.collectionTag (fullTag tag implied) .sequence = t)
    (hv : ∀ s ns, AllHold ns xs → (Node.sequence s t ns).Holds v) :
    Builds root again m v fun a seen =>
      (.sequence a tag implied (docsOf again seen xs).1, (docsOf again seen xs).2) := by
  intro anchor seen opened place fresh p hh hf hr hopen
  have hitems := itemsGather (p := p.opening anchor) hx hh hr fun x hxm => hc.notMem_opened hroot hm hopen (hin x hxm)
  exact ⟨hitems.1, gathers_sequence ht hv hh hf hitems⟩

/-- Mappings are composed when their keys and values are. -/
theorem builds_mapping (hc : Coherent root) {v : Value} (hroot : v ∈ root.parts) {m : Mark}
    (hm : v.mark? = some m) {es : List (Value × Value)}
    (hx : ∀ e ∈ es, Composes root again e.1 ∧ Composes root again e.2)
    (hin : ∀ e ∈ es, Inside root v e.1 ∧ (e.2 = .null ∨ Inside root v e.2)) {t : Tag}
    (ht : NodeReader.collectionTag (fullTag tag implied) .mapping = t)
    (hv : ∀ s ns, EntriesHold ns es → (Node.mapping s t ns).Holds v) :
    Builds root again m v fun a seen =>
      (.mapping a tag implied (pairDocs again seen es).1, (pairDocs again seen es).2) := by
  intro anchor seen opened place fresh p hh hf hr hopen
  have hentries := entriesGather (p := p.opening anchor) hx hh hr fun e he u hu k hk => by
    obtain ⟨hkey, hvalue⟩ := hin e he
    rcases hu with hu | hu
    · exact hc.notMem_opened hroot hm hopen hkey u hu k hk
    · rcases hvalue with hnull | hvalue
      · rw [hnull] at hu
        cases List.mem_singleton.1 hu
        cases hk
      · exact hc.notMem_opened hroot hm hopen hvalue u hu k hk
  exact ⟨hentries.1, gathers_mapping ht hv hh hf hentries⟩

/-- Scalars that are objects of their own. -/
theorem composes_scalar (hc : Coherent root) {v : Value} (hroot : v ∈ root.parts) {k : Mark}
    (hm : v.mark? = some k) {tag : Tag} {text : String} (hv : scalarForm? v = some (tag, text))
    (hdoc : ∀ seen, docOf again seen v
      = once again k seen fun a seen => (scalarDoc a tag text, seen)) :
    Composes root again v :=
  composes_of_builds hm hroot hc hdoc fun anchor _ _ place fresh _ hh hf hr _ =>
    ⟨fun _ hm => hm, gathers_scalar hv anchor place fresh hh hf hr⟩

theorem composes_list (hc : Coherent root) {k : Mark} {xs : List Value}
    (hroot : .list k xs ∈ root.parts) (hx : ∀ x ∈ xs, Composes root again x) :
    Composes root again (.list k xs) := by
  refine composes_of_builds rfl hroot hc (fun _ => rfl)
    (builds_sequence hc hroot rfl hx (fun x hxm => ?_) (t := .sequence) rfl
      fun s ns h => ⟨s, ns, rfl, h⟩)
  have hsub : ∀ u ∈ x.parts, u ∈ (Value.list k xs).parts := fun u hu =>
    List.mem_cons_of_mem _ (Value.mem_partsOfAll.2 ⟨x, hxm, hu⟩)
  refine ⟨Value.mem_parts_trans hroot (hsub x x.self_mem_parts), ?_, hsub⟩
  have := List.sizeOf_lt_of_mem hxm
  simp only [Value.list.sizeOf_spec]
  omega

theorem composes_tuple (hc : Coherent root) {k : Mark} {xs : List Value}
    (hroot : .tuple k xs ∈ root.parts) (hx : ∀ x ∈ xs, Composes root again x) :
    Composes root again (.tuple k xs) := by
  have ht : NodeReader.collectionTag (fullTag tupleTag false) .sequence = tupleNodeTag := by decide
  cases xs with
  | nil =>
    intro seen opened place fresh p hh hr _
    have hitems : ItemsGather root again opened seen [] p :=
      itemsGather (fun x hx => by cases hx) hh hr fun x hx => by cases hx
    exact ⟨fun _ hm => hm, gathers_sequence (v := .tuple k []) ht (fun s ns h => ⟨s, ns, rfl, h⟩) hh
      NodeReader.free_none hitems⟩
  | cons y ys =>
    refine composes_of_builds rfl hroot hc (fun _ => rfl)
      (builds_sequence hc hroot rfl hx (fun x hxm => ?_) ht fun s ns h => ⟨s, ns, rfl, h⟩)
    have hsub : ∀ u ∈ x.parts, u ∈ (Value.tuple k (y :: ys)).parts := fun u hu =>
      List.mem_cons_of_mem _ (Value.mem_partsOfAll.2 ⟨x, hxm, hu⟩)
    refine ⟨Value.mem_parts_trans hroot (hsub x x.self_mem_parts), ?_, hsub⟩
    have := List.sizeOf_lt_of_mem hxm
    simp only [Value.tuple.sizeOf_spec]
    omega

theorem composes_set (hc : Coherent root) {k : Mark} {xs : List Value}
    (hroot : .set k xs ∈ root.parts) (hx : ∀ x ∈ xs, Composes root again x) :
    Composes root again (.set k xs) := by
  refine composes_of_builds rfl hroot hc (docOf_set again k xs)
    (builds_mapping hc hroot rfl (fun e he => ?_) (fun e he => ?_) (t := .set) (by decide)
      fun s ns h => ⟨s, ns, rfl, membersHold_iff.2 h⟩)
  · obtain ⟨x, hxm, rfl⟩ := List.mem_map.1 he
    exact ⟨hx x hxm, composes_null⟩
  · obtain ⟨x, hxm, rfl⟩ := List.mem_map.1 he
    have hsub : ∀ u ∈ x.parts, u ∈ (Value.set k xs).parts := fun u hu =>
      List.mem_cons_of_mem _ (Value.mem_partsOfAll.2 ⟨x, hxm, hu⟩)
    refine ⟨⟨Value.mem_parts_trans hroot (hsub x x.self_mem_parts), ?_, hsub⟩, .inl rfl⟩
    have := List.sizeOf_lt_of_mem hxm
    simp only [Value.set.sizeOf_spec]
    omega

theorem composes_dict (hc : Coherent root) {k : Mark} {es : List (Value × Value)}
    (hroot : .dict k es ∈ root.parts)
    (hx : ∀ e ∈ es, Composes root again e.1 ∧ Composes root again e.2) :
    Composes root again (.dict k es) := by
  refine composes_of_builds rfl hroot hc (fun _ => rfl)
    (builds_mapping hc hroot rfl hx (fun e he => ?_) (t := .mapping) rfl
      fun s ns h => ⟨s, ns, rfl, h⟩)
  have hlt := List.sizeOf_lt_of_mem he
  rw [show sizeOf e = 1 + sizeOf e.1 + sizeOf e.2 from by cases e; rfl] at hlt
  have hinside : ∀ x, (∀ u ∈ x.parts, u ∈ e.1.parts ∨ u ∈ e.2.parts) → sizeOf x < sizeOf es →
      Inside root (.dict k es) x := by
    intro x hsub hsize
    have hparts : ∀ u ∈ x.parts, u ∈ (Value.dict k es).parts := fun u hu =>
      List.mem_cons_of_mem _ (Value.mem_partsOfEntries.2 ⟨e, he, hsub u hu⟩)
    refine ⟨Value.mem_parts_trans hroot (hparts x x.self_mem_parts), ?_, hparts⟩
    simp only [Value.dict.sizeOf_spec]
    omega
  exact ⟨hinside e.1 (fun u hu => .inl hu) (by omega),
    .inr (hinside e.2 (fun u hu => .inr hu) (by omega))⟩

mutual

/-- The tokens of every part of a coherent value give a node that holds the part. -/
theorem composes (hc : Coherent root) : ∀ v : Value, (∀ u ∈ v.parts, u ∈ root.parts) → Composes root again v
  | .null, _ => composes_null
  | .bool _, _ | .int _, _ | .float _, _ | .notANumber _, _ | .text _, _ | .bytes _, _ =>
    fun _ _ place fresh _ hh hr _ =>
      ⟨fun _ hm => hm, gathers_scalar rfl none place fresh hh NodeReader.free_none hr⟩
  | .date _ _, h => composes_scalar hc (h _ (Value.self_mem_parts _)) rfl rfl fun _ => rfl
  | .moment _ _, h => composes_scalar hc (h _ (Value.self_mem_parts _)) rfl rfl fun _ => rfl
  | .list _ xs, h => composes_list hc (h _ (Value.self_mem_parts _))
    (composesAll hc xs fun u hu => h u (List.mem_cons_of_mem _ hu))
  | .tuple _ xs, h => composes_tuple hc (h _ (Value.self_mem_parts _))
    (composesAll hc xs fun u hu => h u (List.mem_cons_of_mem _ hu))
  | .set _ xs, h => composes_set hc (h _ (Value.self_mem_parts _))
    (composesAll hc xs fun u hu => h u (List.mem_cons_of_mem _ hu))
  | .dict _ es, h => composes_dict hc (h _ (Value.self_mem_parts _))
    (composesEntries hc es fun u hu => h u (List.mem_cons_of_mem _ hu))

theorem composesAll (hc : Coherent root) : ∀ xs : List Value,
    (∀ u ∈ Value.partsOfAll xs, u ∈ root.parts) → ∀ x ∈ xs, Composes root again x
  | [], _ => fun _ hx => by cases hx
  | y :: ys, h => by
    intro x hx
    rcases List.mem_cons.1 hx with hxy | hx
    · rw [hxy]
      exact composes hc y fun u hu => h u (List.mem_append_left _ hu)
    · exact composesAll hc ys (fun u hu => h u (List.mem_append_right _ hu)) x hx

theorem composesEntries (hc : Coherent root) : ∀ es : List (Value × Value),
    (∀ u ∈ Value.partsOfEntries es, u ∈ root.parts) →
    ∀ e ∈ es, Composes root again e.1 ∧ Composes root again e.2
  | [], _ => fun _ he => by cases he
  | (k, v) :: es, h => by
    intro e he
    rcases List.mem_cons.1 he with hkv | he
    · rw [hkv]
      exact ⟨composes hc k fun u hu => h u (List.mem_append_left _ (List.mem_append_left _ hu)),
        composes hc v fun u hu => h u (List.mem_append_left _ (List.mem_append_right _ hu))⟩
    · exact composesEntries hc es (fun u hu => h u (List.mem_append_right _ hu)) e he

end

/-! ## Documents -/

/-- A text whose tokens are those of the document of a coherent value gives a node that holds the
value. -/
theorem document_present {v : Value} (hc : Coherent v) {text : List Char}
    (h : tokens text = docTokens .root true (present v)) :
    ∃ n, document text = .ok (some n) ∧ n.Holds v := by
  have hcomposes : Composes v (markValue {} v).again v := composes hc v fun u hu => hu
  obtain ⟨t, ts, hts, hopens⟩ := exists_docTokens .root true (present v)
  have hbegins : t.begins = true := by
    rcases hopens with hb | ⟨-, hb | hb⟩
    · exact hb
    · cases hb
    · cases hb
  obtain ⟨-, n, q, hn, -, -, hnode⟩ := hcomposes [] [] .root true
    { tokens := t :: ts, handles := commonHandles } rfl (registers_start _ _ rfl) fun _ _ _ _ h => by cases h
  replace hts : docTokens .root true (docOf (markValue {} v).again [] v).1 = t :: ts := hts
  rw [hts] at hnode
  have hread := hnode [] (4 * (t :: ts).length + 8) (fun _ u hu => by cases hu) (by omega)
  rw [List.append_nil] at hread
  refine ⟨n, ?_, hn⟩
  unfold document NodeReader.document
  rw [h, show docTokens .root true (present v) = t :: ts from hts]
  have hpeek : ({ tokens := t :: ts } : NodeReader).peek = .ok (some t) :=
    NodeReader.peek_before (p := { tokens := [] }) hopens.sound
  rw [hpeek]
  simp only [bind, Except.bind]
  split
  next heq => cases heq
  next heq =>
    cases heq
    cases hbegins
  next heq =>
    cases heq
    cases hbegins
  · replace hread : NodeReader.node true false { tokens := t :: ts, handles := commonHandles }
        (4 * (t :: ts).length + 8) = .ok (n, q.before []) := hread
    rw [hread]
    rfl

end ModelSearch.Yaml
