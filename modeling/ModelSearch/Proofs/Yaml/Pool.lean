import ModelSearch.Proofs.Yaml.Holds

/-!
# The numbers of nodes

A reader gives every node that it makes numbers of its own: a sequence one for itself and one for
each of its items, any other node one.  The nodes made so far are a pool: no two of them share a
number, the parts of a node were made before it, and what aliases name is in the pool.

    document text = .ok (some n) → n is in a pool                       (exists_pool)
    n is in a pool → Descending n                                    (Pool.descending)
-/

namespace ModelSearch.Yaml

/-- How many numbers a node takes. -/
def Node.width : Node → Nat
  | .sequence _ _ items => items.length + 1
  | _ => 1

/-- Nodes made by a reader whose next number is `next`. -/
structure Pool (made : Node → Prop) (next : Nat) : Prop where
  bounded : ∀ n, made n → n.serial + n.width ≤ next
  apart : ∀ a b, made a → made b →
    a = b ∨ a.serial + a.width ≤ b.serial ∨ b.serial + b.width ≤ a.serial
  child : ∀ n, made n → ∀ c ∈ n.children, made c ∧ c.serial < n.serial

theorem Node.width_pos (n : Node) : 0 < n.width := by
  cases n <;> simp [width]

/-- Nodes of a pool with the same number are the same. -/
theorem Pool.eq_of_serial {made : Node → Prop} {next : Nat} (h : Pool made next) {a b : Node}
    (ha : made a) (hb : made b) (hs : a.serial = b.serial) : a = b := by
  have := a.width_pos
  have := b.width_pos
  rcases h.apart a b ha hb with heq | hlt | hlt
  · exact heq
  · omega
  · omega

/-- The numbers that a sequence reserves for its items are those of no node. -/
theorem Pool.serial_ne_reserved {made : Node → Prop} {next : Nat} (h : Pool made next) {a : Node}
    {s : Nat} {t : Tag} {items : List Node} (ha : made a) (hb : made (.sequence s t items)) {i : Nat}
    (hi : i < items.length) : a.serial ≠ s + 1 + i := by
  intro hs
  have hlt : s + (items.length + 1) ≤ a.serial ∨ a.serial + a.width ≤ s ∨ a.serial = s := by
    rcases h.apart a _ ha hb with rfl | hlt | hlt
    · exact .inr (.inr rfl)
    · exact .inr (.inl hlt)
    · exact .inl hlt
  have := a.width_pos
  omega

/-- Sequences that reserve the same number are the same. -/
theorem Pool.eq_of_reserved {made : Node → Prop} {next : Nat} (h : Pool made next) {s s' : Nat}
    {t t' : Tag} {items items' : List Node} (ha : made (.sequence s t items))
    (hb : made (.sequence s' t' items')) {i j : Nat} (hi : i < items.length)
    (hj : j < items'.length) (hs : s + 1 + i = s' + 1 + j) :
    (Node.sequence s t items) = .sequence s' t' items' := by
  rcases h.apart _ _ ha hb with heq | hlt | hlt
  · exact heq
  · have : s + (items.length + 1) ≤ s' := hlt
    omega
  · have : s' + (items'.length + 1) ≤ s := hlt
    omega

theorem Pool.descending {made : Node → Prop} {next : Nat} (h : Pool made next) {n : Node}
    (hn : made n) : Descending n := by
  induction hs : n.serial using Nat.strongRecOn generalizing n with
  | ind s ih =>
    refine .intro (fun c hc => (h.child n hn c hc).2) fun c hc => ?_
    have hlt := (h.child n hn c hc).2
    exact ih c.serial (by omega) (h.child n hn c hc).1 rfl

/-- Put a new node of a reader into a pool. -/
theorem Pool.add {made : Node → Prop} {next : Nat} (h : Pool made next) {n : Node}
    (hs : n.serial = next) (hc : ∀ c ∈ n.children, made c) :
    Pool (fun x => made x ∨ x = n) (next + n.width) := by
  have hlt : ∀ c, made c → c.serial < n.serial := by
    intro c hc
    have := h.bounded c hc
    have := c.width_pos
    omega
  refine ⟨?_, ?_, ?_⟩
  · rintro x (hx | rfl)
    · have := h.bounded x hx
      omega
    · omega
  · rintro a b (ha | rfl) (hb | rfl)
    · exact h.apart a b ha hb
    · exact .inr (.inl (by rw [hs]; exact h.bounded a ha))
    · exact .inr (.inr (by rw [hs]; exact h.bounded b hb))
    · exact .inl rfl
  · rintro x (hx | rfl) c hcx
    · exact ⟨.inl (h.child x hx c hcx).1, (h.child x hx c hcx).2⟩
    · exact ⟨.inl (hc c hcx), hlt c (hc c hcx)⟩

namespace NodeReader

/-- The pool of a reader: the nodes that it made, and what its anchors name. -/
structure Within (p : NodeReader) (made : Node → Prop) : Prop where
  pool : Pool made p.nextSerial
  anchors : ∀ e ∈ p.anchors, made e.2

/-- From one reader to another, some nodes having been read: the pool grows and has them. -/
def Leads (p q : NodeReader) (read : List Node) : Prop :=
  ∀ made, p.Within made → ∃ more : Node → Prop, (∀ n, made n → more n) ∧ q.Within more ∧
    ∀ n ∈ read, more n

variable {p q r : NodeReader}

theorem leads_of_eq (hs : q.nextSerial = p.nextSerial) (ha : q.anchors = p.anchors) :
    Leads p q [] := by
  intro made h
  refine ⟨made, fun _ => id, ⟨?_, ?_⟩, by simp⟩
  · rw [hs]
    exact h.pool
  · rw [ha]
    exact h.anchors

theorem Leads.trans {xs ys : List Node} (h : Leads p q xs) (k : Leads q r ys) :
    Leads p r (xs ++ ys) := by
  intro made hp
  obtain ⟨m₁, h₁, hq, hx⟩ := h made hp
  obtain ⟨m₂, h₂, hr, hy⟩ := k m₁ hq
  refine ⟨m₂, fun n hn => h₂ n (h₁ n hn), hr, fun n hn => ?_⟩
  rcases List.mem_append.1 hn with hn | hn
  · exact h₂ n (hx n hn)
  · exact hy n hn

theorem leads_skip (p : NodeReader) : Leads p p.skip [] := leads_of_eq rfl rfl

theorem Leads.skip {xs : List Node} (h : Leads p.skip q xs) : Leads p q xs :=
  (leads_skip p).trans h

/-! ## New nodes -/

/-- A node with a number of its own, made of what was read, perhaps with an anchor. -/
theorem leads_named {xs : List Node} {n : Node} (anchor : Option String) (node : Node)
    (h : Leads p q xs) (hs : node.serial = q.nextSerial) (hc : ∀ c ∈ node.children, c ∈ xs)
    (hn : named { q with nextSerial := q.nextSerial + node.width } anchor node = (n, r)) :
    Leads p r [n] := by
  intro made hp
  obtain ⟨m, hm, hq, hx⟩ := h made hp
  have hadd := hq.pool.add hs fun c hcn => hx c (hc c hcn)
  have hanchors : ∀ e ∈ q.anchors, m e.2 ∨ e.2 = node := fun e he => .inl (hq.anchors e he)
  unfold named at hn
  split at hn
  · cases hn
    exact ⟨_, fun x hx => .inl (hm x hx), ⟨hadd, hanchors⟩, by simp⟩
  · cases hn
    refine ⟨_, fun x hx => .inl (hm x hx), ⟨hadd, fun e he => ?_⟩, by simp⟩
    rcases List.mem_cons.1 he with rfl | he
    · exact .inr rfl
    · exact hanchors e he

theorem leads_emptyScalar (p : NodeReader) : Leads p p.emptyScalar.2 [p.emptyScalar.1] :=
  leads_named none p.emptyScalar.1 (leads_of_eq rfl rfl) rfl (fun c hc => by cases hc) rfl

theorem leads_scalarNode {anchor : Option String} {tag : Tag} {text : String} {n : Node}
    (h : p.scalarNode anchor tag text = (n, q)) : Leads p q [n] :=
  leads_named anchor (.scalar p.nextSerial tag text) (leads_of_eq rfl rfl) rfl
    (fun c hc => by cases hc) h

theorem leads_sequenceNode {anchor tag : Option String} {items : List Node} {n : Node}
    (h : Leads p q items) (hn : q.sequenceNode anchor tag items = (n, r)) : Leads p r [n] :=
  leads_named anchor (.sequence q.nextSerial (collectionTag tag .sequence) items) h rfl
    (fun _ hc => hc) hn

/-- The nodes of entries. -/
def entryNodes (entries : List (Node × Node)) : List Node := entries.flatMap fun e => [e.1, e.2]

theorem leads_mappingNode {anchor tag : Option String} {entries : List (Node × Node)} {n : Node}
    (h : Leads p q (entryNodes entries)) (hn : q.mappingNode anchor tag entries = (n, r)) :
    Leads p r [n] :=
  leads_named anchor (.mapping q.nextSerial (collectionTag tag .mapping) entries) h rfl
    (fun _ hc => hc) hn

theorem leads_emptyNode {anchor tag : Option String} {n : Node}
    (h : p.emptyNode anchor tag = .ok (n, q)) : Leads p q [n] := by
  unfold emptyNode at h
  split at h
  · cases h
  · exact leads_scalarNode (Except.ok.inj h)

theorem leads_opens {anchor : Option String} (h : p.opens anchor = .ok q) : Leads p q [] := by
  unfold opens at h
  split at h
  · cases h
    exact leads_of_eq rfl rfl
  · split at h <;> cases h
    exact leads_of_eq rfl rfl

theorem leads_properties {r : Option String × Option String} (h : p.properties = .ok (r, q)) :
    Leads p q [] := by
  unfold properties at h
  simp only [bind, Except.bind, pure, Except.pure] at h
  refine leads_of_eq ?_ ?_ <;>
  · repeat' split at h
    all_goals first | (cases h; rfl) | cases h

/-- What an alias names. -/
theorem leads_aliased {a : String} {n : Node} (h : p.aliased a = .ok n) : Leads p p.skip [n] := by
  intro made hp
  refine ⟨made, fun _ => id, ⟨hp.pool, hp.anchors⟩, fun x hx => ?_⟩
  rw [List.mem_singleton.1 hx]
  unfold aliased at h
  split at h
  next hf =>
    cases h
    exact hp.anchors _ (List.mem_of_find?_eq_some hf)
  · cases h

/-! ## The grammar -/

/-- What every reader of the grammar does at most `fuel` deep. -/
structure GrammarLeads (fuel : Nat) : Prop where
  node : ∀ block indentless p n q, node block indentless p fuel = .ok (n, q) → Leads p q [n]
  blockItems : ∀ p ns q, blockItems p fuel = .ok (ns, q) → Leads p q ns
  indentlessItems : ∀ p ns q, indentlessItems p fuel = .ok (ns, q) → Leads p q ns
  blockPart : ∀ p n q, blockPart p fuel = .ok (n, q) → Leads p q [n]
  blockEntries : ∀ p es q, blockEntries p fuel = .ok (es, q) → Leads p q (entryNodes es)
  flowPart : ∀ close key p n q, flowPart close key p fuel = .ok (n, q) → Leads p q [n]
  flowValue : ∀ close p n q, flowValue close p fuel = .ok (n, q) → Leads p q [n]
  flowItems : ∀ first p ns q, flowItems first p fuel = .ok (ns, q) → Leads p q ns
  flowEntries : ∀ first p es q, flowEntries first p fuel = .ok (es, q) → Leads p q (entryNodes es)

theorem grammarLeads_node {fuel : Nat} (ih : GrammarLeads fuel) (block indentless : Bool)
    {n : Node} (h : NodeReader.node block indentless p (fuel + 1) = .ok (n, q)) : Leads p q [n] := by
  unfold NodeReader.node at h
  obtain ⟨t, ht, h⟩ := bind_eq_ok.1 h
  split at h
  · obtain ⟨m, hm, h⟩ := bind_eq_ok.1 h
    cases h
    exact leads_aliased hm
  · obtain ⟨⟨⟨anchor, tag⟩, p₁⟩, hp, h⟩ := bind_eq_ok.1 h
    obtain ⟨t, ht, h⟩ := bind_eq_ok.1 h
    obtain ⟨p₂, ho, h⟩ := bind_eq_ok.1 h
    have h₁ := (leads_properties hp).trans (leads_opens ho)
    dsimp only at h
    split at h
    · split at h
      · obtain ⟨⟨items, p₃⟩, hi, h⟩ := bind_eq_ok.1 h
        exact leads_sequenceNode (h₁.trans (ih.indentlessItems _ _ _ hi)) (Except.ok.inj h)
      · exact h₁.trans (leads_emptyNode h)
    · exact (h₁.trans (leads_skip p₂)).trans (leads_scalarNode (Except.ok.inj h))
    · obtain ⟨⟨items, p₃⟩, hi, h⟩ := bind_eq_ok.1 h
      exact leads_sequenceNode (h₁.trans (ih.flowItems _ _ _ _ hi).skip) (Except.ok.inj h)
    · obtain ⟨⟨entries, p₃⟩, he, h⟩ := bind_eq_ok.1 h
      exact leads_mappingNode (h₁.trans (ih.flowEntries _ _ _ _ he).skip) (Except.ok.inj h)
    · split at h
      · obtain ⟨⟨items, p₃⟩, hi, h⟩ := bind_eq_ok.1 h
        exact leads_sequenceNode (h₁.trans (ih.blockItems _ _ _ hi).skip) (Except.ok.inj h)
      · exact h₁.trans (leads_emptyNode h)
    · split at h
      · obtain ⟨⟨entries, p₃⟩, he, h⟩ := bind_eq_ok.1 h
        exact leads_mappingNode (h₁.trans (ih.blockEntries _ _ _ he).skip) (Except.ok.inj h)
      · exact h₁.trans (leads_emptyNode h)
    · exact h₁.trans (leads_emptyNode h)

/-- A node, or the scalar of nothing where a sign tells that nothing is there. -/
theorem leads_orEmpty {fuel : Nat} (ih : GrammarLeads fuel) {block indentless stop : Bool} {n : Node}
    (h : (if stop then Except.ok p.emptyScalar else NodeReader.node block indentless p fuel)
      = .ok (n, q)) : Leads p q [n] := by
  split at h
  · cases h
    exact leads_emptyScalar p
  · exact ih.node _ _ _ _ _ h

theorem grammarLeads_blockItems {fuel : Nat} (ih : GrammarLeads fuel) {ns : List Node}
    (h : NodeReader.blockItems p (fuel + 1) = .ok (ns, q)) : Leads p q ns := by
  unfold NodeReader.blockItems at h
  obtain ⟨t, ht, h⟩ := bind_eq_ok.1 h
  split at h
  · obtain ⟨stop, hs, h⟩ := bind_eq_ok.1 h
    obtain ⟨⟨item, p₁⟩, hi, h⟩ := ite_bind_eq_ok.1 h
    obtain ⟨⟨items, p₂⟩, hr, h⟩ := bind_eq_ok.1 h
    cases h
    exact (leads_orEmpty ih hi).skip.trans (ih.blockItems _ _ _ hr)
  · cases h
    exact leads_skip p
  · cases h

theorem grammarLeads_indentlessItems {fuel : Nat} (ih : GrammarLeads fuel) {ns : List Node}
    (h : NodeReader.indentlessItems p (fuel + 1) = .ok (ns, q)) : Leads p q ns := by
  unfold NodeReader.indentlessItems at h
  obtain ⟨t, ht, h⟩ := bind_eq_ok.1 h
  split at h
  · obtain ⟨stop, hs, h⟩ := bind_eq_ok.1 h
    obtain ⟨⟨item, p₁⟩, hi, h⟩ := ite_bind_eq_ok.1 h
    obtain ⟨⟨items, p₂⟩, hr, h⟩ := bind_eq_ok.1 h
    cases h
    exact (leads_orEmpty ih hi).skip.trans (ih.indentlessItems _ _ _ hr)
  · cases h
    exact leads_of_eq rfl rfl

theorem grammarLeads_blockPart {fuel : Nat} (ih : GrammarLeads fuel) {n : Node}
    (h : NodeReader.blockPart p (fuel + 1) = .ok (n, q)) : Leads p q [n] := by
  unfold NodeReader.blockPart at h
  obtain ⟨stop, hs, h⟩ := bind_eq_ok.1 h
  exact leads_orEmpty ih h

/-- The value of an entry, or the scalar of nothing. -/
theorem leads_valueOrEmpty {fuel : Nat} (ih : GrammarLeads fuel) {sees : Bool} {n : Node}
    (h : (if sees then NodeReader.blockPart p.skip fuel else Except.ok p.emptyScalar) = .ok (n, q)) :
    Leads p q [n] := by
  split at h
  · exact (ih.blockPart _ _ _ h).skip
  · cases h
    exact leads_emptyScalar p

theorem grammarLeads_blockEntries {fuel : Nat} (ih : GrammarLeads fuel) {es : List (Node × Node)}
    (h : NodeReader.blockEntries p (fuel + 1) = .ok (es, q)) : Leads p q (entryNodes es) := by
  unfold NodeReader.blockEntries at h
  obtain ⟨t, ht, h⟩ := bind_eq_ok.1 h
  split at h
  · cases h
    exact leads_skip p
  · obtain ⟨⟨key, p₁⟩, hk, h⟩ := bind_eq_ok.1 h
    obtain ⟨sees, hs, h⟩ := bind_eq_ok.1 h
    obtain ⟨⟨value, p₂⟩, hv, h⟩ := ite_bind_eq_ok.1 h
    obtain ⟨⟨entries, p₃⟩, hr, h⟩ := bind_eq_ok.1 h
    cases h
    exact ((ih.blockPart _ _ _ hk).skip.trans (leads_valueOrEmpty ih hv)).trans
      (ih.blockEntries _ _ _ hr)
  · cases h

theorem grammarLeads_flowPart {fuel : Nat} (ih : GrammarLeads fuel) {close : Token} {key : Bool}
    {n : Node} (h : NodeReader.flowPart close key p (fuel + 1) = .ok (n, q)) : Leads p q [n] := by
  unfold NodeReader.flowPart at h
  obtain ⟨stop, hs, h⟩ := bind_eq_ok.1 h
  exact leads_orEmpty ih h

theorem grammarLeads_flowValue {fuel : Nat} (ih : GrammarLeads fuel) {close : Token} {n : Node}
    (h : NodeReader.flowValue close p (fuel + 1) = .ok (n, q)) : Leads p q [n] := by
  unfold NodeReader.flowValue at h
  obtain ⟨sees, hs, h⟩ := bind_eq_ok.1 h
  split at h
  · exact (ih.flowPart _ _ _ _ _ h).skip
  · cases h
    exact leads_emptyScalar p

theorem leads_separated {first : Bool} (h : separated first p = .ok q) : Leads p q [] := by
  unfold separated at h
  split at h
  · cases h
    exact leads_of_eq rfl rfl
  · obtain ⟨sees, hs, h⟩ := bind_eq_ok.1 h
    split at h
    · cases h
      exact leads_skip p
    · cases h

theorem grammarLeads_flowItems {fuel : Nat} (ih : GrammarLeads fuel) {first : Bool}
    {ns : List Node} (h : NodeReader.flowItems first p (fuel + 1) = .ok (ns, q)) :
    Leads p q ns := by
  unfold NodeReader.flowItems at h
  obtain ⟨ends, he, h⟩ := bind_eq_ok.1 h
  split at h
  · cases h
    exact leads_skip p
  · obtain ⟨p₁, hp, h⟩ := bind_eq_ok.1 h
    have h₁ := leads_separated hp
    obtain ⟨t, ht, h⟩ := bind_eq_ok.1 h
    split at h
    · cases h
      exact h₁.trans (leads_skip p₁)
    · obtain ⟨⟨key, p₂⟩, hk, h⟩ := bind_eq_ok.1 h
      obtain ⟨⟨value, p₃⟩, hv, h⟩ := bind_eq_ok.1 h
      obtain ⟨⟨items, p₄⟩, hr, h⟩ := bind_eq_ok.1 h
      cases h
      have hpair := (ih.flowPart _ _ _ _ _ hk).skip.trans (ih.flowValue _ _ _ _ hv)
      have hi : p₃.mappingNode none none [(key, value)]
          = (.mapping p₃.nextSerial .mapping [(key, value)], (p₃.take 1).2) := rfl
      exact h₁.trans ((leads_mappingNode hpair hi).trans (ih.flowItems _ _ _ _ hr))
    · obtain ⟨⟨item, p₂⟩, hi, h⟩ := bind_eq_ok.1 h
      obtain ⟨⟨items, p₃⟩, hr, h⟩ := bind_eq_ok.1 h
      cases h
      exact h₁.trans ((ih.node _ _ _ _ _ hi).trans (ih.flowItems _ _ _ _ hr))

theorem grammarLeads_flowEntries {fuel : Nat} (ih : GrammarLeads fuel) {first : Bool}
    {es : List (Node × Node)} (h : NodeReader.flowEntries first p (fuel + 1) = .ok (es, q)) :
    Leads p q (entryNodes es) := by
  unfold NodeReader.flowEntries at h
  obtain ⟨ends, he, h⟩ := bind_eq_ok.1 h
  split at h
  · cases h
    exact leads_skip p
  · obtain ⟨p₁, hp, h⟩ := bind_eq_ok.1 h
    have h₁ := leads_separated hp
    obtain ⟨t, ht, h⟩ := bind_eq_ok.1 h
    split at h
    · cases h
      exact h₁.trans (leads_skip p₁)
    · obtain ⟨⟨key, p₂⟩, hk, h⟩ := bind_eq_ok.1 h
      obtain ⟨⟨value, p₃⟩, hv, h⟩ := bind_eq_ok.1 h
      obtain ⟨⟨entries, p₄⟩, hr, h⟩ := bind_eq_ok.1 h
      cases h
      have hpair := (ih.flowPart _ _ _ _ _ hk).skip.trans (ih.flowValue _ _ _ _ hv)
      exact h₁.trans (hpair.trans (ih.flowEntries _ _ _ _ hr))
    · obtain ⟨⟨key, p₂⟩, hk, h⟩ := bind_eq_ok.1 h
      obtain ⟨⟨entries, p₄⟩, hr, h⟩ := bind_eq_ok.1 h
      cases h
      exact h₁.trans (((ih.node _ _ _ _ _ hk).trans (leads_emptyScalar p₂)).trans
        (ih.flowEntries _ _ _ _ hr))

theorem grammarLeads (fuel : Nat) : GrammarLeads fuel := by
  induction fuel with
  | zero => constructor <;> intros <;> contradiction
  | succ fuel ih =>
    exact ⟨fun _ _ _ _ _ h => grammarLeads_node ih _ _ h,
      fun _ _ _ h => grammarLeads_blockItems ih h,
      fun _ _ _ h => grammarLeads_indentlessItems ih h,
      fun _ _ _ h => grammarLeads_blockPart ih h,
      fun _ _ _ h => grammarLeads_blockEntries ih h,
      fun _ _ _ _ _ h => grammarLeads_flowPart ih h,
      fun _ _ _ _ h => grammarLeads_flowValue ih h,
      fun _ _ _ _ h => grammarLeads_flowItems ih h,
      fun _ _ _ _ h => grammarLeads_flowEntries ih h⟩

/-- A reader that has read nothing. -/
theorem within_start (tokens : List Token) (handles : List (String × String)) :
    Within { tokens := tokens, handles := handles } fun _ => False :=
  ⟨⟨nofun, nofun, nofun⟩, nofun⟩

theorem exists_pool_of_leads {n : Node} (h : Leads p q [n]) (hp : p.Within fun _ => False) :
    ∃ made next, Pool made next ∧ made n := by
  obtain ⟨made, -, hq, hn⟩ := h _ hp
  exact ⟨made, _, hq.pool, hn n List.mem_cons_self⟩

theorem exists_pool_of_markedDocument {tokens : List Token} {fuel : Nat} {n : Node}
    (h : markedDocument { tokens := tokens } fuel = .ok (some n)) :
    ∃ made next, Pool made next ∧ made n := by
  unfold markedDocument at h
  obtain ⟨⟨handles, rest⟩, hd, h⟩ := bind_eq_ok.1 h
  obtain ⟨sees, hs, h⟩ := bind_eq_ok.1 h
  split at h
  · obtain ⟨t, ht, h⟩ := bind_eq_ok.1 h
    obtain ⟨⟨m, p₁⟩, hn, h⟩ := ite_bind_eq_ok.1 h
    obtain ⟨_, -, h⟩ := bind_eq_ok.1 h
    cases h
    exact exists_pool_of_leads (leads_orEmpty (grammarLeads _) hn).skip (within_start _ _)
  · cases h

theorem exists_pool_of_document {tokens : List Token} {n : Node}
    (h : document { tokens := tokens } = .ok (some n)) : ∃ made next, Pool made next ∧ made n := by
  unfold document at h
  obtain ⟨t, ht, h⟩ := bind_eq_ok.1 h
  split at h
  · cases h
  · exact exists_pool_of_markedDocument h
  · exact exists_pool_of_markedDocument h
  · obtain ⟨⟨m, p₁⟩, hn, h⟩ := bind_eq_ok.1 h
    obtain ⟨_, -, h⟩ := bind_eq_ok.1 h
    cases h
    exact exists_pool_of_leads ((grammarLeads _).node _ _ _ _ _ hn) (within_start _ _)

end NodeReader

/-- The node of a document is in a pool of nodes. -/
theorem exists_pool {text : List Char} {n : Node} (h : document text = .ok (some n)) :
    ∃ made next, Pool made next ∧ made n :=
  NodeReader.exists_pool_of_document h

end ModelSearch.Yaml
