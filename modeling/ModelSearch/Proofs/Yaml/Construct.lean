import ModelSearch.Proofs.Yaml.Pool
import ModelSearch.Proofs.Yaml.ScalarKinds

/-!
# The values of documents

Every part of a value that a document gives is the value of a node of the document, a pair of such
values, or the text of a key.  So its keys are scalars, all different, and two parts that are the
same object are equal, because nodes have numbers of their own.

    what holds of the values of all nodes holds of all parts of a value       (construct_throughout)
    construct source fuel n = .ok v → v.Coherent                             (coherent_of_construct)
-/

namespace ModelSearch.Yaml

variable {source : Nat} {made : Node → Prop}

/-! ## Entries -/

/-- A node that is a key of entries: one that was made, or the text of one. -/
def KeyMade (made : Node → Prop) (n : Node) : Prop := made n ∨ ∃ s t, n = .scalar s .text t

/-- Entries whose keys and values were made. -/
def EntriesMade (made : Node → Prop) (es : List (Node × Node)) : Prop :=
  ∀ e ∈ es, KeyMade made e.1 ∧ made e.2

theorem keyMade_plainKey {n : Node} (h : made n) : KeyMade made (plainKey n) := by
  unfold plainKey
  split
  · exact .inr ⟨_, _, rfl⟩
  · exact .inl h

theorem EntriesMade.append {es fs : List (Node × Node)} (h : EntriesMade made es)
    (k : EntriesMade made fs) : EntriesMade made (es ++ fs) := by
  intro e he
  rcases List.mem_append.1 he with he | he
  · exact h e he
  · exact k e he

mutual

theorem mergedEntries_made (hc : ∀ n, made n → ∀ c ∈ n.children, made c) :
    ∀ (entries : List (Node × Node)) (r : List (Node × Node) × List (Node × Node)),
      mergedEntries entries = .ok r → (∀ e ∈ entries, made e.1 ∧ made e.2) →
        EntriesMade made r.1 ∧ EntriesMade made r.2
  | [], r, h, _ => by
    cases h
    exact ⟨nofun, nofun⟩
  | (k, v) :: rest, r, h, hm => by
    obtain ⟨hk, hv⟩ := hm (k, v) List.mem_cons_self
    have hrest := fun e he => hm e (List.mem_cons_of_mem _ he)
    unfold mergedEntries at h
    split at h
    · obtain ⟨taken, ht, h⟩ := bind_eq_ok.1 h
      obtain ⟨⟨merged, own⟩, hr, h⟩ := bind_eq_ok.1 h
      cases h
      have ih := mergedEntries_made hc rest _ hr hrest
      exact ⟨(mergedFrom_made hc v _ ht hv).append ih.1, ih.2⟩
    · obtain ⟨⟨merged, own⟩, hr, h⟩ := bind_eq_ok.1 h
      cases h
      have ih := mergedEntries_made hc rest _ hr hrest
      refine ⟨ih.1, fun e he => ?_⟩
      rcases List.mem_cons.1 he with rfl | he
      · exact ⟨keyMade_plainKey hk, hv⟩
      · exact ih.2 e he

theorem mergedFrom_made (hc : ∀ n, made n → ∀ c ∈ n.children, made c) :
    ∀ (n : Node) (r : List (Node × Node)), mergedFrom n = .ok r → made n → EntriesMade made r
  | .mapping s t entries, r, h, hn => by
    unfold mergedFrom at h
    obtain ⟨⟨merged, own⟩, hr, h⟩ := bind_eq_ok.1 h
    cases h
    have ih := mergedEntries_made hc entries _ hr fun e he =>
      ⟨hc _ hn _ (key_mem_children he), hc _ hn _ (value_mem_children he)⟩
    exact ih.1.append ih.2
  | .sequence s t items, r, h, hn => by
    unfold mergedFrom at h
    obtain ⟨parts, hp, h⟩ := bind_eq_ok.1 h
    cases h
    have ih := mergedItems_made hc items _ hp fun x hx => hc _ hn x hx
    intro e he
    obtain ⟨es, hes, he⟩ := List.mem_flatten.1 he
    exact ih es (List.mem_reverse.1 hes) e he
  | .scalar s t text, r, h, _ => by cases h

theorem mergedItems_made (hc : ∀ n, made n → ∀ c ∈ n.children, made c) :
    ∀ (ns : List Node) (r : List (List (Node × Node))), mergedItems ns = .ok r →
      (∀ n ∈ ns, made n) → ∀ es ∈ r, EntriesMade made es
  | [], r, h, _ => by
    cases h
    nofun
  | .mapping s t entries :: rest, r, h, hm => by
    have hn := hm _ List.mem_cons_self
    unfold mergedItems at h
    obtain ⟨⟨merged, own⟩, he, h⟩ := bind_eq_ok.1 h
    obtain ⟨part, hp, h⟩ := bind_eq_ok.1 h
    cases hp
    obtain ⟨parts, hr, h⟩ := bind_eq_ok.1 h
    cases h
    have ih := mergedEntries_made hc entries _ he fun e he =>
      ⟨hc _ hn _ (key_mem_children he), hc _ hn _ (value_mem_children he)⟩
    intro es hes
    rcases List.mem_cons.1 hes with rfl | hes
    · exact ih.1.append ih.2
    · exact mergedItems_made hc rest _ hr (fun n hn => hm n (List.mem_cons_of_mem _ hn)) es hes
  | .sequence s t items :: rest, r, h, _ => by
    unfold mergedItems at h
    cases h
  | .scalar s t text :: rest, r, h, _ => by
    unfold mergedItems at h
    cases h

end

/-- The entries of a mapping: made nodes, with scalars as keys. -/
theorem keyedEntries_eq_ok {entries es : List (Node × Node)} (h : keyedEntries entries = .ok es) :
    allEntries entries = .ok es ∧ ∀ e ∈ es, e.1.tag.shape = .scalar := by
  unfold keyedEntries at h
  obtain ⟨all, ha, h⟩ := bind_eq_ok.1 h
  split at h
  next hall =>
    cases h
    refine ⟨ha, fun e he => ?_⟩
    exact of_decide_eq_true (List.all_eq_true.1 hall e he)
  · cases h

theorem allEntries_made (hc : ∀ n, made n → ∀ c ∈ n.children, made c)
    {entries es : List (Node × Node)} (h : allEntries entries = .ok es)
    (hm : ∀ e ∈ entries, made e.1 ∧ made e.2) : EntriesMade made es := by
  unfold allEntries at h
  obtain ⟨⟨merged, own⟩, he, h⟩ := bind_eq_ok.1 h
  cases h
  have hmade := mergedEntries_made hc entries _ he hm
  exact hmade.1.append hmade.2

theorem pairEntries_made (hc : ∀ n, made n → ∀ c ∈ n.children, made c) {items : List Node}
    {es : List (Node × Node)} (h : pairEntries items = .ok es) (hm : ∀ n ∈ items, made n) :
    EntriesMade made es := by
  induction items generalizing es with
  | nil =>
    cases h
    nofun
  | cons n items ih =>
    unfold pairEntries at h
    split at h
    next heq => cases heq
    next s t e rest heq =>
      cases heq
      obtain ⟨fs, hf, h⟩ := bind_eq_ok.1 h
      cases h
      have hn := hm _ List.mem_cons_self
      intro f hfm
      rcases List.mem_cons.1 hfm with rfl | hfm
      · exact ⟨.inl (hc _ hn _ (key_mem_children List.mem_cons_self)),
          hc _ hn _ (value_mem_children List.mem_cons_self)⟩
      · exact ih hf (fun m hm' => hm m (List.mem_cons_of_mem _ hm')) f hfm
    · cases h

/-! ## Values -/

/-- How the value of a node comes about, from the values of nodes one level below. -/
inductive Constructed (source fuel : Nat) : Node → Value → Prop where
  | scalar {n : Node} {v : Value} : n.tag.shape = .scalar → scalarNodeValue source n = .ok v →
      Constructed source fuel n v
  | list {s : Nat} {t : Tag} {items : List Node} {vs : List Value} : t.shape = .sequence →
      items.mapM (construct source fuel) = .ok vs →
      Constructed source fuel (.sequence s t items) (.list (.own source s) vs)
  | dict {s : Nat} {t : Tag} {entries es : List (Node × Node)} {vs : List (Value × Value)} :
      t.shape = .mapping → keyedEntries entries = .ok es →
      constructEntries (construct source fuel) es = .ok vs →
      Constructed source fuel (.mapping s t entries) (.dict (.own source s) (Entries.assignAll [] vs))
  | set {s : Nat} {t : Tag} {entries es : List (Node × Node)} {vs : List (Value × Value)} :
      t.shape = .set → keyedEntries entries = .ok es →
      constructEntries (construct source fuel) es = .ok vs →
      Constructed source fuel (.mapping s t entries)
        (.set (.own source s) ((Entries.assignAll [] vs).map (·.1)))
  | pairs {s : Nat} {t : Tag} {items : List Node} {es : List (Node × Node)}
      {vs : List (Value × Value)} : t.shape = .pairs → pairEntries items = .ok es →
      constructEntries (construct source fuel) es = .ok vs →
      Constructed source fuel (.sequence s t items)
        (.list (.own source s) (tupled source (s + 1) vs))

theorem constructed_of_construct {fuel : Nat} {n : Node} {v : Value}
    (h : construct source (fuel + 1) n = .ok v) : Constructed source fuel n v := by
  unfold construct at h
  split at h
  next hs => exact .scalar hs h
  next hs =>
    obtain ⟨vs, hv, h⟩ := bind_eq_ok.1 h
    cases h
    exact .list hs hv
  next hs =>
    obtain ⟨es, he, h⟩ := bind_eq_ok.1 h
    obtain ⟨vs, hv, h⟩ := bind_eq_ok.1 h
    cases h
    exact .dict hs he hv
  next hs =>
    obtain ⟨es, he, h⟩ := bind_eq_ok.1 h
    obtain ⟨vs, hv, h⟩ := bind_eq_ok.1 h
    cases h
    exact .set hs he hv
  next hs =>
    obtain ⟨es, he, h⟩ := bind_eq_ok.1 h
    obtain ⟨vs, hv, h⟩ := bind_eq_ok.1 h
    cases h
    exact .pairs hs he hv
  · cases h

theorem exists_of_mem_constructEntries {f : Node → Except Fault Value} {ns : List (Node × Node)}
    {vs : List (Value × Value)} (h : constructEntries f ns = .ok vs) {e : Value × Value}
    (he : e ∈ vs) : ∃ n ∈ ns, f n.1 = .ok e.1 ∧ f n.2 = .ok e.2 := by
  rw [constructEntries_eq_mapM] at h
  obtain ⟨n, hn, hf⟩ := exists_of_mem_mapM h he
  exact ⟨n, hn, entryValue_eq_ok.1 hf⟩

/-- The pairs of a sequence are numbered from the number behind the sequence's own. -/
theorem exists_of_mem_tupled {k : Nat} {vs : List (Value × Value)} {u : Value}
    (h : u ∈ tupled source k vs) :
    ∃ i e, vs[i]? = some e ∧ u = .tuple (.own source (k + i)) [e.1, e.2] := by
  induction vs generalizing k with
  | nil => cases h
  | cons e vs ih =>
    rcases List.mem_cons.1 h with rfl | h
    · exact ⟨0, e, rfl, rfl⟩
    · obtain ⟨i, f, hf, rfl⟩ := ih h
      exact ⟨i + 1, f, hf, by rw [Nat.add_right_comm, Nat.add_assoc]⟩

/-- What holds of the values of all made nodes, of texts and of the pairs of sequences holds of all
parts of the value of a made node. -/
theorem construct_throughout {p : Value → Prop} (hc : ∀ n, made n → ∀ c ∈ n.children, made c)
    (hnode : ∀ n fuel v, made n → construct source fuel n = .ok v → p v)
    (htext : ∀ t, p (.text t))
    (hpair : ∀ s t items es fuel vs, made (.sequence s t items) → t.shape = .pairs →
      pairEntries items = .ok es → constructEntries (construct source fuel) es = .ok vs →
      ∀ u ∈ tupled source (s + 1) vs, p u) :
    ∀ fuel n v, made n → construct source fuel n = .ok v → v.Throughout p := by
  intro fuel
  induction fuel with
  | zero => nofun
  | succ fuel ih =>
    intro n v hn h
    have hself := hnode n _ v hn h
    have hkey : ∀ m w, KeyMade made m → construct source fuel m = .ok w → w.Throughout p := by
      rintro m w (hm | ⟨s, t, rfl⟩) hw
      · exact ih m w hm hw
      · cases fuel with
        | zero => cases hw
        | succ fuel =>
          cases constructed_of_construct hw with
          | scalar _ hw =>
            cases hw
            intro u hu
            rw [List.mem_singleton.1 hu]
            exact htext t
    have hentries : ∀ {es : List (Node × Node)} {vs : List (Value × Value)}, EntriesMade made es →
        constructEntries (construct source fuel) es = .ok vs →
        ∀ e ∈ vs, e.1.Throughout p ∧ e.2.Throughout p := by
      intro es vs hes hvs e he
      obtain ⟨m, hm, hk, hv⟩ := exists_of_mem_constructEntries hvs he
      exact ⟨hkey _ _ (hes m hm).1 hk, ih _ _ (hes m hm).2 hv⟩
    have hassigned : ∀ {vs : List (Value × Value)},
        (∀ e ∈ vs, e.1.Throughout p ∧ e.2.Throughout p) →
        ∀ e ∈ Entries.assignAll [] vs, e.1.Throughout p ∧ e.2.Throughout p := fun hvs =>
      Entries.forall_assignAll (p := fun w => w.Throughout p) (q := fun w => w.Throughout p)
        nofun hvs
    have hmembers : ∀ {s : Nat} {t : Tag} {entries : List (Node × Node)},
        made (.mapping s t entries) → ∀ e ∈ entries, made e.1 ∧ made e.2 := fun hm e he =>
      ⟨hc _ hm _ (key_mem_children he), hc _ hm _ (value_mem_children he)⟩
    cases constructed_of_construct h with
    | scalar hs hv =>
      intro u hu
      rw [parts_of_scalarForm (scalarOf_scalarNodeValue hv).1] at hu
      rw [List.mem_singleton.1 hu]
      exact hself
    | list hs hv =>
      refine Value.throughout_list.2 ⟨hself, fun x hx => ?_⟩
      obtain ⟨m, hm, hw⟩ := exists_of_mem_mapM hv hx
      exact ih m x (hc _ hn m hm) hw
    | dict hs he hv =>
      have hes := allEntries_made hc (keyedEntries_eq_ok he).1 (hmembers hn)
      exact Value.throughout_dict.2 ⟨hself, hassigned (hentries hes hv)⟩
    | set hs he hv =>
      have hes := allEntries_made hc (keyedEntries_eq_ok he).1 (hmembers hn)
      refine Value.throughout_set.2 ⟨hself, fun x hx => ?_⟩
      obtain ⟨e, hem, rfl⟩ := List.mem_map.1 hx
      exact (hassigned (hentries hes hv) e hem).1
    | pairs hs he hv =>
      have hes := pairEntries_made hc he fun m hm => hc _ hn m hm
      refine Value.throughout_list.2 ⟨hself, fun x hx => ?_⟩
      have hx' := hpair _ _ _ _ _ _ hn hs he hv x hx
      obtain ⟨i, e, hi, rfl⟩ := exists_of_mem_tupled hx
      have hem := hentries hes hv e (List.mem_of_getElem? hi)
      refine Value.throughout_tuple.2 ⟨hx', fun y hy => ?_⟩
      rcases List.mem_cons.1 hy with rfl | hy
      · exact hem.1
      · rw [List.mem_singleton.1 hy]
        exact hem.2

/-! ## Marks -/

theorem constructEntries_mono {f g : Node → Except Fault Value}
    (hfg : ∀ n v, f n = .ok v → g n = .ok v) {ns : List (Node × Node)}
    {vs : List (Value × Value)} (h : constructEntries f ns = .ok vs) :
    constructEntries g ns = .ok vs := by
  rw [constructEntries_eq_mapM] at h ⊢
  refine mapM_mono (fun n e he => ?_) h
  obtain ⟨hk, hv⟩ := entryValue_eq_ok.1 he
  exact entryValue_eq_ok.2 ⟨hfg _ _ hk, hfg _ _ hv⟩

/-- A value does not depend on how deep one was ready to look. -/
theorem construct_succ {fuel : Nat} {n : Node} {v : Value} (h : construct source fuel n = .ok v) :
    construct source (fuel + 1) n = .ok v := by
  induction fuel generalizing n v with
  | zero => cases h
  | succ fuel ih =>
    have ih' : ∀ m w, construct source fuel m = .ok w → construct source (fuel + 1) m = .ok w :=
      fun m w hw => ih hw
    unfold construct
    cases constructed_of_construct h with
    | scalar hs hv => simp only [hs, hv]
    | list hs hv =>
      simp [Node.tag, hs, mapM_mono ih' hv, bind, Except.bind, pure, Except.pure]
    | dict hs he hv =>
      simp [Node.tag, hs, he, constructEntries_mono ih' hv, bind, Except.bind, pure, Except.pure]
    | set hs he hv =>
      simp [Node.tag, hs, he, constructEntries_mono ih' hv, bind, Except.bind, pure, Except.pure]
    | pairs hs he hv =>
      simp [Node.tag, hs, he, constructEntries_mono ih' hv, bind, Except.bind, pure, Except.pure]

theorem construct_add {fuel : Nat} {n : Node} {v : Value} (h : construct source fuel n = .ok v)
    (more : Nat) : construct source (fuel + more) n = .ok v := by
  induction more with
  | zero => exact h
  | succ more ih => exact construct_succ ih

/-- A node has one value. -/
theorem construct_unique {f g : Nat} {n : Node} {v w : Value} (hv : construct source f n = .ok v)
    (hw : construct source g n = .ok w) : v = w := by
  have h₁ := construct_add hv g
  have h₂ := construct_add hw f
  rw [Nat.add_comm g f] at h₂
  exact Except.ok.inj (h₁.symm.trans h₂)

/-- Where a marked part of a value comes from: a node, or a pair of a sequence of pairs. -/
def ComesFrom (source : Nat) (made : Node → Prop) (u : Value) : Prop :=
  ∀ m, u.mark? = some m →
    (∃ n fuel, made n ∧ construct source fuel n = .ok u ∧ m = .own source n.serial) ∨
    ∃ s t items fuel vs i, made (.sequence s t items) ∧
      construct source (fuel + 1) (.sequence s t items)
        = .ok (.list (.own source s) (tupled source (s + 1) vs)) ∧
      (tupled source (s + 1) vs)[i]? = some u ∧ i < items.length ∧ m = .own source (s + 1 + i)

theorem mark_of_construct {fuel : Nat} {n : Node} {v : Value} (h : construct source fuel n = .ok v)
    {m : Mark} (hm : v.mark? = some m) : m = .own source n.serial := by
  cases fuel with
  | zero => cases h
  | succ fuel =>
    cases constructed_of_construct h with
    | scalar hs hv => exact (scalarOf_scalarNodeValue hv).2 m hm
    | list | dict | set | pairs => exact (Option.some.inj hm).symm

theorem length_pairEntries {items : List Node} {es : List (Node × Node)}
    (h : pairEntries items = .ok es) : es.length = items.length := by
  induction items generalizing es with
  | nil =>
    cases h
    rfl
  | cons n items ih =>
    unfold pairEntries at h
    split at h
    next heq => cases heq
    next s t e rest heq =>
      cases heq
      obtain ⟨fs, hf, h⟩ := bind_eq_ok.1 h
      cases h
      simp [ih hf]
    · cases h

theorem length_constructEntries {f : Node → Except Fault Value} {ns : List (Node × Node)}
    {vs : List (Value × Value)} (h : constructEntries f ns = .ok vs) : vs.length = ns.length := by
  rw [constructEntries_eq_mapM] at h
  exact length_mapM h

theorem getElem?_tupled {k i : Nat} {vs : List (Value × Value)} {e : Value × Value}
    (h : vs[i]? = some e) :
    (tupled source k vs)[i]? = some (.tuple (.own source (k + i)) [e.1, e.2]) := by
  induction vs generalizing k i with
  | nil => simp at h
  | cons f vs ih =>
    cases i with
    | zero =>
      cases h
      rfl
    | succ i =>
      have := ih (k := k + 1) h
      rw [Nat.add_right_comm, Nat.add_assoc] at this
      exact this

theorem comesFrom_of_construct {next : Nat} (hp : Pool made next) {fuel : Nat} {n : Node}
    {v : Value} (hn : made n) (h : construct source fuel n = .ok v) :
    v.Throughout (ComesFrom source made) := by
  refine construct_throughout (fun m hm c hc => (hp.child m hm c hc).1) ?_ (fun t => nofun) ?_ fuel n
    v hn h
  · intro m f w hm hw k hk
    exact .inl ⟨m, f, hm, hw, mark_of_construct hw hk⟩
  · intro s t items es f vs hm hs he hv u hu k hk
    obtain ⟨i, e, hi, rfl⟩ := exists_of_mem_tupled hu
    have hlen : i < items.length := by
      rw [← length_pairEntries he, ← length_constructEntries hv]
      exact (List.getElem?_eq_some_iff.1 hi).1
    refine .inr ⟨s, t, items, f, vs, i, hm, ?_, getElem?_tupled hi, hlen, (Option.some.inj hk).symm⟩
    simp [construct, Node.tag, hs, he, hv, bind, Except.bind, pure, Except.pure]

/-- Parts that are the same object are equal. -/
def Coherent (v : Value) : Prop :=
  ∀ a ∈ v.parts, ∀ b ∈ v.parts, ∀ m, a.mark? = some m → b.mark? = some m → a = b

theorem coherent_of_construct {next : Nat} (hp : Pool made next) {fuel : Nat} {n : Node}
    {v : Value} (hn : made n) (h : construct source fuel n = .ok v) : Coherent v := by
  have hall := comesFrom_of_construct hp hn h
  intro a ha b hb m hma hmb
  rcases hall a ha m hma with ⟨x, f, hx, hax, hm⟩ | ⟨s, t, items, f, vs, i, hx, hax, hi, hlt, hm⟩ <;>
    rcases hall b hb m hmb with
      ⟨y, g, hy, hby, hm'⟩ | ⟨s', t', items', g, ws, j, hy, hby, hj, hlt', hm'⟩ <;>
    rw [hm] at hm' <;> injection hm' with _ hserial
  · have hxy : x = y := hp.eq_of_serial hx hy hserial
    subst hxy
    exact construct_unique hax hby
  · exact absurd hserial (hp.serial_ne_reserved hx hy hlt')
  · exact absurd hserial.symm (hp.serial_ne_reserved hy hx hlt)
  · cases hp.eq_of_reserved hx hy hlt hlt' hserial
    have hlist := construct_unique hax hby
    injection hlist with _ htuples
    have hij : i = j := by omega
    rw [htuples, hij, hj] at hi
    exact (Option.some.inj hi).symm

end ModelSearch.Yaml
