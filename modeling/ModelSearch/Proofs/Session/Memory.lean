import ModelSearch.Memory

/-!
# What memory keeps

New mappings leave the old ones as they are, and a call of a builder writes to the mappings of that
builder only.  References that a copy or a call makes are new ones.

    m.Extends m'            every mapping of m is in m', unchanged
    m.FreshRefs m' rs       the references rs are new in m', one for each field
    m.Within o e            what the effect e of a call of o can be

    copyAll gives fresh references with the same contents          (copyAll_spec)
    m.call o c is within o                                         (call_within)
-/

namespace ModelSearch

@[simp] theorem MappingRefs.get_set_self (rs : MappingRefs) (f : MappingField) (r : Option Ref) :
    (rs.set f r).get f = r := by cases f <;> rfl

theorem MappingRefs.get_set_of_ne (rs : MappingRefs) {f g : MappingField} (h : g ≠ f)
    (r : Option Ref) : (rs.set f r).get g = rs.get g := by
  cases f <;> cases g <;> first | rfl | exact absurd rfl h

theorem MappingRefs.set_get {rs : MappingRefs} {f : MappingField} {q : Option Ref}
    (h : rs.get f = q) : rs.set f q = rs := by
  subst h
  cases f <;> rfl

namespace Memory

/-! ## Reading -/

theorem read_append_of_lt {m : Memory} {r : Ref} (h : r < m.length) (more : Memory) :
    read (m ++ more) r = m.read r := by
  simp [read, List.getElem?_append_left h]

theorem read_append_length (m : Memory) (es : Entries) : read (m ++ [es]) m.length = es := by
  simp [read]

theorem read_set_self {m : Memory} {r : Ref} (h : r < m.length) (es : Entries) :
    read (m.set r es) r = es := by
  simp [read, h]

theorem read_set_of_ne {m : Memory} {r q : Ref} (h : r ≠ q) (es : Entries) :
    read (m.set r es) q = m.read q := by
  simp [read, List.getElem?_set_ne h]

/-! ## New mappings -/

/-- Memory that has gained mappings: those that were there are unchanged. -/
structure Extends (m m' : Memory) : Prop where
  length_le : m.length ≤ m'.length
  read_eq : ∀ r, r < m.length → m'.read r = m.read r

theorem Extends.refl (m : Memory) : m.Extends m := ⟨Nat.le_refl _, fun _ _ => rfl⟩

theorem Extends.trans {m n k : Memory} (h : m.Extends n) (g : n.Extends k) : m.Extends k where
  length_le := Nat.le_trans h.length_le g.length_le
  read_eq r hr := by rw [g.read_eq r (Nat.lt_of_lt_of_le hr h.length_le), h.read_eq r hr]

theorem extends_append (m more : Memory) : m.Extends (m ++ more) :=
  ⟨by simp, fun _ hr => read_append_of_lt hr more⟩

/-- A reference to a mapping that was not there before. -/
def Fresh (m m' : Memory) (r : Ref) : Prop := m.length ≤ r ∧ r < m'.length

theorem Fresh.widen {k m n l : Memory} {r : Ref} (h : m.Fresh n r) (hk : k.Extends m)
    (hl : n.Extends l) : k.Fresh l r :=
  ⟨Nat.le_trans hk.length_le h.1, Nat.lt_of_lt_of_le h.2 hl.length_le⟩

/-- What is new at first is not new later on. -/
theorem Fresh.ne {k m n l : Memory} {r q : Ref} (h : k.Fresh m r) (hm : m.Extends n)
    (g : n.Fresh l q) : r ≠ q := by
  rintro rfl
  exact Nat.lt_irrefl _ (Nat.lt_of_lt_of_le h.2 (Nat.le_trans hm.length_le g.1))

theorem place_spec (m : Memory) (o : Option Entries) :
    m.Extends (m.place o).1 ∧ (∀ r, (m.place o).2 = some r → m.Fresh (m.place o).1 r) ∧
      (m.place o).2.map (m.place o).1.read = o := by
  cases o with
  | none =>
    refine ⟨Extends.refl m, ?_, rfl⟩
    rintro r ⟨⟩
  | some es =>
    refine ⟨extends_append m [es], ?_, ?_⟩
    · rintro r ⟨⟩
      exact ⟨Nat.le_refl _, by simp [place, add]⟩
    · exact congrArg some (read_append_length m es)

/-- The content of a reference survives every extension. -/
theorem Extends.map_read {m m' : Memory} (h : m.Extends m') {o : Option Ref}
    (hb : ∀ r, o = some r → r < m.length) : o.map m'.read = o.map m.read := by
  cases o with
  | none => rfl
  | some r => exact congrArg some (h.read_eq r (hb r rfl))

/-- New references, no two of them the same. -/
structure FreshRefs (m m' : Memory) (rs : MappingRefs) : Prop where
  fresh : ∀ f r, rs.get f = some r → m.Fresh m' r
  single : ∀ f g r, rs.get f = some r → rs.get g = some r → f = g

theorem freshRefs_none (m : Memory) : m.FreshRefs m {} := by
  constructor
  · rintro (_ | _ | _) r ⟨⟩
  · rintro (_ | _ | _) g r ⟨⟩

/-- Contents of all fields are placed one after the other. -/
theorem placeAll_spec (m : Memory) (content : MappingField → Option Entries) :
    m.Extends (m.placeAll content).1 ∧ m.FreshRefs (m.placeAll content).1 (m.placeAll content).2 ∧
      (m.placeAll content).1.contents (m.placeAll content).2 = content := by
  obtain ⟨e1, f1, c1⟩ := place_spec m (content .filters)
  obtain ⟨e2, f2, c2⟩ := place_spec (m.place (content .filters)).1 (content .arguments)
  obtain ⟨e3, f3, c3⟩ := place_spec
    ((m.place (content .filters)).1.place (content .arguments)).1 (content .options)
  unfold placeAll
  dsimp only
  generalize m.place (content .filters) = p1 at *
  generalize p1.1.place (content .arguments) = p2 at *
  generalize p2.1.place (content .options) = p3 at *
  refine ⟨(e1.trans e2).trans e3, ⟨?_, ?_⟩, ?_⟩
  · rintro (_ | _ | _) r hr
    · exact (f1 r hr).widen (Extends.refl m) (e2.trans e3)
    · exact (f2 r hr).widen e1 e3
    · exact (f3 r hr).widen (e1.trans e2) (Extends.refl _)
  · have h12 : ∀ r, p1.2 = some r → p2.2 ≠ some r :=
      fun r h1 h2 => (f1 r h1).ne (Extends.refl _) (f2 r h2) rfl
    have h13 : ∀ r, p1.2 = some r → p3.2 ≠ some r :=
      fun r h1 h3 => (f1 r h1).ne e2 (f3 r h3) rfl
    have h23 : ∀ r, p2.2 = some r → p3.2 ≠ some r :=
      fun r h2 h3 => (f2 r h2).ne (Extends.refl _) (f3 r h3) rfl
    rintro (_ | _ | _) (_ | _ | _) r hf hg
    · rfl
    · exact absurd hg (h12 r hf)
    · exact absurd hg (h13 r hf)
    · exact absurd hf (h12 r hg)
    · rfl
    · exact absurd hg (h23 r hf)
    · exact absurd hf (h13 r hg)
    · exact absurd hf (h23 r hg)
    · rfl
  · funext f
    cases f with
    | filters =>
      refine Eq.trans ?_ c1
      exact (e2.trans e3).map_read fun r hr => (f1 r hr).2
    | arguments =>
      refine Eq.trans ?_ c2
      exact e3.map_read fun r hr => (f2 r hr).2
    | options => exact c3

/-- Copies are placed contents: what is placed in between changes none of the old mappings. -/
theorem copyAll_eq_placeAll {m : Memory} {rs : MappingRefs}
    (hb : ∀ f r, rs.get f = some r → r < m.length) : m.copyAll rs = m.placeAll (m.contents rs) := by
  obtain ⟨e1, -, -⟩ := place_spec m (rs.filters.map m.read)
  obtain ⟨e2, -, -⟩ := place_spec (m.place (rs.filters.map m.read)).1 (rs.arguments.map m.read)
  have h2 : rs.arguments.map (m.place (rs.filters.map m.read)).1.read = rs.arguments.map m.read :=
    e1.map_read (hb .arguments)
  have h3 : rs.options.map
      ((m.place (rs.filters.map m.read)).1.place (rs.arguments.map m.read)).1.read
        = rs.options.map m.read := (e1.trans e2).map_read (hb .options)
  simp only [copyAll, placeAll, copy, contents, MappingRefs.get, h2, h3]

theorem copyAll_spec {m : Memory} {rs : MappingRefs}
    (hb : ∀ f r, rs.get f = some r → r < m.length) :
    m.Extends (m.copyAll rs).1 ∧ m.FreshRefs (m.copyAll rs).1 (m.copyAll rs).2 ∧
      (m.copyAll rs).1.contents (m.copyAll rs).2 = m.contents rs := by
  rw [copyAll_eq_placeAll hb]
  exact placeAll_spec m (m.contents rs)

/-! ## Calls -/

/-- The effects that a call of an object can have: each of its mappings is the old one of that field
or a new one, and no mapping but its own is written to. -/
structure Within (m : Memory) (o : Object Builder) (e : Effect) : Prop where
  length_le : m.length ≤ e.memory.length
  mappings : ∀ f r, e.builder.mappings.get f = some r → o.mappings.get f = some r ∨
    (m.Fresh e.memory r ∧ ∀ g, e.builder.mappings.get g = some r → g = f)
  read_eq : ∀ r, r < m.length → (∀ f, o.mappings.get f ≠ some r) → e.memory.read r = m.read r

variable {m : Memory} {o : Object Builder}

/-- Only one field is given another reference, and that is a new one. -/
theorem get_set_fresh {m' : Memory} {rs : MappingRefs}
    (hb : ∀ f r, rs.get f = some r → r < m.length) (f : MappingField) {q : Option Ref}
    (hq : ∀ r, q = some r → m.Fresh m' r) (g : MappingField) (r : Ref)
    (h : (rs.set f q).get g = some r) :
    rs.get g = some r ∨ (m.Fresh m' r ∧ ∀ k, (rs.set f q).get k = some r → k = g) := by
  by_cases hg : g = f
  · subst hg
    rw [MappingRefs.get_set_self] at h
    refine .inr ⟨hq r h, ?_⟩
    intro k hk
    apply Classical.byContradiction
    intro hne
    rw [MappingRefs.get_set_of_ne rs hne] at hk
    exact Nat.lt_irrefl _ (Nat.lt_of_lt_of_le (hb k r hk) (hq r h).1)
  · rw [MappingRefs.get_set_of_ne rs hg] at h
    exact .inl h

theorem replace_within {n : Memory} (hn : m.Extends n)
    (hb : ∀ f r, o.mappings.get f = some r → r < m.length) (f : MappingField) (q : Option Ref) :
    m.Within o (n.replace o f q) := by
  obtain ⟨he, hf, -⟩ := place_spec n (q.map n.read)
  have hfresh : ∀ r, (n.copy q).2 = some r → m.Fresh (n.copy q).1 r :=
    fun r hr => (hf r hr).widen hn (Extends.refl _)
  exact
    { length_le := (hn.trans he).length_le
      mappings := get_set_fresh hb f hfresh
      read_eq := fun r hr _ => (hn.trans he).read_eq r hr }

/-- The mapping of a field is the old one, with memory unchanged, or a new empty one. -/
theorem ensure_cases (m : Memory) (rs : MappingRefs) (f : MappingField) :
    (∃ r, rs.get f = some r ∧ m.ensure rs f = (m, r)) ∨
      (rs.get f = none ∧ m.ensure rs f = (m ++ [[]], m.length)) := by
  unfold ensure
  cases h : rs.get f with
  | none => exact .inr ⟨rfl, rfl⟩
  | some r => exact .inl ⟨r, rfl, rfl⟩

theorem put_within (hb : ∀ f r, o.mappings.get f = some r → r < m.length) (f : MappingField)
    (key value : Value) : m.Within o (m.put o f key value) := by
  unfold put
  rcases ensure_cases m o.mappings f with ⟨q, hq, he⟩ | ⟨hq, he⟩
  · rw [he]
    dsimp only
    rw [MappingRefs.set_get hq]
    split
    · exact ⟨Nat.le_refl _, fun g r hr => .inl hr, fun r _ _ => rfl⟩
    · refine ⟨by simp, fun g r hr => .inl hr, ?_⟩
      intro r _ hr
      have hne : q ≠ r := by
        rintro rfl
        exact hr f hq
      exact read_set_of_ne hne _
  · rw [he]
    dsimp only
    have hnew : ∀ n : Memory, n.length = m.length + 1 → ∀ r, some m.length = some r →
        m.Fresh n r := by
      rintro n hn r ⟨⟩
      exact ⟨Nat.le_refl _, hn ▸ Nat.lt_succ_self _⟩
    have hlen : (m ++ [[]]).length = m.length + 1 := by simp
    split
    · exact
        { length_le := (extends_append m [[]]).length_le
          mappings := get_set_fresh hb f (hnew _ hlen)
          read_eq := fun r hr _ => read_append_of_lt hr [[]] }
    · refine ⟨by simp, get_set_fresh hb f (hnew _ (by simp)), ?_⟩
      intro r hr _
      rw [read_set_of_ne (Nat.ne_of_gt hr), read_append_of_lt hr]

/-- A call only makes new mappings and only writes to those of its builder. -/
theorem call_within (hb : ∀ f r, o.mappings.get f = some r → r < m.length) (c : Call) :
    m.Within o (m.call o c) := by
  unfold call
  split
  · next f e h =>
    cases e with
    | replace es =>
      obtain ⟨he, -, -⟩ := place_spec m es
      exact replace_within he hb f _
    | put k v => exact put_within hb f k v
  · exact ⟨Nat.le_refl _, fun f r hr => .inl hr, fun r _ _ => rfl⟩

end Memory

end ModelSearch
