import ModelSearch.Proofs.Session.Memory

/-!
# Calls in memory

A builder whose mappings stand in memory answers every call as the builder with their contents does,
as long as no two of its fields refer to one mapping.

    (m.builder o).apply c = the effect of m.call o c, contents filled in      (builder_call)
-/

namespace ModelSearch

/-! ## Contents -/

namespace Memory

theorem contents_eq {m m' : Memory} {rs : MappingRefs}
    (h : ∀ f r, rs.get f = some r → m'.read r = m.read r) : m'.contents rs = m.contents rs := by
  funext f
  unfold contents
  cases hr : rs.get f with
  | none => rfl
  | some r => exact congrArg some (h f r hr)

/-- The contents after one field was given another mapping. -/
theorem contents_set {m m' : Memory} {rs : MappingRefs} (f : MappingField) (q : Option Ref)
    (h : ∀ g r, g ≠ f → rs.get g = some r → m'.read r = m.read r) (g : MappingField) :
    m'.contents (rs.set f q) g = if g = f then q.map m'.read else m.contents rs g := by
  unfold contents
  by_cases hg : g = f
  · subst hg
    rw [MappingRefs.get_set_self, if_pos rfl]
  · rw [MappingRefs.get_set_of_ne rs hg, if_neg hg]
    cases hr : rs.get g with
    | none => rfl
    | some r => exact congrArg some (h g r hg hr)

end Memory

/-! ## Calls on contents -/

/-- A builder with another mapping in one field. -/
def Builder.withMapping (b : Builder) (f : MappingField) (es : Option Entries) : Builder :=
  b.withMappings fun g => if g = f then es else b.toSelection.mapping g

theorem Builder.apply_replace {c : Call} {f : MappingField} {es : Option Entries}
    (h : c.edit? = some (f, .replace es)) (b : Builder) :
    b.apply c = ⟨b.withMapping f es, none, []⟩ := by
  cases c <;> cases h <;> rfl

theorem Builder.apply_put {c : Call} {f : MappingField} {k v : Value}
    (h : c.edit? = some (f, .put k v)) (b : Builder) :
    b.apply c = ⟨b.withMapping f (some (putEntry (b.toSelection.mapping f) k v).1),
      (putEntry (b.toSelection.mapping f) k v).2, []⟩ := by
  cases c <;> cases h <;> rfl

/-- The other calls neither look at mappings nor change them. -/
theorem Builder.apply_plain {c : Call} (h : c.edit? = none) (b : Builder)
    (content : MappingField → Option Entries) :
    (b.withMappings content).apply c =
      { b.apply c with builder := (b.apply c).builder.withMappings content } := by
  cases c with
  | artifactId id =>
    simp only [Builder.apply, Builder.setArtifactId]
    cases ArtifactName.of id <;> rfl
  | modelUrls mark text =>
    simp only [Builder.apply, Builder.setModelUrls]
    cases Zoo.ofUrls mark text <;> rfl
  | filters | filter | arguments | argument | options | option => cases h
  | _ => rfl

theorem Builder.withMappings_withMapping (b : Builder) (content : MappingField → Option Entries)
    (f : MappingField) (es : Option Entries) :
    (b.withMappings content).withMapping f es
      = b.withMappings fun g => if g = f then es else content g := by
  have hm : ∀ g, (b.withMappings content).toSelection.mapping g = content g := by
    intro g
    cases g <;> rfl
  simp only [Builder.withMapping, hm]
  rfl

namespace Memory

variable {m : Memory} {o : Object Builder}

theorem builder_replace {n : Memory} (hn : m.Extends n)
    (hb : ∀ f r, o.mappings.get f = some r → r < m.length) (f : MappingField) (q : Option Ref) :
    (n.replace o f q).memory.builder (n.replace o f q).builder
      = (m.builder o).withMapping f (q.map n.read) := by
  obtain ⟨he, -, hq⟩ := place_spec n (q.map n.read)
  have hold : ∀ g r, g ≠ f → o.mappings.get g = some r → (n.copy q).1.read r = m.read r :=
    fun g r _ hr => (hn.trans he).read_eq r (hb g r hr)
  show o.fields.withMappings ((n.copy q).1.contents (o.mappings.set f (n.copy q).2))
    = (m.builder o).withMapping f (q.map n.read)
  rw [builder, Builder.withMappings_withMapping]
  congr 1
  funext g
  rw [contents_set f _ hold g]
  congr 1

theorem builder_put (hb : ∀ f r, o.mappings.get f = some r → r < m.length)
    (hs : ∀ f g r, o.mappings.get f = some r → o.mappings.get g = some r → f = g)
    (f : MappingField) (k v : Value) :
    (m.put o f k v).memory.builder (m.put o f k v).builder
        = (m.builder o).withMapping f (some (putEntry (m.contents o.mappings f) k v).1) ∧
      (m.put o f k v).fault = (putEntry (m.contents o.mappings f) k v).2 ∧
      (m.put o f k v).records = [] := by
  have hput : ∀ (n : Memory) (r : Ref) (es : Entries),
      n.read r = es →
      (∀ g q, g ≠ f → o.mappings.get g = some q → n.read q = m.read q) →
      n.builder { o with mappings := o.mappings.set f (some r) }
        = (m.builder o).withMapping f (some es) := by
    intro n r es hr hold
    rw [builder, builder, Builder.withMappings_withMapping]
    congr 1
    funext g
    rw [contents_set f (some r) hold g, Option.map_some, hr]
  unfold put putEntry
  rcases ensure_cases m o.mappings f with ⟨r, hr, he⟩ | ⟨hr, he⟩
  · have hc : (m.contents o.mappings f).getD [] = m.read r := by simp [contents, hr]
    have hlt := hb f r hr
    rw [he, hc]
    cases k.unhashable? with
    | some kind => exact ⟨hput m r _ rfl fun _ _ _ _ => rfl, rfl, rfl⟩
    | none =>
      refine ⟨hput _ r _ (read_set_self hlt _) ?_, rfl, rfl⟩
      intro g q hg hq
      refine read_set_of_ne ?_ _
      rintro rfl
      exact hg (hs g f r hq hr)
  · have hc : (m.contents o.mappings f).getD [] = [] := by simp [contents, hr]
    have hnew : read (m ++ [[]]) m.length = [] := read_append_length m []
    rw [he, hc]
    cases k.unhashable? with
    | some kind =>
      exact ⟨hput _ _ _ hnew fun g q _ hq => read_append_of_lt (hb g q hq) [[]], rfl, rfl⟩
    | none =>
      refine ⟨hput _ _ _ ?_ ?_, rfl, rfl⟩
      · rw [read_set_self (by simp), hnew]
      · intro g q _ hq
        rw [read_set_of_ne (Nat.ne_of_gt (hb g q hq)), read_append_of_lt (hb g q hq)]

/-- A call in memory is the call of the builder with its contents. -/
theorem builder_call (hb : ∀ f r, o.mappings.get f = some r → r < m.length)
    (hs : ∀ f g r, o.mappings.get f = some r → o.mappings.get g = some r → f = g) (c : Call) :
    (m.builder o).apply c
      = ⟨(m.call o c).memory.builder (m.call o c).builder, (m.call o c).fault,
          (m.call o c).records⟩ := by
  have hm : (m.builder o).toSelection.mapping = m.contents o.mappings := by
    funext g
    cases g <;> rfl
  unfold call
  split
  · next f e h =>
    cases e with
    | replace es =>
      obtain ⟨he, -, hq⟩ := place_spec m es
      have hr := builder_replace he hb f (m.place es).2
      rw [hq] at hr
      rw [Builder.apply_replace h, ← hr]
      rfl
    | put k v =>
      obtain ⟨hr, hf, he⟩ := builder_put hb hs f k v
      rw [Builder.apply_put h, hm, ← hr, ← hf, ← he]
      rfl
  · next h => rw [builder, Builder.apply_plain h]; rfl

end Memory

end ModelSearch
