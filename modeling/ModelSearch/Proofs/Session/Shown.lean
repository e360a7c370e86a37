import ModelSearch.Memory

/-!
# What mappings in mappings show

Entries refer to the mappings in memory that their values are, and reach the ones that those refer to.
They show the same in two states of memory, however deep one looks, exactly if every mapping that they
reach has the same entries in both.

    m.SameAt m' r                          the mapping r has the same entries in both
    (∀ depth, m'.shown depth es = m.shown depth es)
      ↔ ∀ r, m.Reaches es r → m.SameAt m' r                                    (shown_eq_iff)
-/

namespace ModelSearch

/-! ## References -/

namespace Value

mutual

/-- The mappings in memory that a value is made of. -/
def refs : Value → List Ref
  | .list _ xs | .tuple _ xs | .set _ xs => refsOfAll xs
  | .dict (.shared r) _ => [r]
  | .dict _ es => refsOfEntries es
  | _ => []

def refsOfAll : List Value → List Ref
  | [] => []
  | v :: vs => refs v ++ refsOfAll vs

def refsOfEntries : List (Value × Value) → List Ref
  | [] => []
  | (k, v) :: es => refs k ++ refs v ++ refsOfEntries es

end

variable {f g : Ref → Entries}

mutual

/-- Filled values are the same exactly if the mappings in memory are filled alike. -/
theorem filled_eq_iff : ∀ v : Value, v.filled f = v.filled g ↔ ∀ r ∈ v.refs, f r = g r
  | .null | .bool _ | .int _ | .float _ | .notANumber _ | .text _ | .bytes _ | .date _ _
  | .moment _ _ => iff_of_true rfl fun _ h => nomatch h
  | .list m xs => by
    simp only [filled, refs, list.injEq, true_and]
    exact filledAll_eq_iff xs
  | .tuple m xs => by
    simp only [filled, refs, tuple.injEq, true_and]
    exact filledAll_eq_iff xs
  | .set m xs => by
    simp only [filled, refs, set.injEq, true_and]
    exact filledAll_eq_iff xs
  | .dict (.shared r) es => by
    simp only [filled, refs, dict.injEq, true_and, List.mem_singleton, forall_eq]
  | .dict (.own _ _) es | .dict (.part _) es | .dict .notANumber es => by
    simp only [filled, refs, dict.injEq, true_and]
    exact filledEntries_eq_iff es

theorem filledAll_eq_iff : ∀ xs : List Value,
    filledAll f xs = filledAll g xs ↔ ∀ r ∈ refsOfAll xs, f r = g r
  | [] => iff_of_true rfl fun _ h => nomatch h
  | x :: xs => by
    simp only [filledAll, refsOfAll, List.cons.injEq, List.mem_append, or_imp, forall_and]
    exact and_congr (filled_eq_iff x) (filledAll_eq_iff xs)

theorem filledEntries_eq_iff : ∀ es : List (Value × Value),
    filledEntries f es = filledEntries g es ↔ ∀ r ∈ refsOfEntries es, f r = g r
  | [] => iff_of_true rfl fun _ h => nomatch h
  | (k, v) :: es => by
    simp only [filledEntries, refsOfEntries, List.cons.injEq, Prod.mk.injEq, List.mem_append, or_imp,
      forall_and]
    exact and_congr (and_congr (filled_eq_iff k) (filled_eq_iff v)) (filledEntries_eq_iff es)

end

mutual

/-- What the mappings in memory are filled with does not matter to filling them again. -/
theorem filled_filled : ∀ v : Value, (v.filled g).filled f = v.filled f
  | .null | .bool _ | .int _ | .float _ | .notANumber _ | .text _ | .bytes _ | .date _ _
  | .moment _ _ | .dict (.shared _) _ => rfl
  | .list m xs => congrArg (list m) (filledAll_filledAll xs)
  | .tuple m xs => congrArg (tuple m) (filledAll_filledAll xs)
  | .set m xs => congrArg (set m) (filledAll_filledAll xs)
  | .dict (.own s n) es => congrArg (dict (.own s n)) (filledEntries_filledEntries es)
  | .dict (.part name) es => congrArg (dict (.part name)) (filledEntries_filledEntries es)
  | .dict .notANumber es => congrArg (dict .notANumber) (filledEntries_filledEntries es)

theorem filledAll_filledAll : ∀ xs : List Value, filledAll f (filledAll g xs) = filledAll f xs
  | [] => rfl
  | x :: xs => by rw [filledAll, filledAll, filledAll, filled_filled x, filledAll_filledAll xs]

theorem filledEntries_filledEntries : ∀ es : List (Value × Value),
    filledEntries f (filledEntries g es) = filledEntries f es
  | [] => rfl
  | (k, v) :: es => by
    rw [filledEntries, filledEntries, filledEntries, filled_filled k, filled_filled v,
      filledEntries_filledEntries es]

end

end Value

/-! ## Two states of memory -/

namespace Memory

/-- Entries lead to a mapping, directly or through others. -/
inductive Reaches (m : Memory) : Entries → Ref → Prop where
  | direct {es : Entries} {r : Ref} : r ∈ Value.refsOfEntries es → Reaches m es r
  | through {es : Entries} {q r : Ref} : q ∈ Value.refsOfEntries es → Reaches m (m.read q) r →
      Reaches m es r

/-- A mapping has the same entries in two states of memory, where mappings are the same as
themselves. -/
def SameAt (m m' : Memory) (r : Ref) : Prop := m'.shown 0 (m'.read r) = m.shown 0 (m.read r)

variable {m m' : Memory} {es fs : Entries}

/-- Entries that are the same show the same in every state. -/
theorem shown_congr (h : m'.shown 0 es = m.shown 0 fs) (k : Memory) (depth : Nat) :
    k.shown depth es = k.shown depth fs := by
  have hall : ∀ f : Ref → Entries, Value.filledEntries f es = Value.filledEntries f fs := by
    intro f
    rw [← Value.filledEntries_filledEntries (g := fun _ => []) es,
      ← Value.filledEntries_filledEntries (g := fun _ => []) fs]
    exact congrArg (Value.filledEntries f) h
  cases depth <;> exact hall _

theorem sameAt_of_shown {r : Ref} (h : ∀ depth, m'.shown depth es = m.shown depth es)
    (hr : m.Reaches es r) : m.SameAt m' r := by
  induction hr with
  | direct hr => exact (Value.filledEntries_eq_iff _).1 (h 1) _ hr
  | through hq _ ih =>
    -- one level further down, what is shown is what the mapping shows
    have hbelow := fun depth => (Value.filledEntries_eq_iff _).1 (h (depth + 1)) _ hq
    refine ih fun depth => ?_
    rw [← hbelow depth]
    exact (shown_congr (hbelow 0) m' depth).symm

theorem shown_eq_of_sameAt (h : ∀ r, m.Reaches es r → m.SameAt m' r) (depth : Nat) :
    m'.shown depth es = m.shown depth es := by
  induction depth generalizing es with
  | zero => rfl
  | succ depth ih =>
    refine (Value.filledEntries_eq_iff es).2 fun q hq => ?_
    rw [← ih fun r hr => h r (.through hq hr)]
    exact shown_congr (h q (.direct hq)) m' depth

/-- Entries show the same exactly if the mappings that they reach have the same entries. -/
theorem shown_eq_iff : (∀ depth, m'.shown depth es = m.shown depth es) ↔
    ∀ r, m.Reaches es r → m.SameAt m' r :=
  ⟨fun h _ => sameAt_of_shown h, shown_eq_of_sameAt⟩

end Memory

/-! ## Selections -/

namespace Selection

@[simp] theorem mapping_withMappings (s : Selection) (content : MappingField → Option Entries)
    (f : MappingField) : (s.withMappings content).mapping f = content f := by
  cases f <;> rfl

/-- A selection has a mapping that leads to another one. -/
def Reaches (s : Selection) (m : Memory) (r : Ref) : Prop :=
  ∃ f es, s.mapping f = some es ∧ m.Reaches es r

variable {s : Selection} {m m' : Memory}

theorem shown_eq_iff :
    (∀ depth f, (s.mapping f).map (m'.shown depth) = (s.mapping f).map (m.shown depth)) ↔
      ∀ r, s.Reaches m r → m.SameAt m' r := by
  constructor
  · rintro h r ⟨f, es, hes, hr⟩
    refine Memory.shown_eq_iff.1 (fun depth => ?_) r hr
    have hf := h depth f
    rw [hes] at hf
    exact Option.some.inj hf
  · intro h depth f
    cases hes : s.mapping f with
    | none => rfl
    | some es =>
      exact congrArg some (Memory.shown_eq_iff.2 (fun r hr => h r ⟨f, es, hes, hr⟩) depth)

end Selection

variable {m m' : Memory}

/-- Criteria show the same exactly if the mappings that they reach have the same entries. -/
theorem Criteria.shown_eq_iff {c : Criteria} :
    (∀ depth, c.shown m' depth = c.shown m depth) ↔
      ∀ r, c.toSelection.Reaches m r → m.SameAt m' r := by
  rw [← Selection.shown_eq_iff]
  constructor
  · intro h depth f
    simpa [shown, withMappings] using congrArg (fun d : Criteria => d.toSelection.mapping f) (h depth)
  · intro h depth
    exact congrArg c.withMappings (funext (h depth))

theorem Builder.shown_eq_iff {b : Builder} :
    (∀ depth, b.shown m' depth = b.shown m depth) ↔
      ∀ r, b.toSelection.Reaches m r → m.SameAt m' r := by
  rw [← Selection.shown_eq_iff]
  constructor
  · intro h depth f
    simpa [shown, withMappings] using congrArg (fun d : Builder => d.toSelection.mapping f) (h depth)
  · intro h depth
    exact congrArg b.withMappings (funext (h depth))

end ModelSearch
