import Mathlib.Data.List.Nodup
import ModelSearch.Proofs.Value.Equivalence

/-!
# Mappings in another order

Mappings with the same entries in two orders are the same.  Assignments under distinct keys can be
made in any order: every key takes its value where it stands, and new keys go to the end.

    es.assign k v ~ fs.assign k v                    if es ~ fs                (assign_perm)
    (es.assign k v).assign l w ~ (es.assign l w).assign k v                    (assign_comm)
    es.assignAll ps ~ fs.assignAll qs                if es ~ fs and ps ~ qs    (assignAll_perm)
-/

namespace ModelSearch.Entries

/-- The keys are keys, and no two of them are the same. -/
structure Keyed (es : Entries) : Prop where
  hashable : ∀ e ∈ es, e.1.hashable = true
  nodup : (es.map fun e => e.1.essence).Nodup

variable {es fs : Entries} {k l v w : Value}

theorem keyed_nil : Keyed [] where
  hashable _ he := absurd he List.not_mem_nil
  nodup := List.nodup_nil

theorem keyed_iff_distinct (h : ∀ e ∈ es, e.1.hashable = true) : es.Keyed ↔ es.Distinct := by
  have hpairs : (es.map fun e => e.1.essence).Nodup ↔ es.Distinct := by
    unfold List.Nodup Distinct
    rw [List.pairwise_map]
    refine List.Pairwise.iff_of_mem fun {e f} he hf => ?_
    rw [Value.sameAs_eq_false_iff (h f hf) (h e he)]
    exact ne_comm
  exact ⟨fun hk => hpairs.1 hk.nodup, fun hd => ⟨h, hpairs.2 hd⟩⟩

theorem Keyed.distinct (h : es.Keyed) : es.Distinct := (keyed_iff_distinct h.hashable).1 h

theorem Keyed.perm (h : es.Keyed) (hp : es.Perm fs) : fs.Keyed where
  hashable e he := h.hashable e (hp.mem_iff.2 he)
  nodup := (hp.map _).nodup_iff.1 h.nodup

theorem Keyed.assign (h : es.Keyed) (hk : k.hashable = true) (v : Value) :
    (es.assign k v).Keyed := by
  have hkeys : ∀ e ∈ es.assign k v, e.1.hashable = true := fun e he =>
    (forall_assign (p := fun k => k.hashable = true) (q := fun _ => True)
      (fun e he => ⟨h.hashable e he, trivial⟩) hk trivial e he).1
  exact (keyed_iff_distinct hkeys).2 (h.distinct.assign k v)

/-! ## Two assignments -/

/-- An entry with the new value of a key, if it is the key's. -/
def updated (k v : Value) (e : Value × Value) : Value × Value :=
  if k.sameAs e.1 then (e.1, v) else e

/-- The entry that a key adds. -/
def added (es : Entries) (k v : Value) : Entries :=
  if es.any fun e => k.sameAs e.1 then [] else [(k, v)]

theorem updated_of_ne {e : Value × Value} (h : k.sameAs e.1 ≠ true) : updated k v e = e :=
  if_neg h

/-- The keys stay what they are. -/
theorem any_updated (es : Entries) (k l v : Value) :
    ((es.map (updated k v)).any fun e => l.sameAs e.1) = es.any fun e => l.sameAs e.1 := by
  have hkey : ∀ e, (updated k v e).1 = e.1 := by
    intro e
    unfold updated
    split <;> rfl
  rw [List.any_map]
  congr 1
  funext e
  rw [Function.comp_apply, hkey]

/-- An assignment changes the value of the one key that it is about, or adds it. -/
theorem assign_eq (h : es.Keyed) (hk : k.hashable = true) (v : Value) :
    es.assign k v = es.map (updated k v) ++ es.added k v := by
  induction es with
  | nil => rfl
  | cons e es ih =>
    have he := h.hashable e List.mem_cons_self
    have hes : ∀ f ∈ es, f.1.hashable = true := fun f hf =>
      h.hashable f (List.mem_cons_of_mem _ hf)
    obtain ⟨hnew, htail⟩ := List.nodup_cons.1 h.nodup
    rw [assign, added, List.map_cons, List.any_cons]
    by_cases hs : k.sameAs e.1 = true
    · -- No later key is the same as this one.
      have hrest : es.map (updated k v) = es := by
        conv_rhs => rw [← List.map_id es]
        refine List.map_congr_left fun f hf => updated_of_ne fun hkf => hnew ?_
        rw [Value.sameAs_iff_essence _ _ hk he] at hs
        rw [Value.sameAs_iff_essence _ _ hk (hes f hf)] at hkf
        exact List.mem_map.2 ⟨f, hf, hkf.symm.trans hs⟩
      rw [hs, if_pos rfl, hrest, updated, if_pos hs]
      simp
    · rw [if_neg hs, ih ⟨hes, htail⟩, updated_of_ne hs, Bool.eq_false_iff.2 hs, Bool.false_or]
      rfl

/-- An assignment under one key leaves it open whether another is there. -/
theorem added_assign (h : es.Keyed) (hk : k.hashable = true) (hlk : l.sameAs k ≠ true)
    (v w : Value) : (es.assign k v).added l w = es.added l w := by
  have hadded : ((es.added k v).any fun e => l.sameAs e.1) = false := by
    unfold added
    split
    · rfl
    · simp [hlk]
  rw [added, assign_eq h hk, List.any_append, any_updated, hadded, Bool.or_false, added]

theorem updated_added (hlk : l.sameAs k ≠ true) (es : Entries) (v w : Value) :
    (es.added k v).map (updated l w) = es.added k v := by
  unfold added
  split
  · rfl
  · rw [List.map_singleton, updated_of_ne hlk]

theorem assign_assign (h : es.Keyed) (hk : k.hashable = true) (hl : l.hashable = true)
    (hlk : l.sameAs k ≠ true) (v w : Value) : (es.assign k v).assign l w
      = (es.map (updated l w ∘ updated k v) ++ es.added k v) ++ es.added l w := by
  rw [assign_eq (h.assign hk v) hl, added_assign h hk hlk, assign_eq h hk, List.map_append,
    List.map_map, updated_added hlk]

theorem assign_comm (h : es.Keyed) (hk : k.hashable = true) (hl : l.hashable = true)
    (hkl : k.essence ≠ l.essence) (v w : Value) :
    ((es.assign k v).assign l w).Perm ((es.assign l w).assign k v) := by
  have hkl' : k.sameAs l ≠ true := fun h => hkl ((Value.sameAs_iff_essence k l hk hl).1 h)
  have hlk : l.sameAs k ≠ true := fun h => hkl ((Value.sameAs_iff_essence l k hl hk).1 h).symm
  have hupdated : es.map (updated l w ∘ updated k v) = es.map (updated k v ∘ updated l w) := by
    refine List.map_congr_left fun e he => ?_
    have hke := Value.sameAs_iff_essence k e.1 hk (h.hashable e he)
    have hle := Value.sameAs_iff_essence l e.1 hl (h.hashable e he)
    simp only [Function.comp_apply, updated]
    by_cases hks : k.sameAs e.1 = true
    · have hls : l.sameAs e.1 ≠ true := fun hls => hkl ((hke.1 hks).trans (hle.1 hls).symm)
      simp [hks, hls]
    · by_cases hls : l.sameAs e.1 = true
      · simp [hks, hls]
      · simp [hks, hls]
  rw [assign_assign h hk hl hlk, assign_assign h hl hk hkl', hupdated, List.append_assoc,
    List.append_assoc]
  exact List.perm_append_comm.append_left _

theorem assign_perm (h : es.Keyed) (hp : es.Perm fs) (hk : k.hashable = true) (v : Value) :
    (es.assign k v).Perm (fs.assign k v) := by
  have hadded : es.added k v = fs.added k v := by
    rw [added, added, hp.any_eq]
  rw [assign_eq h hk, assign_eq (h.perm hp) hk, hadded]
  exact (hp.map _).append_right _

/-! ## Any number of them -/

theorem assignAll_perm_left (h : es.Keyed) (hp : es.Perm fs) {ps : Entries}
    (hps : ∀ p ∈ ps, p.1.hashable = true) : (es.assignAll ps).Perm (fs.assignAll ps) := by
  induction ps generalizing es fs with
  | nil => exact hp
  | cons p ps ih =>
    have hk := hps p List.mem_cons_self
    exact ih (h.assign hk p.2) (assign_perm h hp hk p.2) fun q hq =>
      hps q (List.mem_cons_of_mem _ hq)

/-- Assignments under distinct keys, in any order and to a mapping in any order. -/
theorem assignAll_perm (h : es.Keyed) (hp : es.Perm fs) {ps qs : Entries} (hps : ps.Keyed)
    (hpq : ps.Perm qs) : (es.assignAll ps).Perm (fs.assignAll qs) := by
  induction hpq generalizing es fs with
  | nil => exact hp
  | cons p _ ih =>
    have hk := hps.hashable p List.mem_cons_self
    have hrest : Keyed _ := ⟨fun q hq => hps.hashable q (List.mem_cons_of_mem _ hq),
      (List.nodup_cons.1 hps.nodup).2⟩
    exact ih (h.assign hk p.2) (assign_perm h hp hk p.2) hrest
  | swap p q ps =>
    have hkq := hps.hashable q List.mem_cons_self
    have hkp := hps.hashable p (List.mem_cons_of_mem _ List.mem_cons_self)
    have hne : q.1.essence ≠ p.1.essence := by
      have hnot := (List.nodup_cons.1 hps.nodup).1
      rw [List.map_cons, List.mem_cons, not_or] at hnot
      exact hnot.1
    have hswap : ((es.assign q.1 q.2).assign p.1 p.2).Perm ((fs.assign p.1 p.2).assign q.1 q.2) :=
      (assign_comm h hkq hkp hne q.2 p.2).trans
        (assign_perm (h.assign hkp p.2) (assign_perm h hp hkp p.2) hkq q.2)
    exact assignAll_perm_left ((h.assign hkq q.2).assign hkp p.2) hswap fun r hr =>
      hps.hashable r (List.mem_cons_of_mem _ (List.mem_cons_of_mem _ hr))
  | trans hfirst _ ih ih' =>
    exact (ih h (List.Perm.refl es) hps).trans (ih' h hp (hps.perm hfirst))

/-! ## Equality -/

/-- A mapping whose keys are keys and distinct, and whose values are the same as themselves. -/
structure Regular (es : Entries) : Prop extends es.Keyed where
  same : ∀ e ∈ es, e.2.sameAs e.2 = true

theorem regular_nil : Regular [] where
  toKeyed := keyed_nil
  same _ he := absurd he List.not_mem_nil

theorem Regular.assign (h : es.Regular) (hk : k.hashable = true) (hv : v.sameAs v = true) :
    (es.assign k v).Regular where
  toKeyed := h.toKeyed.assign hk v
  same e he := (forall_assign (p := fun _ => True) (q := fun v => v.sameAs v = true)
    (fun e he => ⟨trivial, h.same e he⟩) trivial hv e he).2

theorem Regular.perm (h : es.Regular) (hp : es.Perm fs) : fs.Regular where
  toKeyed := h.toKeyed.perm hp
  same e he := h.same e (hp.mem_iff.2 he)

/-- The order of the entries does not matter. -/
theorem Regular.sameAs_of_perm (h : es.Regular) (hp : es.Perm fs) (m n : Mark) :
    (Value.dict m es).sameAs (.dict n fs) = true := by
  have hfs := h.toKeyed.perm hp
  have hagrees : Value.agreesWith es fs = true := by
    refine Value.agreesWith_iff.2 fun e he => ⟨e, ?_, h.same e he⟩
    exact Value.find?_of_distinct hfs.distinct (hp.mem_iff.1 he)
      (Value.sameAs_self_of_hashable (h.hashable e he))
  simp only [Value.sameAs, hp.length_eq, hagrees, decide_true, Bool.true_and]

end ModelSearch.Entries
