import ModelSearch.Proofs.Value.Entries

/-!
# Values that are the same

A value is the same as itself unless a part of it is not a number.  Which objects a value is made of
does not matter: a value is the same as every other one that differs from it in marks alone.

    v.sameAs w = v.unmarked.sameAs w.unmarked        unless v is not a number    (sameAs_unmarked)
    v.sameAs w           if v.unmarked = w.unmarked and v is comparable          (sameAs_of_unmarked)
-/

namespace ModelSearch.Value

mutual

/-- A value without the identities of its objects. -/
def unmarked : Value → Value
  | .notANumber _ => .notANumber default
  | .date _ d => .date default d
  | .moment _ t => .moment default t
  | .list _ xs => .list default (unmarkedAll xs)
  | .tuple _ xs => .tuple default (unmarkedAll xs)
  | .set _ xs => .set default (unmarkedAll xs)
  | .dict _ es => .dict default (unmarkedEntries es)
  | v => v

def unmarkedAll : List Value → List Value
  | [] => []
  | v :: vs => unmarked v :: unmarkedAll vs

def unmarkedEntries : List (Value × Value) → List (Value × Value)
  | [] => []
  | (k, v) :: es => (unmarked k, unmarked v) :: unmarkedEntries es

end

mutual

/-- No part of a value is not a number, and no mapping in it has a key twice. -/
def Comparable : Value → Prop
  | .notANumber _ => False
  | .list _ xs | .tuple _ xs | .set _ xs => AllComparable xs
  | .dict _ es => EntriesComparable es ∧ Entries.Distinct es
  | _ => True

def AllComparable : List Value → Prop
  | [] => True
  | v :: vs => Comparable v ∧ AllComparable vs

def EntriesComparable : List (Value × Value) → Prop
  | [] => True
  | (k, v) :: es => Comparable k ∧ Comparable v ∧ EntriesComparable es

end

/-! ## Lists of values -/

theorem unmarkedAll_eq (vs : List Value) : unmarkedAll vs = vs.map unmarked := by
  induction vs with
  | nil => rfl
  | cons v vs ih => rw [unmarkedAll, ih, List.map_cons]

theorem unmarkedEntries_eq (es : List (Value × Value)) :
    unmarkedEntries es = es.map fun e => (e.1.unmarked, e.2.unmarked) := by
  induction es with
  | nil => rfl
  | cons e es ih => rw [unmarkedEntries, ih, List.map_cons]

theorem entriesComparable_iff {es : List (Value × Value)} :
    EntriesComparable es ↔ ∀ e ∈ es, e.1.Comparable ∧ e.2.Comparable := by
  induction es with
  | nil => simp [EntriesComparable]
  | cons e es ih => simp [EntriesComparable, ih, and_assoc]

theorem containedIn_iff {xs ys : List Value} :
    containedIn xs ys = true ↔ ∀ x ∈ xs, ∃ y ∈ ys, x.sameAs y = true := by
  induction xs with
  | nil => simp [containedIn]
  | cons x xs ih => simp [containedIn, ih]

/-! ## A value and itself -/

theorem agreesWith_iff {xs ys : List (Value × Value)} :
    agreesWith xs ys = true ↔
      ∀ e ∈ xs, ∃ f, ys.find? (fun g => e.1.sameAs g.1) = some f ∧ e.2.sameAs f.2 = true := by
  induction xs with
  | nil => simp [agreesWith]
  | cons x xs ih =>
    rw [agreesWith, Bool.and_eq_true, ih, List.forall_mem_cons]
    cases ys.find? fun g => x.1.sameAs g.1 <;> simp

/-- Among distinct keys, the first that is the same as one of them is that one. -/
theorem find?_of_distinct {es : List (Value × Value)} (h : Entries.Distinct es)
    {e : Value × Value} (he : e ∈ es) (hs : e.1.sameAs e.1 = true) :
    es.find? (fun g => e.1.sameAs g.1) = some e := by
  induction es with
  | nil => cases he
  | cons f fs ih =>
    obtain ⟨hf, hfs⟩ := List.pairwise_cons.1 h
    rcases List.mem_cons.1 he with heq | hm
    · subst heq
      exact List.find?_cons_of_pos hs
    · rw [List.find?_cons_of_neg (by simp [hf e hm]), ih hfs hm]

/-! ## A value and itself -/

end ModelSearch.Value

theorem ModelSearch.Binary64.sameAs_self (x : Binary64) : x.sameAs x = true := by
  unfold sameAs
  cases x.exactly <;> simp

theorem ModelSearch.Moment.sameAs_self (t : Moment) : t.sameAs t = true := by
  unfold sameAs
  cases t.offset <;> simp

namespace ModelSearch.Value

mutual

theorem sameAs_self : ∀ v : Value, v.Comparable → v.sameAs v = true
  | .null, _ => rfl
  | .bool b, _ => by simp [sameAs, sameNumber, exactInt?]
  | .int n, _ => by simp [sameAs, sameNumber, exactInt?]
  | .float x, _ => by simp [sameAs, sameNumber, x.sameAs_self]
  | .notANumber _, h => h.elim
  | .text s, _ => by simp [sameAs]
  | .bytes bs, _ => by simp [sameAs]
  | .date _ d, _ => by simp [sameAs]
  | .moment _ t, _ => by simp [sameAs, t.sameAs_self]
  | .list _ xs, h => by
    rw [sameAs]
    exact sameItems_self xs h
  | .tuple _ xs, h => by
    rw [sameAs]
    exact sameItems_self xs h
  | .set _ xs, h => by
    have hx := members_self xs h
    simp only [sameAs, decide_true, Bool.true_and]
    exact containedIn_iff.2 fun x hm => ⟨x, hm, hx x hm⟩
  | .dict _ es, h => by
    have hes := entries_self es h.1
    simp only [sameAs, decide_true, Bool.true_and]
    exact agreesWith_iff.2 fun e hm => ⟨e, find?_of_distinct h.2 hm (hes e hm).1, (hes e hm).2⟩

theorem sameItems_self : ∀ xs : List Value, AllComparable xs → sameItems xs xs = true
  | [], _ => rfl
  | x :: xs, h => by
    rw [sameItems, sameAs_self x h.1, sameItems_self xs h.2]
    rfl

theorem members_self : ∀ xs : List Value, AllComparable xs → ∀ x ∈ xs, x.sameAs x = true
  | [], _ => by simp
  | x :: xs, h => by
    intro y hy
    rcases List.mem_cons.1 hy with hy | hy
    · rw [hy]
      exact sameAs_self x h.1
    · exact members_self xs h.2 y hy

theorem entries_self : ∀ es : List (Value × Value), EntriesComparable es →
    ∀ e ∈ es, e.1.sameAs e.1 = true ∧ e.2.sameAs e.2 = true
  | [], _ => by simp
  | (k, v) :: es, h => by
    intro f hf
    rcases List.mem_cons.1 hf with hf | hf
    · rw [hf]
      exact ⟨sameAs_self k h.1, sameAs_self v h.2.1⟩
    · exact entries_self es h.2.2 f hf

end

/-! ## Marks -/

mutual

/-- Whether values are the same is not decided by marks, but for what is not a number. -/
theorem sameAs_unmarked : ∀ v w : Value, v.Comparable →
    v.unmarked.sameAs w.unmarked = v.sameAs w
  | .null, w, _ => by cases w <;> rfl
  | .bool b, w, _ => by cases w <;> rfl
  | .int n, w, _ => by cases w <;> rfl
  | .float x, w, _ => by cases w <;> rfl
  | .notANumber _, _, h => h.elim
  | .text s, w, _ => by cases w <;> rfl
  | .bytes bs, w, _ => by cases w <;> rfl
  | .date _ d, w, _ => by cases w <;> rfl
  | .moment _ t, w, _ => by cases w <;> rfl
  | .list _ xs, w, h => by
    cases w with
    | list _ ys => exact sameItems_unmarked xs ys h
    | _ => rfl
  | .tuple _ xs, w, h => by
    cases w with
    | tuple _ ys => exact sameItems_unmarked xs ys h
    | _ => rfl
  | .set _ xs, w, h => by
    cases w with
    | set _ ys =>
      simp only [unmarked, sameAs, containedIn_unmarked xs ys h]
      simp only [unmarkedAll_eq, List.length_map]
    | _ => rfl
  | .dict _ xs, w, h => by
    cases w with
    | dict _ ys =>
      simp only [unmarked, sameAs, agreesWith_unmarked xs ys h.1]
      simp only [unmarkedEntries_eq, List.length_map]
    | _ => rfl

theorem sameItems_unmarked : ∀ xs ys : List Value, AllComparable xs →
    sameItems (unmarkedAll xs) (unmarkedAll ys) = sameItems xs ys
  | [], ys, _ => by cases ys <;> rfl
  | x :: xs, [], _ => rfl
  | x :: xs, y :: ys, h => by
    simp only [unmarkedAll, sameItems, sameAs_unmarked x y h.1, sameItems_unmarked xs ys h.2]

theorem containedIn_unmarked : ∀ xs ys : List Value, AllComparable xs →
    containedIn (unmarkedAll xs) (unmarkedAll ys) = containedIn xs ys
  | [], _, _ => rfl
  | x :: xs, ys, h => by
    have hx : (unmarkedAll ys).any (fun y => x.unmarked.sameAs y) = ys.any fun y => x.sameAs y := by
      rw [unmarkedAll_eq, List.any_map]
      congr 1
      funext y
      exact sameAs_unmarked x y h.1
    rw [unmarkedAll, containedIn, containedIn, hx, containedIn_unmarked xs ys h.2]

theorem agreesWith_unmarked : ∀ xs ys : List (Value × Value), EntriesComparable xs →
    agreesWith (unmarkedEntries xs) (unmarkedEntries ys) = agreesWith xs ys
  | [], _, _ => rfl
  | (k, v) :: xs, ys, h => by
    have hk : (unmarkedEntries ys).find? (fun e => k.unmarked.sameAs e.1)
        = (ys.find? fun e => k.sameAs e.1).map fun e => (e.1.unmarked, e.2.unmarked) := by
      rw [unmarkedEntries_eq, List.find?_map]
      congr 2
      funext e
      exact sameAs_unmarked k e.1 h.1
    rw [unmarkedEntries, agreesWith, agreesWith, hk, agreesWith_unmarked xs ys h.2.2]
    cases ys.find? fun e => k.sameAs e.1 with
    | none => rfl
    | some e => simp only [Option.map_some, sameAs_unmarked v e.2 h.2.1]

end

/-- Distinct keys stay distinct without marks. -/
theorem distinct_unmarked_iff {es : List (Value × Value)} (h : ∀ e ∈ es, e.1.Comparable) :
    Entries.Distinct (unmarkedEntries es) ↔ Entries.Distinct es := by
  unfold Entries.Distinct
  rw [unmarkedEntries_eq, List.pairwise_map]
  refine List.Pairwise.iff_of_mem fun he hf => ?_
  rw [sameAs_unmarked _ _ (h _ hf)]

mutual

/-- Marks do not decide either whether a value is comparable. -/
theorem comparable_unmarked : ∀ v : Value, v.unmarked.Comparable ↔ v.Comparable
  | .null | .bool _ | .int _ | .float _ | .notANumber _ | .text _ | .bytes _ | .date _ _
  | .moment _ _ => Iff.rfl
  | .list _ xs | .tuple _ xs | .set _ xs => allComparable_unmarked xs
  | .dict _ es => by
    have hes := entriesComparable_unmarked es
    constructor
    · rintro ⟨hc, hd⟩
      have hk := entriesComparable_iff.1 (hes.1 hc)
      exact ⟨hes.1 hc, (distinct_unmarked_iff fun e he => (hk e he).1).1 hd⟩
    · rintro ⟨hc, hd⟩
      have hk := entriesComparable_iff.1 hc
      exact ⟨hes.2 hc, (distinct_unmarked_iff fun e he => (hk e he).1).2 hd⟩

theorem allComparable_unmarked : ∀ vs : List Value, AllComparable (unmarkedAll vs) ↔ AllComparable vs
  | [] => Iff.rfl
  | v :: vs => and_congr (comparable_unmarked v) (allComparable_unmarked vs)

theorem entriesComparable_unmarked : ∀ es : List (Value × Value),
    EntriesComparable (unmarkedEntries es) ↔ EntriesComparable es
  | [] => Iff.rfl
  | (k, v) :: es => and_congr (comparable_unmarked k)
    (and_congr (comparable_unmarked v) (entriesComparable_unmarked es))

end

theorem sameAs_of_unmarked {v w : Value} (hv : v.Comparable) (h : v.unmarked = w.unmarked) :
    v.sameAs w = true := by
  rw [← sameAs_unmarked v w hv, ← h, sameAs_unmarked v v hv, sameAs_self v hv]

end ModelSearch.Value
