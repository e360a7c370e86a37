import ModelSearch.Proofs.Number.Binary64
import ModelSearch.Proofs.Value.Same

/-!
# Keys that are the same

Among values that can be keys, being the same is having the same essence: what is left of a value
when the kind of a number, the clock of a moment and the marks of objects are forgotten.  So it is an
equivalence there, and which of two keys that are the same is looked up does not matter.

    v.sameAs w = true ↔ v.essence = w.essence        for keys    (sameAs_iff_essence)
-/

namespace ModelSearch

/-- A number of any kind. -/
inductive Quantity where
  | exact (q : Rat)
  | infinity (negative : Bool)
  deriving DecidableEq

/-- What two keys that are the same have in common. -/
inductive Essence where
  | null
  | number (x : Quantity)
  | notANumber (mark : Mark)
  | text (s : String)
  | bytes (bs : List UInt8)
  | date (d : Date)
  /-- The seconds, in universal time if there is an offset, and the microseconds. -/
  | moment (universal : Bool) (seconds : Int) (micro : Nat)
  | tuple (items : List Essence)
  /-- What cannot be a key. -/
  | other

/-- The number itself. -/
def Binary64.quantity (x : Binary64) : Quantity :=
  match x with
  | .finite neg m e =>
    let (a, b) := shifted m 1 e
    .exact (mkRat (Text.signed neg a) b)
  | .infinite neg => .infinity neg

namespace Value

mutual

def essence : Value → Essence
  | .null => .null
  | .bool b => .number (.exact (if b then 1 else 0 : Int))
  | .int n => .number (.exact n)
  | .float x => .number x.quantity
  | .notANumber mark => .notANumber mark
  | .text s => .text s
  | .bytes bs => .bytes bs
  | .date _ d => .date d
  | .moment _ t => .moment t.offset.isSome (t.clock - t.offset.getD 0) t.micro
  | .tuple _ items => .tuple (essences items)
  | .list _ _ | .set _ _ | .dict _ _ => .other

def essences : List Value → List Essence
  | [] => []
  | v :: vs => essence v :: essences vs

end

end Value

/-! ## Numbers -/

namespace Binary64

theorem sameAs_iff_quantity (x y : Binary64) : x.sameAs y = true ↔ x.quantity = y.quantity := by
  cases x with
  | finite s m e =>
    cases y with
    | finite t n f =>
      have hm := Nat.ne_of_gt (shifted_pos (n := m) Nat.one_pos e)
      have hn := Nat.ne_of_gt (shifted_pos (n := n) Nat.one_pos f)
      simp only [sameAs, exactly, quantity, decide_eq_true_eq, Quantity.exact.injEq]
      rw [Rat.mkRat_eq_iff hm hn]
    | infinite t => simp [sameAs, exactly, quantity]
  | infinite s => cases y <;> simp [sameAs, exactly, quantity]

theorem isInteger_iff_quantity (x : Binary64) (n : Int) :
    x.isInteger n = true ↔ x.quantity = .exact n := by
  cases x with
  | finite s m e =>
    have hm := Nat.ne_of_gt (shifted_pos (n := m) Nat.one_pos e)
    have hn : (n : Rat) = mkRat n 1 := (Rat.mkRat_one n).symm
    simp only [isInteger, exactly, quantity, decide_eq_true_eq, Quantity.exact.injEq]
    rw [hn, Rat.mkRat_eq_iff hm Nat.one_ne_zero, Int.natCast_one, Int.mul_one]
  | infinite s => simp [isInteger, exactly, quantity]

end Binary64

namespace Value

/-- Integers and truth values as the integers that they are. -/
theorem essence_of_exactInt? {v : Value} {n : Int} (h : v.exactInt? = some n) :
    v.essence = .number (.exact n) := by
  cases v <;> cases h <;> rfl

theorem sameNumber_exact {v w : Value} {n : Int} (hv : v.exactInt? = some n) :
    (sameNumber v w).getD false = true ↔ v.essence = w.essence := by
  rw [essence_of_exactInt? hv]
  cases v with
  | bool | int =>
    cases hv
    cases w with
    | float y => simp [sameNumber, exactInt?, essence, y.isInteger_iff_quantity, eq_comm]
    | bool | int =>
      simp only [sameNumber, exactInt?, essence, Option.getD_some, decide_eq_true_eq,
        Essence.number.injEq, Quantity.exact.injEq, Rat.intCast_inj]
    | _ => simp [sameNumber, exactInt?, essence]
  | _ => cases hv

theorem sameNumber_float {x : Binary64} {w : Value} :
    (sameNumber (.float x) w).getD false = true ↔ (Value.float x).essence = w.essence := by
  cases w with
  | float y => simp [sameNumber, essence, x.sameAs_iff_quantity]
  | bool | int => simp [sameNumber, exactInt?, essence, x.isInteger_iff_quantity]
  | _ => simp [sameNumber, exactInt?, essence]

theorem sameMoment_iff {t u : Moment} {k l : Mark} :
    t.sameAs u = true ↔ (Value.moment k t).essence = (Value.moment l u).essence := by
  unfold Moment.sameAs essence
  cases t.offset <;> cases u.offset <;> simp

/-! ## Keys -/

theorem hashable_of_mem {k : Mark} {xs : List Value} (h : (Value.tuple k xs).hashable = true) :
    ∀ x ∈ xs, x.hashable = true := by
  have hin : unhashableIn? xs = none := by
    simpa [hashable, unhashable?] using h
  clear h
  induction xs with
  | nil => exact nofun
  | cons x xs ih =>
    rw [unhashableIn?] at hin
    cases hx : x.unhashable? with
    | some kind =>
      rw [hx] at hin
      cases hin
    | none =>
      rw [hx] at hin
      intro y hy
      rcases List.mem_cons.1 hy with rfl | hy
      · rw [hashable, hx]
        rfl
      · exact ih hin y hy

mutual

/-- Among keys, being the same is having one essence. -/
theorem sameAs_iff_essence : ∀ v w : Value, v.hashable = true → w.hashable = true →
    (v.sameAs w = true ↔ v.essence = w.essence)
  | .null, w, _, _ => by cases w <;> simp [sameAs, essence]
  | .bool _, w, _, _ => by
    rw [sameAs]
    exact sameNumber_exact rfl
  | .int _, w, _, _ => by
    rw [sameAs]
    exact sameNumber_exact rfl
  | .float _, w, _, _ => by
    rw [sameAs]
    exact sameNumber_float
  | .notANumber _, w, _, _ => by cases w <;> simp [sameAs, essence]
  | .text _, w, _, _ => by cases w <;> simp [sameAs, essence]
  | .bytes _, w, _, _ => by cases w <;> simp [sameAs, essence]
  | .date _ _, w, _, _ => by cases w <;> simp [sameAs, essence]
  | .moment _ t, w, _, _ => by
    cases w with
    | moment l u =>
      rw [sameAs]
      exact sameMoment_iff
    | _ => simp [sameAs, essence]
  | .tuple _ xs, w, hv, hw => by
    cases w with
    | tuple _ ys =>
      rw [sameAs, essence, essence, Essence.tuple.injEq]
      exact sameItems_iff_essences xs ys (hashable_of_mem hv) (hashable_of_mem hw)
    | _ => simp [sameAs, essence]
  | .list _ _, _, hv, _ | .set _ _, _, hv, _ | .dict _ _, _, hv, _ => by
    cases hv

theorem sameItems_iff_essences : ∀ xs ys : List Value, (∀ x ∈ xs, x.hashable = true) →
    (∀ y ∈ ys, y.hashable = true) → (sameItems xs ys = true ↔ essences xs = essences ys)
  | [], [], _, _ => iff_of_true rfl rfl
  | [], y :: ys, _, _ => iff_of_false nofun nofun
  | x :: xs, [], _, _ => iff_of_false nofun nofun
  | x :: xs, y :: ys, hx, hy => by
    have hhead := sameAs_iff_essence x y (hx x List.mem_cons_self) (hy y List.mem_cons_self)
    have htail := sameItems_iff_essences xs ys (fun z hz => hx z (List.mem_cons_of_mem _ hz))
      fun z hz => hy z (List.mem_cons_of_mem _ hz)
    rw [sameItems, Bool.and_eq_true, hhead, htail, essences, essences, List.cons.injEq]

end

theorem sameAs_self_of_hashable {v : Value} (h : v.hashable = true) : v.sameAs v = true :=
  (sameAs_iff_essence v v h h).2 rfl

theorem sameAs_eq_false_iff {v w : Value} (hv : v.hashable = true) (hw : w.hashable = true) :
    v.sameAs w = false ↔ v.essence ≠ w.essence := by
  rw [← Bool.not_eq_true, sameAs_iff_essence v w hv hw]

end Value

end ModelSearch
