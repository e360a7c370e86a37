import ModelSearch.Proofs.Yaml.Holds

/-!
# What scalars are read as

Under every scalar tag the reader gives a value that is written as a scalar again; if it is an object
of its own, it has the mark that it was given.

    scalarNodeValue source n = .ok v → (scalarForm? v).isSome       (scalarForm_of_scalarNodeValue)
-/

namespace ModelSearch.Yaml

/-- A value that is written as a scalar and has no other mark than the given one. -/
def ScalarOf (mark : Mark) (v : Value) : Prop :=
  (scalarForm? v).isSome ∧ ∀ m, v.mark? = some m → m = mark

theorem scalarOf_readBool {mark : Mark} {text : String} {v : Value} (h : readBool text = .ok v) :
    ScalarOf mark v := by
  unfold readBool at h
  dsimp only at h
  split at h
  · cases h
    exact ⟨rfl, nofun⟩
  · split at h
    · cases h
      exact ⟨rfl, nofun⟩
    · cases h

theorem scalarOf_readInt {mark : Mark} {text : String} {v : Value} (h : readInt text = .ok v) :
    ScalarOf mark v := by
  unfold readInt at h
  obtain ⟨⟨neg, body⟩, -, h⟩ := bind_eq_ok.1 h
  obtain ⟨n, -, h⟩ := bind_eq_ok.1 h
  cases h
  exact ⟨rfl, nofun⟩

theorem scalarOf_quantityValue (mark m : Mark) (neg : Bool) (q : Quantity) :
    ScalarOf mark (quantityValue m neg q) := by
  unfold quantityValue
  split <;> exact ⟨rfl, nofun⟩

theorem scalarOf_readFloat {mark : Mark} {text : String} {v : Value}
    (h : readFloat mark text = .ok v) : ScalarOf mark v := by
  unfold readFloat at h
  obtain ⟨⟨neg, body⟩, -, h⟩ := bind_eq_ok.1 h
  dsimp only at h
  split at h
  · cases h
    exact ⟨rfl, nofun⟩
  split at h
  · cases h
    exact ⟨rfl, nofun⟩
  split at h
  · obtain ⟨parts, -, h⟩ := bind_eq_ok.1 h
    obtain ⟨q, -, h⟩ := bind_eq_ok.1 h
    cases h
    exact scalarOf_quantityValue _ _ _ _
  · obtain ⟨q, -, h⟩ := bind_eq_ok.1 h
    cases h
    exact scalarOf_quantityValue _ _ _ _

theorem scalarOf_readTimestamp {mark : Mark} {text : String} {v : Value}
    (h : readTimestamp mark text = .ok v) : ScalarOf mark v := by
  have hmark : ∀ {α : Type} {x : Except CalendarFault α} {f : α → Value},
      (∀ a, ScalarOf mark (f a)) → calendarFault (x.map f) = .ok v → ScalarOf mark v := by
    intro α x f hf hx
    cases x with
    | ok a =>
      cases hx
      exact hf a
    | error e => cases hx
  unfold readTimestamp at h
  split at h
  · cases h
  · dsimp only at h
    split at h
    · exact hmark (fun d => ⟨rfl, fun m hm => by cases hm; rfl⟩) h
    · cases hx : (do
        let offset ← Option.mapM (fun z => checkOffset (zoneSeconds z)) _
        let moment ← Moment.of _ _ _ _ _ _ _ offset
        pure (Value.moment mark moment)) with
      | error e =>
        rw [hx] at h
        cases h
      | ok w =>
        rw [hx] at h
        cases h
        obtain ⟨offset, -, hx⟩ := bind_eq_ok.1 hx
        obtain ⟨moment, -, hx⟩ := bind_eq_ok.1 hx
        cases hx
        exact ⟨rfl, fun m hm => by cases hm; rfl⟩

theorem scalarOf_readBinary {mark : Mark} {text : String} {v : Value}
    (h : readBinary text = .ok v) : ScalarOf mark v := by
  unfold readBinary at h
  dsimp only at h
  split at h
  · cases h
  · split at h
    · cases h
      exact ⟨rfl, nofun⟩
    · cases h

theorem scalarOf_scalarValue {mark : Mark} {tag : Tag} {text : String} {v : Value}
    (h : scalarValue? mark tag text = some (.ok v)) : ScalarOf mark v := by
  cases tag with
  | null =>
    cases h
    exact ⟨rfl, nofun⟩
  | bool => exact scalarOf_readBool (Option.some.inj h)
  | int => exact scalarOf_readInt (Option.some.inj h)
  | float => exact scalarOf_readFloat (Option.some.inj h)
  | binary => exact scalarOf_readBinary (Option.some.inj h)
  | timestamp => exact scalarOf_readTimestamp (Option.some.inj h)
  | text =>
    cases h
    exact ⟨rfl, nofun⟩
  | _ => cases h

/-- The value of a node under a scalar tag is the value of a text under that tag. -/
theorem scalarNodeValue_eq_ok {source : Nat} {n : Node} {v : Value}
    (h : scalarNodeValue source n = .ok v) :
    ∃ text, scalarValue? (.own source n.serial) n.tag text = some (.ok v) := by
  unfold scalarNodeValue at h
  obtain ⟨text, -, h⟩ := bind_eq_ok.1 h
  split at h
  · cases h
  · split at h
    next x hx => exact ⟨text, by rw [hx, h]⟩
    · cases h

theorem scalarOf_scalarNodeValue {source : Nat} {n : Node} {v : Value}
    (h : scalarNodeValue source n = .ok v) : ScalarOf (.own source n.serial) v := by
  obtain ⟨text, hv⟩ := scalarNodeValue_eq_ok h
  exact scalarOf_scalarValue hv

end ModelSearch.Yaml
