import ModelSearch.Proofs.Text.Base64
import ModelSearch.Text.Utf8

/-!
# Encoding and decoding

The sequence of a character is read as the character wherever it stands, because its first byte tells
its length and its bits are those of the character.  And the ranges of the bytes of a sequence are
such that no other sequence is read as the same character.

    decode (encode xs) = .ok xs                                          (decode_encode)
    decode bs = .ok xs ↔ encode xs = bs                               (decode_eq_ok_iff)
-/

namespace ModelSearch.Text

theorem toNat_toUInt8 {n : Nat} (h : n < 256) : n.toUInt8.toNat = n := by
  simp [Nat.toUInt8, UInt8.toNat_ofNat', Nat.mod_eq_of_lt h]

/-- The number of a character is none of a surrogate. -/
theorem toNat_valid (c : Char) : c.toNat < 0xD800 ∨ (0xDFFF < c.toNat ∧ c.toNat < 0x110000) := c.valid

variable {position : Nat} {bs : List UInt8}

/-! ## Steps -/

theorem decodeFrom_single {n : Nat} (h : n < 0x80) :
    decodeFrom position none (n.toUInt8 :: bs)
      = (decodeFrom (position + 1) none bs).map (Char.ofNat n :: ·) := by
  rw [decodeFrom]
  simp only [toNat_toUInt8 (show n < 256 by omega)]
  rw [if_pos h]

theorem decodeFrom_lead {n missing low high : Nat} (hn : n < 256) (h : 0x80 ≤ n)
    (hl : leading? n = some (missing, low, high)) :
    decodeFrom position none (n.toUInt8 :: bs)
      = decodeFrom (position + 1)
        (some ⟨position, n.toUInt8, 1, missing, low, high, leadingBits n missing⟩) bs := by
  rw [decodeFrom]
  simp only [toNat_toUInt8 hn, hl]
  rw [if_neg (Nat.not_lt.2 h)]

theorem decodeFrom_last {p : Utf8Pending} {n : Nat} (hn : n < 256) (hm : p.missing = 1)
    (hlow : p.low ≤ n) (hhigh : n ≤ p.high) :
    decodeFrom position (some p) (n.toUInt8 :: bs)
      = (decodeFrom (position + 1) none bs).map (Char.ofNat (p.bits * 64 + n % 64) :: ·) := by
  rw [decodeFrom]
  simp only [toNat_toUInt8 hn, hlow, hhigh, hm, decide_true, Bool.and_self, if_true]

theorem decodeFrom_more {p : Utf8Pending} {n : Nat} (hn : n < 256) (hm : p.missing ≠ 1)
    (hlow : p.low ≤ n) (hhigh : n ≤ p.high) :
    decodeFrom position (some p) (n.toUInt8 :: bs)
      = decodeFrom (position + 1) (some ⟨p.position, p.lead, p.taken + 1, p.missing - 1, 0x80, 0xBF,
        p.bits * 64 + n % 64⟩) bs := by
  rw [decodeFrom]
  simp only [toNat_toUInt8 hn, hlow, hhigh, hm, decide_true, Bool.and_self, if_true, if_false]

/-! ## Sequences -/

theorem decodeFrom_encodeChar (c : Char) :
    decodeFrom position none (encodeChar c ++ bs)
      = (decodeFrom (position + (encodeChar c).length) none bs).map (c :: ·) := by
  have hvalid := toNat_valid c
  have hc : c = Char.ofNat c.toNat := (Char.ofNat_toNat c).symm
  unfold encodeChar
  generalize c.toNat = n at hvalid hc
  subst hc
  by_cases h1 : n < 0x80
  · simp only [if_pos h1, List.cons_append, List.nil_append, List.length_singleton]
    exact decodeFrom_single h1
  by_cases h2 : n < 0x800
  · simp only [if_neg h1, if_pos h2, List.cons_append, List.nil_append, List.length_cons,
      List.length_nil]
    have hlead : leading? (0xC0 + n / 2 ^ 6) = some (1, 0x80, 0xBF) := by
      unfold leading?
      rw [if_neg (by omega), if_pos (by omega)]
    rw [decodeFrom_lead (by omega) (by omega) hlead, decodeFrom_last (by omega) rfl
      (by dsimp only; omega) (by dsimp only; omega)]
    have hbits : leadingBits (0xC0 + n / 2 ^ 6) 1 * 64 + (0x80 + n / 2 ^ 0 % 64) % 64 = n := by
      unfold leadingBits
      omega
    dsimp only
    rw [hbits]
  by_cases h3 : n < 0x10000
  · simp only [if_neg h1, if_neg h2, if_pos h3, List.cons_append, List.nil_append, List.length_cons,
      List.length_nil]
    have hlead : leading? (0xE0 + n / 2 ^ 12) = some (2, if 0xE0 + n / 2 ^ 12 = 0xE0 then 0xA0 else 0x80,
        if 0xE0 + n / 2 ^ 12 = 0xED then 0x9F else 0xBF) := by
      unfold leading?
      rw [if_neg (by omega), if_neg (by omega), if_pos (by omega)]
    rw [decodeFrom_lead (by omega) (by omega) hlead,
      decodeFrom_more (by omega) (by simp) (by dsimp only; split <;> omega)
        (by dsimp only; split <;> omega),
      decodeFrom_last (by omega) rfl (by dsimp only; omega) (by dsimp only; omega)]
    have hbits : (leadingBits (0xE0 + n / 2 ^ 12) 2 * 64 + (0x80 + n / 2 ^ 6 % 64) % 64) * 64
        + (0x80 + n / 2 ^ 0 % 64) % 64 = n := by
      unfold leadingBits
      omega
    dsimp only
    rw [hbits]
  · simp only [if_neg h1, if_neg h2, if_neg h3, List.cons_append, List.nil_append, List.length_cons,
      List.length_nil]
    have hlead : leading? (0xF0 + n / 2 ^ 18) = some (3, if 0xF0 + n / 2 ^ 18 = 0xF0 then 0x90 else 0x80,
        if 0xF0 + n / 2 ^ 18 = 0xF4 then 0x8F else 0xBF) := by
      unfold leading?
      rw [if_neg (by omega), if_neg (by omega), if_neg (by omega), if_pos (by omega)]
    rw [decodeFrom_lead (by omega) (by omega) hlead,
      decodeFrom_more (by omega) (by simp) (by dsimp only; split <;> omega)
        (by dsimp only; split <;> omega),
      decodeFrom_more (by omega) (by simp) (by dsimp only; omega) (by dsimp only; omega),
      decodeFrom_last (by omega) rfl (by dsimp only; omega) (by dsimp only; omega)]
    have hbits : ((leadingBits (0xF0 + n / 2 ^ 18) 3 * 64 + (0x80 + n / 2 ^ 12 % 64) % 64) * 64
        + (0x80 + n / 2 ^ 6 % 64) % 64) * 64 + (0x80 + n / 2 ^ 0 % 64) % 64 = n := by
      unfold leadingBits
      omega
    dsimp only
    rw [hbits]

theorem decodeFrom_encode (xs : List Char) (position : Nat) :
    decodeFrom position none (encode xs) = .ok xs := by
  induction xs generalizing position with
  | nil => rfl
  | cons c xs ih =>
    unfold encode
    rw [List.flatMap_cons, decodeFrom_encodeChar]
    rw [show List.flatMap encodeChar xs = encode xs from rfl, ih]
    rfl

/-- Text that was encoded is decoded. -/
theorem decode_encode (xs : List Char) : decode (encode xs) = .ok xs := decodeFrom_encode xs 0

/-! ## Decoded text -/

theorem toNat_ofNat {n : Nat} (h : n < 0xD800 ∨ (0xDFFF < n ∧ n < 0x110000)) :
    (Char.ofNat n).toNat = n := by
  rw [Char.ofNat, dif_pos h]
  rfl

/-- What a sequence part way through is followed by. -/
theorem decodeFrom_some_eq_ok {p : Utf8Pending} {xs : List Char}
    (h : decodeFrom position (some p) bs = .ok xs) :
    ∃ c rest, bs = c :: rest ∧ p.low ≤ c.toNat ∧ c.toNat ≤ p.high ∧
      (if p.missing = 1 then
        ∃ ys, decodeFrom (position + 1) none rest = .ok ys ∧
          xs = Char.ofNat (p.bits * 64 + c.toNat % 64) :: ys
      else
        decodeFrom (position + 1) (some ⟨p.position, p.lead, p.taken + 1, p.missing - 1, 0x80, 0xBF,
          p.bits * 64 + c.toNat % 64⟩) rest = .ok xs) := by
  cases bs with
  | nil => cases h
  | cons c rest =>
    rw [decodeFrom] at h
    dsimp only at h
    split at h
    next hb =>
      rw [Bool.and_eq_true] at hb
      refine ⟨c, rest, rfl, of_decide_eq_true hb.1, of_decide_eq_true hb.2, ?_⟩
      split at h
      next hm =>
        rw [if_pos hm]
        cases hd : decodeFrom (position + 1) none rest with
        | error e =>
          rw [hd] at h
          cases h
        | ok ys =>
          rw [hd] at h
          cases h
          exact ⟨ys, rfl, rfl⟩
      next hm =>
        rw [if_neg hm]
        exact h
    · cases h

/-- The character that a sequence spells is encoded as the sequence. -/
theorem encodeChar_two {b c : UInt8} (hb : 0xC2 ≤ b.toNat) (hb' : b.toNat < 0xE0)
    (hc : 0x80 ≤ c.toNat) (hc' : c.toNat ≤ 0xBF) :
    encodeChar (Char.ofNat (leadingBits b.toNat 1 * 64 + c.toNat % 64)) = [b, c] := by
  unfold leadingBits encodeChar
  rw [toNat_ofNat (by omega)]
  dsimp only
  rw [if_neg (by omega), if_pos (by omega), toUInt8_eq (b := b) (by omega),
    toUInt8_eq (b := c) (by omega)]

theorem encodeChar_three {b c d : UInt8} (hb : 0xE0 ≤ b.toNat) (hb' : b.toNat < 0xF0)
    (hc : (if b.toNat = 0xE0 then 0xA0 else 0x80) ≤ c.toNat)
    (hc' : c.toNat ≤ if b.toNat = 0xED then 0x9F else 0xBF)
    (hd : 0x80 ≤ d.toNat) (hd' : d.toNat ≤ 0xBF) :
    encodeChar (Char.ofNat ((leadingBits b.toNat 2 * 64 + c.toNat % 64) * 64 + d.toNat % 64))
      = [b, c, d] := by
  have hrange : 0x80 ≤ c.toNat ∧ c.toNat ≤ 0xBF := by split at hc <;> split at hc' <;> omega
  have hlow : b.toNat = 0xE0 → 0xA0 ≤ c.toNat := fun h => by rwa [if_pos h] at hc
  have hhigh : b.toNat = 0xED → c.toNat ≤ 0x9F := fun h => by rwa [if_pos h] at hc'
  unfold leadingBits encodeChar
  rw [toNat_ofNat (by omega)]
  dsimp only
  rw [if_neg (by omega), if_neg (by omega), if_pos (by omega), toUInt8_eq (b := b) (by omega),
    toUInt8_eq (b := c) (by omega), toUInt8_eq (b := d) (by omega)]

theorem encodeChar_four {b c d e : UInt8} (hb : 0xF0 ≤ b.toNat) (hb' : b.toNat < 0xF5)
    (hc : (if b.toNat = 0xF0 then 0x90 else 0x80) ≤ c.toNat)
    (hc' : c.toNat ≤ if b.toNat = 0xF4 then 0x8F else 0xBF)
    (hd : 0x80 ≤ d.toNat) (hd' : d.toNat ≤ 0xBF) (he : 0x80 ≤ e.toNat) (he' : e.toNat ≤ 0xBF) :
    encodeChar (Char.ofNat (((leadingBits b.toNat 3 * 64 + c.toNat % 64) * 64 + d.toNat % 64) * 64
      + e.toNat % 64)) = [b, c, d, e] := by
  have hrange : 0x80 ≤ c.toNat ∧ c.toNat ≤ 0xBF := by split at hc <;> split at hc' <;> omega
  have hlow : b.toNat = 0xF0 → 0x90 ≤ c.toNat := fun h => by rwa [if_pos h] at hc
  have hhigh : b.toNat = 0xF4 → c.toNat ≤ 0x8F := fun h => by rwa [if_pos h] at hc'
  unfold leadingBits encodeChar
  rw [toNat_ofNat (by omega)]
  dsimp only
  rw [if_neg (by omega), if_neg (by omega), if_neg (by omega), toUInt8_eq (b := b) (by omega),
    toUInt8_eq (b := c) (by omega), toUInt8_eq (b := d) (by omega), toUInt8_eq (b := e) (by omega)]

/-- The first character of decoded text, and the bytes behind its own. -/
theorem decodeFrom_cons_eq_ok {b : UInt8} {xs : List Char}
    (h : decodeFrom position none (b :: bs) = .ok xs) :
    ∃ c ys rest after, xs = c :: ys ∧ b :: bs = encodeChar c ++ rest ∧
      decodeFrom after none rest = .ok ys := by
  rw [decodeFrom] at h
  split at h
  next hb =>
    cases hd : decodeFrom (position + 1) none bs with
    | error e =>
      rw [hd] at h
      cases h
    | ok ys =>
      rw [hd] at h
      cases h
      refine ⟨_, ys, bs, _, rfl, ?_, hd⟩
      unfold encodeChar
      rw [toNat_ofNat (by omega)]
      dsimp only
      rw [if_pos hb, toUInt8_eq rfl]
      rfl
  next hb =>
  split at h
  next missing low high hl =>
    unfold leading? at hl
    split at hl
    · cases hl
    next h₁ =>
    split at hl
    next h₂ =>
      cases hl
      obtain ⟨c, r₁, rfl, hc, hc', ys, hd, rfl⟩ := decodeFrom_some_eq_ok h
      exact ⟨_, ys, r₁, _, rfl, by rw [encodeChar_two (by omega) h₂ hc hc']; rfl, hd⟩
    next h₂ =>
    split at hl
    next h₃ =>
      cases hl
      obtain ⟨c, r₁, rfl, hc, hc', h⟩ := decodeFrom_some_eq_ok h
      obtain ⟨d, r₂, rfl, hd, hd', ys, hr, rfl⟩ := decodeFrom_some_eq_ok h
      exact ⟨_, ys, r₂, _, rfl, by rw [encodeChar_three (by omega) h₃ hc hc' hd hd']; rfl, hr⟩
    next h₃ =>
    split at hl
    next h₄ =>
      cases hl
      obtain ⟨c, r₁, rfl, hc, hc', h⟩ := decodeFrom_some_eq_ok h
      obtain ⟨d, r₂, rfl, hd, hd', h⟩ := decodeFrom_some_eq_ok h
      obtain ⟨e, r₃, rfl, he, he', ys, hr, rfl⟩ := decodeFrom_some_eq_ok h
      exact ⟨_, ys, r₃, _, rfl,
        by rw [encodeChar_four (by omega) h₄ hc hc' hd hd' he he']; rfl, hr⟩
    · cases hl
  · cases h

theorem encode_of_decodeFrom {xs : List Char} (h : decodeFrom position none bs = .ok xs) :
    encode xs = bs := by
  induction xs generalizing position bs with
  | nil =>
    cases bs with
    | nil => rfl
    | cons b bs =>
      obtain ⟨c, ys, rest, after, hx, -⟩ := decodeFrom_cons_eq_ok h
      cases hx
  | cons x xs ih =>
    cases bs with
    | nil => cases h
    | cons b bs =>
      obtain ⟨c, ys, rest, after, hx, hb, hd⟩ := decodeFrom_cons_eq_ok h
      cases hx
      rw [hb, ← ih hd]
      rfl

/-- Bytes are decoded exactly to the text that they encode. -/
theorem decode_eq_ok_iff {xs : List Char} : decode bs = .ok xs ↔ encode xs = bs := by
  constructor
  · exact encode_of_decodeFrom
  · rintro rfl
    exact decode_encode xs

end ModelSearch.Text
