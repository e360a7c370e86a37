import ModelSearch.Text.Basic

/-!
# Reading bytes as text

A text file is UTF-8.  A byte either is a character, or leads a sequence of two to four bytes, whose
second byte has a range that depends on the first, so that overlong forms, surrogates and
numbers beyond the last character have no sequence.

    decode bytes        the characters, or the first place that is no sequence
-/

namespace ModelSearch.Text

-- Powers are those of the core library, whatever is known of other monoids.
attribute [local instance (high)] instPowNat

inductive Utf8Reason where
  | start
  | continuation
  | truncated
  deriving DecidableEq, Repr

/-- The first bytes that are no sequence.  The position is counted from the beginning of the
text, and for a sequence cut off by the end from the beginning of the sequence. -/
structure Utf8Fault where
  position : Nat
  byte : UInt8
  length : Nat
  reason : Utf8Reason
  deriving DecidableEq, Repr

def Utf8Reason.text : Utf8Reason → String
  | .start => "invalid start byte"
  | .continuation => "invalid continuation byte"
  | .truncated => "unexpected end of data"

def Utf8Fault.message (f : Utf8Fault) : String :=
  let place :=
    if f.length = 1 then
      "byte 0x" ++ .ofList (hexDigits 2 f.byte.toNat) ++ s!" in position {f.position}"
    else s!"bytes in position {f.position}-{f.position + f.length - 1}"
  "'utf-8' codec can't decode " ++ place ++ ": " ++ f.reason.text

/-- The number of bytes after a leading byte, and the range of the first of them. -/
def leading? (b : Nat) : Option (Nat × Nat × Nat) :=
  if b < 0xC2 then none
  else if b < 0xE0 then some (1, 0x80, 0xBF)
  else if b < 0xF0 then
    some (2, if b = 0xE0 then 0xA0 else 0x80, if b = 0xED then 0x9F else 0xBF)
  else if b < 0xF5 then
    some (3, if b = 0xF0 then 0x90 else 0x80, if b = 0xF4 then 0x8F else 0xBF)
  else none

/-- The bits of a leading byte with `n` bytes after it. -/
def leadingBits (b n : Nat) : Nat := b % 2 ^ (6 - n)

/-- A sequence part way through: the position and the value of its leading byte, the bytes read, the
bytes still to come, the range of the next one and the bits so far. -/
structure Utf8Pending where
  position : Nat
  lead : UInt8
  taken : Nat
  missing : Nat
  low : Nat
  high : Nat
  bits : Nat

/-- Decode bytes that begin at a position, perhaps in the middle of a sequence. -/
def decodeFrom (position : Nat) (pending : Option Utf8Pending) :
    List UInt8 → Except Utf8Fault (List Char)
  | [] =>
    match pending with
    | none => .ok []
    | some p => .error ⟨0, p.lead, p.taken, .truncated⟩
  | b :: bs =>
    let n := b.toNat
    match pending with
    | some p =>
      if p.low ≤ n && n ≤ p.high then
        let bits := p.bits * 64 + n % 64
        if p.missing = 1 then (decodeFrom (position + 1) none bs).map (Char.ofNat bits :: ·)
        else
          decodeFrom (position + 1)
            (some ⟨p.position, p.lead, p.taken + 1, p.missing - 1, 0x80, 0xBF, bits⟩) bs
      else .error ⟨p.position, p.lead, p.taken, .continuation⟩
    | none =>
      if n < 0x80 then (decodeFrom (position + 1) none bs).map (Char.ofNat n :: ·)
      else
        match leading? n with
        | some (missing, low, high) =>
          decodeFrom (position + 1)
            (some ⟨position, b, 1, missing, low, high, leadingBits n missing⟩) bs
        | none => .error ⟨position, b, 1, .start⟩

def decode (bytes : List UInt8) : Except Utf8Fault (List Char) := decodeFrom 0 none bytes

/-! ## Encoding -/

/-- The bytes of one character. -/
def encodeChar (c : Char) : List UInt8 :=
  let n := c.toNat
  let tail := fun (shift : Nat) => (0x80 + n / 2 ^ shift % 64).toUInt8
  if n < 0x80 then [n.toUInt8]
  else if n < 0x800 then [(0xC0 + n / 2 ^ (6 : Nat)).toUInt8, tail 0]
  else if n < 0x10000 then [(0xE0 + n / 2 ^ (12 : Nat)).toUInt8, tail 6, tail 0]
  else [(0xF0 + n / 2 ^ (18 : Nat)).toUInt8, tail 12, tail 6, tail 0]

def encode (xs : List Char) : List UInt8 := xs.flatMap encodeChar

end ModelSearch.Text
