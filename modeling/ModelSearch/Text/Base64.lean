import ModelSearch.Text.Basic

/-!
# Base 64

Bytes as text, six bits a character.  The writer breaks lines after 57 bytes.  The reader skips
characters of no meaning and stops at the padding that completes a group.
-/

namespace ModelSearch.Text

def base64Digit (n : Nat) : Char :=
  if n < 26 then .ofNat (65 + n)
  else if n < 52 then .ofNat (71 + n)
  else if n < 62 then .ofNat (n - 4)
  else if n = 62 then '+' else '/'

def base64Value? (c : Char) : Option Nat :=
  let n := c.toNat
  if 65 ≤ n && n ≤ 90 then some (n - 65)
  else if 97 ≤ n && n ≤ 122 then some (n - 71)
  else if 48 ≤ n && n ≤ 57 then some (n + 4)
  else if c = '+' then some 62
  else if c = '/' then some 63
  else none

/-- The characters of a line of bytes. -/
def base64Line : List UInt8 → List Char
  | [] => []
  | [a] =>
    let n := a.toNat * 16
    [base64Digit (n / 64), base64Digit (n % 64), '=', '=']
  | [a, b] =>
    let n := (a.toNat * 256 + b.toNat) * 4
    [base64Digit (n / 4096), base64Digit (n / 64 % 64), base64Digit (n % 64), '=']
  | a :: b :: c :: rest =>
    let n := (a.toNat * 256 + b.toNat) * 256 + c.toNat
    base64Digit (n / 262144) :: base64Digit (n / 4096 % 64) :: base64Digit (n / 64 % 64)
      :: base64Digit (n % 64) :: base64Line rest

/-- Lines of up to 57 bytes, each with its line feed. -/
def base64LinesFrom : Nat → List UInt8 → List Char
  | 0, _ => []
  | _ + 1, [] => []
  | fuel + 1, bs => base64Line (bs.take 57) ++ '\n' :: base64LinesFrom fuel (bs.drop 57)

def base64Lines (bs : List UInt8) : List Char := base64LinesFrom bs.length bs

/-- Where the reader stands in a group of four: how many characters it has, the bits left over, and
the paddings seen since the last character. -/
structure Base64State where
  place : Nat := 0
  left : Nat := 0
  pads : Nat := 0

/-- Read on from a state; `none` if the text ends inside a group. -/
def base64From (s : Base64State) : List Char → Option (List UInt8)
  | [] => if s.place = 0 then some [] else none
  | c :: cs =>
    if c = '=' then
      if 2 ≤ s.place then
        if 4 ≤ s.place + (s.pads + 1) then some []
        else base64From { s with pads := s.pads + 1 } cs
      else base64From s cs
    else
      match base64Value? c with
      | none => base64From s cs
      | some v =>
        match s.place with
        | 0 => base64From ⟨1, v, 0⟩ cs
        | 1 => (base64From ⟨2, v % 16, 0⟩ cs).map ((s.left * 4 + v / 16).toUInt8 :: ·)
        | 2 => (base64From ⟨3, v % 4, 0⟩ cs).map ((s.left * 16 + v / 4).toUInt8 :: ·)
        | _ => (base64From ⟨0, 0, 0⟩ cs).map ((s.left * 64 + v).toUInt8 :: ·)

def fromBase64 (xs : List Char) : Option (List UInt8) := base64From {} xs

end ModelSearch.Text
