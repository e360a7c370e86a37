import ModelSearch.Text.Integer

/-!
# Binary floating-point numbers of 64 bits

A number is data: a sign, a mantissa below `2^53` and an exponent, or an infinity.  Every operation
is computed exactly over integers and rounded once, to the nearest number and to the even mantissa
on a tie, so equality of numbers is decided by comparing integers.  What is not a number is not a
`Binary64`: the operations that can give it answer `none`.

    fraction neg n d      the number nearest to ±n/d
    sameAs x y            equality of values (-0 is 0)
    isInteger x n         x = n, exactly
-/

namespace ModelSearch

-- Powers are those of the core library, whatever is known of other monoids.
attribute [local instance (high)] instPowNat

/-- `±mantissa · 2^exponent`, or an infinity. -/
inductive Binary64 where
  | finite (negative : Bool) (mantissa : Nat) (exponent : Int)
  | infinite (negative : Bool)
  deriving DecidableEq, Repr

namespace Binary64

def leastExponent : Int := -1074

def greatestExponent : Int := 971

def zero (negative : Bool) : Binary64 := .finite negative 0 leastExponent

/-! ## Rounding -/

/-- `n / d` to the nearest integer, to the even one on a tie. -/
def divideEven (n d : Nat) : Nat :=
  let q := n / d
  let r := n % d
  if 2 * r < d then q else if d < 2 * r then q + 1 else if q % 2 = 0 then q else q + 1

/-- `2^e · n / d` for an exponent of any sign, as a fraction. -/
def shifted (n d : Nat) (e : Int) : Nat × Nat :=
  if 0 ≤ e then (n * 2 ^ e.toNat, d) else (n, d * 2 ^ (-e).toNat)

/-- The exponent at which `n / d` has a mantissa of 53 bits, or the least exponent. -/
def exponentOf (n d : Nat) : Int :=
  let guess : Int := (Nat.log2 n : Int) - Nat.log2 d - 52
  let (a, b) := shifted n d (-guess)
  let exact :=
    if a / b < 2 ^ (52 : Nat) then guess - 1
    else if 2 ^ (53 : Nat) ≤ a / b then guess + 1
    else guess
  max exact leastExponent

/-- The number nearest to `n / d`, for a positive `d`. -/
def fraction (negative : Bool) (n d : Nat) : Binary64 :=
  if n = 0 then zero negative
  else
    let e := exponentOf n d
    let (a, b) := shifted n d (-e)
    let m := divideEven a b
    let (m, e) := if m = 2 ^ (53 : Nat) then (2 ^ (52 : Nat), e + 1) else (m, e)
    if greatestExponent < e then .infinite negative else .finite negative m e

def ofInt (n : Int) : Binary64 := fraction (n < 0) n.natAbs 1

/-! ## Values -/

/-- The value as a fraction of integers, if it is finite. -/
def exactly : Binary64 → Option (Int × Nat)
  | .finite neg m e =>
    let (a, b) := shifted m 1 e
    some (Text.signed neg a, b)
  | .infinite _ => none

/-- Equality of values. -/
def sameAs (x y : Binary64) : Bool :=
  match x.exactly, y.exactly with
  | some (a, b), some (c, d) => a * d = c * b
  | none, none => x = y
  | _, _ => false

def isInteger (x : Binary64) (n : Int) : Bool :=
  match x.exactly with
  | some (a, b) => a = n * b
  | none => false

def negate : Binary64 → Binary64
  | .finite s m e => .finite (!s) m e
  | .infinite s => .infinite (!s)

/-- The sum; there is none of opposite infinities. -/
def add (x y : Binary64) : Option Binary64 :=
  match x, y with
  | .infinite s, .infinite t => if s = t then some x else none
  | .infinite _, _ => some x
  | _, .infinite _ => some y
  | .finite s m e, .finite t n f =>
    if m = 0 && n = 0 then some (zero (s && t))
    else
      let low := min e f
      let sum := Text.signed s (m * 2 ^ (e - low).toNat) + Text.signed t (n * 2 ^ (f - low).toNat)
      let (a, b) := shifted sum.natAbs 1 low
      some (fraction (sum < 0) a b)

/-- The product; there is none of zero and an infinity. -/
def mul (x y : Binary64) : Option Binary64 :=
  match x, y with
  | .finite s m e, .finite t n f =>
    let (a, b) := shifted (m * n) 1 (e + f)
    some (fraction (s != t) a b)
  | .infinite s, .infinite t => some (.infinite (s != t))
  | .infinite s, .finite t n _ => if n = 0 then none else some (.infinite (s != t))
  | .finite s m _, .infinite t => if m = 0 then none else some (.infinite (s != t))

/-! ## Reading -/

/-- Decimal digits, and what follows them. -/
def leadingDigits (xs : List Char) : List Nat × List Char :=
  let (run, rest) := Text.cutWhere (fun c => (Text.digitValue? c).isNone) xs
  (run.filterMap Text.digitValue?, rest)

/-- An exponent: a letter, an optional sign and digits up to the end. -/
def exponentPart : List Char → Option Int
  | [] => some 0
  | c :: cs =>
    if c = 'e' || c = 'E' then
      let (neg, body) := Text.splitSign cs
      match leadingDigits body with
      | ([], _) => none
      | (digits, []) => some (Text.signed neg (Text.ofDigits 10 digits))
      | _ => none
    else none

/-- The number nearest to `±digits · 10^scale`.  Scales far outside the range are not
computed: the answer is an infinity or zero. -/
def decimal (neg : Bool) (digits : List Nat) (scale : Int) : Binary64 :=
  let n := Text.ofDigits 10 digits
  let size : Int := (digits.length : Int) + scale
  if n = 0 then zero neg
  else if size < -400 then zero neg
  else if 400 < size - (digits.takeWhile (· = 0)).length then .infinite neg
  else if 0 ≤ scale then fraction neg (n * 10 ^ scale.toNat) 1
  else fraction neg n (10 ^ (-scale).toNat)

/-- An unsigned decimal number with optional point and exponent. -/
def readDecimal (neg : Bool) (xs : List Char) : Option Binary64 :=
  let (whole, rest) := leadingDigits xs
  let (part, rest) :=
    match rest with
    | '.' :: cs => leadingDigits cs
    | cs => ([], cs)
  if whole.isEmpty && part.isEmpty then none
  else
    (exponentPart rest).map fun e => decimal neg (whole ++ part) (e - part.length)

/-- What a text says: a number, or that it is not one. -/
inductive Reading where
  | number (x : Binary64)
  | notANumber
  deriving DecidableEq, Repr

/-- Read a decimal number, an infinity or the word for what is not a number. -/
def read (xs : List Char) : Option Reading :=
  let (neg, body) := Text.splitSign (Text.stripNumber xs)
  let word := body.map Char.toLower
  if word = "inf".toList || word = "infinity".toList then some (.number (.infinite neg))
  else if word = "nan".toList then some .notANumber
  else (readDecimal neg body).map .number

end Binary64

end ModelSearch
