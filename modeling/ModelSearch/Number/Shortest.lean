import ModelSearch.Number.Binary64

/-!
# Writing numbers

The text of a number is the shortest decimal that reads back as the same number, and the nearest
one among those of that length.  It is written without an exponent when the decimal point stands
at most sixteen digits after the first digit or at most four before it.
-/

namespace ModelSearch.Binary64

-- Powers are those of the core library, whatever is known of other monoids.
attribute [local instance (high)] instPowNat

/-- A decimal `0.d₁d₂… · 10^point`. -/
structure Decimal where
  digits : Nat
  point : Int
  deriving DecidableEq, Repr

/-- Where the decimal point of `n / d` stands, counted from the first digit: behind the digits of the
whole part, or in front of as many zeros as `d / n` has digits behind its first. -/
def pointOf (n d : Nat) : Int :=
  if d ≤ n then (toString (n / d)).length else 1 - ((toString ((d - 1) / n)).length : Int)

/-- `n / d` in units of the last of `k` digits, as a fraction. -/
def unitsOf (n d k : Nat) (point : Int) : Nat × Nat :=
  let s : Int := k - point
  if 0 ≤ s then (n * 10 ^ s.toNat, d) else (n, d * 10 ^ (-s).toNat)

/-- The number that `units` of the last of `k` digits stand for. -/
def ofUnits (neg : Bool) (units k : Nat) (point : Int) : Binary64 :=
  let s : Int := point - k
  if 0 ≤ s then fraction neg (units * 10 ^ s.toNat) 1
  else fraction neg units (10 ^ (-s).toNat)

def isNegative : Binary64 → Bool
  | .finite neg _ _ | .infinite neg => neg

/-- The nearest decimal of `k` digits that reads back as `x`, if there is one. -/
def decimalOf (x : Binary64) (n d : Nat) (point : Int) (k : Nat) : Option Nat :=
  let (a, b) := unitsOf n d k point
  let near := divideEven a b
  let below := a / b
  let other := if near = below then below + 1 else below
  if ofUnits x.isNegative near k point = x then some near
  else if ofUnits x.isNegative other k point = x then some other
  else none

/-- The first `k` from `k` on with a decimal of `k` digits that reads back. -/
def shortestFrom (x : Binary64) (n d : Nat) (point : Int) : Nat → Nat → Nat × Nat
  | 0, k => (0, k)
  | fuel + 1, k =>
    match decimalOf x n d point k with
    | some units => (units, k)
    | none => shortestFrom x n d point fuel (k + 1)

/-- The digits of a decimal and its point, without zeros at the end. -/
def trimmed (units k : Nat) (point : Int) : List Char × Int :=
  let text := (toString units).toList
  (Text.dropRightWhile (· = '0') text, point + ((text.length : Int) - k))

/-- The exponent, with a sign and at least two digits. -/
def exponentText (e : Int) : String :=
  (if e < 0 then "-" else "+") ++ Text.padded 2 e.natAbs

/-- Lay out digits around a decimal point. -/
def layout (digits : List Char) (point : Int) : String :=
  if -4 < point && point ≤ 16 then
    if point ≤ 0 then "0." ++ Text.repeated (-point).toNat '0' ++ .ofList digits
    else
      let p := point.toNat
      if digits.length ≤ p then .ofList digits ++ Text.repeated (p - digits.length) '0' ++ ".0"
      else .ofList (digits.take p) ++ "." ++ .ofList (digits.drop p)
  else
    let rest := digits.drop 1
    .ofList (digits.take 1) ++ (if rest.isEmpty then "" else "." ++ .ofList rest)
      ++ "e" ++ exponentText (point - 1)

def text (x : Binary64) : String :=
  match x with
  | .infinite neg => if neg then "-inf" else "inf"
  | .finite neg m e =>
    let sign := if neg then "-" else ""
    if m = 0 then sign ++ "0.0"
    else
      let (n, d) := shifted m 1 e
      let point := pointOf n d
      let (units, k) := shortestFrom x n d point 17 1
      let (digits, point) := trimmed units k point
      sign ++ layout digits point

end ModelSearch.Binary64
