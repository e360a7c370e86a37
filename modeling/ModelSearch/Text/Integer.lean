import ModelSearch.Text.Digit
import ModelSearch.Text.Quote

/-!
# Reading integers

`readInteger base xs` reads a signed integer in the given base: blanks around it, digits of
any script, single underscores between digits, and the base's own mark (`0x`, `0o`, `0b`) in front.
Decimal numbers of more than 4300 digits are refused, in both directions.
-/

namespace ModelSearch.Text

-- Powers are those of the core library, whatever is known of other monoids.
attribute [local instance (high)] instPowNat

/-- Why a text is not an integer. -/
inductive IntegerFault where
  | malformed (base : Nat) (source : String)
  | tooLong (digits : Nat)
  | unprintable
  deriving DecidableEq, Repr

def maxDigits : Nat := 4300

/-- How messages say that the limit can be changed. -/
def raiseLimit : String := "; use sys.set_int_max_str_digits() to increase the limit"

def IntegerFault.message : IntegerFault → String
  | .malformed base source =>
    s!"invalid literal for int() with base {base}: "
      ++ .ofList ((quotedChars source.toList).take 200)
  | .tooLong n =>
    s!"Exceeds the limit ({maxDigits} digits) for integer string conversion: value has {n} digits"
      ++ raiseLimit
  | .unprintable =>
    s!"Exceeds the limit ({maxDigits} digits) for integer string conversion" ++ raiseLimit

/-- The value of a digit in a base of up to 36; letters only of the ASCII range. -/
def baseDigit? (base : Nat) (c : Char) : Option Nat :=
  let v :=
    match digitValue? c with
    | some d => some d
    | none =>
      if isAsciiLower c then some (c.toNat - 87)
      else if isAsciiLetter c then some (c.toNat - 55)
      else none
  v.bind fun d => if d < base then some d else none

/-- The digits of a numeral, single underscores between them left out. -/
def numeralDigits (base : Nat) : List Char → Option (List Nat)
  | [] => none
  | [c] => (baseDigit? base c).map ([·])
  | c :: '_' :: cs =>
    match baseDigit? base c, numeralDigits base cs with
    | some d, some ds => some (d :: ds)
    | _, _ => none
  | c :: cs =>
    match baseDigit? base c, numeralDigits base cs with
    | some d, some ds => some (d :: ds)
    | _, _ => none

/-- The number that digits stand for, most significant first. -/
def ofDigits (base : Nat) (digits : List Nat) : Nat := digits.foldl (fun n d => n * base + d) 0

/-- Drop the mark of a base, and one underscore after it. -/
def dropBaseMark (base : Nat) (xs : List Char) : List Char :=
  let mark := if base = 16 then 'x' else if base = 8 then 'o' else if base = 2 then 'b' else '0'
  match xs with
  | '0' :: c :: rest =>
    if mark ≠ '0' && (c = mark || c = mark.toUpper) then
      match rest with
      | '_' :: rest => rest
      | rest => rest
    else xs
  | xs => xs

def splitSign : List Char → Bool × List Char
  | '-' :: cs => (true, cs)
  | '+' :: cs => (false, cs)
  | cs => (false, cs)

def signed (neg : Bool) (n : Nat) : Int := if neg then -(n : Int) else n

/-- The blanks that may surround a number; the ASCII separators are not among them. -/
def isNumberBlank (c : Char) : Bool := isBlank c && !(0x1C ≤ c.toNat && c.toNat ≤ 0x1F)

def stripNumber (xs : List Char) : List Char :=
  dropRightWhile isNumberBlank (xs.dropWhile isNumberBlank)

/-- Read an integer.  The digits are looked at first, up to the first character that is neither a
digit nor an underscore, so a numeral that is too long is told as such whatever follows it. -/
def readInteger (base : Nat) (xs : List Char) : Except IntegerFault Int :=
  let signedBody := splitSign (stripNumber xs)
  let (run, rest) := cutWhere (fun c => (baseDigit? base c).isNone && c ≠ '_')
    (dropBaseMark base signedBody.2)
  match numeralDigits base run with
  | none => .error (.malformed base (.ofList xs))
  | some digits =>
    if base = 10 && maxDigits < digits.length then .error (.tooLong digits.length)
    else if rest.isEmpty then .ok (signed signedBody.1 (ofDigits base digits))
    else .error (.malformed base (.ofList xs))

end ModelSearch.Text
