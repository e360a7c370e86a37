import ModelSearch.Number.Binary64
import ModelSearch.Text.Base64
import ModelSearch.Text.Lower
import ModelSearch.Value.Basic
import ModelSearch.Yaml.Fault
import ModelSearch.Yaml.Implicit

/-!
# The values of scalars

What the text of a scalar means under each of the scalar tags.  A text that its tag does not fit is
a fault of its own kind; only bytes that are no base 64 are a fault of the document.
-/

namespace ModelSearch.Yaml

open Text

/-! ## Booleans and integers -/

def readBool (text : String) : Except Fault Value :=
  let low := lowered text
  if ["yes", "true", "on"].contains low then .ok (.bool true)
  else if ["no", "false", "off"].contains low then .ok (.bool false)
  else .error (.bool low)

def readBase (base : Nat) (xs : List Char) : Except Fault Int :=
  match readInteger base xs with
  | .ok n => .ok n
  | .error f => .error (.integer f)

/-- The sign of a number and what follows it; there has to be a first character. -/
def numberSign (xs : List Char) : Except Fault (Bool × List Char) :=
  match xs with
  | [] => .error .emptyNumber
  | '-' :: cs => .ok (true, cs)
  | '+' :: cs => .ok (false, cs)
  | cs => .ok (false, cs)

/-- A number in base sixty, its parts from the highest. -/
def ofSixtieths (parts : List Int) : Int := parts.foldl (fun n d => n * 60 + d) 0

def withSign (neg : Bool) (n : Int) : Int := if neg then -n else n

/-- An integer without its sign, in one of the bases two, eight, ten, sixteen and sixty. -/
def readMagnitude (body : List Char) : Except Fault Int :=
  if body = ['0'] then .ok 0
  else
    match afterStart ['0', 'b'] body, afterStart ['0', 'x'] body with
    | some rest, _ => readBase 2 rest
    | none, some rest => readBase 16 rest
    | none, none =>
      match body with
      | [] => .error .emptyNumber
      | '0' :: _ => readBase 8 body
      | _ =>
        if body.contains ':' then ((splitAt ':' body).mapM (readBase 10)).map ofSixtieths
        else readBase 10 body

def readInt (text : String) : Except Fault Value := do
  let (neg, body) ← numberSign (text.toList.filter (· ≠ '_'))
  return .int (withSign neg (← readMagnitude body))

/-! ## Floating-point numbers -/

/-- A number, or `none` for what is not one. -/
abbrev Quantity := Option Binary64

def readQuantity (xs : List Char) : Except Fault Quantity :=
  match Binary64.read xs with
  | some (.number x) => .ok (some x)
  | some .notANumber => .ok none
  | none => .error (.float (.ofList xs))

/-- The sum of parts weighted by powers of sixty, the lowest part first. -/
def sixtySum : List Quantity → Nat → Quantity → Except Fault Quantity
  | [], _, sum => .ok sum
  | part :: rest, weight, sum =>
    match Binary64.ofInt weight with
    | .infinite _ => .error .tooLarge
    | w => sixtySum rest (weight * 60) (do (← sum).add (← (← part).mul w))

def quantityValue (mark : Mark) (neg : Bool) (q : Quantity) : Value :=
  match q with
  | some x => .float (if neg then x.negate else x)
  | none => .notANumber mark

/-- A number with a point or an exponent, an infinity, or what is not a number. -/
def readFloat (mark : Mark) (text : String) : Except Fault Value := do
  let (neg, body) ← numberSign (lower (text.toList.filter (· ≠ '_')))
  if body = ".inf".toList then return .float (.infinite neg)
  else if body = ".nan".toList then return .notANumber .notANumber
  else if body.contains ':' then
    let parts ← (splitAt ':' body).mapM readQuantity
    return quantityValue mark neg (← sixtySum parts.reverse 1 (some (Binary64.zero false)))
  else return quantityValue mark neg (← readQuantity body)

/-! ## Timestamps -/

def decimalOf (xs : List Char) : Nat := ofDigits 10 (xs.map fun c => c.toNat - 48)

/-- The digits of a fraction as microseconds. -/
def microseconds (xs : List Char) : Nat :=
  decimalOf ((xs ++ List.replicate 6 '0').take 6)

/-- The seconds of a zone. -/
def zoneSeconds (xs : List Char) : Int :=
  match xs with
  | s :: rest =>
    if s = 'Z' then 0
    else
      let parts := (splitAt ':' rest).map decimalOf
      withSign (s = '-') ((parts.getD 0 0 : Int) * 3600 + (parts.getD 1 0 : Int) * 60)
  | [] => 0

def calendarFault {α : Type} : Except CalendarFault α → Except Fault α
  | .ok a => .ok a
  | .error f => .error (.calendar f)

def readTimestamp (mark : Mark) (text : String) : Except Fault Value :=
  match stamp? (withoutFinalBreak text.toList) with
  | none => .error .timestamp
  | some s =>
    let (y, m, d) := (decimalOf s.year, decimalOf s.month, decimalOf s.day)
    match s.time with
    | none => calendarFault ((Date.of y m d).map (.date mark))
    | some t => calendarFault do
      let offset ← t.zone.mapM fun z => checkOffset (zoneSeconds z)
      let moment ←
        Moment.of y m d (decimalOf t.hour) (decimalOf t.minute) (decimalOf t.second)
          (microseconds t.fraction) offset
      return .moment mark moment

/-! ## Bytes -/

def readBinary (text : String) : Except Fault Value :=
  let xs := text.toList
  if xs.any fun c => 127 < c.toNat then .error .document
  else
    match fromBase64 xs with
    | some bs => .ok (.bytes bs)
    | none => .error .document

/-! ## All scalars -/

/-- The value of a text under a scalar tag; `none` if the tag is not one. -/
def scalarValue? (mark : Mark) (tag : Tag) (text : String) : Option (Except Fault Value) :=
  match tag with
  | .null => some (.ok .null)
  | .bool => some (readBool text)
  | .int => some (readInt text)
  | .float => some (readFloat mark text)
  | .binary => some (readBinary text)
  | .timestamp => some (readTimestamp mark text)
  | .text => some (.ok (.text text))
  | _ => none

end ModelSearch.Yaml
