import ModelSearch.Number.Shortest
import ModelSearch.Text.Quote
import ModelSearch.Value.Basic

/-!
# Values as text

`literal` shows a value the way it stands inside messages, texts in quotes.  `plain` is the same but
for a text, a date or a moment on its own, which is shown as it is.  Integers over the digit
limit have neither: `shown` and `shownLiteral` tell that.
-/

namespace ModelSearch.Value

open Text

-- Powers are those of the core library, whatever is known of other monoids.
attribute [local instance (high)] instPowNat

mutual

def literal : Value → String
  | .null => "None"
  | .bool b => if b then "True" else "False"
  | .int n => toString n
  | .float x => x.text
  | .notANumber _ => "nan"
  | .text s => quoted s
  | .bytes bs => quotedBytes bs
  | .date _ d => d.literal
  | .moment _ t => t.literal
  | .list _ xs => "[" ++ joinWith ", " (literals xs) ++ "]"
  | .tuple _ xs =>
    match xs with
    | [x] => "(" ++ literal x ++ ",)"
    | xs => "(" ++ joinWith ", " (literals xs) ++ ")"
  | .set _ xs => if xs.isEmpty then "set()" else "\x7b" ++ joinWith ", " (literals xs) ++ "\x7d"
  | .dict _ es => "\x7b" ++ joinWith ", " (entryLiterals es) ++ "\x7d"

def literals : List Value → List String
  | [] => []
  | v :: vs => literal v :: literals vs

def entryLiterals : List (Value × Value) → List String
  | [] => []
  | (k, v) :: es => (literal k ++ ": " ++ literal v) :: entryLiterals es

end

def plain : Value → String
  | .text s => s
  | .date _ d => d.iso
  | .moment _ t => t.iso " "
  | v => v.literal

mutual

/-- Whether every integer of a value is within the digit limit. -/
def withinDigits : Value → Bool
  | .int n => n.natAbs < 10 ^ maxDigits
  | .list _ xs | .tuple _ xs | .set _ xs => allWithinDigits xs
  | .dict _ es => entriesWithinDigits es
  | _ => true

def allWithinDigits : List Value → Bool
  | [] => true
  | v :: vs => withinDigits v && allWithinDigits vs

def entriesWithinDigits : List (Value × Value) → Bool
  | [] => true
  | (k, v) :: es => withinDigits k && withinDigits v && entriesWithinDigits es

end

/-- `plain`, if the value can be shown. -/
def shown (v : Value) : Except IntegerFault String :=
  if v.withinDigits then .ok v.plain else .error .unprintable

def shownLiteral (v : Value) : Except IntegerFault String :=
  if v.withinDigits then .ok v.literal else .error .unprintable

end ModelSearch.Value
