import ModelSearch.Text.Basic

/-!
# Tags and the tags of plain scalars

What a node is said to be, and what a plain scalar is taken for when nothing is said: the first of
the kinds boolean, number, merge key, null, timestamp and default key whose form the text has, and a
text if it has none.
-/

namespace ModelSearch.Yaml

open Text

inductive Tag where
  | null
  | bool
  | int
  | float
  | binary
  | timestamp
  | omap
  | pairs
  | set
  | text
  | sequence
  | mapping
  | merge
  | value
  | other (name : String)
  deriving DecidableEq, Repr

/-- What the names of the common tags begin with. -/
def commonTags : String := "tag:yaml.org,2002:"

def commonTag? : String → Option Tag
  | "null" => some .null
  | "bool" => some .bool
  | "int" => some .int
  | "float" => some .float
  | "binary" => some .binary
  | "timestamp" => some .timestamp
  | "omap" => some .omap
  | "pairs" => some .pairs
  | "set" => some .set
  | "str" => some .text
  | "seq" => some .sequence
  | "map" => some .mapping
  | "merge" => some .merge
  | "value" => some .value
  | _ => none

/-- The tag of a full name. -/
def Tag.ofName (name : String) : Tag :=
  match (afterStart commonTags.toList name.toList).bind fun rest => commonTag? (.ofList rest) with
  | some t => t
  | none => .other name

/-! ## Forms -/

def isDigitOrLine (c : Char) : Bool := isAsciiDigit c || c = '_'

/-- A digit, and then digits and underscores; what follows them. -/
def digitRun? (xs : List Char) : Option (List Char) :=
  match xs with
  | c :: cs => if isAsciiDigit c then some (cutWhere (fun c => !isDigitOrLine c) cs).2 else none
  | [] => none

def dropSign : List Char → List Char
  | '-' :: cs => cs
  | '+' :: cs => cs
  | cs => cs

def booleanWords : List String :=
  ["yes", "Yes", "YES", "no", "No", "NO", "true", "True", "TRUE", "false", "False", "FALSE", "on",
   "On", "ON", "off", "Off", "OFF"]

def looksBool (xs : List Char) : Bool := booleanWords.contains (.ofList xs)

/-- Nothing, or an exponent with its sign. -/
def endsInExponent (xs : List Char) : Bool :=
  match xs with
  | [] => true
  | e :: s :: d :: ds =>
    (e = 'e' || e = 'E') && (s = '-' || s = '+') && (d :: ds).all isAsciiDigit
  | _ => false

/-- One or two digits that count sixtieths. -/
def isSixtieth (xs : List Char) : Bool :=
  match xs with
  | [a] => isAsciiDigit a
  | [a, b] => '0' ≤ a && a ≤ '5' && isAsciiDigit b
  | _ => false

/-- Sixtieths behind colons, at least one. -/
def sixtieths (xs : List Char) : Bool :=
  match xs with
  | ':' :: rest => (splitAt ':' rest).all isSixtieth
  | _ => false

/-- Digits, a point and digits, and perhaps an exponent. -/
def looksDecimal (xs : List Char) : Bool :=
  match digitRun? (dropSign xs) with
  | some ('.' :: rest) => endsInExponent (cutWhere (fun c => !isDigitOrLine c) rest).2
  | _ => false

/-- A point and digits, and perhaps an exponent. -/
def looksFraction (xs : List Char) : Bool :=
  match xs with
  | '.' :: rest => ((digitRun? rest).map endsInExponent).getD false
  | _ => false

/-- A number in base sixty with a point. -/
def looksSixtyDecimal (xs : List Char) : Bool :=
  match digitRun? (dropSign xs) with
  | some rest =>
    match firstCut '.' rest with
    | some (whole, part) => sixtieths whole && part.all isDigitOrLine
    | none => false
  | none => false

def looksFloat (xs : List Char) : Bool :=
  looksDecimal xs || looksFraction xs || looksSixtyDecimal xs
    || [".inf", ".Inf", ".INF"].contains (.ofList (dropSign xs))
    || [".nan", ".NaN", ".NAN"].contains (.ofList xs)

/-- A mark, and then at least one of the characters. -/
def looksBased (mark : String) (p : Char → Bool) (xs : List Char) : Bool :=
  match afterStart mark.toList xs with
  | some rest => !rest.isEmpty && rest.all fun c => p c || c = '_'
  | none => false

def isOctalDigit (c : Char) : Bool := '0' ≤ c && c ≤ '7'

def looksInt (xs : List Char) : Bool :=
  let body := dropSign xs
  looksBased "0b" (fun c => c = '0' || c = '1') body
    || looksBased "0x" (fun c => (hexValue? c).isSome) body
    || looksBased "0" isOctalDigit body
    || body = ['0']
    || (body.head? ≠ some '0'
      && (match digitRun? body with
        | some rest => rest.isEmpty || sixtieths rest
        | none => false))

def looksNull (xs : List Char) : Bool := ["~", "null", "Null", "NULL", ""].contains (.ofList xs)

/-! ## Timestamps -/

/-- The time of a timestamp: hour, minute, second, the digits of a fraction, and the zone. -/
structure StampTime where
  hour : List Char
  minute : List Char
  second : List Char
  fraction : List Char
  zone : Option (List Char)
  deriving Repr

structure Stamp where
  year : List Char
  month : List Char
  day : List Char
  time : Option StampTime
  deriving Repr

/-- Between `low` and `high` digits, as many as there are. -/
def digitsBetween (low high : Nat) (xs : List Char) : Option (List Char × List Char) :=
  let run := (xs.take high).takeWhile isAsciiDigit
  if run.length < low then none else some (run, xs.drop run.length)

def after? (c : Char) (xs : List Char) : Option (List Char) :=
  match xs with
  | x :: rest => if x = c then some rest else none
  | [] => none

/-- A zone: universal time, or a sign, an hour and perhaps a minute. -/
def looksZone (xs : List Char) : Bool :=
  match xs with
  | ['Z'] => true
  | s :: rest =>
    (s = '-' || s = '+')
      && (match digitsBetween 1 2 rest with
        | some (_, []) => true
        | some (_, ':' :: rest) => ((digitsBetween 2 2 rest).map fun r => r.2.isEmpty).getD false
        | _ => false)
  | [] => false

/-- The digits behind a point, and what follows them. -/
def stampFraction (xs : List Char) : List Char × List Char :=
  match xs with
  | '.' :: more => cutWhere (fun c => !isAsciiDigit c) more
  | more => ([], more)

def stampTime? (xs : List Char) : Option StampTime := do
  let (hour, rest) ← digitsBetween 1 2 xs
  let (minute, rest) ← digitsBetween 2 2 (← after? ':' rest)
  let (second, rest) ← digitsBetween 2 2 (← after? ':' rest)
  let (fraction, rest) := stampFraction rest
  if rest.isEmpty then some ⟨hour, minute, second, fraction, none⟩
  else
    let zone := rest.dropWhile fun c => c = ' ' || c = '\t'
    if looksZone zone then some ⟨hour, minute, second, fraction, some zone⟩ else none

/-- The parts of a timestamp: a date, and perhaps a time behind a letter or blanks. -/
def stamp? (xs : List Char) : Option Stamp := do
  let (year, rest) ← digitsBetween 4 4 xs
  let (month, rest) ← digitsBetween 1 2 (← after? '-' rest)
  let (day, rest) ← digitsBetween 1 2 (← after? '-' rest)
  match rest with
  | [] => some ⟨year, month, day, none⟩
  | c :: more =>
    let time :=
      if c = 'T' || c = 't' then more else rest.dropWhile fun c => c = ' ' || c = '\t'
    if c = 'T' || c = 't' || c = ' ' || c = '\t' then
      (stampTime? time).map fun t => ⟨year, month, day, some t⟩
    else none

/-- A date alone has two digits for the month and the day. -/
def looksTimestamp (xs : List Char) : Bool :=
  match stamp? xs with
  | some s => s.time.isSome || (s.month.length = 2 && s.day.length = 2)
  | none => false

/-! ## The tag of a plain scalar -/

/-- What a plain scalar is taken for. -/
def implicitTag (text : String) : Tag :=
  let xs := text.toList
  if looksBool xs then .bool
  else if looksFloat xs then .float
  else if looksInt xs then .int
  else if xs = ['<', '<'] then .merge
  else if looksNull xs then .null
  else if looksTimestamp xs then .timestamp
  else if xs = ['='] then .value
  else .text

/-- The text without one line break at its end. -/
def withoutFinalBreak (xs : List Char) : List Char :=
  match xs.getLast? with
  | some '\n' => xs.dropLast
  | _ => xs

/-- What a scalar in any style is taken for that is said to be like a plain one: a line break at its end
does not count, unless it is all that the text begins with. -/
def resolvedTag (text : String) : Tag :=
  match text.toList with
  | '\n' :: _ => .text
  | xs => implicitTag (.ofList (withoutFinalBreak xs))

end ModelSearch.Yaml
