import ModelSearch.Yaml.Cursor

/-!
# How a text can be written

The ways of writing a scalar in a block, from the characters of its text.  Unprintable characters,
and spaces in front of a line break, need double quotes; spaces behind a line break rule out single
quotes as well; a text of several lines is never plain.
-/

namespace ModelSearch.Yaml

open Text

/-- What a text permits. -/
structure Analysis where
  empty : Bool
  multiline : Bool
  plain : Bool
  singleQuoted : Bool
  block : Bool
  deriving DecidableEq, Repr

/-- The breaks between lines of a written text. -/
def isLineEnd (c : Char) : Bool :=
  c = '\n' || c.toNat = 0x85 || c.toNat = 0x2028 || c.toNat = 0x2029

/-- A place in a text that ends a word, or the end of the text. -/
def endsWord (xs : List Char) : Bool := isBlankOrBreak (xs.headD endMark)

/-- Characters beyond ASCII that are written as they are. -/
def plainUnicode : CharSet :=
  [(0x85, 0x85), (0xA0, 0xD7FF), (0xE000, 0xFEFE), (0xFF00, 0xFFFD), (0x10000, 0x10FFFE)]

def isSpecial (c : Char) : Bool :=
  !(c = '\n' || (' ' ≤ c && c ≤ '~') || plainUnicode.has c)

/-- A sign that cannot begin a plain text, given what follows it. -/
def isLeadingIndicator (c : Char) (rest : List Char) : Bool :=
  "#,[]\x7b\x7d&*!|>'\"%@\x60".toList.contains c
    || ((c = '?' || c = ':' || c = '-') && endsWord rest)

/-- A sign that cannot stand inside a plain text, between what precedes it and what follows. -/
def isInnerIndicator (before c : Char) (rest : List Char) : Bool :=
  (c = ':' && endsWord rest) || (c = '#' && isBlankOrBreak before)

def hasInnerIndicator (before : Char) : List Char → Bool
  | [] => false
  | c :: rest => isInnerIndicator before c rest || hasInnerIndicator c rest

/-- Whether signs keep a text from being plain. -/
def hasIndicator (xs : List Char) : Bool :=
  match xs with
  | [] => false
  | c :: rest =>
    "---".toList.isPrefixOf xs || "...".toList.isPrefixOf xs || isLeadingIndicator c rest
      || hasInnerIndicator c rest

/-- Whether a character of one kind stands directly before one of another. -/
def hasPair (p q : Char → Bool) : List Char → Bool
  | a :: b :: rest => (p a && q b) || hasPair p q (b :: rest)
  | _ => false

def analyze (text : String) : Analysis :=
  let xs := text.toList
  if xs.isEmpty then ⟨true, false, true, true, false⟩
  else
    let isSpace := fun (c : Char) => c == ' '
    let isEdge := fun (c : Char) => isSpace c || isLineEnd c
    let edges := (xs.head?.map isEdge).getD false || (xs.getLast?.map isEdge).getD false
    let trailingSpace := (xs.getLast?.map isSpace).getD false
    let multiline := xs.any isLineEnd
    let breakSpace := hasPair isLineEnd isSpace xs
    let hard := hasPair isSpace isLineEnd xs || xs.any isSpecial
    { empty := false
      multiline := multiline
      plain := !(edges || breakSpace || hard || multiline || hasIndicator xs)
      singleQuoted := !(breakSpace || hard)
      block := !(trailingSpace || hard) }

end ModelSearch.Yaml
