import ModelSearch.Text.Basic

/-!
# Reading a document character by character

A cursor is a place in a document: the characters still to come, and the line and the column they
begin at.  The end of the document is seen as the character `endMark`, which no document contains.
-/

namespace ModelSearch.Yaml

/-- What is seen behind the last character. -/
def endMark : Char := '\x00'

/-- The byte order mark, which takes no column. -/
def byteOrderMark : Char := .ofNat 0xFEFF

def isBreak (c : Char) : Bool :=
  c = '\n' || c = '\r' || c.toNat = 0x85 || c.toNat = 0x2028 || c.toNat = 0x2029

/-- A line break or the end. -/
def isBreakOrEnd (c : Char) : Bool := c = endMark || isBreak c

/-- A space, a line break or the end. -/
def isSpaceOrBreak (c : Char) : Bool := c = ' ' || isBreakOrEnd c

/-- A space, a tab, a line break or the end. -/
def isBlankOrBreak (c : Char) : Bool := c = '\t' || isSpaceOrBreak c

def isWordChar (c : Char) : Bool :=
  Text.isAsciiLetter c || Text.isAsciiDigit c || c = '-' || c = '_'

/-- The characters that a document may hold. -/
def documentChars : Text.CharSet :=
  [(0x09, 0x0A), (0x0D, 0x0D), (0x20, 0x7E), (0x85, 0x85), (0xA0, 0xD7FF), (0xE000, 0xFFFD),
   (0x10000, 0x10FFFF)]

structure Cursor where
  rest : List Char
  index : Nat := 0
  line : Nat := 0
  column : Nat := 0
  deriving Repr

namespace Cursor

/-- The next character. -/
def peek (c : Cursor) : Char := c.rest.headD endMark

/-- The character `n` places ahead. -/
def peekAt (c : Cursor) (n : Nat) : Char := c.rest.getD n endMark

/-- The next characters are `word`. -/
def sees (c : Cursor) (word : String) : Bool := word.toList.isPrefixOf c.rest

/-- Move over one character. -/
def advance (c : Cursor) : Cursor :=
  match c.rest with
  | [] => c
  | x :: xs =>
    let endsLine :=
      if x = '\r' then xs.head? ≠ some '\n' else isBreak x
    if endsLine then ⟨xs, c.index + 1, c.line + 1, 0⟩
    else ⟨xs, c.index + 1, c.line, if x = byteOrderMark then c.column else c.column + 1⟩

/-- Move over `n` characters. -/
def forward (c : Cursor) : Nat → Cursor
  | 0 => c
  | n + 1 => c.advance.forward n

/-- The characters up to the first that does not satisfy `p`, and the place behind them. -/
def span (p : Char → Bool) (c : Cursor) : List Char × Cursor :=
  let run := c.rest.takeWhile p
  (run, c.forward run.length)

def skip (p : Char → Bool) (c : Cursor) : Cursor := (c.span p).2

def skipSpaces (c : Cursor) : Cursor := c.skip (· = ' ')

/-- The rest of the line. -/
def skipLine (c : Cursor) : Cursor := c.skip fun x => !isBreakOrEnd x

/-- Read a line break, if there is one: a line feed, or one of the breaks that are kept as they
are. -/
def lineBreak (c : Cursor) : List Char × Cursor :=
  let x := c.peek
  if x = '\r' && c.peekAt 1 = '\n' then (['\n'], c.forward 2)
  else if x = '\n' || x = '\r' || x.toNat = 0x85 then (['\n'], c.advance)
  else if isBreak x then ([x], c.advance)
  else ([], c)

/-- Whether a document marker stands here: three equal signs and a blank. -/
def atMarker (c : Cursor) (word : String) : Bool := c.sees word && isBlankOrBreak (c.peekAt 3)

def atDocumentMarker (c : Cursor) : Bool := c.atMarker "---" || c.atMarker "..."

end Cursor

end ModelSearch.Yaml
