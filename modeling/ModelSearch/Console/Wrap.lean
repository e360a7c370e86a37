import ModelSearch.Console.Glyph

/-!
# Wrapped lines

A text is set in lines of a width.  A line ends before the first word that would not fit; a word
that fits on no line is folded or left to be cropped.

    wrap style width text     the lines of a text
    naturalWidth text         the columns of its longest line
-/

namespace ModelSearch.Console

open Text

/-- What becomes of a word that is wider than a line. -/
inductive Overflow where
  | fold
  /-- The line is cropped and ends in an ellipsis. -/
  | ellipsis
  deriving DecidableEq, Repr

/-- Where the text of a line stands. -/
inductive Alignment where
  /-- At the left, without blanks at the right. -/
  | ragged
  | left
  | center
  deriving DecidableEq, Repr

/-! ## Words -/

/-- A blank run, if any, then a word with the blanks after it. -/
def firstWord (xs : List Char) : List Char × List Char :=
  let lead := xs.takeWhile isBlank
  let rest := xs.dropWhile isBlank
  let body := rest.takeWhile (!isBlank ·)
  let rest := rest.dropWhile (!isBlank ·)
  (lead ++ body ++ rest.takeWhile isBlank, rest.dropWhile isBlank)

/-- The words of a line; together they are the line, unless it is blank. -/
def wordsWithin : Nat → List Char → List (List Char)
  | 0, _ => []
  | fuel + 1, xs =>
    if xs.all isBlank then [] else (firstWord xs).1 :: wordsWithin fuel (firstWord xs).2

def words (xs : List Char) : List (List Char) := wordsWithin xs.length xs

/-! ## Lines -/

/-- The lines of words; `line` is the one being filled and `used` its columns. -/
def fill (o : Overflow) (width : Nat) (line : List Char) (used : Nat) :
    List (List Char) → List (List Char)
  | [] => [line]
  | w :: ws =>
    let size := columns (stripRight w)
    let before := if line.isEmpty then [] else [line]
    if used + size ≤ width then fill o width (line ++ w) (used + columns w) ws
    else if size ≤ width || o = .ellipsis then before ++ fill o width w (columns w) ws
    else
      let pieces := folded width w
      let last := pieces.getLast?.getD []
      before ++ pieces.dropLast ++ fill o width last (columns last) ws

/-- A line without the blanks at its end that stand beyond the width. -/
def trimEnd (width : Nat) (line : List Char) : List Char :=
  let blankCount := line.length - (stripRight line).length
  line.take (line.length - min blankCount (line.length - width))

def fit (o : Overflow) (width : Nat) (line : List Char) : List Char :=
  if columns line ≤ width then line
  else
    match o with
    | .fold => cropped width line
    | .ellipsis => cropped (width - 1) line ++ ['…']

def align (a : Alignment) (o : Overflow) (width : Nat) (line : List Char) : List Char :=
  match a with
  | .ragged => fit o width line
  | .left => toColumns width (fit o width line)
  | .center =>
    let line := fit o width (stripRight line)
    toColumns width (spaces ((width - columns line) / 2) ++ line)

def tabWidth : Nat := 8

/-- Pieces that tabs separate, set with blanks up to the next tab position. -/
def setTabs (position : Nat) : List (List Char) → List Char
  | [] => []
  | [p] => p
  | p :: ps =>
    let after := position + columns p + 1
    let stop := (after + tabWidth - 1) / tabWidth * tabWidth
    p ++ spaces (stop - (position + columns p)) ++ setTabs stop ps

def expandTabs (line : List Char) : List Char :=
  if line.contains '\t' then setTabs 0 (Text.splitAt '\t' line) else line

def wrapLine (a : Alignment) (o : Overflow) (width : Nat) (line : List Char) : List (List Char) :=
  let line := expandTabs line
  let lines := match words line with
    | [] => [line]
    | ws => fill o width [] 0 ws
  lines.map fun l => align a o width (trimEnd width l)

/-- The lines of a text. -/
def wrap (a : Alignment) (o : Overflow) (width : Nat) (text : List Char) : List (List Char) :=
  (Text.splitAt '\n' text).flatMap (wrapLine a o width)

/-! ## Natural width -/

/-- The characters that end a line when a text is measured. -/
def lineEnds : CharSet :=
  [(0x0A, 0x0D), (0x1C, 0x1E), (0x85, 0x85), (0x2028, 0x2029)]

/-- The columns of the longest line. -/
def naturalWidth (text : List Char) : Nat :=
  ((piecesBetween lineEnds text).map columns).foldl max 0

end ModelSearch.Console
