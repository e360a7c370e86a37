import ModelSearch.Text.Utf8
import ModelSearch.Yaml.Token

/-!
# Reading scalars, tags and directives

The readers of the tokens that take more than a sign.  Each one begins at the token's first
character and gives the token's content and the place behind it.  Loops over the characters still to
come are bounded by their number.
-/

namespace ModelSearch.Yaml

open Cursor

/-- What was read, and the place behind it. -/
abbrev Read (α : Type) := α × Cursor

def bad {α : Type} : Except ScanFault α := .error .malformed

/-! ## Block scalars -/

/-- How a block scalar treats the breaks at its end. -/
inductive Chomp where
  | clip
  | strip
  | keep
  deriving DecidableEq, Repr

def chomp? (x : Char) : Option Chomp :=
  if x = '+' then some .keep else if x = '-' then some .strip else none

/-- The indentation that a header gives, if any: a digit but zero. -/
def indentDigit (c : Cursor) : Except ScanFault (Read (Option Nat)) :=
  if Text.isAsciiDigit c.peek then
    if c.peek = '0' then bad else .ok (some (c.peek.toNat - 48), c.advance)
  else .ok (none, c)

/-- The two indicators of a header, in either order. -/
def blockHeader (c : Cursor) : Except ScanFault (Read (Chomp × Option Nat)) := do
  let (chomp, width, c) ← show Except ScanFault (Chomp × Option Nat × Cursor) from
    match chomp? c.peek with
    | some chomp => do
      let (width, c) ← indentDigit c.advance
      .ok (chomp, width, c)
    | none => do
      let (width, c) ← indentDigit c
      match width, chomp? c.peek with
      | some _, some chomp => .ok (chomp, width, c.advance)
      | _, _ => .ok (.clip, width, c)
  if isSpaceOrBreak c.peek then .ok ((chomp, width), c) else bad

/-- The rest of a line on which only a comment may stand, and its break. -/
def ignoredLine (c : Cursor) : Except ScanFault Cursor :=
  let c := c.skipSpaces
  let c := if c.peek = '#' then c.skipLine else c
  if isBreakOrEnd c.peek then .ok c.lineBreak.2 else bad

/-- Empty lines before the first one that is not, and the widest indentation on the way. -/
def blockIndentation : Nat → Cursor → List Char → Nat → List Char × Nat × Cursor
  | 0, c, breaks, widest => (breaks, widest, c)
  | fuel + 1, c, breaks, widest =>
    if c.peek = ' ' then
      let c := c.advance
      blockIndentation fuel c breaks (max widest c.column)
    else if isBreak c.peek then
      let (b, c) := c.lineBreak
      blockIndentation fuel c (breaks ++ b) widest
    else (breaks, widest, c)

/-- Spaces up to a column. -/
def spacesTo (column : Nat) (c : Cursor) : Cursor :=
  c.forward (min (column - c.column) (c.rest.takeWhile (· = ' ')).length)

/-- Empty lines between lines at a column. -/
def blockBreaks (column : Nat) : Nat → Cursor → List Char → List Char × Cursor
  | 0, c, breaks => (breaks, c)
  | fuel + 1, c, breaks =>
    let c := spacesTo column c
    if isBreak c.peek then
      let (b, c) := c.lineBreak
      blockBreaks column fuel c (breaks ++ b)
    else (breaks, c)

/-- The lines of a block scalar at a column: the text, the last line break and the empty lines
after it. -/
def blockLines (folded : Bool) (column : Nat) :
    Nat → Cursor → List Char → List Char → List Char × List Char × List Char × Cursor
  | 0, c, text, breaks => (text, [], breaks, c)
  | fuel + 1, c, text, breaks =>
    let solid := c.peek ≠ ' ' && c.peek ≠ '\t'
    let (line, c) := c.span fun x => !isBreakOrEnd x
    let text := text ++ breaks ++ line
    let (lineEnd, c) := c.lineBreak
    let (breaks, c) := blockBreaks column (c.rest.length + 1) c []
    if c.column = column && c.peek ≠ endMark then
      let joint :=
        if folded && lineEnd = ['\n'] && solid && c.peek ≠ ' ' && c.peek ≠ '\t' then
          if breaks.isEmpty then [' '] else []
        else lineEnd
      blockLines folded column fuel c (text ++ joint) breaks
    else (text, lineEnd, breaks, c)

/-- A block scalar in a block whose parent is indented by `indent`, or by nothing at all. -/
def blockScalar (folded : Bool) (indent : Int) (c : Cursor) : Except ScanFault (Read String) := do
  let ((chomp, width), c) ← blockHeader c.advance
  let c ← ignoredLine c
  let least := (max 1 (indent + 1)).toNat
  let (breaks, column, c) :=
    match width with
    | none =>
      let (breaks, widest, c) := blockIndentation (c.rest.length + 1) c [] 0
      (breaks, max least widest, c)
    | some n =>
      let column := least + n - 1
      let (breaks, c) := blockBreaks column (c.rest.length + 1) c []
      (breaks, column, c)
  let (text, lineEnd, breaks, c) :=
    if c.column = column && c.peek ≠ endMark then
      blockLines folded column (c.rest.length + 1) c [] breaks
    else ([], [], breaks, c)
  let tail :=
    match chomp with
    | .strip => []
    | .clip => lineEnd
    | .keep => lineEnd ++ breaks
  .ok (.ofList (text ++ tail), c)

/-! ## Quoted scalars -/

/-- The one character that a short escape stands for. -/
def shortEscape? (x : Char) : Option Char :=
  match x with
  | '0' => some '\x00'
  | 'a' => some '\x07'
  | 'b' => some '\x08'
  | 't' => some '\t'
  | '\t' => some '\t'
  | 'n' => some '\n'
  | 'v' => some '\x0b'
  | 'f' => some '\x0c'
  | 'r' => some '\r'
  | 'e' => some '\x1b'
  | ' ' => some ' '
  | '"' => some '"'
  | '\\' => some '\\'
  | '/' => some '/'
  | 'N' => some (.ofNat 0x85)
  | '_' => some (.ofNat 0xA0)
  | 'L' => some (.ofNat 0x2028)
  | 'P' => some (.ofNat 0x2029)
  | _ => none

/-- The number of digits of a numeric escape. -/
def escapeDigits? (x : Char) : Option Nat :=
  if x = 'x' then some 2 else if x = 'u' then some 4 else if x = 'U' then some 8 else none

/-- The number of a run of hexadecimal digits. -/
def hexNumber (xs : List Char) : Option Nat :=
  xs.foldl (fun n x => n.bind fun n => (Text.hexValue? x).map fun d => n * 16 + d) (some 0)

/-- The character of a number. -/
def charOf (n : Nat) : Except ScanFault Char :=
  if 0x7FFFFFFF < n then .error .characterNumber
  else if 0x10FFFF < n then .error .character
  else if 0xD800 ≤ n && n ≤ 0xDFFF then .error .surrogate
  else .ok (.ofNat n)

/-- Line breaks and the blanks before them, inside quotes. -/
def quotedBreaks : Nat → Cursor → List Char → Except ScanFault (Read (List Char))
  | 0, c, breaks => .ok (breaks, c)
  | fuel + 1, c, breaks =>
    if c.atDocumentMarker then bad
    else
      let c := c.skip fun x => x = ' ' || x = '\t'
      if isBreak c.peek then
        let (b, c) := c.lineBreak
        quotedBreaks fuel c (breaks ++ b)
      else .ok (breaks, c)

/-- An escape behind its backslash. -/
def escape (c : Cursor) : Except ScanFault (Read (List Char)) :=
  match shortEscape? c.peek, escapeDigits? c.peek with
  | some x, _ => .ok ([x], c.advance)
  | none, some n =>
    let c := c.advance
    let digits := c.rest.take n
    if digits.length < n then bad
    else
      match hexNumber digits with
      | none => bad
      | some code => (charOf code).map fun x => ([x], c.forward n)
  | none, none =>
    if isBreak c.peek then
      let c := c.lineBreak.2
      quotedBreaks (c.rest.length + 1) c []
    else bad

/-- The characters inside quotes up to a blank or the closing quote. -/
def quotedWord (double : Bool) : Nat → Cursor → List Char → Except ScanFault (Read (List Char))
  | 0, c, text => .ok (text, c)
  | fuel + 1, c, text =>
    let (run, c) :=
      c.span fun x => x ≠ '\'' && x ≠ '"' && x ≠ '\\' && !isBlankOrBreak x
    let text := text ++ run
    let x := c.peek
    if !double && x = '\'' && c.peekAt 1 = '\'' then
      quotedWord double fuel (c.forward 2) (text ++ ['\''])
    else if (double && x = '\'') || (!double && (x = '"' || x = '\\')) then
      quotedWord double fuel c.advance (text ++ [x])
    else if double && x = '\\' then do
      let (xs, c) ← escape c.advance
      quotedWord double fuel c (text ++ xs)
    else .ok (text, c)

/-- The blanks inside quotes; a line break among them is folded. -/
def quotedBlanks (c : Cursor) : Except ScanFault (Read (List Char)) :=
  let (blanks, c) := c.span fun x => x = ' ' || x = '\t'
  if c.peek = endMark then bad
  else if isBreak c.peek then do
    let (lineEnd, c) := c.lineBreak
    let (breaks, c) ← quotedBreaks (c.rest.length + 1) c []
    let joint := if lineEnd ≠ ['\n'] then lineEnd else if breaks.isEmpty then [' '] else []
    .ok (joint ++ breaks, c)
  else .ok (blanks, c)

/-- Words and blanks up to the closing quote. -/
def quotedText (quote : Char) : Nat → Cursor → List Char → Except ScanFault (Read (List Char))
  | 0, _, _ => bad
  | fuel + 1, c, text =>
    if c.peek = quote then .ok (text, c.advance)
    else do
      let (blanks, c) ← quotedBlanks c
      let (word, c) ← quotedWord (quote = '"') (c.rest.length + 1) c []
      quotedText quote fuel c (text ++ blanks ++ word)

def quotedScalar (c : Cursor) : Except ScanFault (Read String) := do
  let quote := c.peek
  let c := c.advance
  let (word, c) ← quotedWord (quote = '"') (c.rest.length + 1) c []
  let (text, c) ← quotedText quote (c.rest.length + 1) c word
  .ok (.ofList text, c)

/-! ## Plain scalars -/

/-- Whether a plain scalar goes on at a place `n` characters ahead. -/
def plainGoesOn (flow : Bool) (c : Cursor) (n : Nat) : Bool :=
  let x := c.peekAt n
  let next := c.peekAt (n + 1)
  !(isBlankOrBreak x
    || (x = ':' && (isBlankOrBreak next || (flow && ",[]\x7b\x7d".toList.contains next)))
    || (flow && ",?[]\x7b\x7d".toList.contains x))

/-- The length of a run of a plain scalar. -/
def plainRun (flow : Bool) (c : Cursor) : Nat → Nat → Nat
  | 0, n => n
  | fuel + 1, n => if plainGoesOn flow c n then plainRun flow c fuel (n + 1) else n

/-- The breaks after a line of a plain scalar; `none` if a document ends here. -/
def plainBreaks : Nat → Cursor → List Char → Option (List Char) × Cursor
  | 0, c, breaks => (some breaks, c)
  | fuel + 1, c, breaks =>
    if c.peek = ' ' then plainBreaks fuel c.advance breaks
    else if isBreak c.peek then
      let (b, c) := c.lineBreak
      if c.atDocumentMarker then (none, c) else plainBreaks fuel c (breaks ++ b)
    else (some breaks, c)

/-- What stands between two runs of a plain scalar, and whether a line ended. -/
def plainBlanks (c : Cursor) : List Char × Bool × Cursor :=
  let (blanks, c) := c.span (· = ' ')
  if isBreak c.peek then
    let (lineEnd, c) := c.lineBreak
    if c.atDocumentMarker then ([], true, c)
    else
      match plainBreaks (c.rest.length + 1) c [] with
      | (none, c) => ([], true, c)
      | (some breaks, c) =>
        let joint := if lineEnd ≠ ['\n'] then lineEnd else if breaks.isEmpty then [' '] else []
        (joint ++ breaks, true, c)
  else (blanks, false, c)

/-- Runs and the blanks between them.  The flag tells whether the last thing read was a line
break. -/
def plainText (flow : Bool) (column : Int) :
    Nat → Cursor → List Char → List Char → Bool → List Char × Bool × Cursor
  | 0, c, text, _, broke => (text, broke, c)
  | fuel + 1, c, text, blanks, broke =>
    if c.peek = '#' then (text, broke, c)
    else
      let n := plainRun flow c (c.rest.length + 1) 0
      if n = 0 then (text, broke, c)
      else
        let text := text ++ blanks ++ c.rest.take n
        let (blanks, broke, c) := plainBlanks (c.forward n)
        if blanks.isEmpty || c.peek = '#' || (!flow && (c.column : Int) < column) then
          (text, broke, c)
        else plainText flow column fuel c text blanks broke

/-- A plain scalar in a block indented by `indent`, and whether a line ended behind it. -/
def plainScalar (flow : Bool) (indent : Int) (c : Cursor) : String × Bool × Cursor :=
  let (text, broke, c) := plainText flow (indent + 1) (c.rest.length + 1) c [] [] false
  (.ofList text, broke, c)

/-! ## Names and tags -/

/-- The name behind the sign of an anchor or an alias. -/
def anchorName (c : Cursor) : Except ScanFault (Read String) :=
  let (name, c) := c.advance.span isWordChar
  if name.isEmpty then bad
  else if isBlankOrBreak c.peek || "?:,]\x7d%@\x60".toList.contains c.peek then
    .ok (.ofList name, c)
  else bad

/-- A handle: an exclamation mark, alone or with a word and another mark. -/
def tagHandle (c : Cursor) : Except ScanFault (Read String) :=
  if c.peek ≠ '!' then bad
  else if c.peekAt 1 = ' ' then .ok ("!", c.advance)
  else
    let (word, after) := c.advance.span isWordChar
    if after.peek = '!' then .ok (.ofList ('!' :: word ++ ['!']), after.advance) else bad

def isUriChar (x : Char) : Bool :=
  Text.isAsciiLetter x || Text.isAsciiDigit x || "-;/?:@&=+$,_.!~*'()[]".toList.contains x

/-- The bytes of a run of percent escapes. -/
def uriEscapes : Nat → Cursor → List UInt8 → Except ScanFault (Read (List UInt8))
  | 0, c, bytes => .ok (bytes, c)
  | fuel + 1, c, bytes =>
    if c.peek ≠ '%' then .ok (bytes, c)
    else
      match Text.hexValue? (c.peekAt 1), Text.hexValue? (c.peekAt 2) with
      | some a, some b => uriEscapes fuel (c.forward 3) (bytes ++ [(a * 16 + b).toUInt8])
      | _, _ => bad

def uriText : Nat → Cursor → List Char → Except ScanFault (Read (List Char))
  | 0, c, text => .ok (text, c)
  | fuel + 1, c, text =>
    if c.peek = '%' then do
      let (bytes, c) ← uriEscapes (c.rest.length + 1) c []
      match Text.decode bytes with
      | .ok xs => uriText fuel c (text ++ xs)
      | .error _ => bad
    else
      let (run, c) := c.span isUriChar
      if run.isEmpty then .ok (text, c) else uriText fuel c (text ++ run)

/-- The text of a tag behind its handle: at least one character or escape. -/
def tagUri (c : Cursor) : Except ScanFault (Read String) := do
  let (text, after) ← uriText (c.rest.length + 1) c []
  if after.index = c.index then bad else .ok (.ofList text, after)

def tagToken (c : Cursor) : Except ScanFault (Read Token) := do
  let next := c.peekAt 1
  let (token, c) ← show Except ScanFault (Read Token) from
    if next = '<' then do
      let (suffix, c) ← tagUri (c.forward 2)
      if c.peek = '>' then .ok (.tag none suffix, c.advance) else bad
    else if isBlankOrBreak next then .ok (.tag none "!", c.advance)
    else do
      let word := (c.rest.drop 1).takeWhile fun x => !isSpaceOrBreak x
      let (handle, c) ← if word.contains '!' then tagHandle c else .ok ("!", c.advance)
      let (suffix, c) ← tagUri c
      .ok (.tag (some handle) suffix, c)
  if isSpaceOrBreak c.peek then .ok (token, c) else bad

/-! ## Directives -/

def decimalNumber (c : Cursor) : Except ScanFault (Read Nat) :=
  let (digits, c) := c.span Text.isAsciiDigit
  if digits.isEmpty then bad
  else .ok (digits.foldl (fun n x => n * 10 + (x.toNat - 48)) 0, c)

def versionValue (c : Cursor) : Except ScanFault (Read Directive) := do
  let (major, c) ← decimalNumber c.skipSpaces
  if c.peek ≠ '.' then bad
  else do
    let (_, c) ← decimalNumber c.advance
    if isSpaceOrBreak c.peek then .ok (.version major, c) else bad

def tagValue (c : Cursor) : Except ScanFault (Read Directive) := do
  let (handle, c) ← tagHandle c.skipSpaces
  if c.peek ≠ ' ' then bad
  else do
    let (text, c) ← tagUri c.skipSpaces
    if isSpaceOrBreak c.peek then .ok (.tag handle text, c) else bad

def directive (c : Cursor) : Except ScanFault (Read Directive) := do
  let (name, c) := c.advance.span isWordChar
  if name.isEmpty || !isSpaceOrBreak c.peek then bad
  else do
    let (d, c) ←
      if name = "YAML".toList then versionValue c
      else if name = "TAG".toList then tagValue c
      else .ok (.other, c.skipLine)
    let c ← ignoredLine c
    .ok (d, c)

end ModelSearch.Yaml
