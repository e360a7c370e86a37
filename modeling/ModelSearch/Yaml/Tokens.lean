import ModelSearch.Yaml.Scalar

/-!
# From characters to tokens

A document is read token by token.  Two things are not local.  Indentation: a stack of columns
decides where blocks begin and end.  Simple keys: what was read as a value turns out to be a key
when a colon follows it, so every place where a key may have begun is remembered, by its nesting
level, and the key's token is put in there afterwards.

    tokens text        every token, or the tokens up to a fault and the fault
-/

namespace ModelSearch.Yaml

/-- A place where a key may have begun. -/
structure KeyPlace where
  /-- The number of tokens before it. -/
  tokensBefore : Nat
  /-- Whether nothing but a key can stand there. -/
  required : Bool
  index : Nat
  line : Nat
  column : Nat
  deriving Repr

structure TokenReader where
  cursor : Cursor
  /-- The tokens so far, the last one first. -/
  reversed : List Token := []
  count : Nat := 0
  done : Bool := false
  /-- How many flow collections are open. -/
  flow : Nat := 0
  indent : Int := -1
  indents : List Int := []
  keyAllowed : Bool := true
  /-- The places where keys may have begun, each with its level. -/
  places : List (Nat × KeyPlace) := []
  deriving Repr

/-- How far a key reaches at most. -/
def keyReach : Nat := 1024

namespace TokenReader

def emit (s : TokenReader) (t : Token) : TokenReader :=
  { s with reversed := t :: s.reversed, count := s.count + 1 }

/-- Put a token in behind the first `n`. -/
def insert (s : TokenReader) (n : Nat) (t : Token) : TokenReader :=
  { s with reversed := s.reversed.insertIdx (s.count - n) t, count := s.count + 1 }

def moved (s : TokenReader) (c : Cursor) : TokenReader := { s with cursor := c }

def inFlow (s : TokenReader) : Bool := s.flow ≠ 0

def column (s : TokenReader) : Int := s.cursor.column

/-! ## Keys and indentation -/

/-- Forget the places that are too far away; one of them may have needed its key. -/
def dropStale (s : TokenReader) : Except ScanFault TokenReader :=
  let stale := fun (p : Nat × KeyPlace) =>
    p.2.line ≠ s.cursor.line || keyReach < s.cursor.index - p.2.index
  if s.places.any fun p => stale p && p.2.required then bad
  else .ok { s with places := s.places.filter fun p => !stale p }

/-- Forget the place of the current level; it may have needed its key. -/
def dropPlace (s : TokenReader) : Except ScanFault TokenReader :=
  if s.places.any fun p => p.1 = s.flow && p.2.required then bad
  else .ok { s with places := s.places.filter fun p => p.1 ≠ s.flow }

/-- Remember that a key may begin here. -/
def markPlace (s : TokenReader) : Except ScanFault TokenReader :=
  if s.keyAllowed then do
    let s ← s.dropPlace
    let required := !s.inFlow && s.indent = s.column
    let place : KeyPlace :=
      ⟨s.count, required, s.cursor.index, s.cursor.line, s.cursor.column⟩
    .ok { s with places := s.places ++ [(s.flow, place)] }
  else .ok s

/-- Close the blocks that are indented further than `column`. -/
def closeBlocks (column : Int) : List Int → TokenReader → TokenReader
  | [], s => s
  | outer :: rest, s =>
    if column < s.indent then
      closeBlocks column rest ({ s with indent := outer, indents := rest }.emit .blockEnd)
    else s

def unwind (s : TokenReader) (column : Int) : TokenReader :=
  if s.inFlow then s else closeBlocks column s.indents s

/-- Indent up to a column, and tell whether that begins a block. -/
def indentTo (s : TokenReader) (column : Int) : Bool × TokenReader :=
  if s.indent < column then
    (true, { s with indent := column, indents := s.indent :: s.indents })
  else (false, s)

/-! ## Tokens of one sign -/

/-- Skip blanks, comments and line breaks; after a break a key may begin in a block. -/
def skipToToken : Nat → TokenReader → TokenReader
  | 0, s => s
  | fuel + 1, s =>
    let c := s.cursor.skipSpaces
    let c := if c.peek = '#' then c.skipLine else c
    if isBreak c.peek then
      let s := s.moved c.lineBreak.2
      skipToToken fuel (if s.inFlow then s else { s with keyAllowed := true })
    else s.moved c

def readEnd (s : TokenReader) : Except ScanFault TokenReader := do
  let s ← (s.unwind (-1)).dropPlace
  .ok { s with keyAllowed := false, places := [], done := true }

def readDirective (s : TokenReader) : Except ScanFault TokenReader := do
  let s ← (s.unwind (-1)).dropPlace
  let (d, c) ← directive s.cursor
  .ok ({ s with keyAllowed := false }.moved c |>.emit (.directive d))

def readDocumentMark (s : TokenReader) (t : Token) : Except ScanFault TokenReader := do
  let s ← (s.unwind (-1)).dropPlace
  .ok ({ s with keyAllowed := false }.moved (s.cursor.forward 3) |>.emit t)

def readFlowStart (s : TokenReader) (t : Token) : Except ScanFault TokenReader := do
  let s ← s.markPlace
  .ok ({ s with flow := s.flow + 1, keyAllowed := true }.moved s.cursor.advance |>.emit t)

def readFlowEnd (s : TokenReader) (t : Token) : Except ScanFault TokenReader := do
  let s ← s.dropPlace
  .ok ({ s with flow := s.flow - 1, keyAllowed := false }.moved s.cursor.advance |>.emit t)

def readFlowEntry (s : TokenReader) : Except ScanFault TokenReader := do
  let s ← { s with keyAllowed := true }.dropPlace
  .ok (s.moved s.cursor.advance |>.emit .flowEntry)

/-- Begin a block of the given kind if the column is new. -/
def openBlock (s : TokenReader) (t : Token) : TokenReader :=
  match s.indentTo s.column with
  | (true, s) => s.emit t
  | (false, s) => s

def readEntry (s : TokenReader) : Except ScanFault TokenReader :=
  if !s.inFlow && !s.keyAllowed then bad
  else do
    let s := if s.inFlow then s else s.openBlock .sequenceStart
    let s ← { s with keyAllowed := true }.dropPlace
    .ok (s.moved s.cursor.advance |>.emit .entry)

def readKey (s : TokenReader) : Except ScanFault TokenReader :=
  if !s.inFlow && !s.keyAllowed then bad
  else do
    let s := if s.inFlow then s else s.openBlock .mappingStart
    let s ← { s with keyAllowed := !s.inFlow }.dropPlace
    .ok (s.moved s.cursor.advance |>.emit .key)

/-- The colon: it makes a key of what began at the remembered place, or stands for itself. -/
def readValue (s : TokenReader) : Except ScanFault TokenReader := do
  let s ←
    match s.places.find? fun p => p.1 = s.flow with
    | some (_, place) =>
      let s := { s with places := s.places.filter fun p => p.1 ≠ s.flow }
      let s := s.insert place.tokensBefore .key
      let s :=
        if s.inFlow then s
        else
          match s.indentTo place.column with
          | (true, s) => s.insert place.tokensBefore .mappingStart
          | (false, s) => s
      .ok { s with keyAllowed := false }
    | none =>
      if !s.inFlow && !s.keyAllowed then bad
      else
        let s := if s.inFlow then s else s.openBlock .mappingStart
        { s with keyAllowed := !s.inFlow }.dropPlace
  .ok (s.moved s.cursor.advance |>.emit .value)

/-! ## Tokens of more than one sign -/

/-- A token that may begin a key. -/
def readWith (s : TokenReader) (read : Cursor → Except ScanFault (Read Token)) :
    Except ScanFault TokenReader := do
  let s ← s.markPlace
  let (t, c) ← read s.cursor
  .ok ({ s with keyAllowed := false }.moved c |>.emit t)

def aliasToken (c : Cursor) : Except ScanFault (Read Token) :=
  (anchorName c).map fun r => (.alias r.1, r.2)

def anchorToken (c : Cursor) : Except ScanFault (Read Token) :=
  (anchorName c).map fun r => (.anchor r.1, r.2)

def quotedToken (c : Cursor) : Except ScanFault (Read Token) :=
  (quotedScalar c).map fun r => (.scalar r.1 false, r.2)

def readBlockScalar (s : TokenReader) (folded : Bool) : Except ScanFault TokenReader := do
  let s ← { s with keyAllowed := true }.dropPlace
  let (text, c) ← blockScalar folded s.indent s.cursor
  .ok (s.moved c |>.emit (.scalar text false))

def readPlain (s : TokenReader) : Except ScanFault TokenReader := do
  let s ← s.markPlace
  let (text, broke, c) := plainScalar s.inFlow s.indent s.cursor
  .ok ({ s with keyAllowed := broke }.moved c |>.emit (.scalar text true))

/-- Whether a plain scalar may begin here. -/
def beginsPlain (s : TokenReader) : Bool :=
  let x := s.cursor.peek
  let sign := "-?:,[]\x7b\x7d#&*!|>'\"%@\x60".toList.contains x
  (!isBlankOrBreak x && !sign)
    || (!isBlankOrBreak (s.cursor.peekAt 1)
      && (x = '-' || (!s.inFlow && (x = '?' || x = ':'))))

/-- Read the next token. -/
def step (s : TokenReader) : Except ScanFault TokenReader := do
  let marked := s.cursor.index = 0 && s.cursor.peek = byteOrderMark
  let s := if marked then s.moved s.cursor.advance else s
  let s ← (skipToToken (s.cursor.rest.length + 1) s).dropStale
  let s := s.unwind s.column
  let c := s.cursor
  let x := c.peek
  let blankNext := isBlankOrBreak (c.peekAt 1)
  if x = endMark then s.readEnd
  else if x = '%' && c.column = 0 then s.readDirective
  else if c.column = 0 && c.atMarker "---" then s.readDocumentMark .documentStart
  else if c.column = 0 && c.atMarker "..." then s.readDocumentMark .documentEnd
  else if x = '[' then s.readFlowStart .flowSequenceStart
  else if x = '\x7b' then s.readFlowStart .flowMappingStart
  else if x = ']' then s.readFlowEnd .flowSequenceEnd
  else if x = '\x7d' then s.readFlowEnd .flowMappingEnd
  else if x = ',' then s.readFlowEntry
  else if x = '-' && blankNext then s.readEntry
  else if x = '?' && (s.inFlow || blankNext) then s.readKey
  else if x = ':' && (s.inFlow || blankNext) then s.readValue
  else if x = '*' then s.readWith aliasToken
  else if x = '&' then s.readWith anchorToken
  else if x = '!' then s.readWith tagToken
  else if x = '|' && !s.inFlow then s.readBlockScalar false
  else if x = '>' && !s.inFlow then s.readBlockScalar true
  else if x = '\'' || x = '"' then s.readWith quotedToken
  else if s.beginsPlain then s.readPlain
  else bad

/-- Read tokens up to the end or a fault. -/
def run : Nat → TokenReader → List Token
  | 0, s => s.reversed.reverse
  | fuel + 1, s =>
    if s.done then s.reversed.reverse
    else
      match s.step with
      | .ok s => run fuel s
      | .error f => (Token.fault f :: s.reversed).reverse

end TokenReader

/-- The tokens of a document. -/
def tokens (text : List Char) : List Token :=
  if text.all documentChars.has then
    TokenReader.run (text.length + 2) { cursor := { rest := text } }
  else [.fault .malformed]

end ModelSearch.Yaml
