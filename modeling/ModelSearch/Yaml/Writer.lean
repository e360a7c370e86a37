import ModelSearch.Value.Literal
import ModelSearch.Yaml.Analysis
import ModelSearch.Yaml.Present

/-!
# Writing documents

Lay a document out in blocks of two columns each.  Texts are broken at spaces once a line has passed
the width.  `Out` is what has been written, with the column and two facts about the end: whether it
is a blank, and whether the line so far is nothing but indentation and signs of blocks.

    write v       the text of a mapping, or why one of its integers cannot be written
-/

namespace ModelSearch.Yaml

open Text

structure Out where
  /-- The characters so far, the last one first. -/
  reversed : List Char := []
  column : Nat := 0
  blank : Bool := true
  fresh : Bool := true

def lineWidth : Nat := 80

def blockWidth : Nat := 2

namespace Out

def put (o : Out) (xs : List Char) : Out :=
  { o with reversed := xs.reverse ++ o.reversed, column := o.column + xs.length }

/-- End the line with a break. -/
def breakWith (o : Out) (c : Char) : Out := ⟨c :: o.reversed, 0, true, true⟩

def endLine (o : Out) : Out := o.breakWith '\n'

/-- Go to a column, on a new line unless nothing of weight stands on this one. -/
def indent (o : Out) (column : Nat) : Out :=
  let o :=
    if !o.fresh || column < o.column || (o.column = column && !o.blank) then o.endLine else o
  if o.column < column then
    { o.put (List.replicate (column - o.column) ' ') with blank := true }
  else o

/-- Write a sign, behind a space if it needs one. -/
def sign (o : Out) (needsBlank : Bool) (text : String) (ofBlock : Bool) : Out :=
  let xs := if o.blank || !needsBlank then text.toList else ' ' :: text.toList
  { o.put xs with blank := false, fresh := o.fresh && ofBlock }

/-- A word of weight stands at the end. -/
def weighty (o : Out) : Out := { o with blank := false, fresh := false }

def lineBreaks (o : Out) (breaks : List Char) : Out := breaks.foldl breakWith o

end Out

/-! ## Scalars -/

/-- What a run of characters consists of. -/
inductive Run where
  | word
  | spaces
  | breaks
  deriving DecidableEq

def runOf (c : Char) : Run := if c = ' ' then .spaces else if isLineEnd c then .breaks else .word

/-- A plain text: `run` is what has been read but not written. -/
def plainFrom (column : Nat) (split : Bool) (o : Out) (kind : Run) (run : List Char) :
    List Char → Out
  | [] => o.put run
  | c :: rest =>
    match kind with
    | .spaces =>
      if c = ' ' then plainFrom column split o .spaces (run ++ [c]) rest
      else
        let o :=
          if run.length = 1 && lineWidth < o.column && split then (o.indent column).weighty
          else o.put run
        plainFrom column split o (runOf c) [c] rest
    | _ =>
      if c = ' ' then plainFrom column split (o.put run) .spaces [c] rest
      else plainFrom column split o .word (run ++ [c]) rest

def plainOut (column : Nat) (split : Bool) (o : Out) (text : List Char) : Out :=
  if text.isEmpty then o
  else
    let o := if o.blank then o else o.put [' ']
    plainFrom column split o.weighty .word [] text

/-- Write the run that ends in front of `next`, which is the end of the text if there is none. -/
def singleRun (column : Nat) (split : Bool) (o : Out) (kind : Run) (start : Nat) (run : List Char)
    (next : Option Char) : Out :=
  match kind with
  | .spaces =>
    if run.length = 1 && lineWidth < o.column && split && start ≠ 0 && next.isSome then
      o.indent column
    else o.put run
  | .breaks =>
    let o := if run.head? = some '\n' then o.endLine else o
    (o.lineBreaks run).indent column
  | .word => o.put run

/-- A text in single quotes: `run` is what has been read since `start` but not written. -/
def singleFrom (column : Nat) (split : Bool) (o : Out) (kind : Run) (start : Nat)
    (run : List Char) : List Char → Out
  | [] => singleRun column split o kind start run none
  | c :: rest =>
    let place := start + run.length
    if c = '\'' then
      let o := singleRun column split o kind start run (some c)
      singleFrom column split (o.put ['\'', '\'']) .word (place + 1) [] rest
    else if runOf c = kind then singleFrom column split o kind start (run ++ [c]) rest
    else
      let o := singleRun column split o kind start run (some c)
      singleFrom column split o (runOf c) place [c] rest

def singleOut (column : Nat) (split : Bool) (o : Out) (text : List Char) : Out :=
  (singleFrom column split (o.sign true "'" false) .word 0 [] text).sign false "'" false

/-- The letter of a short escape. -/
def escapeLetter? (c : Char) : Option Char :=
  match c.toNat with
  | 0x00 => some '0'
  | 0x07 => some 'a'
  | 0x08 => some 'b'
  | 0x09 => some 't'
  | 0x0A => some 'n'
  | 0x0B => some 'v'
  | 0x0C => some 'f'
  | 0x0D => some 'r'
  | 0x1B => some 'e'
  | 0x22 => some '"'
  | 0x5C => some '\\'
  | 0x85 => some 'N'
  | 0xA0 => some '_'
  | 0x2028 => some 'L'
  | 0x2029 => some 'P'
  | _ => none

/-- Characters that stand for themselves in double quotes. -/
def isUnescaped (c : Char) : Bool :=
  let n := c.toNat
  c ≠ '"' && c ≠ '\\'
    && ((0x20 ≤ n && n ≤ 0x7E)
      || (0xA0 ≤ n && n ≤ 0xFFFD && n ≠ 0x2028 && n ≠ 0x2029 && n ≠ 0xFEFF))

def escaped (c : Char) : List Char :=
  match escapeLetter? c with
  | some l => ['\\', l]
  | none =>
    let n := c.toNat
    if n ≤ 0xFF then '\\' :: 'x' :: upperHexDigits 2 n
    else if n ≤ 0xFFFF then '\\' :: 'u' :: upperHexDigits 4 n
    else '\\' :: 'U' :: upperHexDigits 8 n

/-- A text in double quotes: `run` is what has been read but not written, and `first` tells whether
nothing has been read.  A long line is broken by a backslash, with another one in front of a
space at the beginning of the next line. -/
def doubleFrom (column : Nat) (split first : Bool) (o : Out) (run : List Char) : List Char → Out
  | [] => o.put run
  | c :: rest =>
    let plain := isUnescaped c
    let o := if plain then o else (o.put run).put (escaped c)
    let run := if plain then run else []
    let width : Int := (o.column : Int) + (if plain then (run.length : Int) else -1)
    let breaks := !first && !rest.isEmpty && (c = ' ' || !plain || run.isEmpty)
      && (lineWidth : Int) < width && split
    if breaks then
      let o := ((o.put (run ++ ['\\'])).indent column).weighty
      let next := if plain then c else rest.headD endMark
      let o := if next = ' ' then o.put ['\\'] else o
      doubleFrom column split false o (if plain then [c] else []) rest
    else doubleFrom column split false o (if plain then run ++ [c] else run) rest

def doubleOut (column : Nat) (split : Bool) (o : Out) (text : List Char) : Out :=
  (doubleFrom column split true (o.sign true "\"" false) [] text).sign false "\"" false

/-- What the header of a block says of its text. -/
def blockHints (text : List Char) : String :=
  match text.reverse with
  | [] => ""
  | last :: before =>
    let first := text.headD endMark
    let indented := if first = ' ' || isLineEnd first then toString blockWidth else ""
    let chomp :=
      if !isLineEnd last then "-"
      else
        match before with
        | [] => "+"
        | c :: _ => if isLineEnd c then "+" else ""
    indented ++ chomp

/-- The lines of a block: `run` is what has been read but not written. -/
def blockFrom (column : Nat) (o : Out) (inBreaks : Bool) (run : List Char) : List Char → Out
  | [] => if inBreaks then o.lineBreaks run else (o.put run).endLine
  | c :: rest =>
    if isLineEnd c = inBreaks then blockFrom column o inBreaks (run ++ [c]) rest
    else if inBreaks then blockFrom column ((o.lineBreaks run).indent column) false [c] rest
    else blockFrom column (o.put run) true [c] rest

def blockOut (column : Nat) (o : Out) (text : List Char) : Out :=
  blockFrom column (o.sign true ("|" ++ blockHints text) false).endLine true [] text

/-! ## Styles -/

inductive Style where
  | plain
  | single
  | double
  | block
  deriving DecidableEq, Repr

/-- The way in which a scalar is written. -/
def styleOf (key plainImplied block : Bool) (a : Analysis) : Style :=
  if !block && plainImplied && !(key && (a.empty || a.multiline)) && a.plain then .plain
  else if block && !key && a.block then .block
  else if !block && a.singleQuoted && !(key && a.multiline) then .single
  else .double

/-- An anchor or an alias. -/
def anchorOut (o : Out) (mark : String) (name : Option String) : Out :=
  match name with
  | some n => o.sign true (mark ++ n) false
  | none => o

def scalarOut (key : Bool) (column : Nat) (o : Out) (anchor : Option String) (tag : String)
    (plainImplied quotedImplied block : Bool) (text : String) : Out :=
  let style := styleOf key plainImplied block (analyze text)
  let o := anchorOut o "&" anchor
  let implied := if style = .plain then plainImplied else quotedImplied
  let o := if implied then o else o.sign true tag false
  let xs := text.toList
  match style with
  | .plain => plainOut column (!key) o xs
  | .single => singleOut column (!key) o xs
  | .double => doubleOut column (!key) o xs
  | .block => blockOut column o xs

/-! ## Collections -/

/-- The greatest length of a key that stands in front of its colon. -/
def simpleKeyLength : Nat := 128

/-- Whether a key stands in front of its colon, or behind a question mark on a line of its own. -/
def isSimpleKey : Doc → Bool
  | .alias name => name.length < simpleKeyLength
  | .scalar anchor tag _ _ _ text =>
    let a := analyze text
    (anchor.getD "").length + tag.length + text.length < simpleKeyLength && !a.empty && !a.multiline
  | .sequence anchor tag _ items =>
    (anchor.getD "").length + tag.length < simpleKeyLength && items.isEmpty
  | .mapping anchor tag _ entries =>
    (anchor.getD "").length + tag.length < simpleKeyLength && entries.isEmpty

/-- The anchor and the tag of a collection. -/
def propertiesOut (o : Out) (anchor : Option String) (tag : String) (implied : Bool) : Out :=
  let o := anchorOut o "&" anchor
  if implied then o else o.sign true tag false

/-- Where a node stands. -/
inductive Place where
  | root
  | item
  /-- A key in front of its colon. -/
  | simpleKey
  /-- Any other part of an entry. -/
  | entry
  deriving DecidableEq

mutual

/-- A node whose surroundings are indented by `column`. -/
def nodeOut (place : Place) (column : Nat) (o : Out) : Doc → Out
  | .alias name => o.sign true ("*" ++ name) false
  | .scalar anchor tag plainImplied quotedImplied block text =>
    scalarOut (place = .simpleKey) (column + blockWidth) o anchor tag plainImplied quotedImplied
      block text
  | .sequence anchor tag implied items =>
    let o := propertiesOut o anchor tag implied
    if items.isEmpty then (o.sign true "[" false).sign false "]" false
    else
      let flat := (place = .simpleKey || place = .entry) && !o.fresh
      itemsOut (if flat then column else column + blockWidth) o items
  | .mapping anchor tag implied entries =>
    let o := propertiesOut o anchor tag implied
    if entries.isEmpty then (o.sign true "\x7b" false).sign false "\x7d" false
    else entriesOut (if place = .root then column else column + blockWidth) o entries

def itemsOut (column : Nat) (o : Out) : List Doc → Out
  | [] => o
  | d :: ds => itemsOut column (nodeOut .item column ((o.indent column).sign true "-" true) d) ds

def entriesOut (column : Nat) (o : Out) : List (Doc × Doc) → Out
  | [] => o
  | (k, v) :: es =>
    let o := o.indent column
    let o :=
      if isSimpleKey k then
        nodeOut .entry column ((nodeOut .simpleKey column o k).sign false ":" false) v
      else
        let o := nodeOut .entry column (o.sign true "?" true) k
        nodeOut .entry column ((o.indent column).sign true ":" true) v
    entriesOut column o es

end

/-- The text of a document that is a mapping. -/
def layOut (d : Doc) : String := .ofList ((nodeOut .root 0 {} d).indent 0).reversed.reverse

/-- The text of a mapping, if its integers can be written. -/
def write (v : Value) : Except IntegerFault String :=
  if v.withinDigits then .ok (layOut (present v)) else .error .unprintable

end ModelSearch.Yaml
