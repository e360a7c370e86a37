import ModelSearch.Text.Basic

/-!
# JSON

JSON values and their text, in ASCII: on one line, or indented with every member on a line of its
own.  A number is its text.

    v.text .line          the text on one line
    v.text .indented      the text on many lines
-/

namespace ModelSearch

open Text

inductive JsonValue where
  | null
  | bool (b : Bool)
  | number (literal : String)
  | string (s : String)
  | list (items : List JsonValue)
  | object (members : List (String × JsonValue))
  deriving Repr

namespace JsonValue

/-! ## Strings -/

def unitEscape (n : Nat) : List Char := '\\' :: 'u' :: hexDigits 4 n

/-- A character inside a string.  One that has no 16-bit unit of its own is written as two. -/
def escapedChar (c : Char) : List Char :=
  let n := c.toNat
  if c = '"' || c = '\\' then ['\\', c]
  else if 0x20 ≤ n && n < 0x7F then [c]
  else if c = '\n' then ['\\', 'n']
  else if c = '\r' then ['\\', 'r']
  else if c = '\t' then ['\\', 't']
  else if n = 0x0C then ['\\', 'f']
  else if n = 0x08 then ['\\', 'b']
  else if n < 0x10000 then unitEscape n
  else unitEscape (0xD800 + (n - 0x10000) / 0x400) ++ unitEscape (0xDC00 + (n - 0x10000) % 0x400)

def quoted (s : String) : String := .ofList ('"' :: s.toList.flatMap escapedChar ++ ['"'])

/-! ## Layout -/

inductive Layout where
  | line
  | indented
  deriving DecidableEq, Repr

def indentStep : Nat := 2

/-- A new line at a depth. -/
def newLine (depth : Nat) : String := "\n" ++ repeated (depth * indentStep) ' '

/-- Members between brackets, at the depth of the brackets. -/
def bracketed (l : Layout) (depth : Nat) (opening closing : String) (members : List String) :
    String :=
  if members.isEmpty then opening ++ closing
  else
    match l with
    | .line => opening ++ joinWith ", " members ++ closing
    | .indented =>
      opening ++ newLine (depth + 1) ++ joinWith ("," ++ newLine (depth + 1)) members
        ++ newLine depth ++ closing

mutual

def textAt (l : Layout) (depth : Nat) : JsonValue → String
  | .null => "null"
  | .bool b => if b then "true" else "false"
  | .number literal => literal
  | .string s => quoted s
  | .list items => bracketed l depth "[" "]" (itemTexts l (depth + 1) items)
  | .object members => bracketed l depth "\x7b" "\x7d" (memberTexts l (depth + 1) members)

def itemTexts (l : Layout) (depth : Nat) : List JsonValue → List String
  | [] => []
  | v :: vs => textAt l depth v :: itemTexts l depth vs

def memberTexts (l : Layout) (depth : Nat) : List (String × JsonValue) → List String
  | [] => []
  | (k, v) :: ms => (quoted k ++ ": " ++ textAt l depth v) :: memberTexts l depth ms

end

def text (v : JsonValue) (l : Layout) : String := textAt l 0 v

end JsonValue

end ModelSearch
