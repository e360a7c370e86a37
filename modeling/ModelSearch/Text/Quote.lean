import ModelSearch.Text.Printable

/-!
# Quoted text

How a text or a byte string is shown inside messages: between single quotes, or between double
quotes when it holds a single quote and no double one, with escapes for the backslash, the quote in
use, the three common controls and every character that is not printable.
-/

namespace ModelSearch.Text

/-- The quote that encloses a text with these characters. -/
def quoteFor (xs : List Char) : Char :=
  if xs.contains '\'' && !xs.contains '"' then '"' else '\''

/-- A numeric escape in its shortest form: two, four or eight digits. -/
def numericEscape (n : Nat) : List Char :=
  if n < 0x100 then '\\' :: 'x' :: hexDigits 2 n
  else if n < 0x10000 then '\\' :: 'u' :: hexDigits 4 n
  else '\\' :: 'U' :: hexDigits 8 n

def quotedChar (quote c : Char) : List Char :=
  if c = quote || c = '\\' then ['\\', c]
  else if c = '\n' then ['\\', 'n']
  else if c = '\r' then ['\\', 'r']
  else if c = '\t' then ['\\', 't']
  else if isPrintable c then [c]
  else numericEscape c.toNat

def quotedChars (xs : List Char) : List Char :=
  let quote := quoteFor xs
  quote :: xs.flatMap (quotedChar quote) ++ [quote]

/-- A text between quotes. -/
def quoted (s : String) : String := .ofList (quotedChars s.toList)

def quotedByte (quote : Char) (b : UInt8) : List Char :=
  let n := b.toNat
  if n < 0x20 || 0x7F ≤ n then
    if n = 9 then ['\\', 't'] else if n = 10 then ['\\', 'n'] else if n = 13 then ['\\', 'r']
    else '\\' :: 'x' :: hexDigits 2 n
  else if .ofNat n = quote || n = 92 then ['\\', .ofNat n]
  else [.ofNat n]

/-- A byte string between quotes, with the letter that tells it from a text. -/
def quotedBytes (bs : List UInt8) : String :=
  let quote := quoteFor (bs.map fun b => Char.ofNat b.toNat)
  .ofList ('b' :: quote :: bs.flatMap (quotedByte quote) ++ [quote])

end ModelSearch.Text
