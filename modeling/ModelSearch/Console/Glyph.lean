import ModelSearch.Console.CharColumns

/-!
# Glyphs

A glyph is what a terminal shows as one sign: a character with the marks that join it.  The columns
of a text are those of its glyphs.

    columns xs            the columns of a text
    cropped n xs          the glyphs that fit in n columns
    toColumns n xs        cropped or filled with spaces to n columns
    folded n xs           pieces of at most n columns each
-/

namespace ModelSearch.Console

-- Sums begin with the zero of the core library, whatever is known of other monoids.
attribute [local instance (high)] Zero.ofOfNat0

structure Glyph where
  chars : List Char
  columns : Nat
  deriving DecidableEq, Repr

namespace Glyph

/-- The character that joins the next one to the glyph before. -/
def joiner : Char := '\u200d'

/-- The character that asks for the emoji form of the one before. -/
def emojiSelector : Char := '\ufe0f'

/-- Glyphs in reverse, with a character added to the last of them. -/
def extend (gs : List Glyph) (c : Char) (more : Nat) : List Glyph :=
  match gs with
  | [] => [⟨[c], more⟩]
  | g :: rest => ⟨g.chars ++ [c], g.columns + more⟩ :: rest

/-- The reading of a text: the glyphs so far in reverse, the last character that has columns,
and whether a joiner was just read. -/
structure Reading where
  glyphs : List Glyph := []
  base : Option Char := none
  joined : Bool := false

def Reading.add (r : Reading) (c : Char) : Reading :=
  if r.joined then { r with glyphs := extend r.glyphs c 0, joined := false }
  else if c = joiner then
    { r with glyphs := extend r.glyphs c 0, joined := !r.glyphs.isEmpty }
  else if c = emojiSelector then
    match r.base with
    | some b =>
      if emojiBases.has b then { r with glyphs := extend r.glyphs c 1, base := none }
      else { r with glyphs := extend r.glyphs c 0 }
    | none => { r with glyphs := extend r.glyphs c 0 }
  else
    match charColumns c with
    | 0 => { r with glyphs := extend r.glyphs c 0 }
    | n => { r with glyphs := ⟨[c], n⟩ :: r.glyphs, base := some c }

/-- The glyphs of a text. -/
def ofText (xs : List Char) : List Glyph := (xs.foldl Reading.add {}).glyphs.reverse

end Glyph

/-- The columns of a text. -/
def columns (xs : List Char) : Nat := ((Glyph.ofText xs).map (·.columns)).sum

/-- A run of spaces. -/
def spaces (n : Nat) : List Char := List.replicate n ' '

/-- The glyphs that fit; a blank stands for the half of a wide one. -/
def cropGlyphs (n : Nat) : List Glyph → List Char
  | [] => []
  | g :: gs =>
    if n = 0 then []
    else if g.columns ≤ n then g.chars ++ cropGlyphs (n - g.columns) gs
    else [' ']

def cropped (n : Nat) (xs : List Char) : List Char := cropGlyphs n (Glyph.ofText xs)

/-- A text cropped or filled with spaces to `n` columns. -/
def toColumns (n : Nat) (xs : List Char) : List Char :=
  if columns xs ≤ n then xs ++ spaces (n - columns xs) else cropped n xs

/-- Glyphs in pieces of at most `n` columns; `piece` is the one being filled. -/
def foldGlyphs (n : Nat) (piece : List Char) (used : Nat) : List Glyph → List (List Char)
  | [] => if used = 0 then [] else [piece]
  | g :: gs =>
    if used + g.columns ≤ n then foldGlyphs n (piece ++ g.chars) (used + g.columns) gs
    else piece :: foldGlyphs n g.chars g.columns gs

def folded (n : Nat) (xs : List Char) : List (List Char) := foldGlyphs n [] 0 (Glyph.ofText xs)

end ModelSearch.Console
