import ModelSearch.Console.Emoji
import ModelSearch.Console.StyleName

/-!
# Markup

Text that may hold style tags in square brackets and emoji names between colons.  A console without
colors drops the tags, but a tag that closes what is not open is still an error.

    render xs             the text that markup stands for
-/

namespace ModelSearch.Console

open Text

inductive MarkupFault where
  /-- A closing tag, as it is written, and its position. -/
  | notOpen (tag : String) (position : Nat)
  | nothingOpen (position : Nat)
  deriving DecidableEq, Repr

def MarkupFault.message : MarkupFault → String
  | .notOpen tag position =>
    "closing tag '" ++ tag ++ "' at position " ++ toString position
      ++ " doesn't match any open tag"
  | .nothingOpen position =>
    "closing tag '[/]' at position " ++ toString position ++ " has nothing to close"

/-! ## Emoji -/

/-- The two selectors that may follow the name of an emoji. -/
def emojiVariants : List (String × Char) := [("-text", '\ufe0e'), ("-emoji", '\ufe0f')]

/-- The text of a name between colons. -/
def emojiText (name : List Char) : Option (List Char) :=
  let variant := emojiVariants.findSome? fun v =>
    (cutSuffix v.1.toList name).map fun short => (short, [v.2])
  let (short, selector) := variant.getD (name, [])
  (emoji? (lower short)).map (· ++ selector)

/-- The text with emoji in place of their names.  `name` holds what follows an open colon, in
reverse; a blank ends it, and a colon closes it whether it names an emoji or not. -/
def withEmoji (name : Option (List Char)) : List Char → List Char
  | [] => match name with | some n => ':' :: n.reverse | none => []
  | c :: cs =>
    match name with
    | none => if c = ':' then withEmoji (some []) cs else c :: withEmoji none cs
    | some n =>
      if c = ':' then
        (emojiText n.reverse).getD (':' :: n.reverse ++ [':']) ++ withEmoji none cs
      else if isBlank c then ':' :: n.reverse ++ c :: withEmoji none cs
      else withEmoji (some (c :: n)) cs

/-! ## Plain pieces -/

/-- A backslash before a bracket that opens no tag only marks it. -/
def unmarkBrackets : List Char → List Char
  | [] => []
  | '\\' :: '[' :: cs => '[' :: unmarkBrackets cs
  | c :: cs => c :: unmarkBrackets cs

/-- The controls that no text on a console has. -/
def bannedControls : CharSet := [(0x07, 0x08), (0x0B, 0x0D)]

def withoutControls (xs : List Char) : List Char := xs.filter fun c => !bannedControls.has c

/-- The text of a piece between tags. -/
def plainPiece (xs : List Char) : List Char := withoutControls (withEmoji none (unmarkBrackets xs))

/-! ## Tags -/

/-- The content of the tag that an opening bracket starts, and what follows it. -/
def tagAt (xs : List Char) : Option (List Char × List Char) :=
  match xs with
  | '[' :: c :: rest =>
    if isAsciiLower c || c = '#' || c = '/' || c = '@' then
      match cutWhere (fun d => d = '[' || d = ']') rest with
      | (body, ']' :: after) => some (c :: body, after)
      | _ => none
    else none
  | _ => none

/-- A piece of markup: plain text, or a tag and its position. -/
inductive Piece where
  | plain (text : List Char)
  | tag (content : List Char) (position : Nat)
  deriving DecidableEq, Repr

/-- The plain text read so far, in reverse, as a piece. -/
def flushed (held : List Char) : List Piece :=
  if held.isEmpty then [] else [.plain held.reverse]

/-- The pieces of markup.  Of the backslashes before a tag each pair stands for one, and one that is
left makes the tag plain text. -/
def pieces (position : Nat) (held : List Char) : Nat → List Char → List Piece
  | 0, _ => flushed held
  | _ + 1, [] => flushed held
  | fuel + 1, c :: cs =>
    let run := (c :: cs).takeWhile (· = '\\')
    let n := run.length
    match tagAt ((c :: cs).drop n) with
    | some (content, rest) =>
      let size := content.length + 2
      let literal := if n < 2 then [] else [Piece.plain (List.replicate (n / 2) '\\')]
      let piece :=
        if n % 2 = 1 then Piece.plain ('[' :: content ++ [']']) else .tag content (position + n)
      flushed held ++ literal ++ piece :: pieces (position + n + size) [] fuel rest
    | none => pieces (position + 1) (c :: held) fuel cs

/-- The name of a tag, which ends at an equals sign. -/
def tagName (content : List Char) : List Char := content.takeWhile (· ≠ '=')

/-- The names that are open after a name is closed, the last opened first. -/
def close (name : List Char) : List (List Char) → Option (List (List Char))
  | [] => none
  | n :: ns => if n = name then some ns else (close name ns).map (n :: ·)

/-- The text of pieces while these names are open. -/
def renderPieces (opened : List (List Char)) : List Piece → Except MarkupFault (List Char)
  | [] => .ok []
  | .plain text :: rest => (renderPieces opened rest).map (plainPiece text ++ ·)
  | .tag content position :: rest =>
    match tagName content with
    | '/' :: name =>
      let name := strip name
      if name.isEmpty then
        match opened with
        | [] => .error (.nothingOpen position)
        | _ :: left => renderPieces left rest
      else
        match close (normalName name) opened with
        | none => .error (.notOpen (.ofList ('[' :: content ++ [']'])) position)
        | some left => renderPieces left rest
    | name => renderPieces (normalName name :: opened) rest

/-- The text that markup stands for. -/
def render (xs : List Char) : Except MarkupFault (List Char) :=
  renderPieces [] (pieces 0 [] xs.length xs)

end ModelSearch.Console
