import ModelSearch.Text.Lower

/-!
# Style names

The name of a style is a list of words: attributes, colors, a background after `on`, an attribute
switched off after `not`, an address after `link`.  Two names of the same style have the same normal
form, so that one closes what the other opens; a name that is no style stands for itself.

    normalName xs         the normal form of a name
-/

namespace ModelSearch.Console

open Text

/-- The attributes in the order of the normal form. -/
def attributes : List String :=
  ["bold", "dim", "italic", "underline", "blink", "blink2", "reverse", "conceal", "strike",
   "underline2", "frame", "encircle", "overline"]

/-- The short names of attributes. -/
def shortAttributes : List (String × String) :=
  [("d", "dim"), ("b", "bold"), ("i", "italic"), ("u", "underline"), ("r", "reverse"),
   ("c", "conceal"), ("s", "strike"), ("uu", "underline2"), ("o", "overline")]

/-- The colors that have a name, and the name of the color that is there anyway. -/
def colorNames : List String :=
  ["black", "red", "green", "yellow", "blue", "magenta", "cyan", "white", "bright_black",
   "bright_red", "bright_green", "bright_yellow", "bright_blue", "bright_magenta", "bright_cyan",
   "bright_white", "grey0", "gray0", "navy_blue", "dark_blue", "blue3", "blue1", "dark_green",
   "deep_sky_blue4", "dodger_blue3", "dodger_blue2", "green4", "spring_green4", "turquoise4",
   "deep_sky_blue3", "dodger_blue1", "green3", "spring_green3", "dark_cyan", "light_sea_green",
   "deep_sky_blue2", "deep_sky_blue1", "spring_green2", "cyan3", "dark_turquoise", "turquoise2",
   "green1", "spring_green1", "medium_spring_green", "cyan2", "cyan1", "dark_red", "deep_pink4",
   "purple4", "purple3", "blue_violet", "orange4", "grey37", "gray37", "medium_purple4",
   "slate_blue3", "royal_blue1", "chartreuse4", "dark_sea_green4", "pale_turquoise4",
   "steel_blue", "steel_blue3", "cornflower_blue", "chartreuse3", "cadet_blue", "sky_blue3",
   "steel_blue1", "pale_green3", "sea_green3", "aquamarine3", "medium_turquoise", "chartreuse2",
   "sea_green2", "sea_green1", "aquamarine1", "dark_slate_gray2", "dark_magenta", "dark_violet",
   "purple", "light_pink4", "plum4", "medium_purple3", "slate_blue1", "yellow4", "wheat4",
   "grey53", "gray53", "light_slate_grey", "light_slate_gray", "medium_purple",
   "light_slate_blue", "dark_olive_green3", "dark_sea_green", "light_sky_blue3", "sky_blue2",
   "dark_sea_green3", "dark_slate_gray3", "sky_blue1", "chartreuse1", "light_green",
   "pale_green1", "dark_slate_gray1", "red3", "medium_violet_red", "magenta3", "dark_orange3",
   "indian_red", "hot_pink3", "medium_orchid3", "medium_orchid", "medium_purple2",
   "dark_goldenrod", "light_salmon3", "rosy_brown", "grey63", "gray63", "medium_purple1",
   "gold3", "dark_khaki", "navajo_white3", "grey69", "gray69", "light_steel_blue3",
   "light_steel_blue", "yellow3", "dark_sea_green2", "light_cyan3", "light_sky_blue1",
   "green_yellow", "dark_olive_green2", "dark_sea_green1", "pale_turquoise1", "deep_pink3",
   "magenta2", "hot_pink2", "orchid", "medium_orchid1", "orange3", "light_pink3", "pink3",
   "plum3", "violet", "light_goldenrod3", "tan", "misty_rose3", "thistle3", "plum2", "khaki3",
   "light_goldenrod2", "light_yellow3", "grey84", "gray84", "light_steel_blue1", "yellow2",
   "dark_olive_green1", "honeydew2", "light_cyan1", "red1", "deep_pink2", "deep_pink1",
   "magenta1", "orange_red1", "indian_red1", "hot_pink", "dark_orange", "salmon1", "light_coral",
   "pale_violet_red1", "orchid2", "orchid1", "orange1", "sandy_brown", "light_salmon1",
   "light_pink1", "pink1", "plum1", "gold1", "navajo_white1", "misty_rose1", "thistle1",
   "yellow1", "light_goldenrod1", "khaki1", "wheat1", "cornsilk1", "grey100", "gray100", "grey3",
   "gray3", "grey7", "gray7", "grey11", "gray11", "grey15", "gray15", "grey19", "gray19",
   "grey23", "gray23", "grey27", "gray27", "grey30", "gray30", "grey35", "gray35", "grey39",
   "gray39", "grey42", "gray42", "grey46", "gray46", "grey50", "gray50", "grey54", "gray54",
   "grey58", "gray58", "grey62", "gray62", "grey66", "gray66", "grey70", "gray70", "grey74",
   "gray74", "grey78", "gray78", "grey82", "gray82", "grey85", "gray85", "grey89", "gray89",
   "grey93", "gray93", "default"]

/-! ## Words -/

/-- The words between blanks. -/
def blankWords (xs : List Char) : List (List Char) := (piecesBetween blanks xs).filter (!·.isEmpty)

def attribute? (w : String) : Option String :=
  match shortAttributes.find? fun p => p.1 = w with
  | some (_, name) => some name
  | none => attributes.find? (· = w)

/-- A number from 0 to 255 in at most `most` digits. -/
def isColorLevel (most : Nat) (xs : List Char) : Bool :=
  !xs.isEmpty && xs.length ≤ most && xs.all isAsciiDigit
    && (xs.foldl (fun n c => n * 10 + (c.toNat - 48)) 0) ≤ 255

/-- What stands between a word and the closing parenthesis at the end. -/
def enclosed (opening : String) (xs : List Char) : Option (List Char) :=
  (afterStart opening.toList xs).bind (cutSuffix [')'])

def isColor (xs : List Char) : Bool :=
  if colorNames.contains (.ofList xs) then true
  else
    match xs with
    | '#' :: digits =>
      digits.length = 6 && digits.all fun c => isAsciiDigit c || ('a' ≤ c && c ≤ 'f')
    | xs =>
      match enclosed "color(" xs, enclosed "rgb(" xs with
      | some n, _ => isColorLevel 3 n
      | none, some ns =>
        let parts := splitAt ',' ns
        parts.length = 3 && parts.all fun p => isColorLevel p.length p
      | none, none => false

/-! ## Normal form -/

structure Style where
  /-- The attributes that are switched, on or off. -/
  switches : List (String × Bool) := []
  color : Option (List Char) := none
  background : Option (List Char) := none
  link : Option (List Char) := none

/-- A style with an attribute switched, the last switch being the one that holds. -/
def Style.switch (s : Style) (name : String) (on : Bool) : Style :=
  { s with switches := (name, on) :: s.switches }

/-- The style of words, if they name one. -/
def styleOf (s : Style) : List (List Char) → Option Style
  | [] => some s
  | shown :: rest =>
    let word := lower shown
    if word = "on".toList then
      match rest with
      | color :: rest =>
        if isColor (lower color) then styleOf { s with background := some (lower color) } rest
        else none
      | [] => none
    else if word = "not".toList then
      match rest with
      | name :: rest =>
        match attribute? (.ofList name) with
        | some a => styleOf (s.switch a false) rest
        | none => none
      | [] => none
    else if word = "link".toList then
      match rest with
      | address :: rest => styleOf { s with link := some address } rest
      | [] => none
    else
      match attribute? (.ofList word) with
      | some a => styleOf (s.switch a true) rest
      | none => if isColor word then styleOf { s with color := some word } rest else none

def Style.words (s : Style) : List String :=
  let switched := attributes.filterMap fun a =>
    (s.switches.find? fun p => p.1 = a).map fun p => if p.2 then a else "not " ++ a
  let colors := match s.color with | some c => [.ofList c] | none => []
  let grounds := match s.background with | some c => ["on", .ofList c] | none => []
  let links := match s.link with | some l => ["link", .ofList l] | none => []
  switched ++ colors ++ grounds ++ links

/-- The normal form of a style name. -/
def normalName (xs : List Char) : List Char :=
  if strip xs = "none".toList then "none".toList
  else
    match styleOf {} (blankWords xs) with
    | some s => if s.words.isEmpty then "none".toList else (joinWith " " s.words).toList
    | none => strip (lower xs)

end ModelSearch.Console
