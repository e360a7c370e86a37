/-!
# Character lists

The text operations the rest of the library is written with.  All of them work on
`List Char` by structural recursion; `String` is the type of the public interfaces.

    splitAt sep xs        the pieces between separators, at least one   (splitAt_ne_nil)
    firstCut sep xs       what stands before and after the first separator
    lastCut sep xs        what stands before and after the last one
    strip xs              without the blanks at both ends
-/

namespace ModelSearch.Text

/-- A set of characters as inclusive ranges of code points. -/
abbrev CharSet := List (Nat × Nat)

def CharSet.has (s : CharSet) (c : Char) : Bool :=
  s.any fun r => r.1 ≤ c.toNat && c.toNat ≤ r.2

/-! ## Blanks -/

/-- The blanks that `strip` removes: the separators of every script and the
control characters that act as separators. -/
def blanks : CharSet :=
  [(0x09, 0x0D), (0x1C, 0x20), (0x85, 0x85), (0xA0, 0xA0), (0x1680, 0x1680), (0x2000, 0x200A),
   (0x2028, 0x2029), (0x202F, 0x202F), (0x205F, 0x205F), (0x3000, 0x3000)]

def isBlank (c : Char) : Bool := blanks.has c

def stripLeft (xs : List Char) : List Char := xs.dropWhile isBlank

/-- `xs` without the characters at its end that satisfy `p`. -/
def dropRightWhile (p : Char → Bool) : List Char → List Char
  | [] => []
  | c :: cs =>
    match dropRightWhile p cs with
    | [] => if p c then [] else [c]
    | rest => c :: rest

def stripRight (xs : List Char) : List Char := dropRightWhile isBlank xs

def strip (xs : List Char) : List Char := stripRight (stripLeft xs)

/-- `strip` on strings. -/
def stripped (s : String) : String := .ofList (strip s.toList)

/-! ## Cutting -/

/-- The pieces of `xs` between occurrences of `sep`. -/
def splitAt (sep : Char) : List Char → List (List Char)
  | [] => [[]]
  | c :: cs =>
    if c = sep then [] :: splitAt sep cs
    else
      match splitAt sep cs with
      | [] => [[c]]
      | p :: ps => (c :: p) :: ps

/-- The pieces of `xs` between characters of a set. -/
def piecesBetween (s : CharSet) : List Char → List (List Char)
  | [] => [[]]
  | c :: cs =>
    if s.has c then [] :: piecesBetween s cs
    else
      match piecesBetween s cs with
      | [] => [[c]]
      | p :: ps => (c :: p) :: ps

/-- The parts before and after the first `sep`. -/
def firstCut (sep : Char) : List Char → Option (List Char × List Char)
  | [] => none
  | c :: cs =>
    if c = sep then some ([], cs)
    else (firstCut sep cs).map fun p => (c :: p.1, p.2)

/-- The parts before and after the last `sep`. -/
def lastCut (sep : Char) : List Char → Option (List Char × List Char)
  | [] => none
  | c :: cs =>
    match lastCut sep cs with
    | some (before, after) => some (c :: before, after)
    | none => if c = sep then some ([], cs) else none

/-- The parts before and after the first character that satisfies `p`, which opens
the second part; the second part is empty if there is none. -/
def cutWhere (p : Char → Bool) : List Char → List Char × List Char
  | [] => ([], [])
  | c :: cs => if p c then ([], c :: cs) else let r := cutWhere p cs; (c :: r.1, r.2)

/-- `xs` without the suffix `suf`, if it ends with it. -/
def cutSuffix (suf xs : List Char) : Option (List Char) :=
  if suf.isSuffixOf xs then some (xs.take (xs.length - suf.length)) else none

/-- What follows `pre` in `xs`, if it starts with it. -/
def afterStart (pre xs : List Char) : Option (List Char) :=
  match pre, xs with
  | [], xs => some xs
  | p :: ps, x :: xs => if p = x then afterStart ps xs else none
  | _ :: _, [] => none

/-- The position of the first occurrence of `word` in `xs`. -/
def findWord (word : List Char) : List Char → Option Nat
  | [] => if word.isEmpty then some 0 else none
  | c :: cs =>
    if word.isPrefixOf (c :: cs) then some 0
    else (findWord word cs).map (· + 1)

/-- The strings with `sep` between them. -/
def joinWith (sep : String) (parts : List String) : String := sep.intercalate parts

/-- `c` written `n` times. -/
def repeated (n : Nat) (c : Char) : String := .ofList (List.replicate n c)

/-- Break a text at a length: pieces of `n` characters, the last one shorter. -/
def chunksOf (n : Nat) : Nat → List Char → List (List Char)
  | 0, _ => []
  | _ + 1, [] => []
  | fuel + 1, xs => xs.take n :: chunksOf n fuel (xs.drop n)

/-- A line break of any convention becomes a single line feed. -/
def unifyBreaks : List Char → List Char
  | [] => []
  | '\r' :: '\n' :: cs => '\n' :: unifyBreaks cs
  | '\r' :: cs => '\n' :: unifyBreaks cs
  | c :: cs => c :: unifyBreaks cs

/-! ## Character classes of the ASCII range -/

def isAsciiDigit (c : Char) : Bool := '0' ≤ c && c ≤ '9'

def isAsciiLower (c : Char) : Bool := 'a' ≤ c && c ≤ 'z'

def isAsciiLetter (c : Char) : Bool := isAsciiLower c || ('A' ≤ c && c ≤ 'Z')

/-- The value of a hexadecimal digit. -/
def hexValue? (c : Char) : Option Nat :=
  if isAsciiDigit c then some (c.toNat - 48)
  else if 'a' ≤ c && c ≤ 'f' then some (c.toNat - 87)
  else if 'A' ≤ c && c ≤ 'F' then some (c.toNat - 55)
  else none

def hexDigit (n : Nat) : Char := if n < 10 then .ofNat (48 + n) else .ofNat (87 + n)

/-- `n` in base 16 with `width` digits, the most significant first. -/
def hexDigits : Nat → Nat → List Char
  | 0, _ => []
  | width + 1, n => hexDigits width (n / 16) ++ [hexDigit (n % 16)]

def upperHexDigits (width n : Nat) : List Char := (hexDigits width n).map Char.toUpper

/-- `n` in base 10, filled with zeros up to `width` digits. -/
def padded (width n : Nat) : String :=
  let digits := toString n
  repeated (width - digits.length) '0' ++ digits

/-! ## Lemmas -/

theorem splitAt_ne_nil (sep : Char) (xs : List Char) : splitAt sep xs ≠ [] := by
  cases xs with
  | nil => simp [splitAt]
  | cons c cs =>
    unfold splitAt
    split
    · simp
    · split <;> simp

/-- A text without the separator is its own only piece. -/
theorem splitAt_of_notMem (sep : Char) (xs : List Char) (h : sep ∉ xs) :
    splitAt sep xs = [xs] := by
  induction xs with
  | nil => rfl
  | cons c cs ih =>
    simp only [List.mem_cons, not_or] at h
    have hc : ¬c = sep := fun e => h.1 e.symm
    simp [splitAt, hc, ih h.2]

end ModelSearch.Text
