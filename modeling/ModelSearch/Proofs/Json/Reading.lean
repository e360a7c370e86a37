import ModelSearch.CommandLine.Answer
import ModelSearch.Proofs.Text.Cutting

/-!
# Objects of texts in JSON

What a reader of JSON makes of a text: the members of the one object in it, if every member is a
text.  White space may stand between the parts, and a character of a text may be written in any of
its escapes.  A line of members is read back as these members.

    textObject? s                      the members of the object that `s` is
    textObject? (jsonLine ms) = some ms                                      (textObject?_jsonLine)
-/

namespace ModelSearch

open Text

namespace JsonValue

/-! ## Reader -/

def afterSpace (xs : List Char) : List Char :=
  xs.dropWhile fun c => c = ' ' || c = '\t' || c = '\n' || c = '\r'

/-- What a backslash and this character stand for. -/
def shortEscape? (c : Char) : Option Char :=
  if c = '"' || c = '\\' || c = '/' then some c
  else if c = 'b' then some '\x08'
  else if c = 'f' then some '\x0c'
  else if c = 'n' then some '\n'
  else if c = 'r' then some '\r'
  else if c = 't' then some '\t'
  else none

/-- The 16-bit unit of four digits, and what follows them. -/
def readUnit (xs : List Char) : Option (Nat × List Char) :=
  match xs with
  | a :: b :: c :: d :: rest => do
    let digits ← [a, b, c, d].mapM hexValue?
    return (digits.foldl (fun n d => n * 16 + d) 0, rest)
  | _ => none

def isHighUnit (n : Nat) : Bool := 0xD800 ≤ n && n < 0xDC00

def isLowUnit (n : Nat) : Bool := 0xDC00 ≤ n && n < 0xE000

/-- The character that two units stand for. -/
def ofUnits (high low : Nat) : Char :=
  .ofNat (0x10000 + (high - 0xD800) * 0x400 + (low - 0xDC00))

/-- The second of two units that stand for one character. -/
def readLowUnit (xs : List Char) : Option (Nat × List Char) :=
  match xs with
  | '\\' :: 'u' :: rest => (readUnit rest).filter fun r => isLowUnit r.1
  | _ => none

/-- The character of an escape, behind its backslash, and what follows it. -/
def readEscape (xs : List Char) : Option (Char × List Char) :=
  match xs with
  | [] => none
  | 'u' :: rest => do
    let (n, rest) ← readUnit rest
    if isHighUnit n then do
      let (m, rest) ← readLowUnit rest
      return (ofUnits n m, rest)
    else if isLowUnit n then none
    else return (.ofNat n, rest)
  | c :: rest => (shortEscape? c).map fun d => (d, rest)

/-- The text up to the closing quote, and what follows it. -/
def readText : Nat → List Char → Option (List Char × List Char)
  | 0, _ => none
  | _ + 1, [] => none
  | fuel + 1, c :: rest =>
    if c = '"' then some ([], rest)
    else if c = '\\' then do
      let (d, rest) ← readEscape rest
      let (ds, rest) ← readText fuel rest
      return (d :: ds, rest)
    else if c.toNat < 0x20 then none
    else do
      let (ds, rest) ← readText fuel rest
      return (c :: ds, rest)

/-- A text in quotes, behind white space, and what follows it. -/
def readQuoted (xs : List Char) : Option (String × List Char) :=
  match afterSpace xs with
  | '"' :: rest => (readText rest.length rest).map fun r => (.ofList r.1, r.2)
  | _ => none

/-- A name and a text with a colon between them, and what follows them. -/
def readMember (xs : List Char) : Option ((String × String) × List Char) := do
  let (name, rest) ← readQuoted xs
  match afterSpace rest with
  | ':' :: rest => do
    let (value, rest) ← readQuoted rest
    return ((name, value), rest)
  | _ => none

/-- Members with commas between them up to the closing brace, and what follows it. -/
def readMembers : Nat → List Char → Option (List (String × String) × List Char)
  | 0, _ => none
  | fuel + 1, xs => do
    let (m, rest) ← readMember xs
    match afterSpace rest with
    | ',' :: rest => do
      let (ms, rest) ← readMembers fuel rest
      return (m :: ms, rest)
    | '\x7d' :: rest => return ([m], rest)
    | _ => none

/-- What stands behind an opening brace. -/
def readObject (xs : List Char) : Option (List (String × String) × List Char) :=
  match afterSpace xs with
  | '\x7d' :: rest => some ([], rest)
  | rest => readMembers rest.length rest

/-- The members of the one object that a text is, if all of them are texts. -/
def textObject? (s : String) : Option (List (String × String)) :=
  match afterSpace s.toList with
  | '\x7b' :: rest => do
    let (ms, rest) ← readObject rest
    if (afterSpace rest).isEmpty then some ms else none
  | _ => none

/-! ## Characters -/

theorem hexValue?_hexDigit {n : Nat} (h : n < 16) : hexValue? (hexDigit n) = some n := by
  have hall : ∀ k : Fin 16, hexValue? (hexDigit k) = some k.val := by decide
  exact hall ⟨n, h⟩

theorem readUnit_hexDigits {n : Nat} (h : n < 0x10000) (rest : List Char) :
    readUnit (hexDigits 4 n ++ rest) = some (n, rest) := by
  have hdigit : ∀ k, hexValue? (hexDigit (k % 16)) = some (k % 16) := fun k =>
    hexValue?_hexDigit (Nat.mod_lt k (by decide))
  have hsum : ((n / 16 / 16 / 16 % 16 * 16 + n / 16 / 16 % 16) * 16 + n / 16 % 16) * 16 + n % 16
      = n := by
    omega
  simp [readUnit, hexDigits, hdigit, hsum]

theorem readText_escape {fuel : Nat} {c : Char} (escape : List Char) {rest : List Char}
    (h : readEscape (escape ++ rest) = some (c, rest)) :
    readText (fuel + 1) ('\\' :: escape ++ rest) =
      (readText fuel rest).map fun r => (c :: r.1, r.2) := by
  have hquote : '\\' ≠ '"' := by decide
  simp only [List.cons_append, readText, hquote, if_false, if_true, h, Option.bind_eq_bind,
    Option.bind_some]
  cases readText fuel rest <;> rfl

/-- A character of the plane of 16 bits in one unit. -/
theorem readEscape_unit {c : Char} (h : c.toNat < 0x10000) (rest : List Char) :
    readEscape ('u' :: hexDigits 4 c.toNat ++ rest) = some (c, rest) := by
  have hvalid : c.toNat < 0xD800 ∨ 0xDFFF < c.toNat ∧ c.toNat < 0x110000 := c.valid
  have hhigh : isHighUnit c.toNat = false := by
    simp only [isHighUnit, Bool.and_eq_false_iff, decide_eq_false_iff_not]
    omega
  have hlow : isLowUnit c.toNat = false := by
    simp only [isLowUnit, Bool.and_eq_false_iff, decide_eq_false_iff_not]
    omega
  have hunit := readUnit_hexDigits h rest
  simp only [List.cons_append, readEscape, hunit, Option.bind_eq_bind, Option.bind_some, hhigh,
    hlow, Bool.false_eq_true, if_false, Char.ofNat_toNat]
  rfl

/-- A character beyond that plane in two units. -/
theorem readEscape_units {c : Char} {m k : Nat} (h : 0x10000 ≤ c.toNat)
    (hm : m = 0xD800 + (c.toNat - 0x10000) / 0x400) (hk : k = 0xDC00 + (c.toNat - 0x10000) % 0x400)
    (rest : List Char) :
    readEscape ('u' :: hexDigits 4 m ++ unitEscape k ++ rest) = some (c, rest) := by
  have hvalid : c.toNat < 0xD800 ∨ 0xDFFF < c.toNat ∧ c.toNat < 0x110000 := c.valid
  have hhigh : isHighUnit m = true := by
    simp only [isHighUnit, Bool.and_eq_true, decide_eq_true_eq]
    omega
  have hlow : isLowUnit k = true := by
    simp only [isLowUnit, Bool.and_eq_true, decide_eq_true_eq]
    omega
  have hsum : 0x10000 + (m - 0xD800) * 0x400 + (k - 0xDC00) = c.toNat := by omega
  have hchar : ofUnits m k = c := by rw [ofUnits, hsum, Char.ofNat_toNat]
  have hlast : readLowUnit (unitEscape k ++ rest) = some (k, rest) := by
    simp only [readLowUnit, unitEscape, List.cons_append,
      readUnit_hexDigits (n := k) (by omega) rest, Option.filter_some, hlow, if_true]
  have hfirst := readUnit_hexDigits (n := m) (by omega) (unitEscape k ++ rest)
  rw [List.cons_append, List.cons_append, List.append_assoc]
  simp only [readEscape, hfirst, Option.bind_eq_bind, Option.bind_some, hhigh, if_true, hlast,
    hchar]
  rfl

/-- A character and the text behind it. -/
theorem readText_escapedChar (fuel : Nat) (c : Char) (rest : List Char) :
    readText (fuel + 1) (escapedChar c ++ rest) =
      (readText fuel rest).map fun r => (c :: r.1, r.2) := by
  unfold escapedChar
  dsimp only
  split
  next hmark =>
    refine readText_escape [c] ?_
    simp only [Bool.or_eq_true, decide_eq_true_eq] at hmark
    rcases hmark with rfl | rfl <;> rfl
  next hmark =>
  split
  next hplain =>
    simp only [Bool.and_eq_true, decide_eq_true_eq] at hplain
    simp only [Bool.or_eq_true, decide_eq_true_eq, not_or] at hmark
    simp only [List.singleton_append, readText, hmark.1, hmark.2, Nat.not_lt.2 hplain.1, if_false]
    cases readText fuel rest <;> rfl
  split
  next h => exact readText_escape ['n'] (by rw [h]; rfl)
  split
  next h => exact readText_escape ['r'] (by rw [h]; rfl)
  split
  next h => exact readText_escape ['t'] (by rw [h]; rfl)
  split
  next h =>
    have hc : c = '\x0c' := Char.toNat_inj.1 h
    exact readText_escape ['f'] (by rw [hc]; rfl)
  split
  next h =>
    have hc : c = '\x08' := Char.toNat_inj.1 h
    exact readText_escape ['b'] (by rw [hc]; rfl)
  split
  next h => exact readText_escape _ (readEscape_unit h rest)
  next h => exact readText_escape _ (readEscape_units (Nat.not_lt.1 h) rfl rfl rest)

/-! ## Texts -/

theorem readText_flatMap {fuel : Nat} (xs : List Char) (h : xs.length < fuel) (rest : List Char) :
    readText fuel (xs.flatMap escapedChar ++ '"' :: rest) = some (xs, rest) := by
  induction xs generalizing fuel with
  | nil =>
    obtain ⟨n, rfl⟩ := Nat.exists_eq_add_of_lt h
    simp [readText]
  | cons c cs ih =>
    obtain ⟨n, rfl⟩ : ∃ n, fuel = n + 1 := Nat.exists_eq_add_one.2 (Nat.zero_lt_of_lt h)
    rw [List.flatMap_cons, List.append_assoc, readText_escapedChar, ih (Nat.lt_of_succ_lt_succ h)]
    rfl

theorem length_le_flatMap_escapedChar (xs : List Char) :
    xs.length ≤ (xs.flatMap escapedChar).length := by
  induction xs with
  | nil => exact Nat.le_refl 0
  | cons c cs ih =>
    have hc : 0 < (escapedChar c).length := by
      simp only [escapedChar, unitEscape]
      repeat' split
      all_goals simp
    rw [List.flatMap_cons, List.length_append, List.length_cons]
    omega

theorem readQuoted_quoted {s : String} {xs rest : List Char}
    (h : afterSpace xs = (quoted s).toList ++ rest) : readQuoted xs = some (s, rest) := by
  have hlen := length_le_flatMap_escapedChar s.toList
  have hfuel : s.toList.length < (s.toList.flatMap escapedChar ++ '"' :: rest).length := by
    rw [List.length_append, List.length_cons]
    omega
  have htext := readText_flatMap s.toList hfuel rest
  simp only [quoted, String.toList_ofList, List.cons_append, List.append_assoc,
    List.nil_append] at h
  simp only [readQuoted, h, htext, Option.map_some, String.ofList_toList]

/-! ## Objects -/

/-- A member as it is written. -/
def memberText (m : String × String) : List Char :=
  (quoted m.1).toList ++ ':' :: ' ' :: (quoted m.2).toList

theorem afterSpace_quoted (s : String) (rest : List Char) :
    afterSpace ((quoted s).toList ++ rest) = (quoted s).toList ++ rest := by
  simp [afterSpace, quoted]

theorem afterSpace_space (xs : List Char) : afterSpace (' ' :: xs) = afterSpace xs := by
  simp [afterSpace]

theorem readMember_memberText {m : String × String} {xs rest : List Char}
    (h : afterSpace xs = memberText m ++ rest) : readMember xs = some (m, rest) := by
  have hname : afterSpace xs
      = (quoted m.1).toList ++ (':' :: ' ' :: (quoted m.2).toList ++ rest) := by
    simpa [memberText] using h
  have hcolon : afterSpace (':' :: ' ' :: ((quoted m.2).toList ++ rest))
      = ':' :: ' ' :: ((quoted m.2).toList ++ rest) := by
    simp [afterSpace]
  have hvalue : readQuoted (' ' :: ((quoted m.2).toList ++ rest)) = some (m.2, rest) :=
    readQuoted_quoted (by rw [afterSpace_space, afterSpace_quoted])
  simp only [readMember, readQuoted_quoted hname, Option.bind_eq_bind, Option.bind_some,
    List.cons_append, hcolon, hvalue, pure]

/-- Members with commas between them start with a quote. -/
theorem intercalate_eq_cons {ms : List (String × String)} (hne : ms ≠ []) :
    ∃ ys, [',', ' '].intercalate (ms.map memberText) = '"' :: ys ∧ ms.length ≤ ys.length := by
  induction ms with
  | nil => exact absurd rfl hne
  | cons m ms ih =>
    obtain ⟨ys, hys, hlen⟩ : ∃ ys, memberText m = '"' :: ys ∧ 0 < ys.length :=
      ⟨_, by rw [memberText, quoted, String.toList_ofList, List.cons_append, List.cons_append],
        by simp only [List.length_append, List.length_cons]; omega⟩
    by_cases hms : ms = []
    · subst hms
      exact ⟨ys, by simp [List.intercalate, hys], hlen⟩
    · obtain ⟨zs, hzs, hmore⟩ := ih hms
      refine ⟨ys ++ [',', ' '] ++ '"' :: zs, ?_, ?_⟩
      · rw [List.map_cons, Text.intercalate_cons_of_ne_nil (by simpa using hms), hys, hzs]
        rfl
      · simp only [List.length_cons, List.length_append]
        omega

theorem afterSpace_intercalate {ms : List (String × String)} (hne : ms ≠ []) (rest : List Char) :
    afterSpace ([',', ' '].intercalate (ms.map memberText) ++ rest)
      = [',', ' '].intercalate (ms.map memberText) ++ rest := by
  obtain ⟨ys, hys, -⟩ := intercalate_eq_cons hne
  simp [hys, afterSpace]

theorem readMembers_intercalate {ms : List (String × String)} (hne : ms ≠ []) {fuel : Nat}
    (hfuel : ms.length ≤ fuel) {xs rest : List Char}
    (h : afterSpace xs = [',', ' '].intercalate (ms.map memberText) ++ '\x7d' :: rest) :
    readMembers fuel xs = some (ms, rest) := by
  induction ms generalizing fuel xs with
  | nil => exact absurd rfl hne
  | cons m ms ih =>
    obtain ⟨n, rfl⟩ : ∃ n, fuel = n + 1 := Nat.exists_eq_add_one.2 (Nat.zero_lt_of_lt hfuel)
    rw [List.map_cons] at h
    by_cases hms : ms = []
    · subst hms
      have hm : afterSpace xs = memberText m ++ '\x7d' :: rest := by
        simpa [List.intercalate] using h
      have hbrace : afterSpace ('\x7d' :: rest) = '\x7d' :: rest := by simp [afterSpace]
      simp only [readMembers, readMember_memberText hm, Option.bind_eq_bind, Option.bind_some,
        hbrace, pure]
    · have hnext := afterSpace_intercalate hms ('\x7d' :: rest)
      generalize hys : [',', ' '].intercalate (ms.map memberText) ++ '\x7d' :: rest = ys at hnext ih
      have hm : afterSpace xs = memberText m ++ ',' :: ' ' :: ys := by
        rw [h, Text.intercalate_cons_of_ne_nil (by simpa using hms), ← hys]
        simp
      have hcomma : afterSpace (',' :: ' ' :: ys) = ',' :: ' ' :: ys := by simp [afterSpace]
      have hmore : readMembers n (' ' :: ys) = some (ms, rest) :=
        ih hms (Nat.le_of_succ_le_succ hfuel) (by rw [afterSpace_space, hnext])
      simp only [readMembers, readMember_memberText hm, Option.bind_eq_bind, Option.bind_some,
        hcomma, hmore, pure]

theorem memberTexts_line (ms : List (String × String)) :
    (memberTexts .line 1 (ms.map fun m => (m.1, .string m.2))).map String.toList
      = ms.map memberText := by
  induction ms with
  | nil => rfl
  | cons m ms ih => simp [memberTexts, textAt, memberText, ih]

theorem toList_jsonLine {ms : List (String × String)} (h : ms ≠ []) :
    (CommandLine.jsonLine ms).toList
      = '\x7b' :: ([',', ' '].intercalate (ms.map memberText) ++ ['\x7d', '\n']) := by
  have hne : (memberTexts .line 1 (ms.map fun m => (m.1, .string m.2))).isEmpty = false := by
    obtain ⟨m, ms, rfl⟩ := List.exists_cons_of_ne_nil h
    rfl
  rw [CommandLine.jsonLine, text, textAt, bracketed, hne]
  simp [joinWith, memberTexts_line]

/-- A line of members is read back. -/
theorem textObject?_jsonLine (ms : List (String × String)) :
    textObject? (CommandLine.jsonLine ms) = some ms := by
  by_cases h : ms = []
  · subst h
    decide +kernel
  · obtain ⟨ys, hys, hlen⟩ := intercalate_eq_cons h
    have hlist := toList_jsonLine h
    have hopen := afterSpace_intercalate h ['\x7d', '\n']
    rw [hys, List.cons_append] at hlist hopen
    have hobject : readObject ('"' :: (ys ++ ['\x7d', '\n'])) = some (ms, ['\n']) := by
      rw [readObject, hopen]
      refine readMembers_intercalate h ?_ (by rw [hopen, hys]; rfl)
      simp only [List.length_cons, List.length_append]
      omega
    have hbrace : ∀ zs, afterSpace ('\x7b' :: zs) = '\x7b' :: zs := fun zs => by simp [afterSpace]
    have hend : (afterSpace ['\n']).isEmpty = true := by simp [afterSpace]
    simp only [textObject?, hlist, hbrace, hobject, Option.bind_eq_bind, Option.bind_some, hend,
      if_true]

end JsonValue

end ModelSearch
