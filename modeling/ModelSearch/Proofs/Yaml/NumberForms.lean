import ModelSearch.Proofs.Number.Decimal
import ModelSearch.Proofs.Text.Cutting
import ModelSearch.Yaml.Implicit

/-!
# How numbers are spelled

A plain text is taken for a number by its form: an optional sign, and then a digit or a point and
more characters, of digits, letters and a few signs.  Such a text has no blank in it and does not end
in a colon, whatever the notation, so a document can hold it as it is.

    looksInt xs → xs is a sign or none, and a body                       (numberForm_of_looksInt)
    looksFloat xs → xs is a sign or none, and a body                     (numberForm_of_looksFloat)
    looksFloat xs → '.' ∈ xs                                             (point_mem_of_looksFloat)
-/

namespace ModelSearch.Yaml

open Text (isAsciiDigit CharSet splitAt cutWhere firstCut afterStart)

/-! ## Characters -/

/-- The characters of numbers: signs, the point, digits and the colon, letters and the underscore. -/
def numberChars : CharSet :=
  [(0x2B, 0x2B), (0x2D, 0x2E), (0x30, 0x3A), (0x41, 0x5A), (0x5F, 0x5F), (0x61, 0x7A)]

/-- What holds of all characters of numbers can be computed. -/
theorem forall_numberChars {p : Char → Prop} [DecidablePred p]
    (h : ∀ n < 0x7B, numberChars.has (.ofNat n) = true → p (.ofNat n)) {c : Char}
    (hc : numberChars.has c = true) : p c := by
  have hlt : c.toNat < 0x7B := by
    simp only [numberChars, CharSet.has, List.any_cons, List.any_nil, Bool.or_eq_true,
      Bool.and_eq_true, decide_eq_true_eq, Bool.or_false] at hc
    omega
  have := h c.toNat hlt
  rw [Char.ofNat_toNat] at this
  exact this hc

/-- A character of a number other than the colon. -/
def IsNumberSign (c : Char) : Prop := numberChars.has c = true ∧ c ≠ ':'

theorem isNumberSign_of_between {c : Char}
    (h : (48 ≤ c.toNat ∧ c.toNat ≤ 57) ∨ (65 ≤ c.toNat ∧ c.toNat ≤ 90) ∨ c.toNat = 95 ∨
      (97 ≤ c.toNat ∧ c.toNat ≤ 122)) : IsNumberSign c := by
  constructor
  · simp only [numberChars, CharSet.has, List.any_cons, List.any_nil, Bool.or_eq_true,
      Bool.and_eq_true, decide_eq_true_eq, Bool.or_false]
    omega
  · rintro rfl
    revert h
    decide

theorem isNumberSign_of_isAsciiDigit {c : Char} (h : isAsciiDigit c = true) : IsNumberSign c :=
  isNumberSign_of_between (.inl (Text.isAsciiDigit_iff.1 h))

theorem isNumberSign_of_isDigitOrLine {c : Char} (h : isDigitOrLine c = true) : IsNumberSign c := by
  rcases Bool.or_eq_true_iff.1 h with h | h
  · exact isNumberSign_of_isAsciiDigit h
  · rw [of_decide_eq_true h]
    exact ⟨rfl, by decide⟩

theorem isNumberSign_of_hexValue {c : Char} (h : (Text.hexValue? c).isSome = true) :
    IsNumberSign c := by
  unfold Text.hexValue? at h
  split at h
  next hd => exact isNumberSign_of_isAsciiDigit hd
  split at h
  next hl =>
    simp only [Bool.and_eq_true, decide_eq_true_eq] at hl
    have h₁ : 97 ≤ c.toNat := hl.1
    have h₂ : c.toNat ≤ 102 := hl.2
    exact isNumberSign_of_between (by omega)
  split at h
  next hu =>
    simp only [Bool.and_eq_true, decide_eq_true_eq] at hu
    have h₁ : 65 ≤ c.toNat := hu.1
    have h₂ : c.toNat ≤ 70 := hu.2
    exact isNumberSign_of_between (by omega)
  · cases h

/-! ## Parts -/

/-- The characters of a body: a digit or a point at its start, no colon at its end. -/
structure NumberBody (xs : List Char) : Prop where
  chars : ∀ c ∈ xs, numberChars.has c = true
  head : ∃ c cs, xs = c :: cs ∧ (isAsciiDigit c = true ∨ c = '.')
  last : xs.getLast? ≠ some ':'

/-- A sign, or none, and a body. -/
def NumberForm (xs : List Char) : Prop :=
  ∃ sign body, xs = sign ++ body ∧ sign ∈ [[], ['-'], ['+']] ∧ NumberBody body

theorem NumberBody.of_signs {c : Char} {cs : List Char} (hc : isAsciiDigit c = true ∨ c = '.')
    (h : ∀ d ∈ cs, IsNumberSign d) : NumberBody (c :: cs) := by
  have hall : ∀ d ∈ c :: cs, IsNumberSign d := by
    intro d hd
    rcases List.mem_cons.1 hd with rfl | hd
    · rcases hc with hc | rfl
      · exact isNumberSign_of_isAsciiDigit hc
      · exact ⟨rfl, by decide⟩
    · exact h d hd
  exact ⟨fun d hd => (hall d hd).1, ⟨c, cs, rfl, hc⟩,
    fun hl => (hall _ (List.mem_of_getLast? hl)).2 rfl⟩

theorem exists_dropSign (xs : List Char) :
    ∃ sign, xs = sign ++ dropSign xs ∧ sign ∈ [[], ['-'], ['+']] := by
  unfold dropSign
  split
  · exact ⟨['-'], rfl, by simp⟩
  · exact ⟨['+'], rfl, by simp⟩
  · exact ⟨[], rfl, by simp⟩

theorem NumberForm.of_body {xs : List Char} (h : NumberBody (dropSign xs)) : NumberForm xs := by
  obtain ⟨sign, hxs, hsign⟩ := exists_dropSign xs
  exact ⟨sign, dropSign xs, hxs, hsign, h⟩

theorem digitRun?_eq_some {xs rest : List Char} (h : digitRun? xs = some rest) :
    ∃ c run, xs = c :: (run ++ rest) ∧ isAsciiDigit c = true ∧ ∀ d ∈ run, IsNumberSign d := by
  unfold digitRun? at h
  split at h
  next c cs =>
    split at h
    next hc =>
      cases h
      refine ⟨c, (cutWhere (fun c => !isDigitOrLine c) cs).1, ?_, hc, fun d hd => ?_⟩
      · rw [Text.cutWhere_parts]
      · exact isNumberSign_of_isDigitOrLine (by simpa using Text.neg_of_mem_cutWhere hd)
    · cases h
  · cases h

theorem sign_of_endsInExponent {xs : List Char} (h : endsInExponent xs = true) :
    ∀ c ∈ xs, IsNumberSign c := by
  unfold endsInExponent at h
  split at h
  · exact nofun
  next e s d ds =>
    simp only [Bool.and_eq_true, Bool.or_eq_true, decide_eq_true_eq, List.all_eq_true] at h
    obtain ⟨⟨he, hs⟩, hds⟩ := h
    intro c hc
    rcases List.mem_cons.1 hc with rfl | hc
    · rcases he with rfl | rfl <;> exact ⟨rfl, by decide⟩
    rcases List.mem_cons.1 hc with rfl | hc
    · rcases hs with rfl | rfl <;> exact ⟨rfl, by decide⟩
    · exact isNumberSign_of_isAsciiDigit (hds c hc)
  · cases h

theorem isSixtieth_digits {xs : List Char} (h : isSixtieth xs = true) :
    xs ≠ [] ∧ ∀ c ∈ xs, IsNumberSign c := by
  unfold isSixtieth at h
  split at h
  next a => exact ⟨nofun, fun c hc => List.mem_singleton.1 hc ▸ isNumberSign_of_isAsciiDigit h⟩
  next a b =>
    simp only [Bool.and_eq_true, decide_eq_true_eq] at h
    obtain ⟨⟨h₀, h₅⟩, hb⟩ := h
    refine ⟨nofun, fun c hc => ?_⟩
    rcases List.mem_cons.1 hc with rfl | hc
    · have h₁ : 48 ≤ c.toNat := h₀
      have h₂ : c.toNat ≤ 53 := h₅
      exact isNumberSign_of_between (by omega)
    · exact List.mem_singleton.1 hc ▸ isNumberSign_of_isAsciiDigit hb
  · cases h

/-- Between colons stand digits, and the last of them is no colon: there is no empty piece. -/
theorem chars_of_sixtieths {xs : List Char} (h : sixtieths xs = true) :
    (∀ c ∈ xs, numberChars.has c = true) ∧ xs ≠ [] ∧ xs.getLast? ≠ some ':' := by
  unfold sixtieths at h
  split at h
  next rest =>
    rw [List.all_eq_true] at h
    refine ⟨fun c hc => ?_, nofun, fun hl => ?_⟩
    · by_cases hcolon : c = ':'
      · rw [hcolon]
        rfl
      · obtain ⟨p, hp, hcp⟩ :=
          Text.exists_mem_splitAt ((List.mem_cons.1 hc).resolve_left hcolon) hcolon
        exact ((isSixtieth_digits (h p hp)).2 c hcp).1
    · obtain ⟨front, hfront⟩ := List.getLast?_eq_some_iff.1 hl
      have hempty : [] ∈ splitAt ':' rest := by
        cases front with
        | nil =>
          obtain rfl : rest = [] := (List.cons.inj hfront).2
          exact List.mem_singleton.2 rfl
        | cons d ds =>
          obtain rfl : rest = ds ++ [':'] := (List.cons.inj hfront).2
          rw [Text.splitAt_append_cons]
          exact List.mem_append_right _ (List.mem_singleton.2 rfl)
      exact (isSixtieth_digits (h [] hempty)).1 rfl
  · cases h

/-- Digits, and something behind them that does not end in a colon. -/
theorem NumberBody.of_digitRun {xs rest : List Char} (h : digitRun? xs = some rest)
    (hrest : ∀ c ∈ rest, numberChars.has c = true) (hlast : rest.getLast? ≠ some ':') :
    NumberBody xs := by
  obtain ⟨c, run, rfl, hc, hrun⟩ := digitRun?_eq_some h
  have hfront : NumberBody (c :: run) := .of_signs (.inl hc) hrun
  refine ⟨fun d hd => ?_, ⟨c, run ++ rest, rfl, .inl hc⟩, fun hl => ?_⟩
  · rcases List.mem_append.1 (show d ∈ (c :: run) ++ rest from hd) with hd | hd
    · exact hfront.chars d hd
    · exact hrest d hd
  · rw [← List.cons_append, List.getLast?_append] at hl
    rcases Option.or_eq_some_iff.1 hl with hl | ⟨-, hl⟩
    · exact hlast hl
    · exact hfront.last hl

/-! ## Forms -/

theorem numberForm_of_looksDecimal {xs : List Char} (h : looksDecimal xs = true) :
    NumberForm xs := by
  unfold looksDecimal at h
  split at h
  next rest hrun =>
    have hrest : ∀ c ∈ '.' :: rest, IsNumberSign c := by
      intro c hc
      rcases List.mem_cons.1 hc with rfl | hc
      · exact ⟨rfl, by decide⟩
      rw [← Text.cutWhere_parts (fun c => !isDigitOrLine c) rest] at hc
      rcases List.mem_append.1 hc with hc | hc
      · exact isNumberSign_of_isDigitOrLine (by simpa using Text.neg_of_mem_cutWhere hc)
      · exact sign_of_endsInExponent h c hc
    exact .of_body (.of_digitRun hrun (fun c hc => (hrest c hc).1)
      fun hl => (hrest _ (List.mem_of_getLast? hl)).2 rfl)
  · cases h

theorem numberForm_of_looksFraction {xs : List Char} (h : looksFraction xs = true) :
    NumberForm xs := by
  unfold looksFraction at h
  split at h
  next rest =>
    cases hrun : digitRun? rest with
    | none =>
      rw [hrun] at h
      cases h
    | some tail =>
      rw [hrun] at h
      obtain ⟨c, run, rfl, hc, hsigns⟩ := digitRun?_eq_some hrun
      refine ⟨[], _, rfl, by simp, .of_signs (.inr rfl) fun d hd => ?_⟩
      rcases List.mem_cons.1 hd with rfl | hd
      · exact isNumberSign_of_isAsciiDigit hc
      rcases List.mem_append.1 hd with hd | hd
      · exact hsigns d hd
      · exact sign_of_endsInExponent h d hd
  · cases h

theorem numberForm_of_looksSixtyDecimal {xs : List Char} (h : looksSixtyDecimal xs = true) :
    NumberForm xs := by
  unfold looksSixtyDecimal at h
  split at h
  next rest hrun =>
    split at h
    next whole part hcut =>
      obtain ⟨hwhole, hpart⟩ := Bool.and_eq_true_iff.1 h
      rw [List.all_eq_true] at hpart
      have hsigns : ∀ c ∈ '.' :: part, IsNumberSign c := by
        intro c hc
        rcases List.mem_cons.1 hc with rfl | hc
        · exact ⟨rfl, by decide⟩
        · exact isNumberSign_of_isDigitOrLine (hpart c hc)
      obtain rfl := Text.firstCut_eq_some hcut
      refine .of_body (.of_digitRun hrun (fun c hc => ?_) fun hl => ?_)
      · rcases List.mem_append.1 hc with hc | hc
        · exact (chars_of_sixtieths hwhole).1 c hc
        · exact (hsigns c hc).1
      · rw [List.getLast?_append_of_ne_nil _ (List.cons_ne_nil _ _)] at hl
        exact (hsigns _ (List.mem_of_getLast? hl)).2 rfl
    · cases h
  · cases h

/-- The words for an infinity, behind a sign, and for what is not a number. -/
theorem numberForm_of_word {xs : List Char}
    (h : [".inf", ".Inf", ".INF"].contains (.ofList (dropSign xs)) = true ∨
      [".nan", ".NaN", ".NAN"].contains (.ofList xs) = true) : NumberForm xs := by
  have hsigns : ∀ w ∈ [".inf", ".Inf", ".INF", ".nan", ".NaN", ".NAN"],
      w.toList.head? = some '.' ∧
        (w.toList.tail.all fun c => numberChars.has c && decide (c ≠ ':')) = true := by
    decide
  have hwords : ∀ w ∈ [".inf", ".Inf", ".INF", ".nan", ".NaN", ".NAN"], NumberBody w.toList := by
    intro w hw
    obtain ⟨hhead, htail⟩ := hsigns w hw
    rw [← List.cons_head?_tail hhead]
    refine .of_signs (.inr rfl) fun c hc => ?_
    have hsign := List.all_eq_true.1 htail c hc
    rw [Bool.and_eq_true, decide_eq_true_eq] at hsign
    exact hsign
  have hbody : ∀ ws : List String, (∀ w ∈ ws, w ∈ [".inf", ".Inf", ".INF", ".nan", ".NaN", ".NAN"]) →
      ∀ ys : List Char, ws.contains (.ofList ys) = true → NumberBody ys := by
    intro ws hws ys hys
    have := hwords _ (hws _ (List.contains_iff_mem.1 hys))
    rwa [String.toList_ofList] at this
  rcases h with h | h
  · exact .of_body (hbody _ (by decide) _ h)
  · exact ⟨[], xs, rfl, by simp, hbody _ (by decide) xs h⟩

theorem numberForm_of_looksFloat {xs : List Char} (h : looksFloat xs = true) : NumberForm xs := by
  unfold looksFloat at h
  simp only [Bool.or_eq_true] at h
  rcases h with (((h | h) | h) | h) | h
  · exact numberForm_of_looksDecimal h
  · exact numberForm_of_looksFraction h
  · exact numberForm_of_looksSixtyDecimal h
  · exact numberForm_of_word (.inl h)
  · exact numberForm_of_word (.inr h)

/-- A mark that begins with a zero, and digits of its base. -/
theorem NumberBody.of_looksBased {mark : String} {p : Char → Bool} {xs : List Char}
    (hmark : ∃ ms, mark.toList = '0' :: ms ∧ ∀ c ∈ ms, IsNumberSign c)
    (hp : ∀ c, p c = true → IsNumberSign c) (h : looksBased mark p xs = true) : NumberBody xs := by
  obtain ⟨ms, hms, hsigns⟩ := hmark
  unfold looksBased at h
  split at h
  next rest hafter =>
    obtain rfl := Text.afterStart_eq_some hafter
    rw [Bool.and_eq_true, List.all_eq_true] at h
    rw [hms]
    refine .of_signs (.inl rfl) fun d hd => ?_
    rcases List.mem_append.1 hd with hd | hd
    · exact hsigns d hd
    · rcases Bool.or_eq_true_iff.1 (h.2 d hd) with hd | hd
      · exact hp d hd
      · rw [of_decide_eq_true hd]
        exact ⟨rfl, by decide⟩
  · cases h

theorem numberForm_of_looksInt {xs : List Char} (h : looksInt xs = true) : NumberForm xs := by
  refine .of_body ?_
  unfold looksInt at h
  simp only [Bool.or_eq_true] at h
  rcases h with (((h | h) | h) | h) | h
  · refine .of_looksBased ⟨['b'], rfl, by simp [IsNumberSign]; rfl⟩ (fun c hc => ?_) h
    rcases Bool.or_eq_true_iff.1 hc with hc | hc <;> rw [of_decide_eq_true hc] <;>
      exact ⟨rfl, by decide⟩
  · exact .of_looksBased ⟨['x'], rfl, by simp [IsNumberSign]; rfl⟩
      (fun c hc => isNumberSign_of_hexValue hc) h
  · refine .of_looksBased ⟨[], rfl, by simp⟩ (fun c hc => ?_) h
    simp only [isOctalDigit, Bool.and_eq_true, decide_eq_true_eq] at hc
    have h₁ : 48 ≤ c.toNat := hc.1
    have h₂ : c.toNat ≤ 55 := hc.2
    exact isNumberSign_of_between (by omega)
  · rw [of_decide_eq_true h]
    exact .of_signs (.inl rfl) nofun
  · obtain ⟨-, h⟩ := Bool.and_eq_true_iff.1 h
    split at h
    next rest hrun =>
      rcases Bool.or_eq_true_iff.1 h with h | h
      · obtain rfl := List.isEmpty_iff.1 h
        exact .of_digitRun hrun nofun nofun
      · obtain ⟨hchars, -, hlast⟩ := chars_of_sixtieths h
        exact .of_digitRun hrun hchars hlast
    · cases h

/-! ## Points -/

/-- A number that is not whole has a point. -/
theorem point_mem_of_looksFloat {xs : List Char} (h : looksFloat xs = true) : '.' ∈ xs := by
  have hdrop : '.' ∈ dropSign xs → '.' ∈ xs := by
    obtain ⟨sign, hxs, -⟩ := exists_dropSign xs
    intro hm
    rw [hxs]
    exact List.mem_append_right _ hm
  unfold looksFloat at h
  simp only [Bool.or_eq_true] at h
  rcases h with (((h | h) | h) | h) | h
  · refine hdrop ?_
    unfold looksDecimal at h
    split at h
    next hrun =>
      obtain ⟨c, run, heq, -⟩ := digitRun?_eq_some hrun
      rw [heq]
      simp
    · cases h
  · unfold looksFraction at h
    split at h
    · exact List.mem_cons_self
    · cases h
  · refine hdrop ?_
    unfold looksSixtyDecimal at h
    split at h
    next hrun =>
      split at h
      next hcut =>
        obtain ⟨c, run, heq, -⟩ := digitRun?_eq_some hrun
        rw [heq, Text.firstCut_eq_some hcut]
        simp
      · cases h
    · cases h
  · refine hdrop ?_
    have hwords : ∀ w ∈ [".inf", ".Inf", ".INF"], '.' ∈ w.toList := by decide
    have := hwords _ (List.contains_iff_mem.1 h)
    rwa [String.toList_ofList] at this
  · have hwords : ∀ w ∈ [".nan", ".NaN", ".NAN"], '.' ∈ w.toList := by decide
    have := hwords _ (List.contains_iff_mem.1 h)
    rwa [String.toList_ofList] at this

end ModelSearch.Yaml
