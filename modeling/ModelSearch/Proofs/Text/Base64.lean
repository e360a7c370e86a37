import ModelSearch.Text.Base64

/-!
# Reading what was written of bytes

Three bytes are four characters that stand for six bits each; one or two bytes at the end are filled
with padding, where the reader stops.  Line feeds mean nothing to it.  All characters are of the
ASCII range.

    fromBase64 (base64Lines bs) = some bs             (fromBase64_base64Lines)
    c ∈ base64Lines bs → c.toNat ≤ 127                 (ascii_base64Lines)
-/

namespace ModelSearch.Text

theorem base64Value?_base64Digit {n : Nat} (h : n < 64) : base64Value? (base64Digit n) = some n := by
  have hall : ∀ n < 64, base64Value? (base64Digit n) = some n := by decide
  exact hall n h

theorem base64Digit_ne {n : Nat} (h : n < 64) : base64Digit n ≠ '=' := by
  have hall : ∀ n < 64, base64Digit n ≠ '=' := by decide
  exact hall n h

/-! ## Single characters -/

section

variable {v : Nat} (hv : v < 64) (left pads : Nat) (cs : List Char)

include hv

theorem base64From_first :
    base64From ⟨0, left, pads⟩ (base64Digit v :: cs) = base64From ⟨1, v, 0⟩ cs := by
  simp [base64From, base64Digit_ne hv, base64Value?_base64Digit hv]

theorem base64From_second : base64From ⟨1, left, pads⟩ (base64Digit v :: cs)
    = (base64From ⟨2, v % 16, 0⟩ cs).map ((left * 4 + v / 16).toUInt8 :: ·) := by
  simp [base64From, base64Digit_ne hv, base64Value?_base64Digit hv]

theorem base64From_third : base64From ⟨2, left, pads⟩ (base64Digit v :: cs)
    = (base64From ⟨3, v % 4, 0⟩ cs).map ((left * 16 + v / 4).toUInt8 :: ·) := by
  simp [base64From, base64Digit_ne hv, base64Value?_base64Digit hv]

theorem base64From_fourth : base64From ⟨3, left, pads⟩ (base64Digit v :: cs)
    = (base64From {} cs).map ((left * 64 + v).toUInt8 :: ·) := by
  simp [base64From, base64Digit_ne hv, base64Value?_base64Digit hv]

end

theorem base64From_lineFeed (s : Base64State) (cs : List Char) :
    base64From s ('\n' :: cs) = base64From s cs := by
  have hvalue : base64Value? '\n' = none := by decide
  rw [base64From, if_neg (by decide), hvalue]

/-! ## Lines -/

theorem toUInt8_eq {n : Nat} {b : UInt8} (h : n = b.toNat) : n.toUInt8 = b := by
  rw [h]
  exact UInt8.ofNat_toNat

/-- A whole group of three bytes. -/
theorem base64From_group (a b c : UInt8) (cs : List Char) :
    base64From {} (base64Line [a, b, c] ++ cs) = (base64From {} cs).map (a :: b :: c :: ·) := by
  have ha := a.toNat_lt
  have hb := b.toNat_lt
  have hc := c.toNat_lt
  simp only [base64Line, List.cons_append, List.nil_append]
  generalize hn : (a.toNat * 256 + b.toNat) * 256 + c.toNat = n
  rw [base64From_first (by omega), base64From_second (by omega), base64From_third (by omega),
    base64From_fourth (by omega), toUInt8_eq (b := a) (by omega), toUInt8_eq (b := b) (by omega),
    toUInt8_eq (b := c) (by omega)]
  simp [Option.map_map, Function.comp_def]

theorem base64From_pair (a b : UInt8) (cs : List Char) :
    base64From {} (base64Line [a, b] ++ cs) = some [a, b] := by
  have ha := a.toNat_lt
  have hb := b.toNat_lt
  simp only [base64Line, List.cons_append, List.nil_append]
  generalize hn : (a.toNat * 256 + b.toNat) * 4 = n
  rw [base64From_first (by omega), base64From_second (by omega), base64From_third (by omega),
    toUInt8_eq (b := a) (by omega), toUInt8_eq (b := b) (by omega)]
  simp [base64From]

theorem base64From_single (a : UInt8) (cs : List Char) :
    base64From {} (base64Line [a] ++ cs) = some [a] := by
  have ha := a.toNat_lt
  simp only [base64Line, List.cons_append, List.nil_append]
  rw [base64From_first (by omega), base64From_second (by omega), toUInt8_eq (b := a) (by omega)]
  simp [base64From]

/-- A line of whole groups is read, and then what follows it. -/
theorem base64From_line : ∀ (bs : List UInt8), 3 ∣ bs.length → ∀ cs,
    base64From {} (base64Line bs ++ cs) = (base64From {} cs).map (bs ++ ·)
  | [], _, cs => by simp [base64Line]
  | [_], h, _ => by simp at h
  | [_, _], h, _ => by simp at h
  | a :: b :: c :: rest, h, cs => by
    have hrest : 3 ∣ rest.length := by
      simp only [List.length_cons] at h
      omega
    have hgroup := base64From_group a b c (base64Line rest ++ cs)
    rw [base64From_line rest hrest cs, Option.map_map] at hgroup
    exact hgroup

/-- The last line is read whatever follows it, which is nothing but a line feed. -/
theorem base64From_lastLine : ∀ bs : List UInt8,
    base64From {} (base64Line bs ++ ['\n']) = some bs
  | [] => rfl
  | [a] => base64From_single a _
  | [a, b] => base64From_pair a b _
  | a :: b :: c :: rest => by
    have hgroup := base64From_group a b c (base64Line rest ++ ['\n'])
    rw [base64From_lastLine rest] at hgroup
    exact hgroup

theorem base64From_linesFrom {fuel : Nat} {bs : List UInt8} (h : bs.length ≤ fuel) :
    base64From {} (base64LinesFrom fuel bs) = some bs := by
  induction fuel generalizing bs with
  | zero =>
    rw [List.eq_nil_of_length_eq_zero (Nat.le_zero.1 h)]
    rfl
  | succ fuel ih =>
    cases hbs : bs with
    | nil => rfl
    | cons b rest =>
      rw [base64LinesFrom, ← hbs]
      · by_cases hlast : bs.length ≤ 57
        · rw [List.take_of_length_le hlast, List.drop_eq_nil_of_le hlast]
          cases fuel <;> exact base64From_lastLine bs
        · have hline : 3 ∣ (bs.take 57).length := by
            rw [List.length_take, Nat.min_eq_left (by omega)]
            decide
          have hrest : (bs.drop 57).length ≤ fuel := by
            rw [List.length_drop]
            omega
          rw [base64From_line _ hline, base64From_lineFeed, ih hrest, Option.map_some,
            List.take_append_drop]
      · simp

/-- What was written of bytes is read as the bytes. -/
theorem fromBase64_base64Lines (bs : List UInt8) : fromBase64 (base64Lines bs) = some bs :=
  base64From_linesFrom (Nat.le_refl _)

/-! ## Characters -/

/-- What holds of the sixty-four digits holds of whatever is written for a number. -/
theorem forall_base64Digit {p : Char → Prop} (h : ∀ k < 64, p (base64Digit k)) (n : Nat) :
    p (base64Digit n) := by
  by_cases hn : n < 64
  · exact h n hn
  · have hlast : base64Digit n = base64Digit 63 := by
      simp [base64Digit, show ¬n < 26 by omega, show ¬n < 52 by omega, show ¬n < 62 by omega,
        show n ≠ 62 by omega]
    rw [hlast]
    exact h 63 (by decide)

/-- What holds of the digits and of the padding holds of all characters of a line. -/
theorem forall_base64Line {p : Char → Prop} (hdigit : ∀ k < 64, p (base64Digit k)) (hpad : p '=') :
    ∀ (bs : List UInt8), ∀ c ∈ base64Line bs, p c
  | [], c, h => by cases h
  | [a], c, h => by
    simp only [base64Line, List.mem_cons, List.not_mem_nil, or_false] at h
    rcases h with rfl | rfl | rfl | rfl
    · exact forall_base64Digit hdigit _
    · exact forall_base64Digit hdigit _
    · exact hpad
    · exact hpad
  | [a, b], c, h => by
    simp only [base64Line, List.mem_cons, List.not_mem_nil, or_false] at h
    rcases h with rfl | rfl | rfl | rfl
    · exact forall_base64Digit hdigit _
    · exact forall_base64Digit hdigit _
    · exact forall_base64Digit hdigit _
    · exact hpad
  | a :: b :: d :: rest, c, h => by
    simp only [base64Line, List.mem_cons] at h
    rcases h with rfl | rfl | rfl | rfl | h
    · exact forall_base64Digit hdigit _
    · exact forall_base64Digit hdigit _
    · exact forall_base64Digit hdigit _
    · exact forall_base64Digit hdigit _
    · exact forall_base64Line hdigit hpad rest c h

theorem base64Line_ne_nil {bs : List UInt8} (h : bs ≠ []) : base64Line bs ≠ [] := by
  match bs with
  | [] => exact absurd rfl h
  | [_] | [_, _] | _ :: _ :: _ :: _ => simp [base64Line]

/-- The text of bytes is made of lines, each with its line feed. -/
theorem exists_base64Lines (bs : List UInt8) : ∃ ls : List (List Char),
    base64Lines bs = ls.flatMap (fun l => l ++ ['\n']) ∧ ∀ l ∈ ls, ∃ cs ≠ [], l = base64Line cs := by
  suffices h : ∀ fuel bs, ∃ ls : List (List Char),
      base64LinesFrom fuel bs = ls.flatMap (fun l => l ++ ['\n']) ∧
        ∀ l ∈ ls, ∃ cs ≠ [], l = base64Line cs from h bs.length bs
  intro fuel
  induction fuel with
  | zero => exact fun _ => ⟨[], rfl, nofun⟩
  | succ fuel ih =>
    intro bs
    cases bs with
    | nil => exact ⟨[], rfl, nofun⟩
    | cons b bs =>
      obtain ⟨ls, hls, hlines⟩ := ih ((b :: bs).drop 57)
      refine ⟨base64Line ((b :: bs).take 57) :: ls, ?_, ?_⟩
      · rw [base64LinesFrom, hls, List.flatMap_cons, List.append_assoc]
        · rfl
        · simp
      · intro l hl
        rcases List.mem_cons.1 hl with rfl | hl
        · exact ⟨_, by simp, rfl⟩
        · exact hlines l hl

theorem ascii_base64Lines (bs : List UInt8) : ∀ c ∈ base64Lines bs, c.toNat ≤ 127 := by
  obtain ⟨ls, hls, hlines⟩ := exists_base64Lines bs
  intro c hc
  rw [hls, List.mem_flatMap] at hc
  obtain ⟨l, hl, hc⟩ := hc
  obtain ⟨cs, -, rfl⟩ := hlines l hl
  rcases List.mem_append.1 hc with hc | hc
  · exact forall_base64Line (p := fun c => c.toNat ≤ 127) (by decide) (by decide) cs c hc
  · rw [List.mem_singleton.1 hc]
    decide

end ModelSearch.Text
