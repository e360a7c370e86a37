import ModelSearch.Calendar
import ModelSearch.Proofs.Number.Decimal
import ModelSearch.Proofs.Yaml.ScalarKinds

/-!
# Reading what was written of dates and moments

A date or a moment that was read exists in the calendar, counts microseconds and has an offset of
whole minutes.  Its text is a timestamp whose parts have their full number of digits, and reads as
the same date or moment.

    readTimestamp mark d.iso = .ok (.date mark d)                (readTimestamp_date)
    readTimestamp mark (t.iso " ") = .ok (.moment mark t)        (readTimestamp_moment)
-/

namespace ModelSearch

open Text (isAsciiDigit AllDigits padded numberOf)

/-! ## What exists in the calendar -/

structure Date.Valid (d : Date) : Prop where
  year : 1 ≤ d.year ∧ d.year ≤ 9999
  month : 1 ≤ d.month ∧ d.month ≤ 12
  day : 1 ≤ d.day ∧ d.day ≤ daysInMonth d.year d.month

/-- A moment of a valid date, as timestamps can write it. -/
structure Moment.Valid (t : Moment) : Prop where
  date : t.date.Valid
  hour : t.hour ≤ 23
  minute : t.minute ≤ 59
  second : t.second ≤ 59
  micro : t.micro < 10 ^ 6
  offset : ∀ o, t.offset = some o → 60 ∣ o ∧ -secondsPerDay < o ∧ o < secondsPerDay

theorem Date.of_eq_ok_iff {y m d : Nat} {date : Date} :
    Date.of y m d = .ok date ↔ date = ⟨y, m, d⟩ ∧ (⟨y, m, d⟩ : Date).Valid := by
  unfold Date.of
  constructor
  · intro h
    split at h
    · cases h
    split at h
    · cases h
    split at h
    · cases h
    next hy hm hd =>
      cases h
      simp only [Bool.or_eq_true, decide_eq_true_eq, not_or, not_lt] at hy hm hd
      exact ⟨rfl, ⟨hy, hm, hd⟩⟩
  · rintro ⟨rfl, hy, hm, hd⟩
    dsimp only at hy hm hd
    rw [if_neg (by simp; omega), if_neg (by simp; omega), if_neg (by simp; omega)]

theorem Moment.of_eq_ok_iff {y m d hour minute second micro : Nat} {offset : Option Int}
    {t : Moment} :
    Moment.of y m d hour minute second micro offset = .ok t ↔
      t = ⟨⟨y, m, d⟩, hour, minute, second, micro, offset⟩ ∧ (⟨y, m, d⟩ : Date).Valid ∧
        hour ≤ 23 ∧ minute ≤ 59 ∧ second ≤ 59 := by
  unfold Moment.of
  constructor
  · intro h
    obtain ⟨date, hdate, h⟩ := bind_eq_ok.1 h
    obtain ⟨rfl, hvalid⟩ := Date.of_eq_ok_iff.1 hdate
    split at h
    · cases h
    split at h
    · cases h
    split at h
    · cases h
    cases h
    exact ⟨rfl, hvalid, by omega, by omega, by omega⟩
  · rintro ⟨rfl, hvalid, hhour, hminute, hsecond⟩
    rw [Date.of_eq_ok_iff.2 ⟨rfl, hvalid⟩]
    show (if 23 < hour then _ else _) = _
    rw [if_neg (by omega), if_neg (by omega), if_neg (by omega)]

theorem Date.Valid.month_day {d : Date} (h : d.Valid) : d.month < 100 ∧ d.day < 100 := by
  have hdays : daysInMonth d.year d.month ≤ 31 := by
    unfold daysInMonth
    repeat' split
    all_goals decide
  obtain ⟨-, hm, hd⟩ := h
  omega

namespace Yaml

/-! ## Digits -/

theorem length_padded {width n : Nat} (hw : 0 < width) (h : n < 10 ^ width) :
    (padded width n).toList.length = width := by
  have hlen := (Nat.length_toDigits_le_iff (b := 10) (by decide) hw).2 h
  rw [Text.toList_padded, List.length_append, List.length_replicate, ← String.length_toList,
    Text.toList_toString]
  omega

theorem digitsBetween_append {ds : List Char} (h : AllDigits ds) {low high : Nat}
    (hh : ds.length = high) (hl : low ≤ high) (rest : List Char) :
    digitsBetween low high (ds ++ rest) = some (ds, rest) := by
  have htake : (ds ++ rest).take high = ds := by
    rw [← hh, List.take_left]
  have hall : ds.takeWhile isAsciiDigit = ds := List.takeWhile_eq_self_iff.2 fun c hc => h c hc
  unfold digitsBetween
  simp only [htake, hall]
  rw [if_neg (by omega), List.drop_left]

theorem decimalOf_eq {xs : List Char} (h : AllDigits xs) : decimalOf xs = numberOf xs := by
  unfold decimalOf numberOf
  congr 1
  refine List.map_congr_left fun c hc => ?_
  rw [Text.digitValue?_of_isAsciiDigit (h c hc)]
  rfl

theorem decimalOf_padded (width n : Nat) : decimalOf (padded width n).toList = n := by
  rw [decimalOf_eq (Text.allDigits_padded width n), Text.numberOf_padded]

/-! ## Parts of timestamps -/

/-- A text whose parts have their full number of digits. -/
theorem stamp?_date {y m d : List Char} (hy : AllDigits y ∧ y.length = 4)
    (hm : AllDigits m ∧ m.length = 2) (hd : AllDigits d ∧ d.length = 2) :
    stamp? (y ++ '-' :: (m ++ '-' :: d)) = some ⟨y, m, d, none⟩ := by
  have hlast := digitsBetween_append hd.1 hd.2 (show 1 ≤ 2 by decide) []
  rw [List.append_nil] at hlast
  simp [stamp?, digitsBetween_append hy.1 hy.2, digitsBetween_append hm.1 hm.2, hlast, after?]

theorem stamp?_moment {y m d : List Char} (hy : AllDigits y ∧ y.length = 4)
    (hm : AllDigits m ∧ m.length = 2) (hd : AllDigits d ∧ d.length = 2) {time : List Char}
    (ht : ∀ c, time.head? = some c → isAsciiDigit c = true) :
    stamp? (y ++ '-' :: (m ++ '-' :: (d ++ ' ' :: time)))
      = (stampTime? time).map fun t => ⟨y, m, d, some t⟩ := by
  have hdrop : time.dropWhile (fun c => decide (c = ' ') || decide (c = '\t')) = time := by
    cases time with
    | nil => rfl
    | cons c cs =>
      have hc := ht c rfl
      refine List.dropWhile_cons_of_neg ?_
      simp only [Bool.or_eq_true, decide_eq_true_eq, not_or]
      constructor <;>
      · rintro rfl
        cases hc
  simp [stamp?, digitsBetween_append hy.1 hy.2, digitsBetween_append hm.1 hm.2,
    digitsBetween_append hd.1 hd.2, after?, hdrop]

/-- A zone of whole minutes. -/
theorem looksZone_sign {s : Char} {h m : List Char} (hs : s = '-' ∨ s = '+')
    (hh : AllDigits h ∧ h.length = 2) (hm : AllDigits m ∧ m.length = 2) :
    looksZone (s :: (h ++ ':' :: m)) = true := by
  have hlast := digitsBetween_append hm.1 hm.2 (show 2 ≤ 2 by decide) []
  rw [List.append_nil] at hlast
  rcases hs with rfl | rfl <;>
    simp [looksZone, digitsBetween_append hh.1 hh.2, hlast]

/-- The digits of a fraction, with the point in front if there are any. -/
def fractionChars (f : List Char) : List Char := if f = [] then [] else '.' :: f

/-- What can follow a time: nothing, or a zone with a sign. -/
def IsZone (zone : List Char) : Prop :=
  zone = [] ∨ ∃ c cs, zone = c :: cs ∧ (c = '-' ∨ c = '+') ∧ looksZone zone = true

theorem stampFraction_append {f zone : List Char} (hf : AllDigits f) (hz : IsZone zone) :
    stampFraction (fractionChars f ++ zone) = (f, zone) := by
  have hhead : ∀ c cs, zone = c :: cs → c ≠ '.' ∧ isAsciiDigit c = false := by
    rintro c cs rfl
    rcases hz with hz | ⟨_, _, heq, hc, -⟩
    · cases hz
    · cases heq
      rcases hc with rfl | rfl <;> decide
  unfold fractionChars stampFraction
  by_cases hnil : f = []
  · rw [if_pos hnil, hnil, List.nil_append]
    split
    · exact absurd rfl (hhead _ _ rfl).1
    · rfl
  · rw [if_neg hnil]
    show Text.cutWhere _ (f ++ zone) = _
    rw [Text.cutWhere_append fun c hc => by simp [hf c hc]]
    cases hzone : zone with
    | nil => simp [Text.cutWhere]
    | cons c cs => simp [Text.cutWhere, (hhead c cs hzone).2]

theorem stampTime?_eq {h m s f zone : List Char} (hh : AllDigits h ∧ h.length = 2)
    (hm : AllDigits m ∧ m.length = 2) (hs : AllDigits s ∧ s.length = 2) (hf : AllDigits f)
    (hz : IsZone zone) :
    stampTime? (h ++ ':' :: (m ++ ':' :: (s ++ (fractionChars f ++ zone))))
      = some ⟨h, m, s, f, if zone = [] then none else some zone⟩ := by
  simp only [stampTime?, digitsBetween_append hh.1 hh.2 (show 1 ≤ 2 by decide), after?, if_true,
    Option.bind_eq_bind, Option.bind_some,
    digitsBetween_append hm.1 hm.2 (show 2 ≤ 2 by decide),
    digitsBetween_append hs.1 hs.2 (show 2 ≤ 2 by decide), stampFraction_append hf hz]
  rcases hz with rfl | ⟨c, cs, rfl, hc, hlooks⟩
  · rfl
  · have hdrop : (c :: cs).dropWhile (fun c => decide (c = ' ') || decide (c = '\t')) = c :: cs := by
      rcases hc with rfl | rfl <;> rfl
    simp [hdrop, hlooks]

/-! ## Texts -/

theorem withoutFinalBreak_of_notMem {xs : List Char} (h : '\n' ∉ xs) : withoutFinalBreak xs = xs := by
  unfold withoutFinalBreak
  split
  next hlast => exact absurd (List.mem_of_getLast? hlast) h
  · rfl

theorem toList_dateIso (d : Date) :
    d.iso.toList = (padded 4 d.year).toList ++ '-' ::
      ((padded 2 d.month).toList ++ '-' :: (padded 2 d.day).toList) := by
  simp [Date.iso, toString]

theorem toList_offsetText {o : Int} (h : 60 ∣ o) :
    (offsetText o).toList = (if o < 0 then '-' else '+') ::
      ((padded 2 (o.natAbs / 3600)).toList ++ ':' :: (padded 2 (o.natAbs / 60 % 60)).toList) := by
  have hrest : o.natAbs % 60 = 0 := by omega
  unfold offsetText
  by_cases hneg : o < 0 <;> simp [hrest, hneg]

/-- The digits of microseconds, none if there are none to tell. -/
def microDigits (micro : Nat) : List Char := if micro = 0 then [] else (padded 6 micro).toList

def zoneChars (offset : Option Int) : List Char := (offset.map fun o => (offsetText o).toList).getD []

theorem toList_momentIso (t : Moment) :
    (t.iso " ").toList = (padded 4 t.date.year).toList ++ '-' ::
      ((padded 2 t.date.month).toList ++ '-' :: ((padded 2 t.date.day).toList ++ ' ' ::
        ((padded 2 t.hour).toList ++ ':' :: ((padded 2 t.minute).toList ++ ':' ::
          ((padded 2 t.second).toList ++ (fractionChars (microDigits t.micro)
            ++ zoneChars t.offset)))))) := by
  have hmicro : (if t.micro = 0 then "" else "." ++ padded 6 t.micro).toList
      = fractionChars (microDigits t.micro) := by
    unfold fractionChars microDigits
    by_cases h : t.micro = 0
    · simp [h]
    · rw [if_neg h, if_neg h, if_neg (Text.padded_ne_nil 6 t.micro)]
      simp
  have hzone : ((t.offset.map offsetText).getD "").toList = zoneChars t.offset := by
    cases h : t.offset <;> simp [zoneChars]
  simp only [Moment.iso, String.toList_append, hmicro, hzone, toList_dateIso]
  simp

theorem isZone_zoneChars {offset : Option Int}
    (h : ∀ o, offset = some o → 60 ∣ o ∧ -secondsPerDay < o ∧ o < secondsPerDay) :
    IsZone (zoneChars offset) := by
  cases offset with
  | none => exact .inl rfl
  | some o =>
    obtain ⟨hdvd, hlow, hup⟩ := h o rfl
    have hsign : (if o < 0 then '-' else '+') = '-' ∨ (if o < 0 then '-' else '+') = '+' := by
      by_cases hneg : o < 0 <;> simp [hneg]
    have hbound : o.natAbs / 3600 < 10 ^ 2 := by
      unfold secondsPerDay at hlow hup
      omega
    refine .inr ⟨_, _, toList_offsetText hdvd, hsign, ?_⟩
    show looksZone (offsetText o).toList = true
    rw [toList_offsetText hdvd]
    exact looksZone_sign hsign
      ⟨Text.allDigits_padded _ _, length_padded (by decide) hbound⟩
      ⟨Text.allDigits_padded _ _, length_padded (by decide) (by omega)⟩

theorem zoneSeconds_offsetText {o : Int} (h : 60 ∣ o) : zoneSeconds (offsetText o).toList = o := by
  have hcolon : ∀ w n, ':' ∉ (padded w n).toList := fun w n => (Text.allDigits_padded w n).notMem rfl
  have hsplit := Text.splitAt_append_sep (hcolon 2 (o.natAbs / 3600))
    (padded 2 (o.natAbs / 60 % 60)).toList
  rw [Text.splitAt_of_notMem ':' _ (hcolon 2 (o.natAbs / 60 % 60))] at hsplit
  rw [toList_offsetText h]
  unfold zoneSeconds
  simp only [hsplit, List.map_cons, List.map_nil, decimalOf_padded, List.getD_cons_zero,
    List.getD_cons_succ]
  have hparts : o.natAbs / 3600 * 3600 + o.natAbs / 60 % 60 * 60 = o.natAbs := by
    have : 60 ∣ o.natAbs := by omega
    omega
  have hcast : ((o.natAbs / 3600 : Nat) : Int) * 3600 + ((o.natAbs / 60 % 60 : Nat) : Int) * 60
      = o.natAbs := by
    exact_mod_cast hparts
  rw [hcast]
  by_cases hneg : o < 0
  · simp only [hneg, if_true, withSign]
    rw [if_neg (by decide), if_pos (by decide)]
    omega
  · simp only [hneg, if_false, withSign]
    rw [if_neg (by decide), if_neg (by decide)]
    omega

theorem microseconds_microDigits {micro : Nat} (h : micro < 10 ^ 6) :
    microseconds (microDigits micro) = micro := by
  unfold microDigits microseconds
  by_cases hzero : micro = 0
  · rw [if_pos hzero, hzero]
    rfl
  · have hlen := length_padded (show 0 < 6 by decide) h
    rw [if_neg hzero, List.take_append_of_le_length hlen.ge, List.take_of_length_le hlen.le,
      decimalOf_padded]

/-! ## Reading -/

theorem lineFeed_notMem_padded (w n : Nat) : '\n' ∉ (padded w n).toList :=
  (Text.allDigits_padded w n).notMem rfl

/-- What was written of a date is read as the date. -/
theorem readTimestamp_date (mark : Mark) {d : Date} (h : d.Valid) :
    readTimestamp mark d.iso = .ok (.date mark d) := by
  obtain ⟨hm, hd⟩ := h.month_day
  have hyear := h.year
  have hstamp := stamp?_date
    ⟨Text.allDigits_padded 4 d.year, length_padded (by decide) (show d.year < 10 ^ 4 by omega)⟩
    ⟨Text.allDigits_padded 2 d.month, length_padded (by decide) hm⟩
    ⟨Text.allDigits_padded 2 d.day, length_padded (by decide) hd⟩
  have hbreak : withoutFinalBreak d.iso.toList = d.iso.toList := by
    refine withoutFinalBreak_of_notMem ?_
    rw [toList_dateIso]
    simp [lineFeed_notMem_padded]
  unfold readTimestamp
  rw [hbreak, toList_dateIso, hstamp]
  simp only [decimalOf_padded]
  rw [Date.of_eq_ok_iff.2 ⟨rfl, h⟩]
  rfl

/-- What was written of a moment is read as the moment. -/
theorem readTimestamp_moment (mark : Mark) {t : Moment} (h : t.Valid) :
    readTimestamp mark (t.iso " ") = .ok (.moment mark t) := by
  obtain ⟨hm, hd⟩ := h.date.month_day
  have hyear := h.date.year
  have hhour := h.hour
  have hminute := h.minute
  have hsecond := h.second
  have hpart : ∀ {n}, n < 10 ^ 2 →
      AllDigits (padded 2 n).toList ∧ (padded 2 n).toList.length = 2 :=
    fun hn => ⟨Text.allDigits_padded _ _, length_padded (by decide) hn⟩
  have hfraction : AllDigits (microDigits t.micro) := by
    unfold microDigits
    split
    · nofun
    · exact Text.allDigits_padded _ _
  have hzone := isZone_zoneChars h.offset
  have htime := stampTime?_eq (hpart (n := t.hour) (by omega)) (hpart (n := t.minute) (by omega))
    (hpart (n := t.second) (by omega)) hfraction hzone
  have hhead : ∀ c, ((padded 2 t.hour).toList ++ ':' :: ((padded 2 t.minute).toList ++ ':' ::
      ((padded 2 t.second).toList ++ (fractionChars (microDigits t.micro)
        ++ zoneChars t.offset)))).head? = some c → isAsciiDigit c = true := by
    obtain ⟨d, ds, hds⟩ := List.exists_cons_of_ne_nil (Text.padded_ne_nil 2 t.hour)
    intro c hc
    rw [hds] at hc
    cases hc
    exact Text.allDigits_padded 2 t.hour d (by simp [hds])
  have hstamp := stamp?_moment
    ⟨Text.allDigits_padded 4 t.date.year,
      length_padded (by decide) (show t.date.year < 10 ^ 4 by omega)⟩ (hpart hm) (hpart hd) hhead
  rw [htime] at hstamp
  have hfractionChars : '\n' ∉ fractionChars (microDigits t.micro) := by
    have hdigits : '\n' ∉ microDigits t.micro := hfraction.notMem rfl
    unfold fractionChars
    split
    · simp
    · simp [hdigits]
  have hzoneChars : '\n' ∉ zoneChars t.offset := by
    unfold zoneChars
    cases ho : t.offset with
    | none => simp
    | some o =>
      rw [Option.map_some, Option.getD_some, toList_offsetText (h.offset o ho).1]
      by_cases hneg : o < 0 <;> simp [hneg, lineFeed_notMem_padded]
  have hbreak : withoutFinalBreak (t.iso " ").toList = (t.iso " ").toList := by
    refine withoutFinalBreak_of_notMem ?_
    rw [toList_momentIso]
    simp [lineFeed_notMem_padded, hfractionChars, hzoneChars]
  unfold readTimestamp
  rw [hbreak, toList_momentIso, hstamp]
  have hoffset : (if zoneChars t.offset = [] then none else some (zoneChars t.offset)).mapM
      (fun z => checkOffset (zoneSeconds z)) = Except.ok t.offset := by
    cases ho : t.offset with
    | none => rfl
    | some o =>
      obtain ⟨hdvd, hlow, hup⟩ := h.offset o ho
      have hne : zoneChars (some o) ≠ [] := by
        show (offsetText o).toList ≠ []
        rw [toList_offsetText hdvd]
        simp
      have hcheck : checkOffset (zoneSeconds (zoneChars (some o))) = .ok o := by
        show checkOffset (zoneSeconds (offsetText o).toList) = .ok o
        rw [zoneSeconds_offsetText hdvd]
        simp [checkOffset, hlow, hup]
      rw [if_neg hne]
      rw [Option.mapM_some, hcheck]
      rfl
  have hmoment := Moment.of_eq_ok_iff.2
    ⟨(rfl : t = ⟨⟨t.date.year, t.date.month, t.date.day⟩, t.hour, t.minute, t.second, t.micro,
      t.offset⟩), h.date, hhour, hminute, hsecond⟩
  simp only [Option.map_some, decimalOf_padded, microseconds_microDigits h.micro, hoffset, bind,
    Except.bind, hmoment]
  rfl

/-! ## What was read -/

theorem numberOf_take_lt (xs : List Char) (n : Nat) : numberOf (xs.take n) < 10 ^ n :=
  (Text.numberOf_lt _).trans_le (Nat.pow_le_pow_right (by decide) (List.length_take_le n xs))

theorem allDigits_stampFraction (xs : List Char) : AllDigits (stampFraction xs).1 := by
  unfold stampFraction
  split
  · intro c hc
    simpa using Text.neg_of_mem_cutWhere hc
  · nofun

theorem allDigits_fraction {xs : List Char} {t : StampTime} (h : stampTime? xs = some t) :
    AllDigits t.fraction := by
  unfold stampTime? at h
  obtain ⟨hour, -, h⟩ := Option.bind_eq_some_iff.1 h
  obtain ⟨a, -, h⟩ := Option.bind_eq_some_iff.1 h
  obtain ⟨minute, -, h⟩ := Option.bind_eq_some_iff.1 h
  obtain ⟨b, -, h⟩ := Option.bind_eq_some_iff.1 h
  obtain ⟨second, -, h⟩ := Option.bind_eq_some_iff.1 h
  dsimp only at h
  split at h
  · cases h
    exact allDigits_stampFraction _
  · split at h <;> cases h
    exact allDigits_stampFraction _

theorem exists_stampTime {xs : List Char} {s : Stamp} {t : StampTime} (h : stamp? xs = some s)
    (ht : s.time = some t) : ∃ ys, stampTime? ys = some t := by
  unfold stamp? at h
  obtain ⟨year, -, h⟩ := Option.bind_eq_some_iff.1 h
  obtain ⟨a, -, h⟩ := Option.bind_eq_some_iff.1 h
  obtain ⟨month, -, h⟩ := Option.bind_eq_some_iff.1 h
  obtain ⟨b, -, h⟩ := Option.bind_eq_some_iff.1 h
  obtain ⟨day, -, h⟩ := Option.bind_eq_some_iff.1 h
  dsimp only at h
  split at h
  · cases h
    cases ht
  · split at h
    · obtain ⟨u, hu, rfl⟩ := Option.map_eq_some_iff.1 h
      cases ht
      exact ⟨_, hu⟩
    · cases h

theorem microseconds_lt {xs : List Char} (h : AllDigits xs) : microseconds xs < 10 ^ 6 := by
  unfold microseconds
  rw [decimalOf_eq (((h.append (Text.allDigits_replicate 6))).of_subset (List.take_subset _ _))]
  exact numberOf_take_lt _ 6

theorem dvd_zoneSeconds (xs : List Char) : 60 ∣ zoneSeconds xs := by
  unfold zoneSeconds
  split
  · split
    · exact dvd_zero 60
    · dsimp only [withSign]
      split <;> omega
  · exact dvd_zero 60

theorem checkOffset_eq_ok {n o : Int} (h : checkOffset n = .ok o) :
    o = n ∧ -secondsPerDay < n ∧ n < secondsPerDay := by
  unfold checkOffset at h
  split at h
  next hn =>
    cases h
    simp only [Bool.and_eq_true, decide_eq_true_eq] at hn
    exact ⟨rfl, hn⟩
  · cases h

theorem calendarFault_eq_ok {α : Type} {x : Except CalendarFault α} {a : α} :
    calendarFault x = .ok a ↔ x = .ok a := by
  cases x with
  | ok b => simp [calendarFault]
  | error e => simp [calendarFault]

/-- A timestamp that was read is a date or a moment of the calendar. -/
theorem readTimestamp_valid {mark : Mark} {text : String} {v : Value}
    (h : readTimestamp mark text = .ok v) :
    (∃ d, v = .date mark d ∧ d.Valid) ∨ ∃ t, v = .moment mark t ∧ t.Valid := by
  unfold readTimestamp at h
  split at h
  · cases h
  next s hs =>
    dsimp only at h
    split at h
    next hnone =>
      left
      have h := calendarFault_eq_ok.1 h
      cases hd : Date.of (decimalOf s.year) (decimalOf s.month) (decimalOf s.day) with
      | error e =>
        rw [hd] at h
        cases h
      | ok d =>
        rw [hd] at h
        cases h
        obtain ⟨rfl, hvalid⟩ := Date.of_eq_ok_iff.1 hd
        exact ⟨_, rfl, hvalid⟩
    next t ht =>
      right
      obtain ⟨offset, ho, h⟩ := bind_eq_ok.1 (calendarFault_eq_ok.1 h)
      obtain ⟨moment, hm, h⟩ := bind_eq_ok.1 h
      cases h
      obtain ⟨rfl, hdate, hhour, hminute, hsecond⟩ := Moment.of_eq_ok_iff.1 hm
      obtain ⟨ys, hys⟩ := exists_stampTime hs ht
      refine ⟨_, rfl, hdate, hhour, hminute, hsecond, microseconds_lt (allDigits_fraction hys), ?_⟩
      rintro o rfl
      cases hz : t.zone with
      | none =>
        rw [hz] at ho
        cases ho
      | some z =>
        rw [hz] at ho
        obtain ⟨n, hn, ho⟩ := bind_eq_ok.1 ho
        cases ho
        obtain ⟨rfl, hlow, hup⟩ := checkOffset_eq_ok hn
        exact ⟨dvd_zoneSeconds z, hlow, hup⟩

end Yaml

end ModelSearch
