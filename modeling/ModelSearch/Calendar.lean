import ModelSearch.Text.Basic

/-!
# Dates and moments

A date of the years 1 to 9999, and a moment: a date, a time of the day down to the microsecond
and, if it is known, the offset from universal time.  Moments with an offset are the same when
they are the same instant; one without an offset is never the same as one with.
-/

namespace ModelSearch

-- Sums begin with the zero of the core library, whatever is known of other monoids.
attribute [local instance (high)] Zero.ofOfNat0

structure Date where
  year : Nat
  month : Nat
  day : Nat
  deriving DecidableEq, Repr

structure Moment where
  date : Date
  hour : Nat
  minute : Nat
  second : Nat
  micro : Nat
  /-- Seconds east of universal time. -/
  offset : Option Int
  deriving DecidableEq, Repr

/-- Why a date or a moment does not exist. -/
inductive CalendarFault where
  | year (n : Nat)
  | month
  | day
  | hour
  | minute
  | second
  | offset (seconds : Int)
  deriving DecidableEq, Repr

/-! ## The calendar -/

def isLeapYear (y : Nat) : Bool := y % 4 = 0 && (y % 100 ≠ 0 || y % 400 = 0)

def daysInMonth (y m : Nat) : Nat :=
  if m = 2 then (if isLeapYear y then 29 else 28)
  else if m = 4 || m = 6 || m = 9 || m = 11 then 30
  else 31

/-- Days of the years before `y`. -/
def daysBeforeYear (y : Nat) : Nat := (y - 1) * 365 + (y - 1) / 4 - (y - 1) / 100 + (y - 1) / 400

def daysBeforeMonth (y m : Nat) : Nat :=
  ((List.range (m - 1)).map fun i => daysInMonth y (i + 1)).sum

/-- The day's number, counted from the first day of year 1. -/
def Date.ordinal (d : Date) : Nat := daysBeforeYear d.year + daysBeforeMonth d.year d.month + d.day

/-- The first year from `y` on, in as many steps, that ends at or after the day with number `n`. -/
def yearOf (n : Nat) : Nat → Nat → Nat
  | 0, y => y
  | steps + 1, y => if daysBeforeYear (y + 1) < n then yearOf n steps (y + 1) else y

/-- The month and day of the `n`-th day counted from the first of month `m`. -/
def monthOf (y n : Nat) : Nat → Nat → Nat × Nat
  | 0, m => (m, n)
  | steps + 1, m =>
    if daysInMonth y m < n then monthOf y (n - daysInMonth y m) steps (m + 1) else (m, n)

/-- The date with a day's number. -/
def Date.ofOrdinal (n : Nat) : Date :=
  let year := yearOf n (n / 365 - n / 366 + 1) (n / 366 + 1)
  let (month, day) := monthOf year (n - daysBeforeYear year) 11 1
  ⟨year, month, day⟩

/-- The date, checked from the year to the day. -/
def Date.of (year month day : Nat) : Except CalendarFault Date :=
  if year < 1 || 9999 < year then .error (.year year)
  else if month < 1 || 12 < month then .error .month
  else if day < 1 || daysInMonth year month < day then .error .day
  else .ok ⟨year, month, day⟩

def secondsPerDay : Int := 86400

/-- Offsets reach less than a day in either direction. -/
def checkOffset (seconds : Int) : Except CalendarFault Int :=
  if -secondsPerDay < seconds && seconds < secondsPerDay then .ok seconds
  else .error (.offset seconds)

/-- The moment, checked from the year to the second. -/
def Moment.of (year month day hour minute second micro : Nat) (offset : Option Int) :
    Except CalendarFault Moment := do
  let date ← Date.of year month day
  if 23 < hour then .error .hour
  else if 59 < minute then .error .minute
  else if 59 < second then .error .second
  else .ok ⟨date, hour, minute, second, micro, offset⟩

/-- Seconds since the first day of year 1 on the moment's own clock. -/
def Moment.clock (t : Moment) : Int :=
  (t.date.ordinal : Int) * secondsPerDay + (t.hour * 3600 + t.minute * 60 + t.second : Nat)

/-- The number of the day from which system clocks count. -/
def epochOrdinal : Nat := (Date.mk 1970 1 1).ordinal

/-- The moment, in universal time, that is so many seconds after the start of system clocks. -/
def Moment.ofEpoch (seconds : Nat) : Moment :=
  let rest := seconds % 86400
  ⟨.ofOrdinal (epochOrdinal + seconds / 86400), rest / 3600, rest / 60 % 60, rest % 60, 0, some 0⟩

/-- Whether two moments are the same. -/
def Moment.sameAs (t u : Moment) : Bool :=
  match t.offset, u.offset with
  | none, none => t.clock = u.clock && t.micro = u.micro
  | some a, some b => t.clock - a = u.clock - b && t.micro = u.micro
  | _, _ => false

/-! ## Texts -/

def Date.iso (d : Date) : String :=
  s!"{Text.padded 4 d.year}-{Text.padded 2 d.month}-{Text.padded 2 d.day}"

def offsetText (seconds : Int) : String :=
  let n := seconds.natAbs
  let rest := if n % 60 = 0 then "" else ":" ++ Text.padded 2 (n % 60)
  (if seconds < 0 then "-" else "+") ++ Text.padded 2 (n / 3600) ++ ":"
    ++ Text.padded 2 (n / 60 % 60) ++ rest

/-- The moment with `sep` between the date and the time. -/
def Moment.iso (t : Moment) (sep : String) : String :=
  t.date.iso ++ sep ++ Text.padded 2 t.hour ++ ":" ++ Text.padded 2 t.minute ++ ":"
    ++ Text.padded 2 t.second ++ (if t.micro = 0 then "" else "." ++ Text.padded 6 t.micro)
    ++ (t.offset.map offsetText).getD ""

/-- A span of seconds, in whole days and the seconds left over. -/
def spanLiteral (seconds : Int) : String :=
  let days := seconds / secondsPerDay
  let rest := seconds % secondsPerDay
  let parts :=
    (if days = 0 then [] else [s!"days={days}"]) ++ (if rest = 0 then [] else [s!"seconds={rest}"])
  "datetime.timedelta(" ++ (if parts.isEmpty then "0" else Text.joinWith ", " parts) ++ ")"

def offsetLiteral (seconds : Int) : String :=
  if seconds = 0 then "datetime.timezone.utc" else s!"datetime.timezone({spanLiteral seconds})"

def Date.literal (d : Date) : String := s!"datetime.date({d.year}, {d.month}, {d.day})"

def Moment.literal (t : Moment) : String :=
  let tail :=
    if t.micro ≠ 0 then [t.second, t.micro] else if t.second ≠ 0 then [t.second] else []
  let parts := [t.date.year, t.date.month, t.date.day, t.hour, t.minute] ++ tail
  "datetime.datetime(" ++ Text.joinWith ", " (parts.map toString)
    ++ (t.offset.map fun o => ", tzinfo=" ++ offsetLiteral o).getD "" ++ ")"

def CalendarFault.message : CalendarFault → String
  | .year n => s!"year {n} is out of range"
  | .month => "month must be in 1..12"
  | .day => "day is out of range for month"
  | .hour => "hour must be in 0..23"
  | .minute => "minute must be in 0..59"
  | .second => "second must be in 0..59"
  | .offset seconds =>
    "offset must be a timedelta strictly between -timedelta(hours=24) and timedelta(hours=24), not "
      ++ spanLiteral seconds ++ "."

end ModelSearch
