import ModelSearch.Calendar
import ModelSearch.Console.Table
import ModelSearch.Log

/-!
# Log lines

Records are set in three columns: the time, the level and the message.  A time that is that of the
record before is left blank.
-/

namespace ModelSearch.Console

open Text

/-- How much is logged. -/
inductive Verbosity where
  | silent
  | informed
  | detailed
  deriving DecidableEq, Repr

namespace Verbosity

/-- The verbosity that a number of requests asks for. -/
def ofCount : Nat → Verbosity
  | 0 => .silent
  | 1 => .informed
  | _ => .detailed

def shows (v : Verbosity) (level : LogLevel) : Bool :=
  match v, level with
  | .silent, _ => false
  | .informed, .debug => false
  | .informed, .info => true
  | .detailed, _ => true

end Verbosity

/-- A moment as log lines show it. -/
def stampOf (t : Moment) : String :=
  let clock := joinWith ":" ([t.hour, t.minute, t.second].map (padded 2))
  let day := joinWith "/" ([t.date.month, t.date.day, t.date.year % 100].map (padded 2))
  "[" ++ day ++ " " ++ clock ++ "]"

/-- The columns of the time and the space after it. -/
def stampWidth : Nat := 20

/-- The columns of the level and the space after it. -/
def levelWidth : Nat := 9

def messageWidth : Nat := consoleWidth - stampWidth - levelWidth

/-- The lines of a record whose time is shown as `stamp`. -/
def recordLines (stamp : List Char) (r : LogRecord) : List (List Char) :=
  let message := withoutControls r.message.toList
  let lines := wrap .left .fold messageWidth message
  let head := toColumns stampWidth stamp ++ toColumns levelWidth r.level.name.toList
  match lines with
  | [] => []
  | l :: rest => (head ++ l) :: rest.map (spaces (stampWidth + levelWidth) ++ ·)

/-- The text of records of one time. -/
def recordsText (stamp : String) (records : List LogRecord) : String :=
  match records with
  | [] => ""
  | r :: rest => textOfLines (recordLines stamp.toList r ++ rest.flatMap (recordLines []))

/-- The records that are shown. -/
def shownRecords (v : Verbosity) (records : List LogRecord) : List LogRecord :=
  records.filter fun r => v.shows r.level

/-- What keeps the first of the records that cannot be put into words from being shown. -/
def logFault (v : Verbosity) (records : List LogRecord) : Option TellFault :=
  (shownRecords v records).findSome? (·.fault)

/-- The text of the log, which ends at the first record that cannot be put into words. -/
def logText (v : Verbosity) (stamp : String) (records : List LogRecord) : String :=
  recordsText stamp ((shownRecords v records).takeWhile (·.fault.isNone))

end ModelSearch.Console
