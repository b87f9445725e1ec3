/-!
Days of the calendar and moments of a day, with or without a distance from the common time of the
world.
-/

namespace AnchoredSet

structure Date where
  year : Nat
  month : Nat
  day : Nat
  deriving DecidableEq, Repr

structure Moment where
  date : Date
  hour : Nat
  minute : Nat
  second : Nat
  micro : Nat
  offset : Option Int
  deriving DecidableEq, Repr

inductive CalendarFault where
  | year (year : Nat)
  | month
  | day
  | hour
  | minute
  | second
  | offset (seconds : Int)
  deriving DecidableEq, Repr

namespace Calendar

def secondsOfDay : Nat := 86400

def padded (width n : Nat) : String :=
  let digits := toString n
  String.ofList (List.replicate (width - digits.length) '0') ++ digits

def isLeap (year : Nat) : Bool := year % 4 = 0 && (year % 100 ≠ 0 || year % 400 = 0)

def monthLengths (year : Nat) : List Nat :=
  [31, if isLeap year then 29 else 28, 31, 30, 31, 30, 31, 31, 30, 31, 30, 31]

def monthLength (year month : Nat) : Nat := (monthLengths year).getD (month - 1) 0

def shownDistance (seconds : Int) : String :=
  let days := seconds.fdiv secondsOfDay
  let left := seconds.fmod secondsOfDay
  let parts := (if days = 0 then [] else [s!"days={days}"])
    ++ (if left = 0 then [] else [s!"seconds={left}"])
  "datetime.timedelta(" ++ ", ".intercalate parts ++ ")"

end Calendar

open Calendar

def CalendarFault.message : CalendarFault → String
  | year given => s!"year {given} is out of range"
  | month => "month must be in 1..12"
  | day => "day is out of range for month"
  | hour => "hour must be in 0..23"
  | minute => "minute must be in 0..59"
  | second => "second must be in 0..59"
  | offset seconds =>
    "offset must be a timedelta strictly between -timedelta(hours=24) and "
      ++ s!"timedelta(hours=24), not {shownDistance seconds}."

namespace Date

def check (d : Date) : Except CalendarFault Unit :=
  if d.year = 0 then .error (.year d.year)
  else if d.month = 0 || 12 < d.month then .error .month
  else if d.day = 0 || monthLength d.year d.month < d.day then .error .day
  else .ok ()

def number (d : Date) : Nat :=
  let before := d.year - 1
  365 * before + before / 4 - before / 100 + before / 400
    + ((monthLengths d.year).take (d.month - 1)).foldl (· + ·) 0 + d.day

def written (d : Date) : String :=
  padded 4 d.year ++ "-" ++ padded 2 d.month ++ "-" ++ padded 2 d.day

def shown (d : Date) : String := s!"datetime.date({d.year}, {d.month}, {d.day})"

end Date

namespace Moment

def check (m : Moment) : Except CalendarFault Unit := do
  match m.offset with
  | some offset => if secondsOfDay ≤ offset.natAbs then throw (.offset offset)
  | none => pure ()
  m.date.check
  if 23 < m.hour then throw .hour
  if 59 < m.minute then throw .minute
  if 59 < m.second then throw .second

def instant (m : Moment) : Int :=
  let seconds := m.date.number * secondsOfDay + m.hour * 3600 + m.minute * 60 + m.second
  ((seconds : Int) - m.offset.getD 0) * 1000000 + m.micro

/-- Whether two moments are the same; one without a distance is none with one. -/
def same (m n : Moment) : Bool :=
  m.offset.isSome = n.offset.isSome && m.instant = n.instant

def writtenOffset (offset : Int) : String :=
  let minutes := offset.natAbs / 60
  (if offset < 0 then "-" else "+") ++ padded 2 (minutes / 60) ++ ":" ++ padded 2 (minutes % 60)

def written (m : Moment) : String :=
  m.date.written ++ " " ++ padded 2 m.hour ++ ":" ++ padded 2 m.minute ++ ":" ++ padded 2 m.second
    ++ (if m.micro = 0 then "" else "." ++ padded 6 m.micro)
    ++ (m.offset.map writtenOffset).getD ""

def shownOffset (offset : Int) : String :=
  if offset = 0 then "tzinfo=datetime.timezone.utc"
  else s!"tzinfo=datetime.timezone({shownDistance offset})"

def shown (m : Moment) : String :=
  let numbers := [m.date.year, m.date.month, m.date.day, m.hour, m.minute]
    ++ (if m.second = 0 && m.micro = 0 then [] else [m.second])
    ++ (if m.micro = 0 then [] else [m.micro])
  "datetime.datetime("
    ++ ", ".intercalate (numbers.map toString ++ (m.offset.map shownOffset).toList) ++ ")"

end Moment

end AnchoredSet
