import DocTrace.Text.Quoted

/-!
Days and moments of the Gregorian calendar. A moment may carry its distance from
universal time.
-/

namespace DocTrace

/-- Why numbers are no date, no time of day or no distance from universal time. -/
inductive CalendarFault where
  | year (n : Nat)
  | month
  | day
  | hour
  | minute
  | second
  | offset (seconds : Int)
deriving DecidableEq

structure Date where
  year : Nat
  month : Nat
  day : Nat
deriving DecidableEq

structure Moment where
  date : Date
  hour : Nat
  minute : Nat
  second : Nat
  microsecond : Nat
  /-- Seconds to the east of universal time. -/
  offset : Option Int
deriving DecidableEq

namespace Date

def isLeapYear (y : Nat) : Bool := y % 4 = 0 && (y % 100 ≠ 0 || y % 400 = 0)

def daysInMonth (y m : Nat) : Nat :=
  if m = 2 then (if isLeapYear y then 29 else 28)
  else if m = 4 || m = 6 || m = 9 || m = 11 then 30
  else 31

def make (y m d : Nat) : Except CalendarFault Date :=
  if y < 1 || 9999 < y then .error (.year y)
  else if m < 1 || 12 < m then .error .month
  else if d < 1 || daysInMonth y m < d then .error .day
  else .ok ⟨y, m, d⟩

def dayNumber (d : Date) : Nat :=
  let y := d.year - 1
  let before := (List.range (d.month - 1)).foldl (fun n m => n + daysInMonth d.year (m + 1)) 0
  365 * y + y / 4 - y / 100 + y / 400 + before + d.day

def pad (width n : Nat) : String :=
  let digits := Nat.toDigits 10 n
  .ofList (List.replicate (width - digits.length) '0' ++ digits)

def toText (d : Date) : String := pad 4 d.year ++ "-" ++ pad 2 d.month ++ "-" ++ pad 2 d.day

def fields (d : Date) : String := s!"{d.year}, {d.month}, {d.day}"

def toLiteral (d : Date) : String := "datetime.date(" ++ d.fields ++ ")"

end Date

namespace Moment

def make (y m d hour minute second microsecond : Nat) (offset : Option Int) :
    Except CalendarFault Moment :=
  match offset with
  | some seconds =>
    if seconds.natAbs < 86400 then build else .error (.offset seconds)
  | none => build
where
  build : Except CalendarFault Moment :=
    (Date.make y m d).bind fun date =>
      if 23 < hour then .error .hour
      else if 59 < minute then .error .minute
      else if 59 < second then .error .second
      else .ok ⟨date, hour, minute, second, microsecond, offset⟩

def offsetText (seconds : Int) : String :=
  let n := seconds.natAbs
  (if seconds < 0 then "-" else "+") ++ Date.pad 2 (n / 3600) ++ ":" ++ Date.pad 2 (n / 60 % 60)

def toText (t : Moment) : String :=
  t.date.toText ++ " " ++ Date.pad 2 t.hour ++ ":" ++ Date.pad 2 t.minute ++ ":" ++
    Date.pad 2 t.second ++
    (if t.microsecond = 0 then "" else "." ++ Date.pad 6 t.microsecond) ++
    (t.offset.map offsetText).getD ""

/-- A span of time by its days and the seconds beyond them. -/
def spanLiteral (seconds : Int) : String :=
  let days := seconds.fdiv 86400
  let rest := seconds.fmod 86400
  "datetime.timedelta(" ++
    (if days = 0 then s!"seconds={rest}"
      else if rest = 0 then s!"days={days}"
      else s!"days={days}, seconds={rest}") ++ ")"

def zoneLiteral (seconds : Int) : String :=
  if seconds = 0 then "datetime.timezone.utc"
  else "datetime.timezone(" ++ spanLiteral seconds ++ ")"

def toLiteral (t : Moment) : String :=
  "datetime.datetime(" ++ t.date.fields ++ s!", {t.hour}, {t.minute}" ++
    (if t.microsecond ≠ 0 then s!", {t.second}, {t.microsecond}"
      else if t.second ≠ 0 then s!", {t.second}" else "") ++
    (t.offset.map fun seconds => ", tzinfo=" ++ zoneLiteral seconds).getD "" ++ ")"

/-- Seconds since a fixed moment of universal time, with microseconds. -/
def instant (t : Moment) (seconds : Int) : Int × Nat :=
  ((t.date.dayNumber * 86400 + t.hour * 3600 + t.minute * 60 + t.second : Nat) - seconds,
    t.microsecond)

/-- Two moments are equal when they name one instant, or read the same where no offset is known. -/
def eqValue (s t : Moment) : Bool :=
  match s.offset, t.offset with
  | some a, some b => s.instant a = t.instant b
  | none, none => s = t
  | _, _ => false

end Moment

namespace CalendarFault

def message : CalendarFault → String
  | .year n => s!"year {n} is out of range"
  | .month => "month must be in 1..12"
  | .day => "day is out of range for month"
  | .hour => "hour must be in 0..23"
  | .minute => "minute must be in 0..59"
  | .second => "second must be in 0..59"
  | .offset seconds =>
    "offset must be a timedelta strictly between -timedelta(hours=24) and timedelta(hours=24), not " ++
      Moment.spanLiteral seconds ++ "."

end CalendarFault

end DocTrace
