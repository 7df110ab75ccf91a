import ComponentFlow.Decimal.Format

/-!
# Timestamps

Days of the calendar and moments on them, as documents may give them. A moment is exact to the
microsecond and may know its distance from universal time. Moments that know it are compared as
points in time; a moment that does not is never the same as one that does.
-/

namespace ComponentFlow

/-- A day of the calendar. -/
structure Day where
  year : Nat
  month : Nat
  day : Nat
  deriving Repr, DecidableEq, Inhabited

/-- A time of day. -/
structure Clock where
  hour : Nat
  minute : Nat
  second : Nat
  microsecond : Nat
  /-- The distance from universal time in minutes, where it is known. -/
  offset : Option Int
  deriving Repr, DecidableEq, Inhabited

/-- A day, or a time on a day. -/
inductive Timestamp where
  | day (d : Day)
  | moment (d : Day) (c : Clock)
  deriving Repr, DecidableEq, Inhabited

/-- Why there is no such time. -/
inductive TimestampFault where
  | noSuchYear (year : Nat)
  | noSuchMonth
  | noSuchDay
  | noSuchHour
  | noSuchMinute
  | noSuchSecond
  /-- The distance from universal time is a day or more. -/
  | offsetTooLarge (minutes : Int)
  deriving Repr, DecidableEq, Inhabited

/-! ## The calendar -/

/-- Whether a year has a day more in February. -/
def isLeapYear (year : Nat) : Bool :=
  year % 4 == 0 && (year % 100 != 0 || year % 400 == 0)

/-- The number of days in a month. -/
def monthLength (year month : Nat) : Nat :=
  if month == 2 then (if isLeapYear year then 29 else 28)
  else if [4, 6, 9, 11].contains month then 30 else 31

namespace Day

/-- What is wrong with a day. -/
def fault? (d : Day) : Option TimestampFault :=
  if d.year == 0 then some (.noSuchYear d.year)
  else if d.month == 0 || 12 < d.month then some .noSuchMonth
  else if d.day == 0 || monthLength d.year d.month < d.day then some .noSuchDay
  else none

/-- The number of a day, counted from the first day of the first year. -/
def number (d : Day) : Nat :=
  let years := d.year - 1
  let before := (List.range (d.month - 1)).foldl (fun days m => days + monthLength d.year (m + 1)) 0
  365 * years + years / 4 - years / 100 + years / 400 + before + d.day

end Day

namespace Clock

/-- What is wrong with a time of day, its offset apart. -/
def fault? (c : Clock) : Option TimestampFault :=
  if 23 < c.hour then some .noSuchHour
  else if 59 < c.minute then some .noSuchMinute
  else if 59 < c.second then some .noSuchSecond
  else none

/-- What is wrong with the offset of a time of day. -/
def offsetFault? (c : Clock) : Option TimestampFault :=
  c.offset.bind fun minutes =>
    if minutes.natAbs < 1440 then none else some (.offsetTooLarge minutes)

/-- The microseconds from the start of the day in universal time. -/
def sinceMidnight (c : Clock) : Int :=
  let minutes : Int := 60 * c.hour + c.minute
  (60 * (minutes - c.offset.getD 0) + c.second) * 1000000 + c.microsecond

end Clock

namespace Timestamp

/-- The first thing that is wrong with a timestamp: the offset is looked at first. -/
def fault? : Timestamp → Option TimestampFault
  | day d => d.fault?
  | moment d c => c.offsetFault?.or (d.fault?.or c.fault?)

/-- Whether two timestamps are the same day, or the same point in time. -/
def same : Timestamp → Timestamp → Bool
  | day d, day e => d == e
  | moment d c, moment e k =>
    match c.offset, k.offset with
    | none, none => d == e && c == k
    | some _, some _ =>
      let day : Int := 86400000000
      day * d.number + c.sinceMidnight == day * e.number + k.sinceMidnight
    | _, _ => false
  | _, _ => false

end Timestamp

/-! ## Texts -/

namespace Decimal

/-- A number with zeros in front of it up to a width. -/
def zeroPadded (width n : Nat) : String :=
  let digits := Nat.toDigits 10 n
  String.ofList (List.replicate (width - digits.length) '0' ++ digits)

end Decimal

namespace Timestamp

/-- A day as text. -/
def dayText (d : Day) : String :=
  Decimal.zeroPadded 4 d.year ++ "-" ++ Decimal.zeroPadded 2 d.month ++ "-" ++
    Decimal.zeroPadded 2 d.day

/-- A distance from universal time as text. -/
def offsetText (minutes : Int) : String :=
  (if minutes < 0 then "-" else "+") ++ Decimal.zeroPadded 2 (minutes.natAbs / 60) ++ ":" ++
    Decimal.zeroPadded 2 (minutes.natAbs % 60)

/-- A time of day as text. Microseconds are left out if there are none. -/
def clockText (c : Clock) : String :=
  ":".intercalate ([c.hour, c.minute, c.second].map (Decimal.zeroPadded 2)) ++
    (if c.microsecond == 0 then "" else "." ++ Decimal.zeroPadded 6 c.microsecond) ++
    (c.offset.map offsetText).getD ""

/-- A timestamp as text. -/
def text : Timestamp → String
  | day d => dayText d
  | moment d c => dayText d ++ " " ++ clockText c

/-- A distance in minutes, inspected: whole days, and the seconds of the day that is left. -/
def inspectedMinutes (minutes : Int) : String :=
  let days := minutes.fdiv 1440
  let seconds := 60 * minutes.fmod 1440
  let parts := (if days == 0 then [] else ["days=" ++ Decimal.intText days]) ++
    (if seconds == 0 then [] else ["seconds=" ++ Decimal.intText seconds])
  "datetime.timedelta(" ++ (if parts.isEmpty then "0" else ", ".intercalate parts) ++ ")"

/-- A distance from universal time, inspected. -/
def inspectedOffset (minutes : Int) : String :=
  if minutes == 0 then "datetime.timezone.utc"
  else "datetime.timezone(" ++ inspectedMinutes minutes ++ ")"

/-- A call with numbers as arguments. -/
def inspectedCall (name : String) (numbers : List Nat) (more : List String) : String :=
  name ++ "(" ++ ", ".intercalate (numbers.map (fun (n : Nat) => Decimal.intText n) ++ more) ++ ")"

/-- The inspected form of a timestamp. Seconds and microseconds at the end are left out if there are
none. -/
def inspected : Timestamp → String
  | day d => inspectedCall "datetime.date" [d.year, d.month, d.day] []
  | moment d c =>
    let fine :=
      if c.microsecond != 0 then [c.second, c.microsecond]
      else if c.second != 0 then [c.second] else []
    inspectedCall "datetime.datetime" ([d.year, d.month, d.day, c.hour, c.minute] ++ fine)
      (c.offset.toList.map fun minutes => "tzinfo=" ++ inspectedOffset minutes)

/-- The name of a timestamp's kind, as error messages give it. -/
def kindName : Timestamp → String
  | day _ => "date"
  | moment _ _ => "datetime"

end Timestamp

/-- The message for a fault. -/
def TimestampFault.message : TimestampFault → String
  | noSuchYear year => "year " ++ Decimal.intText year ++ " is out of range"
  | noSuchMonth => "month must be in 1..12"
  | noSuchDay => "day is out of range for month"
  | noSuchHour => "hour must be in 0..23"
  | noSuchMinute => "minute must be in 0..59"
  | noSuchSecond => "second must be in 0..59"
  | offsetTooLarge minutes =>
    "offset must be a timedelta strictly between -timedelta(hours=24) and timedelta(hours=24), " ++
      "not " ++ Timestamp.inspectedMinutes minutes ++ "."

end ComponentFlow
