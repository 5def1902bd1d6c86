/-!
# Dates and moments

Dates of the Gregorian calendar, moments with a time of day and perhaps an offset from universal
time, and how both are written.
-/

namespace ContentBlocks.Calendar

/-- A date. -/
structure Date where
  year : Nat
  month : Nat
  day : Nat
  deriving DecidableEq

/-- A date with a time of day; the offset from universal time is in minutes. -/
structure Moment where
  date : Date
  hour : Nat
  minute : Nat
  second : Nat
  microsecond : Nat
  offset : Option Int
  deriving DecidableEq

/-- Whether a year has a day more. -/
def isLeap (year : Nat) : Bool := year % 4 = 0 && (year % 100 ≠ 0 || year % 400 = 0)

/-- The number of days in a month. -/
def daysIn (year month : Nat) : Nat :=
  if month = 2 then if isLeap year then 29 else 28
  else if [4, 6, 9, 11].contains month then 30
  else 31

/-- The days of the year before a month. -/
def daysBefore (year month : Nat) : Nat :=
  (List.range (month - 1)).foldr (fun m days => daysIn year (m + 1) + days) 0

/-- The days from the beginning of the calendar up to a date. -/
def Date.number (d : Date) : Nat :=
  let y := d.year - 1
  y * 365 + y / 4 - y / 100 + y / 400 + daysBefore d.year d.month + d.day

/-- The microseconds from the beginning of the calendar in universal time, with a missing offset
taken for none. -/
def Moment.instant (m : Moment) : Int :=
  let minutes : Int := ((m.date.number * 24 + m.hour) * 60 + m.minute : Nat) - m.offset.getD 0
  (minutes * 60 + m.second) * 1000000 + m.microsecond

/-- Whether two moments are the same, where both or neither say how they stand to universal time. -/
def Moment.same (m n : Moment) : Bool :=
  m.offset.isSome = n.offset.isSome && m.instant = n.instant

/-! ### Writing -/

/-- A number with zeros before it up to a width. -/
def padded (width n : Nat) : String :=
  let ds := Nat.toDigits 10 n
  String.ofList (List.replicate (width - ds.length) '0' ++ ds)

/-- A date as year, month and day. -/
def Date.write (d : Date) : String :=
  padded 4 d.year ++ "-" ++ padded 2 d.month ++ "-" ++ padded 2 d.day

/-- An offset as hours and minutes with a sign. -/
def writeOffset (minutes : Int) : String :=
  (if minutes < 0 then "-" else "+") ++ padded 2 (minutes.natAbs / 60) ++ ":" ++
    padded 2 (minutes.natAbs % 60)

/-- A moment, with `zulu` in place of the offset where that is zero. -/
def Moment.write (zulu : String) (m : Moment) : String :=
  m.date.write ++ "T" ++ padded 2 m.hour ++ ":" ++ padded 2 m.minute ++ ":" ++ padded 2 m.second ++
    (if m.microsecond = 0 then "" else "." ++ padded 6 m.microsecond) ++
    (match m.offset with
    | none => ""
    | some 0 => zulu
    | some minutes => writeOffset minutes)

end ContentBlocks.Calendar
