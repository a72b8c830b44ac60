import ApiAtlas.Text.Basic

/-!
# Dates

**Definitions.** A day of the calendar and a point in time, as payloads may write them, with the
range of their parts and the way in which they are shown.
-/

namespace ApiAtlas

/-- A day. -/
structure Day where
  /-- The year. -/
  year : Nat
  /-- The month, from 1. -/
  month : Nat
  /-- The day of the month, from 1. -/
  day : Nat
deriving DecidableEq, Repr

/-- A point in time; `offset` is the distance from universal time in minutes, when given. -/
structure Moment where
  /-- The day. -/
  day : Day
  /-- The hour. -/
  hour : Nat
  /-- The minute. -/
  minute : Nat
  /-- The second. -/
  second : Nat
  /-- The millionth parts of the second. -/
  micro : Nat
  /-- The distance from universal time in minutes. -/
  offset : Option Int
deriving DecidableEq, Repr

namespace Day

/-- The number of days in a month. -/
def monthLength (year month : Nat) : Nat :=
  if month = 2 then
    if year % 4 = 0 && (year % 100 != 0 || year % 400 = 0) then 29 else 28
  else if month = 4 || month = 6 || month = 9 || month = 11 then 30
  else 31

/-- Whether the calendar has the day. -/
def isValid (d : Day) : Bool :=
  1 ≤ d.year && d.year ≤ 9999 && 1 ≤ d.month && d.month ≤ 12 && 1 ≤ d.day &&
    d.day ≤ monthLength d.year d.month

/-- The number of days before a year. -/
def daysBeforeYear (year : Nat) : Nat :=
  365 * (year - 1) + (year - 1) / 4 - (year - 1) / 100 + (year - 1) / 400

/-- The number of the day, counted from the first day of the calendar. -/
def number (d : Day) : Nat :=
  daysBeforeYear d.year +
    ((List.range (d.month - 1)).map fun m => monthLength d.year (m + 1)).foldl (· + ·) 0 + d.day

/-- A number with zeros in front up to a width. -/
def padded (width n : Nat) : Text :=
  let t := Text.ofNat n
  List.replicate (width - t.length) '0' ++ t

/-- The day as year, month and day. -/
def shown (d : Day) : Text :=
  padded 4 d.year ++ '-' :: padded 2 d.month ++ '-' :: padded 2 d.day

end Day

namespace Moment

/-- Whether every part is in its range. -/
def isValid (m : Moment) : Bool :=
  m.day.isValid && m.hour < 24 && m.minute < 60 && m.second < 60 &&
    (m.offset.elim true fun o => o.natAbs < 1440)

/-- The millionth parts of seconds since the calendar began, by the clock that the moment shows. -/
def clock (m : Moment) : Int :=
  (((m.day.number * 24 + m.hour) * 60 + m.minute) * 60 + m.second) * 1000000 + m.micro

/-- Whether two moments are the same instant.  A moment without a distance from universal time is
only the same as one that shows the same clock and has none either. -/
def sameInstant (m n : Moment) : Bool :=
  match m.offset, n.offset with
  | none, none => m.clock == n.clock
  | some o, some p => m.clock - o * 60000000 == n.clock - p * 60000000
  | _, _ => false

/-- The distance from universal time as hours and minutes. -/
def offsetShown (o : Int) : Text :=
  (if o < 0 then '-' else '+') :: Day.padded 2 (o.natAbs / 60) ++
    ':' :: Day.padded 2 (o.natAbs % 60)

/-- The day and the time of day. -/
def shown (m : Moment) : Text :=
  m.day.shown ++ ' ' :: Day.padded 2 m.hour ++ ':' :: Day.padded 2 m.minute ++
    ':' :: Day.padded 2 m.second ++
    (if m.micro = 0 then [] else '.' :: Day.padded 6 m.micro) ++
    m.offset.elim [] offsetShown

end Moment

end ApiAtlas
