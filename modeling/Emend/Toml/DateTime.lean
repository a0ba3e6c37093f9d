import Emend.Text.Number
/-!
# Dates and times

A written moment is a date, a time, or both with a `T` or a blank between them,
and one with both may end in an offset.  Each number has two digits, the year
four.  Seconds may be missing, and only seconds have decimal places.

* A day is one of its month, and a minute may have a 61st second.
* An offset is `Z`, or a sign with hours and minutes.
-/

namespace Emend.Toml

/-- A day of the calendar. -/
structure Date where
  /-- The year. -/
  year : Nat
  /-- The month, from one on. -/
  month : Nat
  /-- The day of the month, from one on. -/
  day : Nat
  deriving DecidableEq, Repr

/-- A time of day. -/
structure Time where
  /-- The hour. -/
  hour : Nat
  /-- The minute. -/
  minute : Nat
  /-- The second, if there is one. -/
  second : Option Nat
  /-- The digits of its decimal places. -/
  places : Text
  deriving DecidableEq, Repr

/-- A date, a time, or both, perhaps with an offset from universal time in
minutes. -/
structure DateTime where
  /-- The date. -/
  date : Option Date
  /-- The time. -/
  time : Option Time
  /-- The offset. -/
  offset : Option Int
  deriving DecidableEq, Repr

/-! ## The calendar -/

/-- Whether a year has a day more than others. -/
def isLeapYear (year : Nat) : Bool := year % 4 == 0 && (year % 100 != 0 || year % 400 == 0)

/-- The number of days of a month. -/
def daysIn (year month : Nat) : Nat :=
  if month = 2 then if isLeapYear year then 29 else 28
  else if month ∈ [4, 6, 9, 11] then 30
  else 31

/-- Whether the calendar has the day. -/
def Date.isValid (d : Date) : Bool :=
  1 ≤ d.month && d.month ≤ 12 && 1 ≤ d.day && d.day ≤ daysIn d.year d.month

/-- Whether a day has the time; the last minute may be a second longer. -/
def Time.isValid (t : Time) : Bool :=
  t.hour ≤ 23 && t.minute ≤ 59 && t.second.getD 0 ≤ 60

/-! ## Reading -/

/-- The number in so many digits at the start of a text. -/
def digitsAt? (n : Nat) (t : Text) : Option (Nat × Text) := do
  if t.length < n then none else return (← Text.digits? (t.take n), t.drop n)

/-- A number of two digits after a mark. -/
def digitsAfter? (mark : Char) : Text → Option (Nat × Text)
  | c :: t => if c = mark then digitsAt? 2 t else none
  | [] => none

/-- A date. -/
def date? (t : Text) : Option (Date × Text) := do
  let (year, t) ← digitsAt? 4 t
  let (month, t) ← digitsAfter? '-' t
  let (day, t) ← digitsAfter? '-' t
  let d : Date := { year, month, day }
  if d.isValid then some (d, t) else none

/-- A time. -/
def time? (t : Text) : Option (Time × Text) := do
  let (hour, t) ← digitsAt? 2 t
  let (minute, t) ← digitsAfter? ':' t
  let (time, t) : Time × Text := match digitsAfter? ':' t with
    | some (second, '.' :: t) =>
      let places := t.takeWhile Char.isDigit
      ({ hour, minute, second, places }, if places.isEmpty then '.' :: t else t.drop places.length)
    | some (second, t) => ({ hour, minute, second, places := [] }, t)
    | none => ({ hour, minute, second := none, places := [] }, t)
  if time.isValid then some (time, t) else none

/-- An offset. -/
def offset? : Text → Option (Int × Text)
  | [] => none
  | c :: t =>
    if c = 'Z' ∨ c = 'z' then some (0, t)
    else if c = '+' ∨ c = '-' then do
      let (hours, t) ← digitsAt? 2 t
      let (minutes, t) ← digitsAfter? ':' t
      if hours ≤ 23 ∧ minutes ≤ 59 then
        let shift : Int := 60 * hours + minutes
        some (if c = '-' then -shift else shift, t)
      else none
    else none

/-- The moment that a text writes. -/
def dateTime? (t : Text) : Option DateTime :=
  match date? t with
  | none =>
    match time? t with
    | some (time, []) => some { date := none, time, offset := none }
    | _ => none
  | some (date, []) => some { date, time := none, offset := none }
  | some (date, mark :: t) =>
    if mark = 'T' ∨ mark = 't' ∨ mark = ' ' then
      match time? t with
      | none => none
      | some (time, []) => some { date, time, offset := none }
      | some (time, t) =>
        match offset? t with
        | some (offset, []) => some { date, time, offset }
        | _ => none
    else none

example : dateTime? "2024-02-29".toList = some ⟨some ⟨2024, 2, 29⟩, none, none⟩ := by decide
example : dateTime? "2023-02-29".toList = none := by decide
example : dateTime? "07:32".toList = some ⟨none, some ⟨7, 32, none, []⟩, none⟩ := by decide
example : dateTime? "1979-05-27 07:32:00.5-08:00".toList =
    some ⟨some ⟨1979, 5, 27⟩, some ⟨7, 32, some 0, ['5']⟩, some (-480)⟩ := by decide
example : dateTime? "07:32:00Z".toList = none := by decide

end Emend.Toml
