/-!
# Instants

A point in time in UTC: a day of the proleptic Gregorian calendar and a time of day. The second 60
stands for a leap second and may end any minute. Moving an instant by whole minutes moves the day
by at most one, to its neighbour in the calendar.
-/

namespace WikiRows

def isLeapYear (year : Int) : Bool :=
  year % 4 = 0 && (year % 100 ≠ 0 || year % 400 = 0)

def daysInMonth (year : Int) (month : Nat) : Nat :=
  match month with
  | 2 => if isLeapYear year then 29 else 28
  | 4 | 6 | 9 | 11 => 30
  | _ => 31

def firstYear : Int := -262143

def lastYear : Int := 262142

structure Day where
  year : Int
  month : Nat
  day : Nat
  year_mem : firstYear ≤ year ∧ year ≤ lastYear
  month_mem : 1 ≤ month ∧ month ≤ 12
  day_mem : 1 ≤ day ∧ day ≤ daysInMonth year month
  deriving DecidableEq, Repr

namespace Day

/-- The day of that name, if the calendar has it. -/
def of? (year : Int) (month day : Nat) : Option Day :=
  if hy : firstYear ≤ year ∧ year ≤ lastYear then
    if hm : 1 ≤ month ∧ month ≤ 12 then
      if hd : 1 ≤ day ∧ day ≤ daysInMonth year month then some ⟨year, month, day, hy, hm, hd⟩
      else none
    else none
  else none

def next? (d : Day) : Option Day :=
  if d.day < daysInMonth d.year d.month then of? d.year d.month (d.day + 1)
  else if d.month < 12 then of? d.year (d.month + 1) 1
  else of? (d.year + 1) 1 1

def previous? (d : Day) : Option Day :=
  if 1 < d.day then of? d.year d.month (d.day - 1)
  else if 1 < d.month then of? d.year (d.month - 1) (daysInMonth d.year (d.month - 1))
  else of? (d.year - 1) 12 31

end Day

structure Clock where
  hour : Nat
  minute : Nat
  second : Nat
  nanosecond : Nat
  hour_lt : hour < 24
  minute_lt : minute < 60
  second_le : second ≤ 60
  nanosecond_lt : nanosecond < 1000000000
  deriving DecidableEq, Repr

namespace Clock

def of? (hour minute second nanosecond : Nat) : Option Clock :=
  if hh : hour < 24 then
    if hm : minute < 60 then
      if hs : second ≤ 60 then
        if hn : nanosecond < 1000000000 then some ⟨hour, minute, second, nanosecond, hh, hm, hs, hn⟩
        else none
      else none
    else none
  else none

def minuteOfDay (c : Clock) : Nat := c.hour * 60 + c.minute

/-- The same second of another minute of the day. -/
def atMinute (c : Clock) (minute : Nat) (h : minute < 1440) : Clock :=
  { c with
    hour := minute / 60
    minute := minute % 60
    hour_lt := by omega
    minute_lt := by omega }

end Clock

/-- A point in time in UTC. -/
structure Instant where
  day : Day
  clock : Clock
  deriving DecidableEq, Repr

namespace Instant

/-- The instant at which clocks that run `offset` minutes ahead of UTC show `day` and `clock`. -/
def ofLocal? (day : Day) (clock : Clock) (offset : Int) : Option Instant :=
  let minute : Int := clock.minuteOfDay - offset
  let shifted := clock.atMinute (minute % 1440).toNat (by omega)
  if minute < 0 then day.previous?.map (⟨·, shifted⟩)
  else if 1440 ≤ minute then day.next?.map (⟨·, shifted⟩)
  else some ⟨day, shifted⟩

end Instant

end WikiRows
