import WikiRows.Instant.Basic

/-!
# Printing instants

Date and time of day joined by `T`, with a final `Z` for UTC. To the second for the wire, and with
as many groups of three decimals as the fraction needs for storage.
-/

namespace WikiRows

def padded (width n : Nat) : List Char :=
  let digits := Nat.toDigits 10 n
  List.replicate (width - digits.length) '0' ++ digits

namespace Day

/-- Four digits; a year outside them has a sign. -/
def yearChars (year : Int) : List Char :=
  if 0 ≤ year ∧ year ≤ 9999 then padded 4 year.toNat
  else (if year < 0 then '-' else '+') :: padded 4 year.natAbs

def chars (d : Day) : List Char :=
  yearChars d.year ++ '-' :: padded 2 d.month ++ '-' :: padded 2 d.day

end Day

namespace Clock

def wholeChars (c : Clock) : List Char :=
  padded 2 c.hour ++ ':' :: padded 2 c.minute ++ ':' :: padded 2 c.second

/-- No fraction, or three, six or nine decimals of it. -/
def fractionChars (nanosecond : Nat) : List Char :=
  if nanosecond = 0 then []
  else if nanosecond % 1000000 = 0 then '.' :: padded 3 (nanosecond / 1000000)
  else if nanosecond % 1000 = 0 then '.' :: padded 6 (nanosecond / 1000)
  else '.' :: padded 9 nanosecond

end Clock

namespace Instant

/-- The text to the second; the fraction is dropped. -/
def wholeChars (t : Instant) : List Char :=
  t.day.chars ++ 'T' :: t.clock.wholeChars ++ ['Z']

def exactChars (t : Instant) : List Char :=
  t.day.chars ++ 'T' :: t.clock.wholeChars ++ Clock.fractionChars t.clock.nanosecond ++ ['Z']

def toSecondText (t : Instant) : String := String.ofList t.wholeChars

def toText (t : Instant) : String := String.ofList t.exactChars

end Instant

end WikiRows
