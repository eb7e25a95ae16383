import WikiRows.Instant.Basic
import WikiRows.Text.Blank

/-!
# Reading instants

A lenient reading of dates with times: white space may stand before every part, the parts need no
leading zeros, the date ends at `T`, `t` or a space, and the offset from UTC is `Z`, `z`, `UTC` or a
signed number of hours and minutes.
-/

namespace WikiRows

namespace Instant

open Text (isBlank trimStart)

def digitsValue (digits : List Char) : Nat :=
  digits.foldl (fun n c => 10 * n + (c.toNat - '0'.toNat)) 0

/-- A number of at least one and at most `width` digits. -/
def scanNumber (width : Nat) (s : List Char) : Option (Nat × List Char) :=
  let digits := (s.take width).takeWhile Char.isDigit
  if digits.isEmpty then none else some (digitsValue digits, s.drop digits.length)

def scanLongNumber (s : List Char) : Option (Nat × List Char) := scanNumber s.length s

def scanChar (c : Char) : List Char → Option (List Char)
  | d :: rest => if c = d then some rest else none
  | [] => none

/-- Four digits at most without a sign, any number with one. -/
def scanYear (s : List Char) : Option (Int × List Char) :=
  match trimStart s with
  | '-' :: rest => (scanLongNumber rest).map fun (n, rest) => (-(n : Int), rest)
  | '+' :: rest => (scanLongNumber rest).map fun (n, rest) => ((n : Int), rest)
  | rest => (scanNumber 4 rest).map fun (n, rest) => ((n : Int), rest)

def scanPart (s : List Char) : Option (Nat × List Char) := scanNumber 2 (trimStart s)

def scanMark (c : Char) (s : List Char) : Option (List Char) := scanChar c (trimStart s)

def scanDay (s : List Char) : Option (Day × List Char) := do
  let (year, s) ← scanYear s
  let s ← scanMark '-' s
  let (month, s) ← scanPart s
  let s ← scanMark '-' s
  let (day, s) ← scanPart s
  let date ← Day.of? year month day
  return (date, s)

/-- A fraction of a second in nanoseconds; digits after the ninth do not count. -/
def scanFraction (s : List Char) : Option (Nat × List Char) :=
  match s with
  | '.' :: rest =>
    let digits := (rest.take 9).takeWhile Char.isDigit
    if digits.isEmpty then none
    else some (digitsValue digits * Nat.pow 10 (9 - digits.length), rest.dropWhile Char.isDigit)
  | _ => some (0, s)

def scanClock (s : List Char) : Option (Clock × List Char) := do
  let (hour, s) ← scanPart s
  let s ← scanMark ':' s
  let (minute, s) ← scanPart s
  let s ← scanMark ':' s
  let (second, s) ← scanPart s
  let (nanosecond, s) ← scanFraction s
  let clock ← Clock.of? hour minute second nanosecond
  return (clock, s)

def twoDigits (s : List Char) : Option (Nat × List Char) :=
  match s with
  | a :: b :: rest => if a.isDigit && b.isDigit then some (digitsValue [a, b], rest) else none
  | _ => none

/-- Hours and minutes, with colons or white space between them, in minutes. -/
def scanHoursMinutes (s : List Char) : Option (Nat × List Char) := do
  let (hours, s) ← twoDigits s
  let (minutes, s) ← twoDigits (s.dropWhile fun c => c = ':' || isBlank c)
  if minutes < 60 && hours < 24 then return (hours * 60 + minutes, s) else none

def scanOffset (s : List Char) : Option (Int × List Char) :=
  if (s.take 3).map Char.toUpper = ['U', 'T', 'C'] then some (0, s.drop 3)
  else
    match s with
    | 'Z' :: rest | 'z' :: rest => some (0, rest)
    | '+' :: rest => (scanHoursMinutes rest).map fun (n, rest) => ((n : Int), rest)
    | '-' :: rest | '\u2212' :: rest =>
      (scanHoursMinutes rest).map fun (n, rest) => (-(n : Int), rest)
    | _ => none

def scanSeparator : List Char → Option (List Char)
  | 'T' :: rest | 't' :: rest | ' ' :: rest => some rest
  | _ => none

def ofChars? (s : List Char) : Option Instant := do
  let (day, s) ← scanDay s
  let s ← scanSeparator s
  let (clock, s) ← scanClock s
  let (offset, s) ← scanOffset (trimStart s)
  if Text.allBlank s then ofLocal? day clock offset else none

def ofText? (text : String) : Option Instant := ofChars? text.toList

end Instant

end WikiRows
