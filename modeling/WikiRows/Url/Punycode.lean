/-!
# Punycode

A label of a domain in ASCII: first its ASCII characters, then, behind the last hyphen, numbers that
say which other characters stand where. The numbers are written in base 36, the least digit first,
with thresholds that adapt to the size of the last one.
-/

namespace WikiRows.Url.Punycode

def digit? (c : Char) : Option Nat :=
  if 'a' ≤ c ∧ c ≤ 'z' then some (c.toNat - 'a'.toNat)
  else if 'A' ≤ c ∧ c ≤ 'Z' then some (c.toNat - 'A'.toNat)
  else if '0' ≤ c ∧ c ≤ '9' then some (26 + (c.toNat - '0'.toNat))
  else none

/-- A digit below the threshold of its place is the last one of its number. -/
def threshold (place bias : Nat) : Nat := min 26 (max 1 (36 * (place + 1) - bias))

/-- Halves a number until it is small, and counts how often it had to be divided. -/
def damp (n places : Nat) : Nat :=
  if 455 < n then damp (n / 35) (places + 36) else places + 36 * n / (n + 38)
termination_by n

/-- The bias after a number, for a label that has come to `length` characters. -/
def adapt (number length : Nat) (isFirst : Bool) : Nat :=
  let n := if isFirst then number / 700 else number / 2
  damp (n + n / length) 0

/-- What has been decoded, and the number that is being read. -/
structure Decoder where
  label : List Char
  code : Nat
  bias : Nat
  /-- Where the next character would stand if its number were zero. -/
  position : Nat
  number : Nat
  weight : Nat
  place : Nat

namespace Decoder

def start (ascii : List Char) : Decoder := ⟨ascii, 0x80, 72, 0, 0, 1, 0⟩

def insert? (d : Decoder) (number : Nat) : Option Decoder :=
  let length := d.label.length + 1
  let target := d.position + number
  let code := d.code + target / length
  if code.isValidChar then
    let position := target % length
    some ⟨d.label.take position ++ Char.ofNat code :: d.label.drop position, code,
      adapt number length (d.position = 0), position + 1, 0, 1, 0⟩
  else none

def step? (d : Decoder) (c : Char) : Option Decoder := do
  let digit ← digit? c
  let number := d.number + digit * d.weight
  let least := threshold d.place d.bias
  if digit < least then d.insert? number
  else return { d with number, weight := d.weight * (36 - least), place := d.place + 1 }

def finish? (d : Decoder) : Option (List Char) := if d.place = 0 then some d.label else none

end Decoder

/-- The ASCII characters of an encoded label and the digits of its numbers. A hyphen in front of
which there is nothing separates nothing. -/
def split (s : List Char) : List Char × List Char :=
  let digits := (s.reverse.takeWhile (· ≠ '-')).reverse
  match s.take (s.length - digits.length - 1) with
  | [] => ([], s)
  | ascii => (ascii, digits)

def decode? (s : List Char) : Option (List Char) := do
  let (ascii, digits) := split s
  if ascii.any (0x80 ≤ ·.toNat) then none
  let d ← digits.foldlM Decoder.step? (Decoder.start ascii)
  d.finish?

end WikiRows.Url.Punycode
