/-!
# Numbers of JSON texts

A number without fraction and exponent that fits 64 bits is whole, all others are doubles. A double
is read from as many leading digits as fit an unsigned 64-bit integer: that integer, rounded to a
double, is multiplied or divided by a power of ten. Only a number beyond the range of doubles has
no value.
-/

namespace WikiRows

namespace Json

inductive Number where
  | int (i : Int)
  | float (x : Float)
  deriving Repr

namespace Number

structure Parts where
  negative : Bool
  whole : List Char
  fraction : Option (List Char)
  exponent : Option Int
  deriving DecidableEq, Repr

def digitsValue (digits : List Char) : Nat :=
  digits.foldl (fun n c => 10 * n + (c.toNat - '0'.toNat)) 0

def scanWhole (s : List Char) : Option (List Char × List Char) :=
  match s.takeWhile Char.isDigit with
  | [] => none
  | '0' :: _ :: _ => none
  | digits => some (digits, s.dropWhile Char.isDigit)

def scanFraction (s : List Char) : Option (Option (List Char) × List Char) :=
  match s with
  | '.' :: rest =>
    let digits := rest.takeWhile Char.isDigit
    if digits.isEmpty then none else some (some digits, rest.dropWhile Char.isDigit)
  | _ => some (none, s)

/-- The digits of an exponent reach to the end of the number. -/
def scanExponent (s : List Char) : Option (Option Int) :=
  let magnitude (digits : List Char) : Option Nat :=
    if digits.isEmpty || !digits.all Char.isDigit then none else some (digitsValue digits)
  match s with
  | [] => some none
  | mark :: rest =>
    if mark = 'e' || mark = 'E' then
      match rest with
      | '+' :: digits => (magnitude digits).map fun n => some (n : Int)
      | '-' :: digits => (magnitude digits).map fun n => some (-(n : Int))
      | digits => (magnitude digits).map fun n => some (n : Int)
    else none

/-- Takes a number apart. Nothing else may be in the text. -/
def Parts.ofChars? (s : List Char) : Option Parts := do
  let (negative, s) := match s with
    | '-' :: rest => (true, rest)
    | _ => (false, s)
  let (whole, s) ← scanWhole s
  let (fraction, s) ← scanFraction s
  let exponent ← scanExponent s
  return ⟨negative, whole, fraction, exponent⟩

def wordSize : Nat := 0x10000000000000000

/-- The leading digits that fit a word, and how many follow them. -/
def leadingDigits : Nat → List Char → Nat × Nat
  | n, [] => (n, 0)
  | n, c :: rest =>
    let n' := 10 * n + (c.toNat - '0'.toNat)
    if n' < wordSize then leadingDigits n' rest else (n, rest.length + 1)

def tenPower (n : Nat) : Float := Float.ofScientific 1 false n

/-- The product `x * 10 ^ e`, with a power of ten in one step where there is one. -/
def scale (x : Float) (e : Int) : Option Float :=
  if e.natAbs ≤ 308 then
    if 0 ≤ e then
      let y := x * tenPower e.natAbs
      if y.isInf then none else some y
    else some (x / tenPower e.natAbs)
  else if x == 0 then some x
  else if 0 ≤ e then none
  else scale (x / tenPower 308) (e + 308)
termination_by (-e).toNat
decreasing_by omega

def Parts.toFloat? (p : Parts) : Option Float :=
  let (n, skipped) := leadingDigits 0 p.whole
  let fraction := p.fraction.getD []
  let (m, dropped) := leadingDigits n fraction
  let e : Int := skipped - (fraction.length - dropped : Nat) + p.exponent.getD 0
  (scale (Float.ofNat m) e).map fun x => if p.negative then -x else x

/-- The number of these parts, unless it is beyond the doubles. Minus zero is a double. -/
def ofParts? (p : Parts) : Option Number :=
  let n := digitsValue p.whole
  if p.fraction.isSome || p.exponent.isSome then p.toFloat?.map float
  else if !p.negative && n < wordSize then some (int n)
  else if p.negative && 0 < n && n ≤ 0x8000000000000000 then some (int (-n))
  else if p.negative && n < wordSize then some (float (-Float.ofNat n))
  else p.toFloat?.map float

end Number

end Json

end WikiRows
