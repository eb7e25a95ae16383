/-!
# Shortest decimals

`Decimal.ofFloat` finds, among the decimals that are read back as a given double, one with the
fewest digits and of those the nearest. Of two that are equally near, a `Tie` says which. All
arithmetic is exact, on natural numbers.
-/

namespace WikiRows

/-- The number `coefficient * 10 ^ exponent`. -/
structure Decimal where
  coefficient : Nat
  exponent : Int
  deriving DecidableEq, Repr

/-- The magnitude `mantissa * 2 ^ exponent` of a finite double. -/
structure Binary where
  mantissa : Nat
  exponent : Int
  deriving DecidableEq, Repr

namespace Binary

def ofFloat (x : Float) : Binary :=
  let bits : Nat := x.toBits.toNat
  let fraction : Nat := bits % 0x10000000000000
  let scale : Nat := bits / 0x10000000000000 % 0x800
  if scale = 0 then ⟨fraction, -1074⟩ else ⟨fraction + 0x10000000000000, (scale : Int) - 1075⟩

end Binary

/-- Which of two neighbours is taken when a value is halfway between them. -/
inductive Tie where
  | greater
  | even
  deriving DecidableEq, Repr

namespace Tie

def choose (tie : Tie) (d : Nat) : Nat :=
  match tie with
  | greater => d + 1
  | even => if d % 2 = 0 then d else d + 1

end Tie

namespace Decimal

/-- Positive powers of two and ten on the two sides of a comparison with `2 ^ q` and `10 ^ k`. -/
def power (base : Nat) (e : Int) : Nat := Nat.pow base e.toNat

/-- Whether `a * 2 ^ q ≤ d * 10 ^ k`. -/
def binaryLe (a : Nat) (q : Int) (d : Nat) (k : Int) : Bool :=
  a * power 2 q * power 10 (-k) ≤ d * power 10 k * power 2 (-q)

/-- Whether `d * 10 ^ k ≤ a * 2 ^ q`. -/
def decimalLe (d : Nat) (k : Int) (a : Nat) (q : Int) : Bool :=
  d * power 10 k * power 2 (-q) ≤ a * power 2 q * power 10 (-k)

/-- The interval of the numbers that round to a double, in units of a quarter of its last place.
Its ends belong to it when the mantissa is even. -/
def rounds (b : Binary) (d : Nat) (k : Int) : Bool :=
  let q := b.exponent - 2
  let below := if b.mantissa = 0x10000000000000 ∧ b.exponent ≠ -1074 then 1 else 2
  let low := 4 * b.mantissa - below
  let high := 4 * b.mantissa + 2
  if b.mantissa % 2 = 0 then binaryLe low q d k && decimalLe d k high q
  else !decimalLe d k low q && !binaryLe high q d k

/-- The greatest `d` with `d * 10 ^ k ≤ b`. -/
def floorAt (b : Binary) (k : Int) : Nat :=
  (b.mantissa * power 2 b.exponent * power 10 (-k)) / (power 10 k * power 2 (-b.exponent))

/-- Of the two neighbours `d` and `d + 1` of `b` on the grid of `10 ^ k`, the nearer one. -/
def nearer (tie : Tie) (b : Binary) (d : Nat) (k : Int) : Nat :=
  if !decimalLe (2 * d + 1) k (2 * b.mantissa) b.exponent then d
  else if !binaryLe (2 * b.mantissa) b.exponent (2 * d + 1) k then d + 1
  else tie.choose d

def onGrid? (tie : Tie) (b : Binary) (k : Int) : Option Nat :=
  let d := floorAt b k
  match rounds b d k, rounds b (d + 1) k with
  | true, true => some (nearer tie b d k)
  | true, false => some d
  | false, true => some (d + 1)
  | false, false => none

/-- The exponent of the leading decimal digit of a positive magnitude, searched down from
`top`. -/
def leading (b : Binary) : Nat → Int → Int
  | 0, top => top
  | fuel + 1, top => if floorAt b top = 0 then leading b fuel (top - 1) else top

/-- Moves zeros at the end of the coefficient into the exponent. -/
def strip : Nat → Nat → Int → Decimal
  | 0, c, e => ⟨c, e⟩
  | fuel + 1, c, e => if c % 10 = 0 ∧ c ≠ 0 then strip fuel (c / 10) (e + 1) else ⟨c, e⟩

/-- The first grid, from coarse to fine, on which some decimal rounds to `b`. -/
def search (tie : Tie) (b : Binary) : Nat → Int → Decimal
  | 0, k => ⟨floorAt b k, k⟩
  | fuel + 1, k =>
    match onGrid? tie b k with
    | some d => strip 20 d k
    | none => search tie b fuel (k - 1)

/-- The shortest decimal that is read back as the magnitude of a finite double. -/
def ofFloat (tie : Tie) (x : Float) : Decimal :=
  let b := Binary.ofFloat x
  if b.mantissa = 0 then ⟨0, 0⟩ else search tie b 17 (leading b 640 309)

def digits (d : Decimal) : List Char := Nat.toDigits 10 d.coefficient

def magnitude (d : Decimal) : Int := d.exponent + d.digits.length - 1

end Decimal

end WikiRows
