import WikiRows.Decimal.Shortest

/-!
# Layouts of decimals

How a decimal is laid out as text: positional, or with one digit before the point and an
exponent. A `Layout` says which, and whether a whole number shows its point.
-/

namespace WikiRows

structure Layout where
  /-- The exponents of the leading digit from the first to the second are written positionally;
  without bounds, all are. -/
  bounds : Option (Int × Int)
  /-- A whole number written positionally ends in a point and a zero. -/
  pointed : Bool
  /-- Of two decimals that are equally near, the one that is written. -/
  tie : Tie
  deriving DecidableEq, Repr

namespace Layout

/-- Never an exponent, and no point in a whole number. -/
def plain : Layout := ⟨none, false, .greater⟩

/-- An exponent outside `1e-5` to `1e15`, and always a point or an exponent. -/
def marked : Layout := ⟨some (-5, 15), true, .even⟩

def isPositional (layout : Layout) (magnitude : Int) : Bool :=
  match layout.bounds with
  | none => true
  | some (least, greatest) => least ≤ magnitude && magnitude ≤ greatest

/-- Digits of which the first stands for `10 ^ magnitude`, with the point where it belongs. -/
def positional (layout : Layout) (digits : List Char) (magnitude : Int) : List Char :=
  if magnitude < 0 then
    '0' :: '.' :: (List.replicate (-magnitude - 1).toNat '0' ++ digits)
  else
    let whole := magnitude.toNat + 1
    if digits.length ≤ whole then
      digits ++ List.replicate (whole - digits.length) '0' ++
        (if layout.pointed then ['.', '0'] else [])
    else digits.take whole ++ '.' :: digits.drop whole

/-- One digit, a point if others follow, and a signed exponent. -/
def scientific (digits : List Char) (magnitude : Int) : List Char :=
  let rest := digits.drop 1
  digits.take 1 ++ (if rest.isEmpty then [] else '.' :: rest) ++
    'e' :: (if magnitude < 0 then '-' else '+') :: Nat.toDigits 10 magnitude.natAbs

def decimal (layout : Layout) (d : Decimal) : List Char :=
  if layout.isPositional d.magnitude then layout.positional d.digits d.magnitude
  else scientific d.digits d.magnitude

def float (layout : Layout) (x : Float) : List Char :=
  if x.isNaN then ['N', 'a', 'N']
  else
    let sign := if x.toBits.toNat / 0x8000000000000000 = 1 then ['-'] else []
    if x.isInf then sign ++ ['i', 'n', 'f'] else sign ++ layout.decimal (.ofFloat layout.tie x)

end Layout

end WikiRows
