/-!
# Sets of characters

A character class of a standard is an array of inclusive ranges of code points.
-/

namespace WikiRows.Text

/-- Inclusive ranges of code points. -/
abbrev Ranges := Array (Nat × Nat)

def Ranges.contains (ranges : Ranges) (c : Char) : Bool :=
  ranges.any fun (first, last) => first ≤ c.toNat && c.toNat ≤ last

end WikiRows.Text
