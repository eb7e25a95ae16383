/-!
# Images of consecutive characters

A table of images is an array of runs: the first code point of a run, and the images of it and of
those that follow it, separated by spaces. Runs are in order, and no image is empty.
-/

namespace WikiRows.Text

/-- First code points and the images from there on. -/
abbrev Runs := Array (Nat × String)

/-- The word with that number among words that single spaces separate, or nothing. -/
def word : Nat → List Char → List Char
  | _, [] => []
  | 0, s => s.takeWhile (· ≠ ' ')
  | n + 1, c :: rest => if c = ' ' then word n rest else word (n + 1) rest

def Runs.image? (runs : Runs) (c : Char) : Option (List Char) := do
  let (first, images) ← runs.findRev? (·.1 ≤ c.toNat)
  let image := word (c.toNat - first) images.toList
  if image.isEmpty then none else some image

end WikiRows.Text
