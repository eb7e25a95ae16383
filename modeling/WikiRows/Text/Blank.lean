import WikiRows.Text.Ranges

/-!
# White space

`isBlank` is the White_Space property of the Unicode standard. `trim` drops white space from both
ends of a text, and `Blank` texts are those of which nothing is left.
-/

namespace WikiRows.Text

/-- The White_Space property. -/
def blankRanges : Ranges :=
  #[(0x09, 0x0d), (0x20, 0x20), (0x85, 0x85), (0xa0, 0xa0), (0x1680, 0x1680), (0x2000, 0x200a),
    (0x2028, 0x2029), (0x202f, 0x202f), (0x205f, 0x205f), (0x3000, 0x3000)]

def isBlank (c : Char) : Bool := blankRanges.contains c

def allBlank (s : List Char) : Bool := s.all isBlank

def trimStart (s : List Char) : List Char := s.dropWhile isBlank

def trim (s : List Char) : List Char := (trimStart (trimStart s).reverse).reverse

end WikiRows.Text
