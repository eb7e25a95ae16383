import WikiRows.Text.Utf8
import WikiRows.Url.Percent

/-!
# Multipart bodies

Parts in the format `multipart/form-data`. Each has a name, perhaps a file name, and bytes, and
stands after a line with the boundary. The boundary must not occur in the bytes.
-/

namespace WikiRows.Http

structure Part where
  name : String
  fileName : Option String
  bytes : List UInt8
  deriving DecidableEq, Repr

namespace Multipart

/-- Characters of a name that have to be escaped. -/
def isSpecial (c : Char) : Bool :=
  c.toNat ≤ 0x20 || 0x7f ≤ c.toNat ||
    ['"', '#', '<', '>', '?', '\x60', '{', '}', '/', '%'].contains c

/-- A parameter of a header. A text that has to be escaped is marked as such. -/
def parameterChars (name text : String) : List Char :=
  if text.toList.any isSpecial then
    let escape (c : Char) : List Char := if isSpecial c then Url.Percent.encodeChar c else [c]
    name.toList ++ "*=utf-8''".toList ++ text.toList.flatMap escape
  else name.toList ++ "=\"".toList ++ text.toList ++ ['"']

def lineEnd : List Char := ['\r', '\n']

def headChars (boundary : String) (part : Part) : List Char :=
  let fileName := part.fileName.elim [] fun text => "; ".toList ++ parameterChars "filename" text
  "--".toList ++ boundary.toList ++ lineEnd ++ "Content-Disposition: form-data; ".toList ++
    parameterChars "name" part.name ++ fileName ++ lineEnd ++ lineEnd

def encode (boundary : String) (parts : List Part) : List UInt8 :=
  let part (p : Part) : List UInt8 :=
    Text.Utf8.encode (headChars boundary p) ++ p.bytes ++ Text.Utf8.encode lineEnd
  parts.flatMap part ++
    Text.Utf8.encode ("--".toList ++ boundary.toList ++ "--".toList ++ lineEnd)

end Multipart

end WikiRows.Http
