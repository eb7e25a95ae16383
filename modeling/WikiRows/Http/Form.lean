import WikiRows.Text.Utf8
import WikiRows.Url.Percent

/-!
# Forms

Fields in the format `application/x-www-form-urlencoded`: names and values are joined by equals
signs, fields by ampersands, and neither sign occurs in an escaped text. `Form.encode` writes
fields, `Form.decode` reads them.
-/

namespace WikiRows.Http.Form

open Url (Percent.encodeChar Percent.decode)

abbrev Field := String × String

/-- Characters that stand for themselves. -/
def isPlain (c : Char) : Bool := c.isAlphanum || c = '*' || c = '-' || c = '.' || c = '_'

/-- A space is written as a plus sign, everything else that is not plain byte by byte. -/
def escapeChar (c : Char) : List Char :=
  if isPlain c then [c] else if c = ' ' then ['+'] else Percent.encodeChar c

def escape (text : String) : List Char := text.toList.flatMap escapeChar

def fieldChars (field : Field) : List Char := escape field.1 ++ '=' :: escape field.2

def chars : List Field → List Char
  | [] => []
  | [field] => fieldChars field
  | field :: fields => fieldChars field ++ '&' :: chars fields

def encode (fields : List Field) : String := String.ofList (chars fields)

def unescape (s : List Char) : String :=
  let spaced := s.map fun c => if c = '+' then ' ' else c
  String.ofList (Text.Utf8.decodeLossy (Percent.decode spaced))

def splitAll (separator : Char) : List Char → List (List Char)
  | [] => [[]]
  | c :: rest =>
    if c = separator then [] :: splitAll separator rest
    else
      match splitAll separator rest with
      | part :: parts => (c :: part) :: parts
      | [] => [[c]]

/-- Reads a field. Its value begins after the first equals sign. -/
def readField (s : List Char) : Field :=
  let (name, rest) := s.span (· ≠ '=')
  (unescape name, unescape (rest.drop 1))

def decode (text : String) : List Field :=
  ((splitAll '&' text.toList).filter (!·.isEmpty)).map readField

end WikiRows.Http.Form
