import WikiRows.Text.EscapedTable

/-!
# Quoted texts

A text in double quotes, so that it can be told from everything around it: the quote and the
backslash are escaped, and so is every character that would not show.
-/

namespace WikiRows.Text

/-- A character that a quoted text does not show as itself. -/
def isHidden (c : Char) : Bool :=
  if c.toNat < 0x7f then c.toNat < 0x20 else escapedRanges.contains c

def escapeChar (c : Char) : List Char :=
  match c with
  | '"' => ['\\', '"']
  | '\\' => ['\\', '\\']
  | '\n' => ['\\', 'n']
  | '\r' => ['\\', 'r']
  | '\t' => ['\\', 't']
  | '\x00' => ['\\', '0']
  | c =>
    if isHidden c then ['\\', 'u', '{'] ++ Nat.toDigits 16 c.toNat ++ ['}'] else [c]

/-- The text in double quotes, with hidden characters as hexadecimal code points. -/
def quoteChars (s : List Char) : List Char := '"' :: (s.flatMap escapeChar ++ ['"'])

def quote (s : String) : String := String.ofList (quoteChars s.toList)

end WikiRows.Text
