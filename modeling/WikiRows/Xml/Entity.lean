import WikiRows.Transducer

/-!
# Character and entity references

`unescape?` resolves the references of a text: the five predefined entities and decimal or
hexadecimal character codes. `escape` writes the five characters that have an entity by it.
-/

namespace WikiRows

namespace Xml

def escapeChar (c : Char) : List Char :=
  match c with
  | '<' => ['&', 'l', 't', ';']
  | '>' => ['&', 'g', 't', ';']
  | '&' => ['&', 'a', 'm', 'p', ';']
  | '\'' => ['&', 'a', 'p', 'o', 's', ';']
  | '"' => ['&', 'q', 'u', 'o', 't', ';']
  | c => [c]

def escape (s : List Char) : List Char := s.flatMap escapeChar

def digit? (base : Nat) (c : Char) : Option Nat :=
  let value :=
    if c.isDigit then c.toNat - '0'.toNat
    else if 'a' ≤ c ∧ c ≤ 'f' then c.toNat - 'a'.toNat + 10
    else if 'A' ≤ c ∧ c ≤ 'F' then c.toNat - 'A'.toNat + 10
    else base
  if value < base then some value else none

def code? (base : Nat) (digits : List Char) : Option Nat :=
  if digits.isEmpty then none
  else digits.foldlM (fun n c => (digit? base c).map (base * n + ·)) 0

/-- The character with a code other than zero. -/
def charOfCode? (n : Nat) : Option Char :=
  if n ≠ 0 ∧ n.isValidChar then some (Char.ofNat n) else none

/-- The character that a reference stands for, given what is between `&` and `;`. -/
def resolve? (reference : List Char) : Option Char :=
  match reference with
  | '#' :: 'x' :: digits => (code? 16 digits).bind charOfCode?
  | '#' :: digits => (code? 10 digits).bind charOfCode?
  | ['l', 't'] => some '<'
  | ['g', 't'] => some '>'
  | ['a', 'm', 'p'] => some '&'
  | ['a', 'p', 'o', 's'] => some '\''
  | ['q', 'u', 'o', 't'] => some '"'
  | _ => none

/-- Resolves references, of which one may be open, with what has been read of it, the last
character first. What cannot be resolved gives `none`. -/
def resolver : Transducer (Option (List Char)) Char (Option Char) where
  step
    | none, c => if c = '&' then ([], some []) else ([some c], none)
    | some read, c =>
      if c = ';' then ([resolve? read.reverse], none)
      else if c = '&' then ([none], none)
      else ([], some (c :: read))
  finish reference := if reference.isSome then [none] else []

def unescape? (s : List Char) : Option (List Char) := (resolver.run none s).mapM id

end Xml

end WikiRows
