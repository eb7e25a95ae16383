import WikiRows.Url.Domain
import WikiRows.Url.Fault

/-!
# Hosts

The host of a URL is a domain, an IPv4 address, or an IPv6 address in brackets. A domain of which
the last label is a number is meant as an IPv4 address and has to be one. Schemes that are not
special take any host without forbidden characters.
-/

namespace WikiRows.Url

namespace Ipv4

def isHexDigit (c : Char) : Bool := (Percent.value? c).isSome

def isOctalDigit (c : Char) : Bool := '0' ≤ c && c ≤ '7'

def ofDigits (base : Nat) (s : List Char) : Nat :=
  s.foldl (fun n c => base * n + (Percent.value? c).getD 0) 0

/-- A number in decimal, octal or hexadecimal notation, by what it begins with. -/
def number? (s : List Char) : Option Nat :=
  match s with
  | [] => none
  | '0' :: x :: digits =>
    if x = 'x' ∨ x = 'X' then
      if digits.all isHexDigit then some (ofDigits 16 digits) else none
    else if (x :: digits).all isOctalDigit then some (ofDigits 8 (x :: digits))
    else none
  | digits => if digits.all Char.isDigit then some (ofDigits 10 digits) else none

/-- The labels of a domain without the empty one behind a final dot. -/
def parts (domain : Domain) : List (List Char) :=
  match domain.reverse with
  | [] :: label :: labels => (label :: labels).reverse
  | _ => domain

/-- A domain is meant as an address when its last part is a number, or at least digits. -/
def isMeant (domain : Domain) : Bool :=
  match (parts domain).getLast? with
  | some part => (!part.isEmpty && part.all Char.isDigit) || (number? part).isSome
  | none => false

/-- At most four numbers: bytes, and a last one that fills the bytes that are left. -/
def isAddress (domain : Domain) : Bool :=
  match (parts domain).mapM number? with
  | none => false
  | some numbers =>
    match numbers.reverse with
    | [] => false
    | last :: bytes =>
      bytes.length < 4 && bytes.all (· < 256) && last < Nat.pow 256 (4 - bytes.length)

end Ipv4

namespace Ipv6

/-- The decimal numbers below 256 that dots separate, without leading zeros. -/
def isDottedByte (digits : List Char) : Bool :=
  !digits.isEmpty && digits.all Char.isDigit && (digits.length = 1 || digits.head? ≠ some '0') &&
    Ipv4.ofDigits 10 digits < 256

def isDotted (s : List Char) : Bool :=
  let bytes := Domain.splitAtDots s
  bytes.length = 4 && bytes.all isDottedByte

/-- What follows a group of at most four digits, of which the first has been read. -/
def afterGroup (s : List Char) : List Char :=
  (s.take 3).dropWhile Ipv4.isHexDigit ++ s.drop 3

theorem length_afterGroup_le (s : List Char) : (afterGroup s).length ≤ s.length := by
  have kept := (List.dropWhile_suffix (l := s.take 3) Ipv4.isHexDigit).length_le
  simp only [afterGroup, List.length_append, List.length_take, List.length_drop] at *
  omega

/-- Reads the groups of an address after `count` of them. A pair of colons, of which there may be
one, stands for the groups that are missing. -/
def groupsFit (count : Nat) (shortened : Bool) (s : List Char) : Bool :=
  match s with
  | [] => shortened || count = 8
  | ':' :: rest => count < 8 && !shortened && groupsFit (count + 1) true rest
  | c :: rest =>
    if count < 8 && Ipv4.isHexDigit c then
      match h : afterGroup rest with
      | [] => shortened || count = 7
      | ':' :: next :: after => groupsFit (count + 1) shortened (next :: after)
      | '.' :: _ => count ≤ 6 && isDotted (c :: rest) && (shortened || count = 6)
      | _ => false
    else false
termination_by s.length
decreasing_by
  · simp
  · have bound := length_afterGroup_le rest
    simp only [h, List.length_cons] at *
    omega

/-- Eight groups of hexadecimal digits, of which some may be left out and the last two written in
decimal. -/
def isAddress (s : List Char) : Bool :=
  match s with
  | ':' :: ':' :: rest => groupsFit 1 true rest
  | ':' :: _ => false
  | s => 2 ≤ s.length && groupsFit 0 false s

end Ipv6

namespace Host

def checkBracketed (s : List Char) : Except Fault Unit :=
  if s.getLast? = some ']' ∧ Ipv6.isAddress s.dropLast then .ok () else .error .badIpv6

def check (s : List Char) : Except Fault Unit :=
  match s with
  | '[' :: rest => checkBracketed rest
  | s =>
    match Domain.ofChars? s with
    | none => .error .badDomain
    | some [[]] => .error .emptyHost
    | some domain =>
      if Ipv4.isMeant domain && !Ipv4.isAddress domain then .error .badIpv4 else .ok ()

def isForbidden (c : Char) : Bool :=
  ['\x00', '\t', '\n', '\r', ' ', '#', '/', ':', '<', '>', '?', '@', '[', '\\', ']', '^',
    '|'].contains c

def checkOpaque (s : List Char) : Except Fault Unit :=
  match s with
  | '[' :: rest => checkBracketed rest
  | s => if s.any isForbidden then .error .badDomainCharacter else .ok ()

end Host

end WikiRows.Url
