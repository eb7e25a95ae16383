import WikiRows.Url.Host

/-!
# Absolute URLs

`Url.check` says whether a text is an absolute URL, and what is wrong with it if it is none. Only
the scheme, the host and the port can be wrong: paths, queries and fragments may be anything.
Special schemes have a host, which follows slashes of either kind; other schemes have one after
two slashes.
-/

namespace WikiRows.Url

inductive SchemeKind where
  | special
  | file
  | other
  deriving DecidableEq, Repr

def SchemeKind.ofName (name : String) : SchemeKind :=
  if ["http", "https", "ws", "wss", "ftp"].contains name then special
  else if name = "file" then file
  else other

/-- Tabs and line ends are ignored in a URL, controls and spaces at its ends. -/
def clean (s : List Char) : List Char :=
  let isOuter (c : Char) : Bool := c ≤ ' '
  let inner := ((s.dropWhile isOuter).reverse.dropWhile isOuter).reverse
  inner.filter fun c => c ≠ '\t' ∧ c ≠ '\n' ∧ c ≠ '\r'

def isSchemeChar (c : Char) : Bool := c.isAlphanum || c = '+' || c = '-' || c = '.'

/-- The scheme in front of the first colon, and what follows it. -/
def scheme? (s : List Char) : Option (String × List Char) :=
  match s.span isSchemeChar with
  | (c :: name, ':' :: rest) =>
    if c.isAlpha then some (String.ofList ((c :: name).map Char.toLower), rest) else none
  | _ => none

def endsAuthority (isSpecial : Bool) (c : Char) : Bool :=
  c = '/' || c = '?' || c = '#' || (isSpecial && c = '\\')

def lastAt? (s : List Char) : Option Nat :=
  let host := (s.reverse.takeWhile (· ≠ '@')).length
  if host < s.length then some (s.length - host - 1) else none

/-- The host at the beginning of a text, and what follows it. A colon ends it, but not in
brackets. -/
def splitHost (isSpecial : Bool) (inBrackets : Bool) : List Char → List Char × List Char
  | [] => ([], [])
  | c :: rest =>
    if endsAuthority isSpecial c || (c = ':' && !inBrackets) then ([], c :: rest)
    else
      let inBrackets := if c = '[' then true else if c = ']' then false else inBrackets
      let (host, after) := splitHost isSpecial inBrackets rest
      (c :: host, after)

def checkPort (s : List Char) : Except Fault Unit :=
  match s with
  | ':' :: rest =>
    let (digits, after) := rest.span Char.isDigit
    if 65535 < Ipv4.ofDigits 10 digits then .error .badPort
    else
      match after with
      | [] => .ok ()
      | c :: _ => if endsAuthority true c then .ok () else .error .badPort
  | _ => .ok ()

/-- Checks a host and a port. The name of a user must not stand in front of an empty host. -/
def checkHostAndPort (isSpecial hasUser : Bool) (s : List Char) : Except Fault Unit :=
  let (host, rest) := splitHost isSpecial false s
  if host.isEmpty then
    if isSpecial || rest.head? = some ':' || hasUser then .error .emptyHost else .ok ()
  else do
    if isSpecial then Host.check host else Host.checkOpaque host
    checkPort rest

def checkAuthority (isSpecial : Bool) (s : List Char) : Except Fault Unit :=
  let authority := s.takeWhile (!endsAuthority isSpecial ·)
  match lastAt? authority with
  | none => checkHostAndPort isSpecial false s
  | some count =>
    let rest := s.drop (count + 1)
    if count = 0 ∧ rest.head?.any (endsAuthority isSpecial) then .error .emptyHost
    else checkHostAndPort isSpecial (0 < count ∧ s.take count ≠ [':']) rest

/-- The letter of a drive, which may stand in place of the host of a file. -/
def isDrive (s : List Char) : Bool :=
  match s with
  | [letter, mark] => letter.isAlpha && (mark = ':' || mark = '|')
  | _ => false

/-- Checks the host of a file, which may be left out. -/
def checkFile (s : List Char) : Except Fault Unit :=
  let isSlash (c : Char) : Bool := c = '/' || c = '\\'
  match s with
  | a :: b :: rest =>
    let host := rest.takeWhile (!endsAuthority true ·)
    if isSlash a && isSlash b && !host.isEmpty && !isDrive host then Host.check host else .ok ()
  | _ => .ok ()

def check (text : String) : Except Fault Unit :=
  match scheme? (clean text.toList) with
  | none => .error .relative
  | some (name, rest) =>
    match SchemeKind.ofName name with
    | .special => checkAuthority true (rest.dropWhile fun c => c = '/' || c = '\\')
    | .file => checkFile rest
    | .other =>
      match rest with
      | '/' :: '/' :: after => checkAuthority false after
      | _ => .ok ()

end WikiRows.Url
