import WikiRows.Text.Composition
import WikiRows.Text.Utf8
import WikiRows.Url.DomainTable
import WikiRows.Url.ImageTable
import WikiRows.Url.Percent
import WikiRows.Url.Punycode

/-!
# Domains

`Domain.ofChars?` reads the domain of a URL: escapes are resolved, characters are mapped to those
that domains hold and composed, and every label between the dots has to be well formed. A label
that begins with `xn--` is another one in Punycode. If a label has letters that are written from
right to left, every label has to keep to one direction.
-/

namespace WikiRows.Url

/-- The labels of a domain, encoded as they are written. -/
abbrev Domain := List (List Char)

namespace Domain

/-- Controls, the space, and the characters that have a meaning in URLs. -/
def isForbidden (c : Char) : Bool :=
  c.toNat ≤ 0x20 || c.toNat = 0x7f ||
    ['%', '#', '/', ':', '<', '>', '?', '@', '[', '\\', ']', '^', '|'].contains c

def mapChar? (c : Char) : Option (List Char) :=
  if c.toNat < 0x80 then some [c.toLower]
  else if refusedRanges.contains c then none
  else if ignoredRanges.contains c then some []
  else some ((imageRuns.image? c).getD [c])

def mapChars? (s : List Char) : Option (List Char) := do
  let image := Text.composed (← s.mapM mapChar?).flatten
  if image.any isForbidden then none else some image

/-! ## Labels -/

/-- The class of the marks that join the consonant before them to the one after them. -/
def virama : Nat := 9

def isNonspacing (c : Char) : Bool := combiningRanges.contains c && !spacingRanges.contains c

/-- The nasalization mark of Adlam, a letter that stands in no way between those that join. -/
def nasalization : Char := Char.ofNat 0x1e94b

/-- The letters before and after a joiner would join, whatever marks there are between. -/
def joins (before after : List Char) : Bool :=
  let isTransparent (c : Char) : Bool := isNonspacing c || c = nasalization
  match before.dropWhile isTransparent, after.dropWhile isTransparent with
  | c :: _, d :: _ => joinsNextRanges.contains c && joinsPreviousRanges.contains d
  | _, _ => false

/-- Joiners stand behind a virama, and the one that keeps letters apart also between letters that
would join. The characters before are given the last one first. -/
def joinersFit (before : List Char) : List Char → Bool
  | [] => true
  | c :: rest =>
    let isBehindVirama := before.head?.any (Text.combiningClass · = virama)
    let fits :=
      if c = '\u200c' then isBehindVirama || joins before rest
      else if c = '\u200d' then isBehindVirama
      else true
    fits && joinersFit (c :: before) rest

/-- A label that was not in ASCII has at most so many characters. -/
def longestLabel : Nat := 1000

/-- A label that was not in ASCII begins with no combining mark, its joiners fit, and it is not too
long. -/
def isWellFormed (label : List Char) : Bool :=
  label.length ≤ longestLabel && !label.head?.any combiningRanges.contains && joinersFit [] label

def longestCode : Nat := 2000

/-- Decodes what follows `xn--`. The label has to be one that a domain holds as it is. -/
def decodeLabel? (code : List Char) : Option (List Char) := do
  if code.isEmpty || code.getLast? = some '-' || longestCode < code.length then none
  let label ← Punycode.decode? code
  if mapChars? label = some label then some label else none

/-- A label as it stands in a domain, and what it stands for. -/
structure Label where
  text : List Char
  meaning : List Char
  deriving DecidableEq, Repr

namespace Label

def isEncoded (text : List Char) : Bool := text.take 4 = ['x', 'n', '-', '-']

def ofMapped? (text : List Char) : Option Label := do
  let meaning ← if isEncoded text then decodeLabel? (text.drop 4) else some text
  if isWellFormed meaning then some ⟨text, meaning⟩ else none

/-- The label of a text in ASCII. If it is not encoded, it may be of any length. -/
def ofAscii? (text : List Char) : Option Label :=
  if text.any isForbidden then none
  else
    let text := text.map Char.toLower
    if isEncoded text then ofMapped? text else some ⟨text, text⟩

end Label

def splitAtDots : List Char → List (List Char)
  | [] => [[]]
  | c :: rest =>
    if c = '.' then [] :: splitAtDots rest
    else
      match splitAtDots rest with
      | label :: labels => (c :: label) :: labels
      | [] => [[c]]

/-- The labels of a text without a dot. Characters beyond ASCII may become dots. -/
def labels? (text : List Char) : Option (List Label) :=
  if text.all (·.toNat < 0x80) then (Label.ofAscii? text).map ([·])
  else do (splitAtDots (← mapChars? text)).mapM Label.ofMapped?

/-! ## Direction -/

inductive Direction where
  | leftToRight
  | rightToLeft
  | arabicDigit
  | europeanDigit
  | neutral
  | mark
  deriving DecidableEq, Repr

def direction (c : Char) : Direction :=
  if c.toNat < 0x80 then
    if c.isAlpha then .leftToRight else if c.isDigit then .europeanDigit else .neutral
  else if rightToLeftRanges.contains c then .rightToLeft
  else if arabicDigitRanges.contains c then .arabicDigit
  else if europeanDigitRanges.contains c then .europeanDigit
  else if isNonspacing c && !directedMarkRanges.contains c then .mark
  else if neutralRanges.contains c then .neutral
  else .leftToRight

def hasRightToLeft (label : List Char) : Bool :=
  label.any fun c => direction c = .rightToLeft || direction c = .arabicDigit

/-- A label keeps to one direction, which its first character sets and its last one confirms. -/
def keepsDirection (label : List Char) : Bool :=
  let directions := label.map direction
  let last := (directions.reverse.dropWhile (· = .mark)).head?
  match directions with
  | [] => true
  | .leftToRight :: _ =>
    directions.all (fun d => d ≠ .rightToLeft && d ≠ .arabicDigit) &&
      (last = some .leftToRight || last = some .europeanDigit)
  | .rightToLeft :: _ =>
    directions.all (· ≠ .leftToRight) &&
      !(directions.contains .europeanDigit && directions.contains .arabicDigit) &&
      last ≠ some .neutral
  | _ => false

/-! ## Domains -/

def ofChars? (s : List Char) : Option Domain := do
  let chars ← Text.Utf8.decode? (Percent.decode s)
  let labels := (← (splitAtDots chars).mapM labels?).flatten
  let meanings := labels.map (·.meaning)
  if meanings.any hasRightToLeft && !meanings.all keepsDirection then none
  else return labels.map (·.text)

end Domain

end WikiRows.Url
