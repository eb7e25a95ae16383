import WikiRows.Text.CaseTable

/-!
# Full case conversion

`lower` and `upper` convert a whole text by the mappings of the Unicode standard. A character may
become several. The one rule that looks at the neighbours is the capital sigma, whose lower case
at the end of a word is the final sigma.
-/

namespace WikiRows.Text

/-- The image of a code point under a run that lists it. -/
def CaseRun.map? (run : CaseRun) (code : Nat) : Option Char :=
  if run.first ≤ code ∧ code ≤ run.last ∧ (code - run.first) % run.step = 0 then
    some (Char.ofNat (code + run.shift).toNat)
  else none

def mapByRuns (runs : Array CaseRun) (c : Char) : Char :=
  (runs.findSome? (·.map? c.toNat)).getD c

/-- Lower case of a character without regard to its neighbours. -/
def lowerChar (c : Char) : List Char :=
  if c.toNat < 0x80 then [c.toLower]
  else if c = '\u0130' then ['i', '\u0307']
  else [mapByRuns lowerRuns c]

/-- The first character that is not case-ignorable is cased. -/
def meetsCased (s : List Char) : Bool :=
  match s.dropWhile caseIgnorableRanges.contains with
  | [] => false
  | c :: _ => casedRanges.contains c

/-- Lower case of a text, of which `before` holds what has been read, the last character first. -/
def lowerAfter (before : List Char) : List Char → List Char
  | [] => []
  | c :: rest =>
    let image :=
      if c = 'Σ' then
        if meetsCased before && !meetsCased rest then ['ς'] else ['σ']
      else lowerChar c
    image ++ lowerAfter (c :: before) rest

def lower (s : String) : String := String.ofList (lowerAfter [] s.toList)

def upperChar (c : Char) : List Char :=
  if c.toNat < 0x80 then [c.toUpper]
  else
    match expandingUpper.find? (·.1 = c.toNat) with
    | some (_, codes) => codes.map Char.ofNat
    | none => [mapByRuns upperRuns c]

def upper (s : String) : String := String.ofList (s.toList.flatMap upperChar)

def asciiLower (s : String) : String := String.ofList (s.toList.map Char.toLower)

def asciiCaseEq (s t : String) : Bool := asciiLower s = asciiLower t

end WikiRows.Text
