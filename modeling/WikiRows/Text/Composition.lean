import WikiRows.Text.CombiningTable
import WikiRows.Text.CompositionTable

/-!
# Composed form of a text

Texts that mean the same may be spelled in several ways: a letter with an accent is one character,
or a letter and a mark. `composed` gives the spelling that has as few characters as possible:
every character is taken apart, marks are put in the order of their classes, and then letters take
up the marks that combine with them.
-/

namespace WikiRows.Text

/-- The class of a mark. Characters of class 0 are no marks, or marks that stay in their place. -/
def combiningClass (c : Char) : Nat :=
  let class? := combiningClasses.findSome? fun (first, last, value) =>
    if first ≤ c.toNat && c.toNat ≤ last then some value else none
  class?.getD 0

/-! ## Hangul

A syllable is a leading consonant, a vowel and maybe a trailing consonant, and its code point is
computed from theirs. -/

namespace Hangul

def leads : Nat := 19
def vowels : Nat := 21
def trails : Nat := 28

def firstLead : Nat := 0x1100
def firstVowel : Nat := 0x1161
/-- The code point before the first trailing consonant. -/
def noTrail : Nat := 0x11a7
def firstSyllable : Nat := 0xac00

/-- The number of a character among `count` that begin with `first`. -/
def index? (first count : Nat) (c : Char) : Option Nat :=
  if first ≤ c.toNat ∧ c.toNat < first + count then some (c.toNat - first) else none

def split? (c : Char) : Option (List Char) := do
  let n ← index? firstSyllable (leads * vowels * trails) c
  let lead := Char.ofNat (firstLead + n / (vowels * trails))
  let vowel := Char.ofNat (firstVowel + n / trails % vowels)
  if n % trails = 0 then return [lead, vowel]
  else return [lead, vowel, Char.ofNat (noTrail + n % trails)]

def open? (a b : Char) : Option Char := do
  let lead ← index? firstLead leads a
  let vowel ← index? firstVowel vowels b
  return Char.ofNat (firstSyllable + (lead * vowels + vowel) * trails)

def close? (a b : Char) : Option Char := do
  let syllable ← index? firstSyllable (leads * vowels * trails) a
  let trail ← index? (noTrail + 1) (trails - 1) b
  if syllable % trails = 0 then return Char.ofNat (a.toNat + trail + 1) else none

end Hangul

/-! ## Pairs -/

/-- A character that stands for two. -/
structure Composite where
  first : Char
  second : Char
  whole : Char
  deriving DecidableEq, Repr

/-- The composites that end in a character, given in turns their beginnings and themselves. -/
def Composite.ofRow (second : Char) : List Char → List Composite
  | first :: whole :: rest => ⟨first, second, whole⟩ :: ofRow second rest
  | _ => []

def composites : List Composite :=
  compositionRows.toList.flatMap fun (code, pairs) =>
    Composite.ofRow (Char.ofNat code) pairs.toList

def split? (c : Char) : Option (List Char) :=
  Hangul.split? c <|> replacementRuns.image? c <|>
    (composites.find? (·.whole = c)).map fun composite => [composite.first, composite.second]

def join? (a b : Char) : Option Char :=
  Hangul.open? a b <|> Hangul.close? a b <|>
    (composites.find? fun composite => composite.first = a && composite.second = b).map (·.whole)

/-! ## Texts -/

def splitWithin : Nat → Char → List Char
  | 0, c => [c]
  | steps + 1, c =>
    match split? c with
    | some parts => parts.flatMap (splitWithin steps)
    | none => [c]

/-- The most steps that any character takes to come apart. -/
def longestSplit : Nat := 4

/-- Takes a character apart. None before the first capital letter with an accent is composed. -/
def parts (c : Char) : List Char := if c < 'À' then [c] else splitWithin longestSplit c

abbrev Classed := Char × Nat

/-- Puts a character in front of a text, behind the marks there that are of smaller classes. -/
def place (c : Classed) : List Classed → List Classed
  | [] => [c]
  | d :: rest => if d.2 ≠ 0 ∧ d.2 < c.2 then d :: place c rest else c :: d :: rest

/-- The characters of a text taken apart, marks in the order of their classes. -/
def decomposed (s : List Char) : List Classed :=
  ((s.flatMap parts).map fun c => (c, combiningClass c)).foldr place []

/-- A text that is being composed: what is complete, the last character first, and if there is one,
the character that may take up marks, with those that it did not take up. -/
structure Composer where
  complete : List Char
  base : Option Char
  marks : List Classed
  deriving Repr

namespace Composer

/-- Takes the next character. It combines with the base unless a mark between is of the same class
or a greater one. -/
def step (s : Composer) (c : Classed) : Composer :=
  match s.base with
  | none => if c.2 = 0 then { s with base := c.1 } else { s with complete := c.1 :: s.complete }
  | some base =>
    match if s.marks.head?.all (·.2 < c.2) then join? base c.1 else none with
    | some whole => { s with base := whole }
    | none =>
      if c.2 = 0 then ⟨s.marks.map (·.1) ++ base :: s.complete, c.1, []⟩
      else { s with marks := c :: s.marks }

def finish (s : Composer) : List Char :=
  (s.marks.map (·.1) ++ s.base.toList ++ s.complete).reverse

end Composer

def composed (s : List Char) : List Char :=
  ((decomposed s).foldl Composer.step ⟨[], none, []⟩).finish

end WikiRows.Text
