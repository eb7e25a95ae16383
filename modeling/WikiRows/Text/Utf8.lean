import WikiRows.Transducer

/-!
# UTF-8

`encode` and `decode` go from characters to bytes and back. The decoder takes one byte at a time.
Bytes that are no character give `none` once for each longest beginning of a character among them.
-/

namespace WikiRows.Text.Utf8

def encode (s : List Char) : List UInt8 := s.flatMap String.utf8EncodeChar

/-- A character that has begun: its bits so far, how many bytes are missing, and the least and the
greatest value of the next one. -/
structure Partial where
  bits : Nat
  missing : Nat
  least : Nat
  greatest : Nat
  deriving DecidableEq, Repr

/-- What a first byte begins. The bounds keep out surrogates, code points that are too great, and
those that a shorter sequence has. -/
def Partial.ofByte? (b : Nat) : Option Partial :=
  if b < 0x80 then some ⟨b, 0, 0, 0⟩
  else if b < 0xc2 then none
  else if b < 0xe0 then some ⟨b - 0xc0, 1, 0x80, 0xbf⟩
  else if b = 0xe0 then some ⟨0, 2, 0xa0, 0xbf⟩
  else if b = 0xed then some ⟨0xd, 2, 0x80, 0x9f⟩
  else if b < 0xf0 then some ⟨b - 0xe0, 2, 0x80, 0xbf⟩
  else if b = 0xf0 then some ⟨0, 3, 0x90, 0xbf⟩
  else if b < 0xf4 then some ⟨b - 0xf0, 3, 0x80, 0xbf⟩
  else if b = 0xf4 then some ⟨4, 3, 0x80, 0x8f⟩
  else none

/-- The character before a first byte, if one has ended, and what the byte begins. -/
def start (b : Nat) : List (Option Char) × Option Partial :=
  match Partial.ofByte? b with
  | none => ([none], none)
  | some p => if p.missing = 0 then ([some (Char.ofNat p.bits)], none) else ([], some p)

def step (begun : Option Partial) (b : Nat) : List (Option Char) × Option Partial :=
  match begun with
  | none => start b
  | some p =>
    if p.least ≤ b ∧ b ≤ p.greatest then
      let bits := 64 * p.bits + (b - 0x80)
      if p.missing ≤ 1 then ([some (Char.ofNat bits)], none)
      else ([], some ⟨bits, p.missing - 1, 0x80, 0xbf⟩)
    else
      let (chars, begun) := start b
      (none :: chars, begun)

def decoder : Transducer (Option Partial) UInt8 (Option Char) where
  step begun b := step begun b.toNat
  finish begun := if begun.isSome then [none] else []

/-- The characters of a list of bytes, with `none` for what is no character. -/
def decode (bytes : List UInt8) : List (Option Char) := decoder.run none bytes

def decode? (bytes : List UInt8) : Option (List Char) := (decode bytes).mapM id

/-- The text of a list of bytes, with a replacement character for what is no character. -/
def decodeLossy (bytes : List UInt8) : List Char := (decode bytes).map (·.getD '\ufffd')

end WikiRows.Text.Utf8
