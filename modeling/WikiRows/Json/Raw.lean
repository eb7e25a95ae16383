import WikiRows.Json.Number
import WikiRows.Transducer

/-!
# JSON texts

`Json.Raw.ofText?` reads a JSON text by the grammar alone. It works in two steps: a scanner that
goes through the text one character at a time and gives tokens, and a machine with a stack of open
arrays and objects that goes through the tokens. What the grammar admits and no value can hold, an
escaped lone surrogate or a number beyond the doubles, is kept as a gap and rejected by those who
need the value.
-/

namespace WikiRows

namespace Json

/-- A JSON text by the grammar. `none` is a string or a number without a value. -/
inductive Raw where
  | null
  | bool (b : Bool)
  | number (n : Option Number)
  | string (s : Option String)
  | array (items : List Raw)
  | object (members : List (Option String × Raw))
  deriving Repr, Inhabited

inductive Token where
  | openArray
  | closeArray
  | openObject
  | closeObject
  | comma
  | colon
  | scalar (value : Raw)

/-! ## Scanner -/

/-- A UTF-16 unit of an escape is a character of its own unless it is a surrogate. -/
inductive Piece where
  | char (c : Char)
  | high (n : Nat)
  | low (n : Nat)
  deriving DecidableEq, Repr

namespace Piece

def ofUnit (n : Nat) : Piece :=
  if 0xd800 ≤ n ∧ n < 0xdc00 then high (n - 0xd800)
  else if 0xdc00 ≤ n ∧ n < 0xe000 then low (n - 0xdc00)
  else char (Char.ofNat n)

/-- Joins surrogate pairs, of which the high half may have come already. A lone surrogate is no
character. -/
def joiner : Transducer (Option Nat) Piece (Option Char) where
  step
    | none, char c => ([some c], none)
    | none, high a => ([], some a)
    | some a, low b => ([some (Char.ofNat (0x10000 + 0x400 * a + b))], none)
    | _, _ => ([none], none)
  finish pending := if pending.isSome then [none] else []

def join (pieces : List Piece) : Option (List Char) := (joiner.run none pieces).mapM id

end Piece

/-- What the scanner is in the middle of, with what it has read of it, the last piece first. -/
inductive Scan where
  | between
  | word (read : List Char)
  | number (read : List Char)
  | string (read : List Piece)
  | escape (read : List Piece)
  | unit (read : List Piece) (value : Nat) (missing : Nat)

def isSpace (c : Char) : Bool := c = ' ' || c = '\t' || c = '\n' || c = '\r'

def isNumberChar (c : Char) : Bool :=
  c.isDigit || c = '-' || c = '+' || c = '.' || c = 'e' || c = 'E'

def wordToken? (word : List Char) : Option Token :=
  if word = ['n', 'u', 'l', 'l'] then some (.scalar .null)
  else if word = ['t', 'r', 'u', 'e'] then some (.scalar (.bool true))
  else if word = ['f', 'a', 'l', 's', 'e'] then some (.scalar (.bool false))
  else none

def numberToken? (s : List Char) : Option Token :=
  (Number.Parts.ofChars? s).map fun parts => .scalar (.number (Number.ofParts? parts))

def stringToken (pieces : List Piece) : Token :=
  .scalar (.string ((Piece.join pieces).map String.ofList))

def begin? (c : Char) : Option (List Token × Scan) :=
  if isSpace c then some ([], .between)
  else if c = '[' then some ([.openArray], .between)
  else if c = ']' then some ([.closeArray], .between)
  else if c = '{' then some ([.openObject], .between)
  else if c = '}' then some ([.closeObject], .between)
  else if c = ',' then some ([.comma], .between)
  else if c = ':' then some ([.colon], .between)
  else if c = '"' then some ([], .string [])
  else if c.isDigit || c = '-' then some ([], .number [c])
  else if c.isAlpha then some ([], .word [c])
  else none

/-- What a character after a backslash stands for; `u` begins a unit. -/
def escaped? (read : List Piece) (c : Char) : Option Scan :=
  let plain (c : Char) : Option Scan := some (.string (.char c :: read))
  if c = '"' || c = '\\' || c = '/' then plain c
  else if c = 'b' then plain '\x08'
  else if c = 'f' then plain '\x0c'
  else if c = 'n' then plain '\n'
  else if c = 'r' then plain '\r'
  else if c = 't' then plain '\t'
  else if c = 'u' then some (.unit read 0 4)
  else none

def hexValue? (c : Char) : Option Nat :=
  if c.isDigit then some (c.toNat - '0'.toNat)
  else if 'a' ≤ c ∧ c ≤ 'f' then some (c.toNat - 'a'.toNat + 10)
  else if 'A' ≤ c ∧ c ≤ 'F' then some (c.toNat - 'A'.toNat + 10)
  else none

/-- The tokens that a character ends, and what the scanner is in after it. -/
def scanChar? (scan : Scan) (c : Char) : Option (List Token × Scan) :=
  match scan with
  | .between => begin? c
  | .word read =>
    if c.isAlpha then some ([], .word (c :: read))
    else do
      let token ← wordToken? read.reverse
      let (tokens, scan) ← begin? c
      return (token :: tokens, scan)
  | .number read =>
    if isNumberChar c then some ([], .number (c :: read))
    else do
      let token ← numberToken? read.reverse
      let (tokens, scan) ← begin? c
      return (token :: tokens, scan)
  | .string read =>
    if c = '"' then some ([stringToken read.reverse], .between)
    else if c = '\\' then some ([], .escape read)
    else if c.toNat < 0x20 then none
    else some ([], .string (.char c :: read))
  | .escape read => (escaped? read c).map fun scan => ([], scan)
  | .unit read value missing => do
    let digit ← hexValue? c
    let value := 16 * value + digit
    if missing = 1 then return ([], .string (Piece.ofUnit value :: read))
    else return ([], .unit read value (missing - 1))

def endTokens? : Scan → Option (List Token)
  | .between => some []
  | .word read => (wordToken? read.reverse).map ([·])
  | .number read => (numberToken? read.reverse).map ([·])
  | _ => none

/-- The tokens of a text, behind tokens that are given backwards. -/
def scanOnto? (done : List Token) (scan : Scan) : List Char → Option (List Token)
  | [] => (endTokens? scan).map done.reverseAux
  | c :: rest =>
    match scanChar? scan c with
    | some (tokens, scan) => scanOnto? (tokens.reverseAux done) scan rest
    | none => none

def scan? (scan : Scan) (s : List Char) : Option (List Token) := scanOnto? [] scan s

theorem scanOnto?_eq (s : List Char) (done : List Token) (scan : Scan) :
    scanOnto? done scan s = (scan? scan s).map (done.reverse ++ ·) := by
  induction s generalizing done scan with
  | nil => cases h : endTokens? scan <;> simp [scan?, scanOnto?, h, List.reverseAux_eq]
  | cons c rest ih =>
    simp only [scan?, scanOnto?]
    cases scanChar? scan c with
    | none => rfl
    | some next => simp [ih, List.reverseAux_eq, Function.comp_def]

theorem scan?_cons (scan : Scan) (c : Char) (rest : List Char) :
    scan? scan (c :: rest) =
      (scanChar? scan c).bind fun next => (scan? next.2 rest).map (next.1 ++ ·) := by
  simp only [scan?, scanOnto?]
  cases scanChar? scan c with
  | none => rfl
  | some next => simp [scanOnto?_eq, List.reverseAux_eq]

/-! ## Machine -/

/-- An array or object that is not closed yet, with what it holds so far, the last first. -/
inductive Frame where
  | items (done : List Raw)
  | members (done : List (Option String × Raw))
  | value (done : List (Option String × Raw)) (key : Option String)

inductive Stage where
  | value
  | firstItem
  | key
  | firstKey
  | colon (key : Option String)
  | after (value : Raw)

structure Machine where
  frames : List Frame
  stage : Stage

namespace Machine

def initial : Machine := ⟨[], .value⟩

def openValue? (frames : List Frame) : Token → Option Machine
  | .scalar value => some ⟨frames, .after value⟩
  | .openArray => some ⟨.items [] :: frames, .firstItem⟩
  | .openObject => some ⟨.members [] :: frames, .firstKey⟩
  | _ => none

def key? (frames : List Frame) : Token → Option Machine
  | .scalar (.string key) => some ⟨frames, .colon key⟩
  | _ => none

def step? (m : Machine) (token : Token) : Option Machine :=
  match m.stage, token, m.frames with
  | .value, token, frames => openValue? frames token
  | .firstItem, .closeArray, .items done :: frames => some ⟨frames, .after (.array done.reverse)⟩
  | .firstItem, token, frames => openValue? frames token
  | .key, token, frames => key? frames token
  | .firstKey, .closeObject, .members done :: frames =>
    some ⟨frames, .after (.object done.reverse)⟩
  | .firstKey, token, frames => key? frames token
  | .colon key, .colon, .members done :: frames => some ⟨.value done key :: frames, .value⟩
  | .after value, .comma, .items done :: frames => some ⟨.items (value :: done) :: frames, .value⟩
  | .after value, .closeArray, .items done :: frames =>
    some ⟨frames, .after (.array (value :: done).reverse)⟩
  | .after value, .comma, .value done key :: frames =>
    some ⟨.members ((key, value) :: done) :: frames, .key⟩
  | .after value, .closeObject, .value done key :: frames =>
    some ⟨frames, .after (.object ((key, value) :: done).reverse)⟩
  | _, _, _ => none

def run? (m : Machine) (tokens : List Token) : Option Machine := tokens.foldlM step? m

def result? : Machine → Option Raw
  | ⟨[], .after value⟩ => some value
  | _ => none

end Machine

namespace Raw

def ofChars? (s : List Char) : Option Raw := do
  let tokens ← scan? .between s
  let machine ← Machine.initial.run? tokens
  machine.result?

def ofText? (text : String) : Option Raw := ofChars? text.toList

mutual

/-- Every string and number has a value, and at most `room` arrays and objects nest. -/
def fits (room : Nat) : Raw → Bool
  | number n => n.isSome
  | string s => s.isSome
  | array items =>
    match room with
    | 0 => false
    | room + 1 => itemsFit room items
  | object members =>
    match room with
    | 0 => false
    | room + 1 => membersFit room members
  | _ => true

def itemsFit (room : Nat) : List Raw → Bool
  | [] => true
  | item :: items => fits room item && itemsFit room items

def membersFit (room : Nat) : List (Option String × Raw) → Bool
  | [] => true
  | (name, value) :: members => name.isSome && fits room value && membersFit room members

end

end Raw

end Json

end WikiRows
