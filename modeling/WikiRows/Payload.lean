/-!
# File payloads

The contents of a file come from a source that can be read once. The first time they are asked for,
the source is read to its end; from then on the contents are kept, and the source is gone. A source
that fails loses what was read of it, and goes on from there the next time.
-/

namespace WikiRows

/-- What one read of a source gives. Bytes that are none say that the end is reached, and an
interrupted read is tried again. -/
inductive SourceRead where
  | bytes (chunk : List UInt8)
  | interrupted
  | failed (text : String)
  deriving DecidableEq, Repr

/-- A source is what its reads will give. After that, its end is reached. -/
abbrev Source := List SourceRead

namespace Source

/-- Reads a source to its end, and says what is left of it. -/
def readAll : Source → Except String (List UInt8) × Source
  | [] => (.ok [], [])
  | .bytes [] :: rest => (.ok [], rest)
  | .bytes chunk :: rest =>
    match readAll rest with
    | (.ok more, rest) => (.ok (chunk ++ more), rest)
    | (.error text, rest) => (.error text, rest)
  | .interrupted :: rest => readAll rest
  | .failed text :: rest => (.error text, rest)

end Source

inductive Payload where
  | pending (source : Source)
  | buffered (bytes : List UInt8)
  deriving DecidableEq, Repr

namespace Payload

def isBuffered : Payload → Bool
  | pending _ => false
  | buffered _ => true

/-- The contents, or why the source cannot be read, and the payload afterwards. -/
def contents : Payload → Except String (List UInt8) × Payload
  | buffered bytes => (.ok bytes, buffered bytes)
  | pending source =>
    match source.readAll with
    | (.ok bytes, _) => (.ok bytes, buffered bytes)
    | (.error text, rest) => (.error text, pending rest)

end Payload

/-- A reader of the contents of a payload: what it has not read yet. -/
abbrev ContentsReader := List UInt8

def Payload.reader (p : Payload) : Except String ContentsReader × Payload := p.contents

namespace ContentsReader

def read (r : ContentsReader) (count : Nat) : List UInt8 × ContentsReader :=
  (r.take count, r.drop count)

end ContentsReader

end WikiRows
