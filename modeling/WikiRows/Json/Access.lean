import WikiRows.Json.Raw

/-!
# Reading typed values from JSON texts

A value is read from a text in one of two ways. *Streamed*, the text is read as it comes: at most so
many arrays and objects may nest, and what nobody asks for is skipped by the grammar alone. *Held*,
it has been taken in as a whole first, because its type was not known yet; then everything in it
must have a value. A record is read from an object by the names of its fields, or from an array by
their order.
-/

namespace WikiRows

namespace Json

/-- How a value is read, and if it is streamed, how many more arrays and objects may nest. -/
inductive Access where
  | streamed (room : Nat)
  | held
  deriving DecidableEq, Repr

namespace Access

/-- A text as a whole may nest 127 arrays and objects. -/
def text : Access := .streamed 127

def enter : Access → Option Access
  | .streamed 0 => none
  | .streamed (room + 1) => some (.streamed room)
  | .held => some .held

def holds : Access → Raw → Bool
  | .streamed room, raw => raw.fits room
  | .held, _ => true

end Access

namespace Raw

structure Part (whole : Raw) where
  raw : Raw
  smaller : sizeOf raw < sizeOf whole

theorem sizeOf_lt_of_mem_members {members : List (Option String × Raw)}
    {member : Option String × Raw} (h : member ∈ members) :
    sizeOf member.2 < sizeOf (object members) := by
  have := List.sizeOf_lt_of_mem h
  obtain ⟨name, value⟩ := member
  simp only [object.sizeOf_spec, Prod.mk.sizeOf_spec] at *
  omega

theorem sizeOf_lt_of_mem_items {items : List Raw} {item : Raw} (h : item ∈ items) :
    sizeOf item < sizeOf (array items) := by
  have := List.sizeOf_lt_of_mem h
  simp only [array.sizeOf_spec] at *
  omega

def items? : (raw : Raw) → Option (List (Part raw))
  | array items => some (items.attach.map fun item => ⟨item.1, sizeOf_lt_of_mem_items item.2⟩)
  | _ => none

/-- The members of an object, if all of them have names. -/
def members? : (raw : Raw) → Option (List (String × Part raw))
  | object members =>
    members.attach.mapM fun member =>
      member.1.1.map fun name => (name, ⟨member.1.2, sizeOf_lt_of_mem_members member.2⟩)
  | _ => none

/-- The one member of that name, or none. Two are an error. -/
def unique? {whole : Raw} (members : List (String × Part whole)) (name : String) :
    Option (Option (Part whole)) :=
  match members.filter (·.1 = name) with
  | [] => some none
  | [member] => some (some member.2)
  | _ => none

/-- The fields of a record, in the order of their names. Unknown members are skipped; items beyond
the last field are an error. -/
def fields? (raw : Raw) (names : List String) : Option (List (Option (Part raw))) :=
  match raw.members? with
  | some members => names.mapM (unique? members)
  | none => do
    let items ← raw.items?
    if names.length < items.length then none
    else return items.map some ++ List.replicate (names.length - items.length) none

def text? : Raw → Option String
  | string s => s
  | _ => none

def bool? : Raw → Option Bool
  | bool b => some b
  | _ => none

def int64? : Raw → Option Int64
  | number (some (.int i)) =>
    if -0x8000000000000000 ≤ i ∧ i < 0x8000000000000000 then some (Int64.ofInt i) else none
  | _ => none

def float? : Raw → Option Float
  | number (some (.float x)) => some x
  | number (some (.int i)) => some (Float.ofInt i)
  | _ => none

def isNull : Raw → Bool
  | null => true
  | _ => false

/-- A choice among names: a string, or an object with the name as its one member, which holds
nothing. Once a value is held, an object without members holds nothing too. -/
def choice? (access : Access) : Raw → Option String
  | string s => s
  | object [(name, value)] => do
    let _ ← access.enter
    match access, value with
    | _, null => name
    | .held, object [] => name
    | _, _ => none
  | _ => none

end Raw

end Json

end WikiRows
