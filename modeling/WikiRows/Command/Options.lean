/-!
# Options

Arguments of a command are options, and there may be an operand. An option has a long name and may
have a letter. Some take a text, either attached to them or as the next argument. What follows two
dashes is no option. The arguments are read from left to right, one at a time, and the first that
is wrong, or that asks for help or the version, ends the reading.
-/

namespace WikiRows.Command

/-- Why the reading of arguments ends early. -/
inductive Stop where
  | help
  | version
  | misuse
  deriving DecidableEq, Repr

inductive OptionKind where
  | flag
  | text (accepts : String → Bool) (repeats : Bool)
  | stop (reason : Stop)

structure OptionForm where
  name : String
  letter : Option Char
  kind : OptionKind

/-- The options that a command knows, and the operand that it accepts if it takes one. -/
structure Grammar where
  options : List OptionForm
  operand : Option (String → Bool)

structure Reading where
  /-- Options by name, with their texts, in their order. -/
  given : List (String × String)
  operand : Option String
  /-- An option whose text is the next argument. -/
  pending : Option OptionForm
  /-- No options follow. -/
  closed : Bool

namespace Reading

def start : Reading := ⟨[], none, none, false⟩

/-- Adds an option with its text. Most options are given at most once. -/
def add (r : Reading) (form : OptionForm) (text : String) : Except Stop Reading :=
  let repeats := match form.kind with
    | .text _ repeats => repeats
    | _ => false
  let accepted := match form.kind with
    | .text accepts _ => accepts text
    | _ => true
  if accepted && (repeats || !r.given.any (·.1 = form.name)) then
    .ok { r with given := r.given ++ [(form.name, text)], pending := none }
  else .error .misuse

def addOperand (g : Grammar) (r : Reading) (text : String) : Except Stop Reading :=
  if r.operand.isNone && g.operand.any (· text) then .ok { r with operand := some text }
  else .error .misuse

def addOption (r : Reading) (form : OptionForm) (attached : Option String) :
    Except Stop Reading :=
  match form.kind, attached with
  | .flag, none => r.add form ""
  | .stop reason, none => .error reason
  | .text _ _, some text => r.add form text
  | .text _ _, none => .ok { r with pending := some form }
  | _, some _ => .error .misuse

def addLong (g : Grammar) (r : Reading) (s : List Char) : Except Stop Reading :=
  let (name, rest) := s.span (· ≠ '=')
  match g.options.find? (·.name = String.ofList name) with
  | some form =>
    r.addOption form (if rest.isEmpty then none else some (String.ofList (rest.drop 1)))
  | none => .error .misuse

/-- Takes options by their letters. The first that takes a text has the rest of the argument for
it. -/
def addLetters (g : Grammar) (r : Reading) : List Char → Except Stop Reading
  | [] => .ok r
  | c :: rest =>
    match g.options.find? (·.letter = some c) with
    | none => .error .misuse
    | some form =>
      match form.kind, rest with
      | .text _ _, '=' :: text => r.addOption form (some (String.ofList text))
      | .text _ _, [] => r.addOption form none
      | .text _ _, text => r.addOption form (some (String.ofList text))
      | _, rest => do addLetters g (← r.addOption form none) rest

def step (g : Grammar) (r : Reading) (argument : String) : Except Stop Reading :=
  if r.closed then r.addOperand g argument
  else
    match argument.toList, r.pending with
    | '-' :: _ :: _, some _ => .error .misuse
    | ['-', '-'], none => .ok { r with closed := true }
    | '-' :: '-' :: s, none => r.addLong g s
    | '-' :: c :: s, none => r.addLetters g (c :: s)
    | _, some form => r.add form argument
    | _, none => r.addOperand g argument

/-- Ends the reading. An option must not wait for its text any more. -/
def finish (r : Reading) : Except Stop Reading :=
  if r.pending.isSome then .error .misuse else .ok r

end Reading

def Grammar.read (g : Grammar) (arguments : List String) : Except Stop Reading := do
  (← arguments.foldlM (Reading.step g) .start).finish

namespace Reading

def text? (r : Reading) (name : String) : Option String := r.given.lookup name

def texts (r : Reading) (name : String) : List String :=
  (r.given.filter (·.1 = name)).map (·.2)

def has (r : Reading) (name : String) : Bool := (r.text? name).isSome

def required (r : Reading) (name : String) : Except Stop String :=
  match r.text? name with
  | some text => .ok text
  | none => .error .misuse

end Reading

end WikiRows.Command
