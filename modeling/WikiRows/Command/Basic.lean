import WikiRows.Command.Options

/-!
# Commands

What the program can be told to do, and how it is told. `Command.ofArguments` reads the arguments of
the program.
-/

namespace WikiRows

structure SiteOptions where
  baseUrl : String
  apiPath : Option String
  userAgent : String
  withoutMaxLag : Bool
  logsRequests : Bool
  deriving DecidableEq, Repr

structure QueryFiles where
  moduleFile : String
  queryFile : Option String
  deriving DecidableEq, Repr

inductive Shell where
  | bash
  | elvish
  | fish
  | powershell
  | zsh
  deriving DecidableEq, Repr

inductive Command where
  /-- Prints the parameters of a query. -/
  | compile (files : QueryFiles)
  /-- Sends a query and prints the projected rows. -/
  | run (files : QueryFiles) (site : SiteOptions)
  /-- Sends parameters as they are and prints the document that comes back. -/
  | raw (fields : List (String × String)) (site : SiteOptions)
  /-- Prints a script that completes commands. -/
  | completions (shell : Shell)
  deriving DecidableEq, Repr

namespace Shell

def ofName? : String → Option Shell
  | "bash" => some bash
  | "elvish" => some elvish
  | "fish" => some fish
  | "powershell" => some powershell
  | "zsh" => some zsh
  | _ => none

end Shell

namespace Command

def paths : Command → List String
  | compile files | run files _ => files.moduleFile :: files.queryFile.toList
  | raw _ _ | completions _ => []

/-- The name and the value of a parameter, which the first equals sign separates. The name must
not be empty. -/
def field? (text : String) : Option (String × String) :=
  match text.toList.span (· ≠ '=') with
  | (c :: name, '=' :: value) => some (String.ofList (c :: name), String.ofList value)
  | _ => none

/-! ## Options -/

def anyText (_ : String) : Bool := true

def isPath (text : String) : Bool := !text.isEmpty

def isField (text : String) : Bool := (field? text).isSome

def helpForm : OptionForm := ⟨"help", some 'h', .stop .help⟩

def fileForms : List OptionForm :=
  [⟨"module", some 'm', .text isPath false⟩, ⟨"query", some 'q', .text isPath false⟩]

def siteForms : List OptionForm :=
  [⟨"base-url", none, .text anyText false⟩, ⟨"api-path", none, .text anyText false⟩,
    ⟨"user-agent", none, .text anyText false⟩, ⟨"no-maxlag", none, .flag⟩,
    ⟨"log-requests", none, .flag⟩]

/-- What may stand in front of a command. -/
def programGrammar : Grammar :=
  ⟨[helpForm, ⟨"version", some 'V', .stop .version⟩, ⟨"log-level", none, .text anyText false⟩],
    none⟩

def compileGrammar : Grammar := ⟨helpForm :: fileForms, none⟩

def runGrammar : Grammar := ⟨helpForm :: fileForms ++ siteForms, none⟩

def rawGrammar : Grammar := ⟨helpForm :: ⟨"param", some 'p', .text isField true⟩ :: siteForms, none⟩

def completionsGrammar : Grammar := ⟨[helpForm], some fun name => (Shell.ofName? name).isSome⟩

/-! ## Arguments -/

def defaultUserAgent : String := "wikiquery-cli"

def queryFiles (r : Reading) : Except Stop QueryFiles := do
  return ⟨← r.required "module", r.text? "query"⟩

def siteOptions (r : Reading) : Except Stop SiteOptions := do
  return {
    baseUrl := ← r.required "base-url"
    apiPath := r.text? "api-path"
    userAgent := (r.text? "user-agent").getD defaultUserAgent
    withoutMaxLag := r.has "no-maxlag"
    logsRequests := r.has "log-requests" }

def names : List String := ["compile", "run", "raw", "completions", "help"]

/-- Help on the program or on one of its commands. -/
def ofHelp : List String → Except Stop Command
  | [] => .error .help
  | [name] => if names.contains name then .error .help else .error .misuse
  | _ => .error .misuse

def ofName (name : String) (arguments : List String) : Except Stop Command :=
  match name with
  | "compile" => do
    let r ← compileGrammar.read arguments
    return compile (← queryFiles r)
  | "run" => do
    let r ← runGrammar.read arguments
    return run (← queryFiles r) (← siteOptions r)
  | "raw" => do
    let r ← rawGrammar.read arguments
    return raw ((r.texts "param").filterMap field?) (← siteOptions r)
  | "completions" => do
    let r ← completionsGrammar.read arguments
    match r.operand.bind Shell.ofName? with
    | some shell => return completions shell
    | none => throw .misuse
  | "help" => ofHelp arguments
  | _ => .error .misuse

/-- Reads arguments up to the name of a command, and the command. -/
def ofArgumentsAfter (r : Reading) : List String → Except Stop Command
  | [] => .error .misuse
  | argument :: rest =>
    if !r.closed && r.pending.isNone && names.contains argument then ofName argument rest
    else do ofArgumentsAfter (← r.step programGrammar argument) rest

def ofArguments (arguments : List String) : Except Stop Command :=
  ofArgumentsAfter .start arguments

end Command

end WikiRows
