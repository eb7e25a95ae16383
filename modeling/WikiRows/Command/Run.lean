import WikiRows.Client
import WikiRows.Command.Basic
import WikiRows.Query.Spec
import WikiRows.Schema.Json

/-!
# Running commands

`Command.plan` works out what a command does: it prints something at once, or it sends a request
and prints what becomes of the reply. Nothing is sent here; who carries out the plan sends the
request and hands the reply to `Errand.finish`. What the program says about its own options is
generated from them and is no part of this library, so that a plan only names the topic.
-/

namespace WikiRows

inductive Complaint where
  | unreadableModule (path : String)
  | badModule (path : String)
  | namelessModule (path : String)
  | unreadableQuery (path : String)
  | badQuery (path : String)
  | failed (failure : Failure)
  deriving Repr

namespace Complaint

def message : Complaint → String
  | unreadableModule path => "reading module descriptor " ++ path
  | badModule path => "parsing module descriptor " ++ path
  | namelessModule path => "module descriptor " ++ path ++ " has an empty moduleName"
  | unreadableQuery path => "reading query " ++ path
  | badQuery path => "parsing query " ++ path
  | failed failure => failure.message

end Complaint

structure Surroundings where
  /-- The bytes of a file. -/
  file? : String → Option (List UInt8)
  /-- The value of an environment variable. -/
  env? : String → Option String

namespace Surroundings

def text? (s : Surroundings) (path : String) : Option String :=
  ((s.file? path).bind Text.Utf8.decode?).map String.ofList

def loadModule (s : Surroundings) (path : String) : Except Complaint ApiModule :=
  match s.text? path with
  | none => .error (.unreadableModule path)
  | some text =>
    match ApiModule.ofText? text with
    | none => .error (.badModule path)
    | some m => if m.name.isEmpty then .error (.namelessModule path) else .ok m

/-- Loads the specification that a file holds. Without a file there are no clauses. -/
def loadSpec (s : Surroundings) : Option String → Except Complaint QuerySpec
  | none => .ok .empty
  | some path =>
    match s.text? path with
    | none => .error (.unreadableQuery path)
    | some text =>
      match QuerySpec.ofText? text with
      | none => .error (.badQuery path)
      | some spec => .ok spec

end Surroundings

/-- What a program leaves behind: its exit code, what it prints, and its messages. -/
structure Outcome where
  exitCode : UInt8
  output : String
  messages : List String
  deriving DecidableEq, Repr

namespace Outcome

def printed (output : String) : Outcome := ⟨0, output, []⟩

def ofComplaint (c : Complaint) : Outcome := ⟨1, "", ["Error: " ++ c.message]⟩

def ofExcept {α : Type} (print : α → Outcome) : Except Complaint α → Outcome
  | .ok a => print a
  | .error complaint => ofComplaint complaint

end Outcome

/-- A request on its way, with the lines that are logged before it is sent. -/
structure Errand where
  log : List String
  request : Http.Request
  /-- What becomes of the reply, if there is one. -/
  finish : Option (List UInt8) → Outcome

/-- What the program says about its own options. -/
inductive Topic where
  | help
  | misuse
  | completions (shell : Shell)
  deriving DecidableEq, Repr

/-- Misuse is a failure of its own and prints nothing. -/
def Topic.outcome (text : String) : Topic → Outcome
  | misuse => ⟨2, "", [text]⟩
  | help | completions _ => .printed text

inductive Plan where
  | print (outcome : Outcome)
  | explain (topic : Topic)
  | send (errand : Errand)

namespace Plan

/-- The outcome of a plan whose request is sent by `post`, where `text` is what is generated for a
topic. -/
def carryOut (post : Http.Request → Option (List UInt8)) (plan : Plan)
    (text : Topic → String := fun _ => "") : Outcome :=
  match plan with
  | print outcome => outcome
  | explain topic => topic.outcome (text topic)
  | send errand =>
    let outcome := errand.finish (post errand.request)
    { outcome with messages := errand.log ++ outcome.messages }

end Plan

namespace SiteOptions

/-- Options win over the environment. -/
def settings (o : SiteOptions) (s : Surroundings) : Settings :=
  let settings := Settings.ofVariables s.env?
  { settings with
    usesMaxLag := settings.usesMaxLag && !o.withoutMaxLag
    logsRequests := settings.logsRequests || o.logsRequests }

def client (o : SiteOptions) (s : Surroundings) : Except Complaint Client :=
  let client : Except Failure Client := do
    Client.ofSite (← Site.ofBaseUrl o.userAgent o.baseUrl o.apiPath) (o.settings s)
  client.mapError .failed

end SiteOptions

namespace QueryFiles

def query (f : QueryFiles) (s : Surroundings) : Except Complaint Query := do
  let m ← s.loadModule f.moduleFile
  let spec ← s.loadSpec f.queryFile
  (Query.ofSpec m spec).mapError .failed

end QueryFiles

namespace Answer

def toJson : Answer → Json
  | list rows => .arr rows
  | single row => row

end Answer

namespace Command

def post (client : Client) (parameters : List Parameter)
    (print : Option (List UInt8) → Except Failure Outcome) : Except Complaint Plan := do
  let request ← ((client.prepare parameters).1).mapError .failed
  return .send {
    log := (client.logLine parameters).toList
    request
    finish := fun reply => Outcome.ofExcept id ((print reply).mapError .failed) }

/-- The document, or nothing if it is empty. -/
def printDocument (d : Xml.Document) : Outcome :=
  match d.root with
  | some root => .printed (root.display ++ "\n")
  | none => ⟨0, "", ["empty response"]⟩

def plan (s : Surroundings) : Command → Except Complaint Plan
  | compile files => do
    let q ← files.query s
    let lines := q.request.map fun p => p.display ++ "\n"
    return .print (.printed (String.join lines))
  | run files site => do
    let q ← files.query s
    let client ← site.client s
    post client q.request fun reply => do
      let answer ← q.receive reply
      return .printed (answer.toJson.pretty ++ "\n")
  | raw fields site => do
    let client ← site.client s
    post client (fields.map fun (name, value) => .text name value) fun reply => do
      return printDocument (← Client.receive reply)
  | completions shell => .ok (.explain (.completions shell))

end Command

namespace Plan

/-- The plan when there is no command to carry out. -/
def ofStop : Command.Stop → Plan
  | .help => explain .help
  | .version => print (.printed "wikiquery 0.1.0\n")
  | .misuse => explain .misuse

def ofArguments (s : Surroundings) (arguments : List String) : Plan :=
  match Command.ofArguments arguments with
  | .error stop => ofStop stop
  | .ok command =>
    match command.plan s with
    | .ok plan => plan
    | .error complaint => print (.ofComplaint complaint)

end Plan

end WikiRows
