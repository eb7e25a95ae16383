import WikiRows.Http.Form
import WikiRows.Http.Multipart
import WikiRows.Parameter
import WikiRows.Settings
import WikiRows.Site
import WikiRows.Query.Answer

/-!
# Clients

A client turns the parameters of a request into what is sent to its site, and what comes back into
a document. Fields of the protocol go in front of the parameters. If one of these is a file, all
of them are sent as the parts of a multipart body, otherwise as the fields of a form.
-/

namespace WikiRows

namespace Http

inductive Body where
  | form (fields : List Form.Field)
  | multipart (parts : List Part)
  deriving DecidableEq, Repr

namespace Body

def bytes (boundary : String) : Body → List UInt8
  | form fields => Text.Utf8.encode (Form.chars fields)
  | multipart parts => Multipart.encode boundary parts

def contentType (boundary : String) : Body → String
  | form _ => "application/x-www-form-urlencoded"
  | multipart _ => "multipart/form-data; boundary=" ++ boundary

end Body

structure Request where
  url : String
  userAgent : String
  body : Body
  deriving DecidableEq, Repr

end Http

structure Client where
  site : Site
  settings : Settings
  deriving DecidableEq, Repr

namespace Client

/-- Characters that the name of a user agent may have. -/
def isHeaderChar (c : Char) : Bool := c = '\t' || (0x20 ≤ c.toNat && c.toNat ≠ 0x7f)

def ofSite (site : Site) (settings : Settings) : Except Failure Client :=
  if site.userAgent.toList.all isHeaderChar then .ok ⟨site, settings⟩ else .error .transport

def userAgent (c : Client) : String := c.site.userAgent ++ " wikiquery"

/-- The greatest lag of the replicas, in seconds. -/
def maxLagSeconds : String := "5"

def protocolFields (s : Settings) : List Parameter :=
  .text "format" "xml" :: if s.usesMaxLag then [.text "maxlag" maxLagSeconds] else []

/-- The parameters that are sent: the fields of the protocol, then those that are given. -/
def assemble (c : Client) (parameters : List Parameter) : List Parameter :=
  protocolFields c.settings ++ parameters

/-- The name that every file is sent under. -/
def fileName : String := "noname"

/-- The part for a parameter, and the parameter after its payload has been read. -/
def part (p : Parameter) : Except Failure Http.Part × Parameter :=
  match p with
  | .text name value => (.ok ⟨name, none, Text.Utf8.encode value.toList⟩, p)
  | .file name payload =>
    match payload.contents with
    | (.ok bytes, payload) => (.ok ⟨name, some fileName, bytes⟩, .file name payload)
    | (.error text, payload) => (.error (.io text), .file name payload)

/-- The parts for parameters, up to the first that cannot be read, and the parameters afterwards. -/
def parts : List Parameter → Except Failure (List Http.Part) × List Parameter
  | [] => (.ok [], [])
  | p :: rest =>
    match part p with
    | (.error failure, p) => (.error failure, p :: rest)
    | (.ok first, p) =>
      match parts rest with
      | (.ok others, rest) => (.ok (first :: others), p :: rest)
      | (.error failure, rest) => (.error failure, p :: rest)

def field? : Parameter → Option Http.Form.Field
  | .text name value => some (name, value)
  | .file _ _ => none

def body (parameters : List Parameter) : Except Failure Http.Body × List Parameter :=
  if parameters.any Parameter.isFile then
    match parts parameters with
    | (.ok parts, parameters) => (.ok (.multipart parts), parameters)
    | (.error failure, parameters) => (.error failure, parameters)
  else (.ok (.form (parameters.filterMap field?)), parameters)

/-- The request for parameters, and the parameters after the payloads have been read. -/
def prepare (c : Client) (parameters : List Parameter) :
    Except Failure Http.Request × List Parameter :=
  let (body, after) := body (c.assemble parameters)
  (body.map fun body => ⟨c.site.endpoint, c.userAgent, body⟩,
    after.drop (protocolFields c.settings).length)

def logLine (c : Client) (parameters : List Parameter) : Option String :=
  if c.settings.logsRequests then
    some (c.site.apiUrl ++ "?" ++ "&".intercalate (parameters.map Parameter.display))
  else none

/-- The document that comes back. Without a reply there is none. -/
def receive (reply : Option (List UInt8)) : Except Failure Xml.Document :=
  match reply with
  | some bytes => Xml.Document.read (String.ofList (Text.Utf8.decodeLossy bytes))
  | none => .error .transport

end Client

namespace Query

def receive (q : Query) (reply : Option (List UInt8)) : Except Failure Answer := do
  q.read (← Client.receive reply)

end Query

end WikiRows
