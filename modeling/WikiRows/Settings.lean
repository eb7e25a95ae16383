import WikiRows.Text.Blank

/-!
# Settings

How requests are sent. Settings come from environment variables; a variable that is not set, or that
says nothing that can be understood, leaves its default.
-/

namespace WikiRows

structure Settings where
  /-- Lets the server turn requests away while its replicas lag behind. -/
  usesMaxLag : Bool
  /-- Logs every request before it is sent. -/
  logsRequests : Bool
  /-- How many milliseconds a request may take. -/
  timeout : UInt64
  deriving DecidableEq, Repr

namespace Settings

def default : Settings := ⟨true, false, 30000⟩

/-- A switch, in one of the common spellings. -/
def switch? (text : String) : Option Bool :=
  let word := String.ofList ((Text.trim text.toList).map Char.toLower)
  if ["1", "true", "yes", "on"].contains word then some true
  else if ["0", "false", "no", "off"].contains word then some false
  else none

/-- A number of 64 bits in decimal digits, with or without a plus sign. -/
def number? (text : String) : Option UInt64 :=
  let digits := match Text.trim text.toList with
    | '+' :: digits => digits
    | digits => digits
  let value := digits.foldl (fun n c => 10 * n + (c.toNat - '0'.toNat)) 0
  if !digits.isEmpty && digits.all Char.isDigit && value < UInt64.size then
    some (UInt64.ofNat value)
  else none

def maxLagVariable : String := "WIKIQUERY_MAXLAG"

def logVariable : String := "WIKIQUERY_LOG_REQUESTS"

def timeoutVariable : String := "WIKIQUERY_TIMEOUT_MS"

def variableNames : List String := [maxLagVariable, logVariable, timeoutVariable]

def ofVariables (value? : String → Option String) : Settings where
  usesMaxLag := ((value? maxLagVariable).bind switch?).getD default.usesMaxLag
  logsRequests := ((value? logVariable).bind switch?).getD default.logsRequests
  timeout := ((value? timeoutVariable).bind number?).getD default.timeout

end Settings

end WikiRows
