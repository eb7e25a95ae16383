import WikiRows.Failure
import WikiRows.Url.Basic

/-!
# Sites

Where the API of a wiki is, and who asks.
-/

namespace WikiRows

structure Site where
  userAgent : String
  /-- An absolute URL that does not end in a slash. -/
  baseUrl : String
  apiPath : String
  deriving DecidableEq, Repr

namespace Site

def defaultApiPath : String := "/w/api.php"

def dropSlashes (text : String) : String :=
  String.ofList (text.toList.reverse.dropWhile (· = '/')).reverse

def ofBaseUrl (userAgent baseUrl : String) (apiPath : Option String) : Except Failure Site :=
  let baseUrl := dropSlashes baseUrl
  match Url.check baseUrl with
  | .ok () => .ok ⟨userAgent, baseUrl, apiPath.getD defaultApiPath⟩
  | .error fault => .error (.badBaseUrl baseUrl fault)

def apiUrl (s : Site) : String := s.baseUrl ++ s.apiPath

/-- The URL that requests are sent to. It asks for continuations in their raw form. -/
def endpoint (s : Site) : String := s.apiUrl ++ "?rawcontinue"

end Site

end WikiRows
