import WikiRows.Payload
import WikiRows.Text.Quoted

/-!
# Request parameters

A parameter has a name, and a text or a file.
-/

namespace WikiRows

inductive Parameter where
  | text (name value : String)
  | file (name : String) (payload : Payload)
  deriving DecidableEq, Repr

namespace Parameter

def name : Parameter → String
  | text name _ => name
  | file name _ => name

def isFile : Parameter → Bool
  | text _ _ => false
  | file _ _ => true

def display : Parameter → String
  | text name value => name ++ "=" ++ value
  | file name _ => name ++ "=<file>"

/-- A parameter with the names of its parts, for diagnosis. -/
def describe : Parameter → String
  | text name value =>
    "Value \x7b name: " ++ Text.quote name ++ ", value: " ++ Text.quote value ++ " \x7d"
  | file name payload =>
    "File \x7b name: " ++ Text.quote name ++ ", payload: FilePayload \x7b buffered: " ++
      toString payload.isBuffered ++ " \x7d \x7d"

end Parameter

end WikiRows
