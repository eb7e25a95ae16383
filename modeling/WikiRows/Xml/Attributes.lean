import WikiRows.Xml.Element
import WikiRows.Xml.Entity
import WikiRows.Xml.Markup

/-!
# Reading tags

The content of a tag is a name up to the first white space, and attributes after it. A key is at
least one character long, goes on to an equals sign or white space, and may not occur twice. Its
value stands in quotes.
-/

namespace WikiRows

namespace Xml

inductive TagFault where
  | badAttribute
  | badValue
  deriving DecidableEq, Repr

/-- What the reading of attributes is in the middle of. -/
inductive AttributeScan where
  | between
  | key (read : List Char)
  | afterKey (key : List Char)
  | afterEquals (key : List Char)
  | value (key : List Char) (quote : Char) (read : List Char)
  deriving DecidableEq, Repr

namespace Tag

def name (content : List Char) : List Char := content.takeWhile fun c => !isSpace c

/-- A key ends at its equals sign, and must be new. -/
def endKey (done : List (String × String)) (key : List Char) :
    Except TagFault AttributeScan :=
  let name := String.ofList key
  if done.any fun pair => pair.1 = name then .error .badAttribute else .ok (.afterEquals key)

def attributesFrom (done : List (String × String)) (scan : AttributeScan) :
    List Char → Except TagFault (List (String × String))
  | [] =>
    match scan with
    | .between => .ok done
    | _ => .error .badAttribute
  | c :: rest =>
    match scan with
    | .between =>
      if isSpace c then attributesFrom done .between rest
      else attributesFrom done (.key [c]) rest
    | .key read =>
      if c = '=' then
        match endKey done read.reverse with
        | .ok scan => attributesFrom done scan rest
        | .error fault => .error fault
      else if isSpace c then attributesFrom done (.afterKey read.reverse) rest
      else attributesFrom done (.key (c :: read)) rest
    | .afterKey key =>
      if isSpace c then attributesFrom done (.afterKey key) rest
      else if c = '=' then
        match endKey done key with
        | .ok scan => attributesFrom done scan rest
        | .error fault => .error fault
      else .error .badAttribute
    | .afterEquals key =>
      if isSpace c then attributesFrom done (.afterEquals key) rest
      else if c = '"' || c = '\'' then attributesFrom done (.value key c []) rest
      else .error .badAttribute
    | .value key quote read =>
      if c = quote then
        match unescape? read.reverse with
        | some value =>
          attributesFrom (done ++ [(String.ofList key, String.ofList value)]) .between rest
        | none => .error .badValue
      else attributesFrom done (.value key quote (c :: read)) rest

def attributes (content : List Char) : Except TagFault (List (String × String)) :=
  attributesFrom [] .between (content.drop (name content).length)

def element (content : List Char) : Except TagFault Element :=
  (attributes content).map fun attributes =>
    { name := String.ofList (name content), attributes, text := "", children := [] }

end Tag

end Xml

end WikiRows
