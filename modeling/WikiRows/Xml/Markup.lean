import WikiRows.Transducer

/-!
# Markup

`Markup.split` cuts a text into tags, text between tags, CDATA sections and what is skipped. It goes
through the text one character at a time. A tag ends at the first `>` outside quotes, whatever its
name. What cannot be cut ends the list with `broken`.
-/

namespace WikiRows

namespace Xml

/-- A piece of an XML text. Tags are what stands between `<` and `>`, without slashes. -/
inductive Markup where
  | opening (content : List Char)
  | empty (content : List Char)
  | closing (name : List Char)
  | text (content : List Char)
  | cdata (content : List Char)
  /-- A comment, a declaration, an instruction or a document type. -/
  | skipped
  /-- From here on the text is no XML. -/
  | broken
  deriving DecidableEq, Repr

def isSpace (c : Char) : Bool := c = ' ' || c = '\t' || c = '\r' || c = '\n'

/-- What a scan is in the middle of, with what it has read of it, the last character first. -/
inductive Scan where
  | text (read : List Char)
  | opened
  | tag (quote : Option Char) (read : List Char)
  | closing (quote : Option Char) (read : List Char)
  | instruction (read : List Char)
  | declaration
  | comment (read : List Char)
  | cdata (read : List Char)
  | doctype (depth : Nat) (read : List Char)
  | broken
  deriving DecidableEq, Repr

namespace Markup

def ofTag (read : List Char) : Markup :=
  match read with
  | '/' :: read => empty read.reverse
  | read => opening read.reverse

/-- White space after the name of a closing tag is dropped, unless there is nothing else. -/
def ofClosing (read : List Char) : Markup :=
  match read.dropWhile isSpace with
  | [] => closing read.reverse
  | read => closing read.reverse

def ofText (read : List Char) : List Markup :=
  if read.isEmpty then [] else [text read.reverse]

def quoteAfter (quote : Option Char) (c : Char) : Option Char :=
  match quote with
  | none => if c = '"' || c = '\'' then some c else none
  | some q => if c = q then none else some q

def commentStart : List Char := ['!', '-', '-']

def cdataStart : List Char := ['!', '[', 'C', 'D', 'A', 'T', 'A', '[']

def doctypeStart : List Char := ['!', 'D', 'O', 'C', 'T', 'Y', 'P', 'E']

/-- A comment that ends in two dashes, which have to be other ones than those that begin it. -/
def endComment (read : List Char) : List Markup × Scan :=
  if commentStart.isPrefixOf read.reverse then ([skipped], .text []) else ([broken], .broken)

def endCdata (read : List Char) : List Markup × Scan :=
  if cdataStart.isPrefixOf read.reverse then
    ([cdata ((read.drop 2).reverse.drop cdataStart.length)], .text [])
  else ([broken], .broken)

/-- A document type has to have a name. -/
def endDoctype (read : List Char) : List Markup × Scan :=
  let all := read.reverse
  if (all.take 8).map Char.toUpper = doctypeStart && !(all.drop 8).all isSpace then
    ([skipped], .text [])
  else ([broken], .broken)

def step (scan : Scan) (c : Char) : List Markup × Scan :=
  match scan with
  | .text read => if c = '<' then (ofText read, .opened) else ([], .text (c :: read))
  | .opened =>
    if c = '!' then ([], .declaration)
    else if c = '/' then ([], .closing none [])
    else if c = '?' then ([], .instruction ['?'])
    else if c = '>' then ([opening []], .text [])
    else ([], .tag (quoteAfter none c) [c])
  | .tag quote read =>
    if quote = none ∧ c = '>' then ([ofTag read], .text [])
    else ([], .tag (quoteAfter quote c) (c :: read))
  | .closing quote read =>
    if quote = none ∧ c = '>' then ([ofClosing read], .text [])
    else ([], .closing (quoteAfter quote c) (c :: read))
  | .instruction read =>
    if c = '>' && read.head? = some '?' then
      if read.length = 1 then ([broken], .broken) else ([skipped], .text [])
    else ([], .instruction (c :: read))
  | .declaration =>
    if c = '-' then ([], .comment ['-', '!'])
    else if c = '[' then ([], .cdata ['[', '!'])
    else if c = 'D' || c = 'd' then ([], .doctype 0 [c, '!'])
    else ([broken], .broken)
  | .comment read =>
    if c = '>' && ['-', '-'].isPrefixOf read && 4 < read.length then endComment read
    else ([], .comment (c :: read))
  | .cdata read =>
    if c = '>' && [']', ']'].isPrefixOf read then endCdata read
    else ([], .cdata (c :: read))
  | .doctype depth read =>
    if c = '<' then ([], .doctype (depth + 1) (c :: read))
    else if c = '>' then
      match depth with
      | 0 => endDoctype read
      | depth + 1 => ([], .doctype depth (c :: read))
    else ([], .doctype depth (c :: read))
  | .broken => ([], .broken)

def finish : Scan → List Markup
  | .text read => ofText read
  | .broken => []
  | _ => [broken]

def splitter : Transducer Scan Char Markup := ⟨step, finish⟩

def split (s : List Char) : List Markup := splitter.run (.text []) s

end Markup

end Xml

end WikiRows
