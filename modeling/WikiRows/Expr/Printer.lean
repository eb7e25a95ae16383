import WikiRows.Expr.Basic
import WikiRows.Literal.Printer

/-!
# Printing expressions

The text of an expression in messages. The parameter is `x`. An operand that is a binary expression
is put in parentheses, so the text shows how the tree is built. `Expr.chars` says what the text is;
`Expr.display` writes it piece by piece.
-/

namespace WikiRows

namespace BinaryOp

def chars : BinaryOp → List Char
  | equal => ['=', '=']
  | notEqual => ['!', '=']
  | and => ['&', '&']
  | or => ['|', '|']

end BinaryOp

namespace Expr

def isBinary : Expr → Bool
  | binary _ _ _ => true
  | _ => false

/-- Parentheses around the text of a binary expression. -/
def operandChars (e : Expr) (text : List Char) : List Char :=
  if e.isBinary then '(' :: (text ++ [')']) else text

mutual

def chars : Expr → List Char
  | row => ['x']
  | member target name => operandChars target (chars target) ++ '.' :: name.toList
  | const value => value.chars
  | not operand => '!' :: operandChars operand (chars operand)
  | binary op left right =>
    operandChars left (chars left) ++ ' ' :: op.chars ++ ' ' :: operandChars right (chars right)
  | call function args =>
    function.name.toList ++ '(' :: (Literal.joinChars [',', ' '] (argsChars args) ++ [')'])
  | record fields =>
    '{' :: ' ' :: (Literal.joinChars [',', ' '] (fieldsChars fields) ++ [' ', '}'])

def argsChars : List Expr → List (List Char)
  | [] => []
  | arg :: args => chars arg :: argsChars args

def fieldsChars : List (String × Expr) → List (List Char)
  | [] => []
  | (name, value) :: fields => (name.toList ++ ':' :: ' ' :: chars value) :: fieldsChars fields

end

def openOperand (e : Expr) (s : String) : String := if e.isBinary then s.push '(' else s

def closeOperand (e : Expr) (s : String) : String := if e.isBinary then s.push ')' else s

mutual

def appendTo (s : String) : Expr → String
  | row => s.push 'x'
  | member target name =>
    let head := closeOperand target (appendTo (openOperand target s) target)
    head ++ String.ofList ('.' :: name.toList)
  | const value => s ++ String.ofList value.chars
  | not operand => closeOperand operand (appendTo (openOperand operand (s.push '!')) operand)
  | binary op left right =>
    let head := closeOperand left (appendTo (openOperand left s) left)
    let head := openOperand right (head ++ String.ofList (' ' :: op.chars ++ [' ']))
    closeOperand right (appendTo head right)
  | call function args => (appendArgsTo (s ++ function.name ++ "(") args).push ')'
  | record fields => appendFieldsTo (s ++ "\x7b ") fields ++ " \x7d"

def appendArgsTo (s : String) : List Expr → String
  | [] => s
  | [arg] => appendTo s arg
  | arg :: next :: args => appendArgsTo (appendTo s arg ++ ", ") (next :: args)

def appendFieldsTo (s : String) : List (String × Expr) → String
  | [] => s
  | [(name, value)] => appendTo (s ++ name ++ ": ") value
  | (name, value) :: next :: fields =>
    appendFieldsTo (appendTo (s ++ name ++ ": ") value ++ ", ") (next :: fields)

end

theorem toList_operand {e : Expr} {s : String} {text : List Char}
    (h : ∀ s : String, (e.appendTo s).toList = s.toList ++ text) :
    (closeOperand e (e.appendTo (openOperand e s))).toList = s.toList ++ operandChars e text := by
  by_cases hb : e.isBinary <;> simp [closeOperand, openOperand, operandChars, hb, h]

mutual

theorem toList_appendTo (s : String) (e : Expr) : (appendTo s e).toList = s.toList ++ chars e := by
  match e with
  | row => simp [appendTo, chars]
  | member target name =>
    have h := fun s => toList_appendTo s target
    simp [appendTo, chars, toList_operand h]
  | const value => simp [appendTo, chars]
  | not operand =>
    have h := fun s => toList_appendTo s operand
    simp [appendTo, chars, toList_operand h]
  | binary op left right =>
    have hl := fun s => toList_appendTo s left
    have hr := fun s => toList_appendTo s right
    simp [appendTo, chars, toList_operand hl, toList_operand hr]
  | call function args => simp [appendTo, chars, toList_appendArgsTo]
  | record fields => simp [appendTo, chars, toList_appendFieldsTo]

theorem toList_appendArgsTo (s : String) (args : List Expr) :
    (appendArgsTo s args).toList = s.toList ++ Literal.joinChars [',', ' '] (argsChars args) := by
  match args with
  | [] => simp [appendArgsTo, argsChars, Literal.joinChars]
  | [arg] => simp [appendArgsTo, argsChars, Literal.joinChars, toList_appendTo]
  | arg :: next :: args =>
    have h := toList_appendArgsTo (appendTo s arg ++ ", ") (next :: args)
    simp_all [appendArgsTo, argsChars, Literal.joinChars, toList_appendTo]

theorem toList_appendFieldsTo (s : String) (fields : List (String × Expr)) :
    (appendFieldsTo s fields).toList =
      s.toList ++ Literal.joinChars [',', ' '] (fieldsChars fields) := by
  match fields with
  | [] => simp [appendFieldsTo, fieldsChars, Literal.joinChars]
  | [(name, value)] => simp [appendFieldsTo, fieldsChars, Literal.joinChars, toList_appendTo]
  | (name, value) :: next :: fields =>
    have h := toList_appendFieldsTo (appendTo (s ++ name ++ ": ") value ++ ", ") (next :: fields)
    simp_all [appendFieldsTo, fieldsChars, Literal.joinChars, toList_appendTo]

end

def display (e : Expr) : String := e.appendTo ""

theorem toList_display (e : Expr) : e.display.toList = e.chars := by
  simp [display, toList_appendTo]

end Expr

end WikiRows
