import WikiRows.Expr.Printer
import WikiRows.Proofs.Parts

/-!
# Layers of an expression

Negations and members stand around a core in any order. The text shows how many negations there are
and which members, but not their order: all negations stand in front of the core and all members
behind it. `Expr.asRead` is the expression with all the negations outside, which is how the text
reads, and `asRead_eq_ofLayers` says that it keeps just what the text shows.
-/

namespace WikiRows

namespace Expr

/-- The expression with a member taken of what is negated, not of the negation. -/
def memberWithin : Expr → String → Expr
  | not operand, name => not (memberWithin operand name)
  | e, name => member e name

mutual

/-- The expression as its text reads: members are taken before anything is negated. -/
def asRead : Expr → Expr
  | row => row
  | member target name => memberWithin (asRead target) name
  | const value => const value
  | not operand => not (asRead operand)
  | binary op left right => binary op (asRead left) (asRead right)
  | call function args => call function (argsAsRead args)
  | record fields => record (fieldsAsRead fields)

def argsAsRead : List Expr → List Expr
  | [] => []
  | arg :: args => asRead arg :: argsAsRead args

def fieldsAsRead : List (String × Expr) → List (String × Expr)
  | [] => []
  | (name, value) :: fields => (name, asRead value) :: fieldsAsRead fields

end

theorem argsAsRead_eq_map (args : List Expr) : argsAsRead args = args.map asRead := by
  induction args with
  | nil => rfl
  | cons arg args ih => rw [argsAsRead, ih, List.map_cons]

theorem fieldsAsRead_eq_map (fields : List (String × Expr)) :
    fieldsAsRead fields = fields.map fun field => (field.1, field.2.asRead) := by
  induction fields with
  | nil => rfl
  | cons field fields ih => rw [fieldsAsRead, ih, List.map_cons]

/-- The members and the fields have legal names and the constants are texts. -/
inductive Plain : Expr → Prop
  | row : Plain row
  | member {target : Expr} {name : String} (within : Plain target)
      (legal : MemberName.isLegal name) : Plain (member target name)
  | text (s : String) : Plain (const (.str s))
  | not {operand : Expr} (within : Plain operand) : Plain (not operand)
  | binary (op : BinaryOp) {left right : Expr} (before : Plain left) (behind : Plain right) :
      Plain (binary op left right)
  | call (function : Function) {args : List Expr} (within : ∀ arg ∈ args, Plain arg) :
      Plain (call function args)
  | record {fields : List (String × Expr)} (legal : ∀ field ∈ fields, MemberName.isLegal field.1)
      (within : ∀ field ∈ fields, Plain field.2) : Plain (record fields)

theorem Plain.part {e part : Expr} (h : Plain e) (hpart : part ∈ e.parts) : Plain part := by
  cases h with
  | row | text => cases hpart
  | member within | not within => rwa [List.mem_singleton.mp hpart]
  | binary op before behind =>
    simp only [parts, List.mem_cons, List.not_mem_nil, or_false] at hpart
    rcases hpart with rfl | rfl
    · exact before
    · exact behind
  | call f within => exact within part hpart
  | record legal within =>
    obtain ⟨field, hfield, rfl⟩ := List.mem_map.mp hpart
    exact within field hfield

/-! ## Core, negations and members -/

/-- What negations and members stand around. -/
def core : Expr → Expr
  | member target _ => core target
  | not operand => core operand
  | e => e

def negations : Expr → Nat
  | member target _ => negations target
  | not operand => negations operand + 1
  | _ => 0

def path : Expr → List String
  | member target name => path target ++ [name]
  | not operand => path operand
  | _ => []

def isLayer : Expr → Bool
  | member _ _ | not _ => true
  | _ => false

theorem isLayer_core (e : Expr) : e.core.isLayer = false := by
  fun_induction core e with
  | case1 target name ih => exact ih
  | case2 operand ih => exact ih
  | case3 e hmember hnot => cases e <;> simp_all [isLayer]

theorem Plain.core {e : Expr} (h : Plain e) : Plain e.core := by
  induction h with
  | member within legal ih => exact ih
  | not within ih => exact ih
  | row => exact .row
  | text s => exact .text s
  | binary op before behind => exact .binary op before behind
  | call f within => exact .call f within
  | record legal within => exact .record legal within

theorem Plain.isLegal_of_mem_path {e : Expr} (h : Plain e) :
    ∀ name ∈ e.path, MemberName.isLegal name := by
  induction h with
  | member within legal ih =>
    intro name hname
    rcases List.mem_append.mp hname with hname | hname
    · exact ih name hname
    · rwa [List.mem_singleton.mp hname]
  | not within ih => exact ih
  | row | text | binary | call | record => simp [path]

theorem sizeOf_core_le (e : Expr) : sizeOf e.core ≤ sizeOf e := by
  fun_induction core e with
  | case1 target name ih => exact ih.trans (by simp +arith)
  | case2 operand ih => exact ih.trans (by simp +arith)
  | case3 => exact le_rfl

/-- What holds of an expression if it holds of the parts of its core holds of all expressions. -/
@[elab_as_elim]
theorem induction_core {motive : Expr → Prop}
    (step : ∀ e, (∀ part ∈ e.core.parts, motive part) → motive e) (e : Expr) : motive e :=
  step e fun part _ => induction_core step part
termination_by sizeOf e
decreasing_by exact (sizeOf_lt_of_mem_parts ‹_›).trans_le (sizeOf_core_le e)

/-! ## What is read -/

def ofLayers (count : Nat) (core : Expr) (path : List String) : Expr :=
  not^[count] (path.foldl member core)

def isPositive : Expr → Bool
  | not _ => false
  | _ => true

theorem memberWithin_of_isPositive {e : Expr} (h : e.isPositive) (name : String) :
    memberWithin e name = member e name := by
  cases e with
  | not operand => cases h
  | row | member | const | binary | call | record => rfl

theorem memberWithin_ofLayers {core : Expr} (h : core.isPositive) (count : Nat)
    (path : List String) (name : String) :
    memberWithin (ofLayers count core path) name = ofLayers count core (path ++ [name]) := by
  have hpositive : (path.foldl member core).isPositive := by
    induction path generalizing core with
    | nil => exact h
    | cons name path ih => exact ih rfl
  induction count with
  | zero =>
    rw [ofLayers, ofLayers, List.foldl_append]
    exact memberWithin_of_isPositive hpositive name
  | succ count ih =>
    rw [ofLayers, ofLayers, Function.iterate_succ_apply', Function.iterate_succ_apply']
    exact congrArg not ih

theorem isPositive_core (e : Expr) : e.core.asRead.isPositive := by
  have hcore := isLayer_core e
  generalize e.core = c at hcore
  cases c with
  | member | not => cases hcore
  | row | const | binary | call | record => rfl

/-- An expression reads as its negations around its members around its core. -/
theorem asRead_eq_ofLayers (e : Expr) :
    e.asRead = ofLayers e.negations e.core.asRead e.path := by
  fun_induction core e with
  | case1 target name ih =>
    rw [asRead, ih, memberWithin_ofLayers (isPositive_core target)]
    rfl
  | case2 operand ih =>
    rw [asRead, ih, negations, path, ofLayers, ofLayers, Function.iterate_succ_apply']
  | case3 e hmember hnot => cases e <;> simp_all [negations, path, ofLayers]

/-! ## The text -/

def operandText (e : Expr) : List Char := operandChars e e.chars

def memberText (name : String) : List Char := '.' :: name.toList

def fieldText (field : String × Expr) : List Char := field.1.toList ++ ':' :: ' ' :: field.2.chars

theorem operandText_member (target : Expr) (name : String) :
    (member target name).operandText = target.operandText ++ memberText name := by
  simp [operandText, operandChars, chars, isBinary, memberText]

theorem operandText_not (operand : Expr) :
    (not operand).operandText = '!' :: operand.operandText := by
  simp [operandText, operandChars, chars, isBinary]

theorem chars_binary (op : BinaryOp) (left right : Expr) :
    (binary op left right).chars =
      left.operandText ++ ' ' :: (op.chars ++ ' ' :: right.operandText) := by
  simp [chars, operandText]

theorem chars_of_not_isBinary {e : Expr} (h : e.isBinary = false) : e.chars = e.operandText := by
  rw [operandText, operandChars, h]
  rfl

theorem exists_eq_binary {e : Expr} (h : e.isBinary) :
    ∃ op left right, e = binary op left right := by
  cases e with
  | binary op left right => exact ⟨op, left, right, rfl⟩
  | row | member | const | not | call | record => cases h

theorem argsChars_eq_map (args : List Expr) : argsChars args = args.map chars := by
  induction args with
  | nil => rfl
  | cons arg args ih => rw [argsChars, ih, List.map_cons]

theorem fieldsChars_eq_map (fields : List (String × Expr)) :
    fieldsChars fields = fields.map fieldText := by
  induction fields with
  | nil => rfl
  | cons field fields ih => rw [fieldsChars, ih, List.map_cons, fieldText]

/-- All negations stand in front of the core and all members behind it. -/
theorem operandText_eq_layers (e : Expr) :
    e.operandText =
      List.replicate e.negations '!' ++ (e.core.operandText ++ e.path.flatMap memberText) := by
  fun_induction core e with
  | case1 target name ih =>
    rw [operandText_member, ih, negations, path, List.flatMap_append, List.flatMap_singleton,
      List.append_assoc, List.append_assoc]
  | case2 operand ih =>
    rw [operandText_not, ih, negations, path, List.replicate_succ, List.cons_append]
  | case3 e hmember hnot => cases e <;> simp_all [negations, path]

end Expr

end WikiRows
