import WikiRows.Proofs.Member

/-!
# Parts of expressions

What an expression reads of the row is decided place by place: a member is read wherever it is
written on the row itself, however deep, and the row is used as a whole wherever it stands in
anything else. `mem_rowMembers_iff` and `usesWholeRow_iff` say so.
-/

namespace WikiRows.Expr

/-- The expressions that an expression is made of, one level down. -/
def parts : Expr → List Expr
  | row => []
  | member target _ => [target]
  | const _ => []
  | not operand => [operand]
  | binary _ left right => [left, right]
  | call _ args => args
  | record fields => fields.map Prod.snd

inductive Within (inner : Expr) : Expr → Prop
  | whole : Within inner inner
  | part {e part : Expr} : part ∈ e.parts → Within inner part → Within inner e

theorem within_iff {inner e : Expr} :
    Within inner e ↔ e = inner ∨ ∃ part ∈ e.parts, Within inner part := by
  constructor
  · rintro (_ | ⟨hpart, hw⟩)
    · exact .inl rfl
    · exact .inr ⟨_, hpart, hw⟩
  · rintro (rfl | ⟨part, hpart, hw⟩)
    · exact .whole
    · exact .part hpart hw

/-- A member of that name is read of the row itself, somewhere within an expression. -/
def Reads (e : Expr) (name : String) : Prop := Within (member row name) e

/-- The row stands somewhere within an expression and no member is read of it there. -/
def ExposesRow (e : Expr) : Prop :=
  e = row ∨ ∃ outer, Within outer e ∧ row ∈ outer.parts ∧ ∀ name, outer ≠ member row name

theorem sizeOf_lt_of_mem_parts {e part : Expr} (h : part ∈ e.parts) : sizeOf part < sizeOf e := by
  cases e with
  | row | const _ => cases h
  | member target name | not operand =>
    obtain rfl := List.mem_singleton.mp h
    simp +arith
  | binary op left right =>
    simp only [parts, List.mem_cons, List.not_mem_nil, or_false] at h
    rcases h with rfl | rfl <;> simp +arith
  | call f args =>
    have hlt : sizeOf part < sizeOf args := List.sizeOf_lt_of_mem h
    simp only [call.sizeOf_spec]
    omega
  | record fields =>
    obtain ⟨⟨name, value⟩, hfield, rfl⟩ := List.mem_map.mp h
    have hlt := List.sizeOf_lt_of_mem hfield
    simp only [record.sizeOf_spec, Prod.mk.sizeOf_spec] at hlt ⊢
    omega

/-- What holds of an expression if it holds of its parts holds of all expressions. -/
@[elab_as_elim]
theorem induction_parts {motive : Expr → Prop}
    (step : ∀ e, (∀ part ∈ e.parts, motive part) → motive e) (e : Expr) : motive e :=
  step e fun part _ => induction_parts step part
termination_by sizeOf e
decreasing_by exact sizeOf_lt_of_mem_parts ‹_›

theorem mem_argsRowMembers {name : String} {args : List Expr} :
    name ∈ argsRowMembers args ↔ ∃ arg ∈ args, name ∈ arg.rowMembers := by
  induction args with
  | nil => simp [argsRowMembers]
  | cons arg args ih => simp [argsRowMembers, ih]

theorem mem_fieldsRowMembers {name : String} {fields : List (String × Expr)} :
    name ∈ fieldsRowMembers fields ↔ ∃ value ∈ fields.map Prod.snd, name ∈ value.rowMembers := by
  induction fields with
  | nil => simp [fieldsRowMembers]
  | cons field fields ih =>
    simp only [fieldsRowMembers, List.mem_append, ih, List.map_cons, List.exists_mem_cons_iff]

theorem argsUseWholeRow_iff {args : List Expr} :
    argsUseWholeRow args ↔ ∃ arg ∈ args, arg.usesWholeRow := by
  induction args with
  | nil => simp [argsUseWholeRow]
  | cons arg args ih => simp [argsUseWholeRow, ih]

theorem fieldsUseWholeRow_iff {fields : List (String × Expr)} :
    fieldsUseWholeRow fields ↔ ∃ value ∈ fields.map Prod.snd, value.usesWholeRow := by
  induction fields with
  | nil => simp [fieldsUseWholeRow]
  | cons field fields ih =>
    simp only [fieldsUseWholeRow, Bool.or_eq_true, ih, List.map_cons, List.exists_mem_cons_iff]

/-- A member of the row is all of an expression or is read in one of its parts. -/
theorem mem_rowMembers_iff_parts {name : String} {e : Expr} :
    name ∈ e.rowMembers ↔ e = member row name ∨ ∃ part ∈ e.parts, name ∈ part.rowMembers := by
  cases e with
  | row | const _ => simp [rowMembers, parts]
  | member target other =>
    by_cases ht : target = row
    · subst ht
      simp [rowMembers, parts, eq_comm]
    · simp [rowMembers, parts, ht]
  | not operand => simp [rowMembers, parts]
  | binary op left right => simp [rowMembers, parts]
  | call f args => simp [rowMembers, parts, mem_argsRowMembers]
  | record fields => simp only [rowMembers, parts, mem_fieldsRowMembers, reduceCtorEq, false_or]

/-- The row is used as a whole if it is the expression, or in one of the parts, of which the target
of a member of the row is none. -/
theorem usesWholeRow_iff_parts {e : Expr} :
    e.usesWholeRow ↔
      e = row ∨ (∀ name, e ≠ member row name) ∧ ∃ part ∈ e.parts, part.usesWholeRow := by
  cases e with
  | row | const _ => simp [usesWholeRow, parts]
  | member target other =>
    by_cases ht : target = row
    · subst ht
      simp [usesWholeRow]
    · simp [usesWholeRow, parts, ht]
  | not operand => simp [usesWholeRow, parts]
  | binary op left right => simp [usesWholeRow, parts]
  | call f args => simp [usesWholeRow, parts, argsUseWholeRow_iff]
  | record fields =>
    simp only [usesWholeRow, parts, fieldsUseWholeRow_iff, reduceCtorEq, false_or, ne_eq,
      not_false_eq_true, implies_true, true_and]

theorem mem_rowMembers_iff {name : String} {e : Expr} : name ∈ e.rowMembers ↔ e.Reads name := by
  induction e using induction_parts with
  | step e ih =>
    rw [mem_rowMembers_iff_parts, Reads, within_iff]
    exact or_congr_right (exists_congr fun part => and_congr_right (ih part))

theorem usesWholeRow_iff {e : Expr} : e.usesWholeRow ↔ e.ExposesRow := by
  induction e using induction_parts with
  | step e ih =>
    rw [usesWholeRow_iff_parts]
    refine or_congr_right ⟨?_, ?_⟩
    · rintro ⟨hmember, part, hpart, huses⟩
      rcases (ih part hpart).mp huses with rfl | ⟨outer, hwithin, hrow, houter⟩
      · exact ⟨e, .whole, hpart, hmember⟩
      · exact ⟨outer, .part hpart hwithin, hrow, houter⟩
    · rintro ⟨outer, hwithin, hrow, houter⟩
      rcases within_iff.mp hwithin with rfl | ⟨part, hpart, hinner⟩
      · exact ⟨houter, row, hrow, rfl⟩
      · refine ⟨?_, part, hpart, (ih part hpart).mpr (.inr ⟨outer, hinner, hrow, houter⟩)⟩
        -- The only part of a member of the row is the row, within which nothing has a part.
        rintro name rfl
        obtain rfl := List.mem_singleton.mp hpart
        rcases within_iff.mp hinner with rfl | ⟨_, hnone, -⟩
        · cases hrow
        · cases hnone

end WikiRows.Expr
