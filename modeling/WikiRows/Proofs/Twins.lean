import WikiRows.Proofs.Readings

/-!
# Expressions that are told by their texts

A member of a negation is written like the negation of that member. That is all that a text leaves
open: where the two stand directly around one another nowhere in an expression, no other expression
has its text, and where they do, the one with the two exchanged has it too.
-/

namespace WikiRows.Expr

def isCrossing : Expr → Bool
  | member (not _) _ | not (member _ _) => true
  | _ => false

/-- Nowhere do a negation and a member stand directly around one another. -/
def Uncrossed (e : Expr) : Prop := ∀ inner, Within inner e → inner.isCrossing = false

theorem Uncrossed.part {e part : Expr} (h : Uncrossed e) (hpart : part ∈ e.parts) :
    Uncrossed part := fun inner hinner => h inner (.part hpart hinner)

theorem Uncrossed.of_parts {e : Expr} (he : e.isCrossing = false)
    (h : ∀ part ∈ e.parts, Uncrossed part) : Uncrossed e := by
  intro inner hinner
  rcases within_iff.mp hinner with rfl | ⟨part, hpart, hwithin⟩
  · exact he
  · exact h part hpart inner hwithin

/-! ## Another expression that reads the same -/

def HasTwin (e : Expr) : Prop := ∃ f, Plain f ∧ e ≠ f ∧ e.asRead = f.asRead

theorem hasTwin_of_isCrossing {e : Expr} (he : Plain e) (h : e.isCrossing) : HasTwin e := by
  cases he with
  | @member target name within legal =>
    cases within with
    | @not operand within =>
      exact ⟨not (member operand name), .not (.member within legal), nofun, rfl⟩
    | row | member | text | binary | call | record => cases h
  | @not operand within =>
    cases within with
    | @member target name within legal =>
      exact ⟨member (not target) name, .member (.not within) legal, nofun, rfl⟩
    | row | not | text | binary | call | record => cases h
  | row | text | binary | call | record => cases h

/-- The twin of a part may stand in its place. -/
theorem HasTwin.of_part {e part : Expr} (he : Plain e) (hpart : part ∈ e.parts)
    (h : HasTwin part) : HasTwin e := by
  obtain ⟨twin, hplain, hne, hread⟩ := h
  cases he with
  | row | text => cases hpart
  | @member target name within legal =>
    obtain rfl := List.mem_singleton.mp hpart
    exact ⟨member twin name, .member hplain legal, by simpa using hne,
      by rw [asRead, asRead, hread]⟩
  | @not operand within =>
    obtain rfl := List.mem_singleton.mp hpart
    exact ⟨not twin, .not hplain, by simpa using hne, by rw [asRead, asRead, hread]⟩
  | @binary op left right hleft hright =>
    simp only [parts, List.mem_cons, List.not_mem_nil, or_false] at hpart
    rcases hpart with rfl | rfl
    · exact ⟨binary op twin right, .binary op hplain hright, by simpa using hne,
        by rw [asRead, asRead, hread]⟩
    · exact ⟨binary op left twin, .binary op hleft hplain, by simpa using hne,
        by rw [asRead, asRead, hread]⟩
  | @call f args within =>
    obtain ⟨before, after, rfl⟩ := List.append_of_mem hpart
    refine ⟨call f (before ++ twin :: after), .call f ?_, by simpa using hne, ?_⟩
    · rw [List.forall_mem_append, List.forall_mem_cons] at within ⊢
      exact ⟨within.1, hplain, within.2.2⟩
    · simp [asRead, argsAsRead_eq_map, hread]
  | @record fields legal within =>
    obtain ⟨⟨name, value⟩, hfield, rfl⟩ := List.mem_map.mp hpart
    obtain ⟨before, after, rfl⟩ := List.append_of_mem hfield
    refine ⟨record (before ++ (name, twin) :: after), .record ?_ ?_, by simpa using hne, ?_⟩
    · rw [List.forall_mem_append, List.forall_mem_cons] at legal ⊢
      exact legal
    · rw [List.forall_mem_append, List.forall_mem_cons] at within ⊢
      exact ⟨within.1, hplain, within.2.2⟩
    · simp only at hread
      simp [asRead, fieldsAsRead_eq_map, hread]

theorem hasTwin_of_within {e inner : Expr} (he : Plain e) (h : Within inner e)
    (hcrossing : inner.isCrossing) : HasTwin e := by
  induction h with
  | whole => exact hasTwin_of_isCrossing he hcrossing
  | part hpart _ ih => exact (ih (he.part hpart)).of_part he hpart

/-! ## Expressions without a twin -/

theorem asRead_eq_self {e : Expr} (h : ∀ part ∈ e.parts, part.asRead = part)
    (hmember : ∀ target name, e = member target name → target.isPositive) : e.asRead = e := by
  cases e with
  | row | const => rfl
  | member target name =>
    rw [asRead, h target List.mem_cons_self, memberWithin_of_isPositive (hmember _ _ rfl)]
  | not operand => rw [asRead, h operand List.mem_cons_self]
  | binary op left right => rw [asRead, h left (by simp [parts]), h right (by simp [parts])]
  | call f args =>
    have hargs : ∀ arg ∈ args, arg.asRead = arg := h
    rw [asRead, argsAsRead_eq_map, List.map_congr_left hargs, List.map_id']
  | record fields =>
    have hfields : ∀ field ∈ fields, (field.1, field.2.asRead) = field := fun field hfield => by
      rw [h field.2 (List.mem_map_of_mem hfield)]
    rw [asRead, fieldsAsRead_eq_map, List.map_congr_left hfields, List.map_id']

theorem Uncrossed.isPositive {target : Expr} {name : String}
    (h : Uncrossed (member target name)) : target.isPositive := by
  have hcross := h _ .whole
  cases target with
  | not operand => cases hcross
  | row | member | const | binary | call | record => rfl

theorem asRead_of_uncrossed {e : Expr} (h : Uncrossed e) : e.asRead = e := by
  induction e using induction_parts with
  | step e ih =>
    refine asRead_eq_self (fun part hpart => ih part hpart (h.part hpart)) ?_
    rintro target name rfl
    exact h.isPositive

/-- Where a member is taken of what is negated, it is negated directly. -/
theorem not_uncrossed_memberWithin {e : Expr} (h : e.isPositive = false) (name : String) :
    ¬ Uncrossed (memberWithin e name) := by
  fun_induction memberWithin e name with
  | case1 operand name ih =>
    intro hclear
    cases hpositive : operand.isPositive with
    | true =>
      rw [memberWithin_of_isPositive hpositive] at hclear
      cases hclear _ .whole
    | false => exact ih hpositive (hclear.part List.mem_cons_self)
  | case2 e name hnot =>
    cases e with
    | not operand => exact absurd rfl (hnot operand)
    | row | member | const | binary | call | record => cases h

theorem asRead_mem_parts {e part : Expr} (hpart : part ∈ e.parts)
    (hmember : ∀ target name, e = member target name → target.asRead.isPositive) :
    part.asRead ∈ e.asRead.parts := by
  cases e with
  | row | const => cases hpart
  | member target name =>
    obtain rfl := List.mem_singleton.mp hpart
    rw [asRead, memberWithin_of_isPositive (hmember _ _ rfl)]
    exact List.mem_cons_self
  | not operand =>
    obtain rfl := List.mem_singleton.mp hpart
    exact List.mem_cons_self
  | binary op left right =>
    simp only [parts, List.mem_cons, List.not_mem_nil, or_false] at hpart
    rcases hpart with rfl | rfl <;> simp [asRead, parts]
  | call f args =>
    rw [asRead, argsAsRead_eq_map]
    exact List.mem_map_of_mem hpart
  | record fields =>
    obtain ⟨field, hfield, rfl⟩ := List.mem_map.mp hpart
    rw [asRead, fieldsAsRead_eq_map, parts, List.map_map]
    exact List.mem_map_of_mem (f := fun field : String × Expr => field.2.asRead) hfield

/-- Nothing else reads as an expression that is not crossed anywhere. -/
theorem asRead_eq_of_uncrossed {e : Expr} (h : Uncrossed e.asRead) : e.asRead = e := by
  induction e using induction_parts with
  | step e ih =>
    have hmember : ∀ target name, e = member target name → target.asRead.isPositive := by
      rintro target name rfl
      by_contra hpositive
      exact not_uncrossed_memberWithin (by simpa using hpositive) name h
    have hparts : ∀ part ∈ e.parts, part.asRead = part := fun part hpart =>
      ih part hpart (h.part (asRead_mem_parts hpart hmember))
    refine asRead_eq_self hparts ?_
    rintro target name rfl
    have hpositive := hmember target name rfl
    rwa [hparts target List.mem_cons_self] at hpositive

/-- The texts of two expressions are equal just if both read the same, members being taken before
anything is negated. So the text of an expression tells it from all others just if nowhere in it a
negation and a member stand directly around one another. -/
theorem display_identifies_iff {e : Expr} (he : Plain e) :
    (∀ f, Plain f → (e.display = f.display ↔ e.asRead = f.asRead)) ∧
      ((∀ f, Plain f → e.display = f.display → e = f) ↔ Uncrossed e) := by
  refine ⟨fun f hf => display_eq_iff_asRead he hf, ?_⟩
  constructor
  · intro h inner hinner
    by_contra hcrossing
    obtain ⟨f, hf, hne, hread⟩ := hasTwin_of_within he hinner (by simpa using hcrossing)
    exact hne (h f hf ((display_eq_iff_asRead he hf).mpr hread))
  · intro h f hf hdisplay
    have hread : e = f.asRead := (asRead_of_uncrossed h).symm.trans
      ((display_eq_iff_asRead he hf).mp hdisplay)
    rw [hread] at h ⊢
    exact asRead_eq_of_uncrossed h

/-- A record with a call in it, of which the argument is a comparison. -/
theorem display_identifies_iff_record :
    let equal : Expr := binary .equal (not row) (const (.str "a\"b"))
    let e : Expr := record [("id", member row "id"), ("n", call .length [equal])]
    Plain e ∧ e.display = "\x7b id: x.id, n: length(!x == \"a\\\"b\") \x7d" ∧ Uncrossed e ∧
      ∀ f, Plain f → e.display = f.display → e = f := by
  intro equal e
  have hplain : Plain e := by
    have hid : Plain (member row "id") := .member .row (by decide)
    have hequal : Plain equal := .binary .equal (.not .row) (.text _)
    have hcall : Plain (call .length [equal]) := .call .length (by simpa using hequal)
    exact .record (by decide) (by simpa using ⟨hid, hcall⟩)
  have hclear : Uncrossed e := by
    have hrow : Uncrossed row := .of_parts rfl (by simp [parts])
    have hid : Uncrossed (member row "id") := .of_parts rfl (by simpa [parts] using hrow)
    have hnot : Uncrossed (not row) := .of_parts rfl (by simpa [parts] using hrow)
    have htext : Uncrossed (const (.str "a\"b")) := .of_parts rfl (by simp [parts])
    have hequal : Uncrossed equal := .of_parts rfl (by simpa [equal, parts] using ⟨hnot, htext⟩)
    have hcall : Uncrossed (call .length [equal]) := .of_parts rfl (by simpa [parts] using hequal)
    exact .of_parts rfl (by simpa [e, parts] using ⟨hid, hcall⟩)
  exact ⟨hplain, by rfl, hclear, (display_identifies_iff hplain).2.mpr hclear⟩

/-- A member of a negation has the text of the negation of the member. -/
theorem negated_member_confused :
    let e : Expr := member (not row) "redirect"
    let f : Expr := not (member row "redirect")
    (Plain e ∧ Plain f) ∧ (e.display = "!x.redirect" ∧ f.display = "!x.redirect") ∧
      ¬ ∀ e f : Expr, Plain e → Plain f → e.display = f.display → e = f := by
  intro e f
  have hlegal : MemberName.isLegal "redirect" := by decide
  have he : Plain e := .member (.not .row) hlegal
  have hf : Plain f := .not (.member .row hlegal)
  have hetext : e.display = "!x.redirect" := by rfl
  have hftext : f.display = "!x.redirect" := by rfl
  refine ⟨⟨he, hf⟩, ⟨hetext, hftext⟩, fun h => ?_⟩
  have hne : e ≠ f := nofun
  exact hne (h e f he hf (hetext.trans hftext.symm))

end WikiRows.Expr
