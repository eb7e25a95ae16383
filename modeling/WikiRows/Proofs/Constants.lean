import WikiRows.Proofs.Agreement
import WikiRows.Proofs.Decimals
import WikiRows.Proofs.Tokens

/-!
# Comparing with a constant

A projection compares the text of an attribute with the text of a constant. Constants are spelled
there as they are in requests, but for doubles of which JSON shows another text, and for lists, which
are arrays. No list has the text that a request carries for it: its JSON text has a bracket more.
-/

namespace WikiRows

namespace Json

/-- The text of an array has a bracket in front of those of its items. -/
theorem count_chars_arr (items : List Json) :
    (arr items).chars.count '[' = 1 + (items.map fun item => item.chars.count '[').sum := by
  have hitems : ∀ items : List Json,
      (itemsChars items).count '[' = (items.map fun item => item.chars.count '[').sum := by
    intro items
    induction items with
    | nil => rfl
    | cons item items ih => simp [itemsChars, ih]
  cases items with
  | nil => rfl
  | cons item items =>
    simp [chars, hitems]
    omega

theorem count_le_count_stringChars (s : String) :
    s.toList.count '[' ≤ (stringChars s).count '[' := by
  have hescape : ∀ cs : List Char, cs.count '[' ≤ (cs.flatMap escapeChar).count '[' := by
    intro cs
    induction cs with
    | nil => exact le_rfl
    | cons c cs ih =>
      have hc : [c].count '[' ≤ (escapeChar c).count '[' := by
        by_cases hbracket : c = '['
        · subst hbracket
          exact le_rfl
        · simp [hbracket]
      rw [List.flatMap_cons, List.count_append, ← List.singleton_append, List.count_append]
      exact Nat.add_le_add hc ih
  simpa [stringChars] using hescape s.toList

end Json

namespace Literal

/-- How many lists seem to begin in a text. -/
def brackets (s : String) : Nat := s.toList.count '['

theorem brackets_intercalate (texts : List String) :
    brackets ("|".intercalate texts) = (texts.map brackets).sum := by
  induction texts with
  | nil => rfl
  | cons text texts ih =>
    cases texts with
    | nil => simp [brackets]
    | cons next texts =>
      rw [String.intercalate_cons_cons, List.map_cons, List.sum_cons, ← ih]
      simp [brackets]

/-- The text of a double holds digits, a point, a sign or a word. -/
theorem bracket_notMem_float (x : Float) : '[' ∉ Layout.plain.float x := by
  have hdecimal : '[' ∉ Layout.plain.decimal (.ofFloat Layout.plain.tie x) := fun hmem =>
    absurd (Decimal.isDigit_or_eq_point_of_mem_positional hmem) (by decide)
  unfold Layout.float
  split_ifs <;> simp [hdecimal]

variable {v : Literal} {text : String}

theorem IsLeaf.brackets_le (h : v.IsLeaf) (hv : v.wire? = some text) :
    brackets text ≤ v.value.chars.count '[' := by
  have hnone : ∀ {s : String}, '[' ∉ s.toList → brackets s ≤ v.value.chars.count '[' :=
    fun hs => (List.count_eq_zero_of_not_mem hs).le.trans (Nat.zero_le _)
  cases v with
  | null => cases hv
  | list items => exact absurd rfl (h items)
  | bool b =>
    obtain rfl := Option.some.inj hv
    exact hnone (by cases b <;> decide)
  | int i =>
    obtain rfl := Option.some.inj hv
    apply hnone
    rw [← Json.ofList_intChars, String.toList_ofList]
    exact fun hmem => absurd (Json.isDigit_or_eq_minus_of_mem_intChars hmem) (by decide)
  | float x =>
    obtain rfl := Option.some.inj hv
    apply hnone
    rw [String.toList_ofList]
    exact bracket_notMem_float x
  | str s | date s | token s =>
    obtain rfl := Option.some.inj hv
    exact Json.count_le_count_stringChars _

theorem sum_brackets_le {items : List Literal}
    (h : ∀ item ∈ items, ∀ text, item.wire? = some text →
      brackets text ≤ item.value.chars.count '[') :
    ((wireItems items).map brackets).sum ≤
      ((itemValues items).map fun item => item.chars.count '[').sum := by
  induction items with
  | nil => exact le_rfl
  | cons item items ih =>
    rw [List.forall_mem_cons] at h
    rw [wireItems, itemValues, List.map_cons, List.sum_cons]
    cases hitem : item.wire? with
    | none => exact (ih h.2).trans (Nat.le_add_left _ _)
    | some text =>
      rw [List.map_cons, List.sum_cons]
      exact Nat.add_le_add (h.1 text hitem) (ih h.2)

theorem brackets_le (v : Literal) :
    ∀ text, v.wire? = some text → brackets text ≤ v.value.chars.count '[' := by
  induction v using induction_items with
  | leaf v hv => exact fun text => hv.brackets_le
  | list items ih =>
    intro text htext
    obtain rfl := Option.some.inj htext
    rw [brackets_intercalate, value, Json.count_chars_arr]
    exact (sum_brackets_le ih).trans (Nat.le_add_left _ _)

/-- The JSON text of a list is never the one that a request carries. -/
theorem text?_value_list_ne (items : List Literal) :
    (list items).value.text? ≠ (list items).wire? := by
  intro heq
  have htext : (Json.arr (itemValues items)).chars = ("|".intercalate (wireItems items)).toList := by
    rw [← Option.some.inj heq, Json.toList_compact, value]
  have hcount : brackets ("|".intercalate (wireItems items)) =
      1 + ((itemValues items).map fun item => item.chars.count '[').sum := by
    rw [brackets, ← htext, Json.count_chars_arr]
  have hle : ((wireItems items).map brackets).sum ≤
      ((itemValues items).map fun item => item.chars.count '[').sum :=
    sum_brackets_le fun item _ => brackets_le item
  rw [brackets_intercalate] at hcount
  omega

/-- Projections and requests spell a constant alike. -/
def SpeltAlike : Literal → Prop
  | float x => Layout.OneText x
  | list _ => False
  | _ => True

theorem text?_value_iff : v.value.text? = v.wire? ↔ v.SpeltAlike := by
  cases v with
  | null | bool | int | str | date | token => exact iff_of_true (text?_value rfl) trivial
  | list items => exact iff_of_false (text?_value_list_ne items) id
  | float x =>
    by_cases hfinite : x.isFinite = true
    · have hvalue : (float x).value.text? = some (Json.float x).compact := by
        simp [value, hfinite, Json.text?]
      have hcompact : (Json.float x).compact = String.ofList (Layout.marked.float x) := by
        rw [← String.toList_inj, Json.toList_compact, String.toList_ofList]
        rfl
      rw [hvalue, hcompact, wire?, Option.some_inj, String.ofList_inj, eq_comm]
      exact Layout.float_eq_iff hfinite
    · have hvalue : (float x).value.text? = none := by
        simp [value, hfinite, Json.text?]
      rw [hvalue]
      exact iff_of_false (by simp [wire?]) fun hone => hfinite hone.finite

end Literal

namespace Expr

variable {c : Literal} {name : String} {r : Row}

/-- A member and a constant are compared by the text in the row and the JSON text of the constant. -/
theorem eval_equal_const :
    (binary .equal (.member .row name) (.const c)).eval r =
      .bool (r.lookup (MemberName.wire name) = c.value.text?) := by
  rw [← text?_eval_rowMember]
  rfl

theorem eval_const_equal :
    (binary .equal (.const c) (.member .row name)).eval r =
      .bool (r.lookup (MemberName.wire name) = c.value.text?) := by
  simp only [← text?_eval_rowMember, eq_comm (b := c.value.text?)]
  rfl

theorem eval_notEqual_const :
    (binary .notEqual (.member .row name) (.const c)).eval r =
      .bool (r.lookup (MemberName.wire name) ≠ c.value.text?) := by
  rw [← text?_eval_rowMember]
  rfl

/-- A row that holds the text which a request carries for a constant is equal to the constant in a
projection if both spell it alike, in either order. It is never equal to a list. -/
theorem eval_compare_sent (h : r.lookup (MemberName.wire name) = c.wire?) :
    let x : Expr := .member .row name
    (c.SpeltAlike ↔ c.value.text? = c.wire?) ∧
    (c.SpeltAlike →
      (binary .equal x (.const c)).eval r = .bool true ∧
      (binary .equal (.const c) x).eval r = .bool true ∧
      (binary .notEqual x (.const c)).eval r = .bool false) ∧
    ∀ items, c = .list items →
      (binary .equal x (.const c)).eval r = .bool false ∧
      (binary .equal (.const c) x).eval r = .bool false ∧
      (binary .notEqual x (.const c)).eval r = .bool true := by
  intro x
  rw [eval_equal_const, eval_const_equal, eval_notEqual_const, h]
  refine ⟨Literal.text?_value_iff.symm, fun hc => ?_, ?_⟩
  · have hsame := Literal.text?_value_iff.mpr hc
    simp [hsame]
  · rintro items rfl
    have hne := (Literal.text?_value_list_ne items).symm
    simp [hne]

/-- A fraction that both ways of writing doubles show as `0.5`. -/
theorem eval_compare_sent_half :
    let c : Literal := .float 0.5
    let r : Row := [("n", "0.5")]
    r.lookup (MemberName.wire "N") = c.wire? ∧ c.SpeltAlike ∧
    (binary .equal (.member .row "N") (.const c)).eval r = .bool true := by
  intro c r
  have hrow : r.lookup (MemberName.wire "N") = c.wire? := by decide +kernel
  have halike : c.SpeltAlike :=
    ⟨by decide +kernel, by decide +kernel, by decide +kernel, by decide +kernel⟩
  exact ⟨hrow, halike, ((eval_compare_sent hrow).2.1 halike).1⟩

/-- A list is compared as an array, and a whole number with its point. -/
theorem sent_texts_unequal :
    let tags : Literal := .list [.str "a", .str "b"]
    let size : Literal := .float 5
    let r : Row := [("size", "5"), ("tags", "a|b")]
    r.lookup (MemberName.wire "tags") = tags.wire? ∧
    tags.value.text? = some "[\"a\",\"b\"]" ∧
    (binary .equal (.member .row "tags") (.const tags)).eval r = .bool false ∧
    r.lookup (MemberName.wire "size") = size.wire? ∧ size.value.text? = some "5.0" ∧
    (binary .equal (.member .row "size") (.const size)).eval r = .bool false := by
  intro tags size r
  have htags : tags.value.text? = some "[\"a\",\"b\"]" := by cbv
  have hsize : size.value.text? = some "5.0" := by decide +kernel
  refine ⟨by cbv, htags, ?_, by decide +kernel, hsize, ?_⟩
  · rw [eval_equal_const, htags]
    rfl
  · rw [eval_equal_const, hsize]
    rfl

end Expr

end WikiRows
