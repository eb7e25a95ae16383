import WikiRows.Proofs.Writes

/-!
# Filters applied again

A filter sets values one after the other, each in the place of the one that its name has or behind
all others. A value that is set again later leaves nothing but its place
(`withValues_withValue_of_mem`), so that a filter that has been applied finds every place taken and
every text as it would set it. `withValues_eq_self` says so.
-/

namespace WikiRows

namespace Clauses

section Values

variable {a b x y : String} {values : List (String × String)}

theorem setValue_setValue : setValue a y (setValue a x values) = setValue a y values := by
  induction values with
  | nil => simp [setValue]
  | cons w values ih =>
    by_cases hw : w.1 = a
    · simp [setValue, hw]
    · simp [setValue, hw, ih]

/-- Two names can be set in either order if one of them has its place already. -/
theorem setValue_comm (hne : a ≠ b) (ha : a ∈ values.map Prod.fst) :
    setValue b y (setValue a x values) = setValue a x (setValue b y values) := by
  induction values with
  | nil => cases ha
  | cons w values ih =>
    by_cases hwa : w.1 = a
    · simp [setValue, hwa, hne]
    · by_cases hwb : w.1 = b
      · simp [setValue, hwb, Ne.symm hne]
      · have hmem : a ∈ values.map Prod.fst := by
          rw [List.map_cons, List.mem_cons] at ha
          exact ha.resolve_left (Ne.symm hwa)
        simp [setValue, hwa, hwb, ih hmem]

theorem setValue_of_lookup (h : values.lookup a = some x) : setValue a x values = values := by
  induction values with
  | nil => cases h
  | cons w values ih =>
    rw [Keyed.lookup_cons] at h
    by_cases hw : w.1 = a
    · rw [if_pos hw] at h
      rw [setValue, if_pos hw, ← Option.some.inj h]
    · rw [if_neg hw] at h
      rw [setValue, if_neg hw, ih h]

end Values

variable {c : Clauses} {a b x y : String}

theorem value?_withValue (c : Clauses) (a x n : String) :
    (c.withValue a x).value? n = if a = n then some x else c.value? n := lookup_setValue n

theorem mem_valueNames_withValue {n : String} :
    n ∈ (c.withValue a x).valueNames ↔ n = a ∨ n ∈ c.valueNames := mem_names_setValue

theorem mem_valueNames_of_value? {n text : String} (h : c.value? n = some text) :
    n ∈ c.valueNames := by
  by_contra hn
  have hnone : c.value? n = none := Keyed.lookup_eq_none_iff_notMem.mpr hn
  rw [hnone] at h
  cases h

theorem withValue_withValue (c : Clauses) (a x y : String) :
    (c.withValue a x).withValue a y = c.withValue a y :=
  congrArg (fun values => { c with values }) setValue_setValue

theorem withValue_comm (hne : a ≠ b) (ha : a ∈ c.valueNames) :
    (c.withValue a x).withValue b y = (c.withValue b y).withValue a x :=
  congrArg (fun values => { c with values }) (setValue_comm hne ha)

theorem withValue_of_value? (h : c.value? a = some x) : c.withValue a x = c :=
  congrArg (fun values => { c with values }) (setValue_of_lookup h)

theorem withValues_cons (c : Clauses) (w : String × String) (ws : List (String × String)) :
    c.withValues (w :: ws) = (c.withValue w.1 w.2).withValues ws := rfl

/-- After some values have been set, a name has the last of them that is its own, or the value that it
had. -/
theorem value?_withValues (c : Clauses) (ws : List (String × String)) (n : String) :
    (c.withValues ws).value? n = (ws.reverse.lookup n).or (c.value? n) := by
  induction ws generalizing c with
  | nil => rfl
  | cons w ws ih =>
    rw [withValues_cons, ih, value?_withValue, List.reverse_cons, List.lookup_append,
      Option.or_assoc, Keyed.lookup_cons]
    by_cases hn : w.1 = n <;> simp [hn]

/-- A value that is set again later leaves nothing behind if its name had a place before. -/
theorem withValues_withValue_of_mem {ws : List (String × String)} (ha : a ∈ c.valueNames)
    (hws : a ∈ ws.map Prod.fst) : (c.withValue a x).withValues ws = c.withValues ws := by
  induction ws generalizing c with
  | nil => cases hws
  | cons w ws ih =>
    rw [withValues_cons, withValues_cons]
    by_cases hw : a = w.1
    · rw [hw, withValue_withValue]
    · have hmem : a ∈ ws.map Prod.fst := by
        rw [List.map_cons, List.mem_cons] at hws
        exact hws.resolve_left hw
      rw [withValue_comm hw ha]
      exact ih (mem_valueNames_withValue.mpr (.inr ha)) hmem

theorem exists_lookup_reverse {ws : List (String × String)} {n : String}
    (h : n ∈ ws.map Prod.fst) : ∃ text, ws.reverse.lookup n = some text := by
  rw [← Option.ne_none_iff_exists', ne_eq, Keyed.lookup_eq_none_iff_notMem, not_not,
    List.map_reverse, List.mem_reverse]
  exact h

/-- Setting values changes nothing where every name has the last of its values already. -/
theorem withValues_eq_self {ws : List (String × String)}
    (h : ∀ n ∈ ws.map Prod.fst, c.value? n = ws.reverse.lookup n) : c.withValues ws = c := by
  induction ws with
  | nil => rfl
  | cons w ws ih =>
    have hlater : ∀ n ∈ ws.map Prod.fst, c.value? n = ws.reverse.lookup n := by
      intro n hn
      obtain ⟨text, htext⟩ := exists_lookup_reverse hn
      rw [h n (List.mem_cons_of_mem _ hn), List.reverse_cons, List.lookup_append, htext]
      rfl
    have hfirst := h w.1 List.mem_cons_self
    -- the first value is overwritten later, or it is the last of its name and stands there already
    rw [withValues_cons]
    by_cases hw : w.1 ∈ ws.map Prod.fst
    · obtain ⟨text, htext⟩ := exists_lookup_reverse hw
      have hplace : w.1 ∈ c.valueNames :=
        mem_valueNames_of_value? ((hlater w.1 hw).trans htext)
      rw [withValues_withValue_of_mem hplace hw, ih hlater]
    · have hnone : ws.reverse.lookup w.1 = none := by
        rw [Keyed.lookup_eq_none_iff_notMem, List.map_reverse, List.mem_reverse]
        exact hw
      rw [List.reverse_cons, List.lookup_append, hnone, Option.none_or, Keyed.lookup_cons,
        if_pos rfl] at hfirst
      rw [withValue_of_value? hfirst, ih hlater]

/-- The same values set again find their places taken and their texts there. -/
theorem withValues_withValues (c : Clauses) (ws : List (String × String)) :
    (c.withValues ws).withValues ws = c.withValues ws := by
  refine withValues_eq_self fun n hn => ?_
  obtain ⟨text, htext⟩ := exists_lookup_reverse hn
  rw [value?_withValues, htext, Option.some_or]

example :
    let c : Clauses := { empty with values := [("ns", "0"), ("title", "A")] }
    let ws := [("title", "B"), ("user", "C"), ("ns", "14"), ("title", "D")]
    (c.withValues ws).values = [("ns", "14"), ("title", "D"), ("user", "C")] := rfl

/-- A filter that is applied again, in a step of its own or in one conjunction with itself, sets
nothing that it has not set, and fails as it did before. The same is sent in all three cases. -/
theorem filter_twice (m : ApiModule) (previous : Clauses) (p : Expr) :
    ((filter m previous p).bind fun c => filter m c p) = filter m previous p ∧
    filter m previous (.binary .and p p) = filter m previous p ∧
    let q : Query := ⟨m, previous⟩
    ((q.filter p).bind fun r => r.filter p).map Query.request = (q.filter p).map Query.request ∧
    (q.filter (.binary .and p p)).map Query.request = (q.filter p).map Query.request := by
  have hagain : ((filter m previous p).bind fun c => filter m c p) = filter m previous p := by
    simp only [filter_eq]
    cases p.written m with
    | error failure => rfl
    | ok ws => exact congrArg Except.ok (withValues_withValues previous ws)
  have hboth : filter m previous (.binary .and p p) = filter m previous p := by
    rw [← hagain, filter]
    cases filter m previous p <;> rfl
  refine ⟨hagain, hboth, ?_, ?_⟩
  · have hquery : ((Query.filter ⟨m, previous⟩ p).bind fun r => r.filter p) =
        ((filter m previous p).bind fun c => filter m c p).map fun c => ⟨m, c⟩ := by
      simp only [Query.filter, Query.withClauses]
      cases filter m previous p <;> rfl
    rw [hquery, hagain]
    rfl
  · rw [Query.filter, hboth]
    rfl

end Clauses

end WikiRows
