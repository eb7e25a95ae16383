import WikiRows.Proofs.Conjuncts
import WikiRows.Proofs.Rows

/-!
# Filters and projections agree

A filter means the same whether it is compiled to the values of a request or evaluated as a
projection. Each condition holds of a row or not (`Condition.Holds`), and an evaluated filter is
true of the rows of which all its conditions hold. The values that a filter asks for, read as a row,
are such a row, and every one of them is needed.
-/

namespace WikiRows

namespace Literal

/-- A constant that is neither a double nor a list. -/
def isPlain : Literal → Bool
  | float _ | list _ => false
  | _ => true

/-- Projections and requests spell a plain constant alike. -/
theorem text?_value {v : Literal} (h : v.isPlain) : v.value.text? = v.wire? := by
  cases v with
  | null | str | date | token => rfl
  | bool b => cases b <;> rfl
  | int i =>
    have hcompact : (Json.int i.toInt).compact = String.ofList (Json.intChars i.toInt) := by
      rw [← String.toList_inj, Json.toList_compact, String.toList_ofList]
      rfl
    simp only [value, Json.text?, wire?, hcompact, Json.ofList_intChars]
  | float | list => simp [isPlain] at h

end Literal

namespace Condition

def wire (d : Condition) : String := MemberName.wire d.member

/-- What a condition says of a row. A flag is on if it is there, with whatever value. -/
def Holds (r : Row) : Condition → Prop
  | flag name => (r.lookup (MemberName.wire name)).isSome
  | noFlag name => r.lookup (MemberName.wire name) = none
  | equal name value => r.lookup (MemberName.wire name) = value.wire?

theorem fst_of_written? {d : Condition} {w : String × String} (h : d.written? = some w) :
    w.1 = d.wire := by
  cases d with
  | flag name =>
    obtain rfl := Option.some.inj h
    rfl
  | noFlag name => simp [written?] at h
  | equal name value =>
    obtain ⟨text, -, rfl⟩ := Option.map_eq_some_iff.mp h
    rfl

theorem holds_of_lookup {r : Row} {d : Condition}
    (h : r.lookup d.wire = d.written?.map Prod.snd) : d.Holds r := by
  cases d with
  | flag name =>
    change r.lookup (MemberName.wire name) = some "" at h
    simp [Holds, h]
  | noFlag name => exact h
  | equal name value =>
    change r.lookup (MemberName.wire name) = _ at h
    rw [Holds, h, written?, Option.map_map]
    exact congrFun Option.map_id _

theorem not_holds_of_lookup_eq_none {r : Row} {d : Condition} {w : String × String}
    (hw : d.written? = some w) (h : r.lookup d.wire = none) : ¬ d.Holds r := by
  cases d with
  | flag name =>
    change r.lookup (MemberName.wire name) = none at h
    simp [Holds, h]
  | noFlag name => simp [written?] at hw
  | equal name value =>
    change r.lookup (MemberName.wire name) = none at h
    obtain ⟨text, htext, -⟩ := Option.map_eq_some_iff.mp hw
    simp [Holds, h, htext]

end Condition

namespace Expr

theorem text?_eval_rowMember (r : Row) (name : String) :
    ((member row name).eval r).text? = r.lookup (MemberName.wire name) := by
  rw [eval_rowMember]
  cases r.lookup (MemberName.wire name) <;> rfl

theorem truthy_eval_rowMember (r : Row) (name : String) :
    ((member row name).eval r).truthy = (r.lookup (MemberName.wire name)).isSome := by
  rw [eval_rowMember]
  cases r.lookup (MemberName.wire name) <;> rfl

theorem truthy_eval_equal (r : Row) (left right : Expr) :
    ((binary .equal left right).eval r).truthy ↔ (left.eval r).text? = (right.eval r).text? := by
  simp [eval, BinaryOp.apply, Json.truthy]

theorem rowMembers_of_denotes {t : Expr} {d : Condition} (h : t.Denotes d) :
    t.rowMembers = [d.member] := by
  cases h <;> rfl

/-- A conjunct is true of the rows of which its condition holds. -/
theorem truthy_eval_iff_of_denotes {t : Expr} {d : Condition} (h : t.Denotes d)
    (hconst : ∀ v ∈ t.constants, v.isPlain) (r : Row) : (t.eval r).truthy ↔ d.Holds r := by
  cases h with
  | flag name =>
    rw [truthy_eval_rowMember]
    rfl
  | noFlag name =>
    have hnot : ((not (member row name)).eval r).truthy =
        !(r.lookup (MemberName.wire name)).isSome := by
      rw [← truthy_eval_rowMember]
      simp only [eval, Json.truthy]
    rw [hnot]
    simp [Condition.Holds]
  | memberEqual name value =>
    have hv : value.isPlain := hconst value (by simp [constants])
    rw [truthy_eval_equal, text?_eval_rowMember, eval, Literal.text?_value hv]
    rfl
  | equalMember name value =>
    have hv : value.isPlain := hconst value (by simp [constants])
    rw [truthy_eval_equal, text?_eval_rowMember, eval, Literal.text?_value hv, eq_comm]
    rfl

theorem truthy_eval_iff_conjuncts (e : Expr) (r : Row) :
    (e.eval r).truthy ↔ ∀ t ∈ e.conjuncts, (t.eval r).truthy := by
  induction e using conjuncts.induct with
  | case1 left right ihl ihr =>
    rw [conjuncts, List.forall_mem_append, ← ihl, ← ihr]
    simp [eval, BinaryOp.apply, Json.truthy]
  | case2 e he => simp [conjuncts.eq_2 e he]

theorem rowMembers_eq_flatMap (e : Expr) : e.rowMembers = e.conjuncts.flatMap rowMembers := by
  induction e using conjuncts.induct with
  | case1 left right ihl ihr => rw [conjuncts, List.flatMap_append, ← ihl, ← ihr, rowMembers]
  | case2 e he => simp [conjuncts.eq_2 e he]

theorem constants_eq_flatMap (e : Expr) : e.constants = e.conjuncts.flatMap constants := by
  induction e using conjuncts.induct with
  | case1 left right ihl ihr => rw [conjuncts, List.flatMap_append, ← ihl, ← ihr, constants]
  | case2 e he => simp [conjuncts.eq_2 e he]

theorem rowMembers_of_forall₂ {ts : List Expr} {ds : List Condition}
    (h : List.Forall₂ Denotes ts ds) : ts.flatMap rowMembers = ds.map Condition.member := by
  induction h with
  | nil => rfl
  | cons hd _ ih => rw [List.flatMap_cons, ih, rowMembers_of_denotes hd, List.map_cons]; rfl

/-- A filter is true of the rows of which all its conditions hold. -/
theorem truthy_eval_iff_holds {e : Expr} {ds : List Condition}
    (h : List.Forall₂ Denotes e.conjuncts ds) (hconst : ∀ v ∈ e.constants, v.isPlain) (r : Row) :
    (e.eval r).truthy ↔ ∀ d ∈ ds, d.Holds r := by
  rw [truthy_eval_iff_conjuncts]
  rw [constants_eq_flatMap] at hconst
  generalize e.conjuncts = ts at h hconst
  induction h with
  | nil => simp
  | cons hd _ ih =>
    rw [List.flatMap_cons, List.forall_mem_append] at hconst
    rw [List.forall_mem_cons, List.forall_mem_cons, truthy_eval_iff_of_denotes hd hconst.1,
      ih hconst.2]

end Expr

namespace Keyed

variable {α : Type} {l : List (String × α)} {key : String} {value : α}

theorem lookup_eq_some_iff_mem (h : (l.map Prod.fst).Nodup) :
    l.lookup key = some value ↔ (key, value) ∈ l := by
  induction l with
  | nil => simp
  | cons pair l ih =>
    obtain ⟨k, v⟩ := pair
    obtain ⟨hk, hl⟩ := List.nodup_cons.mp h
    rw [List.lookup_cons]
    by_cases hkey : key = k
    · subst hkey
      have hnot : (key, value) ∉ l := fun hmem => hk (List.mem_map.mpr ⟨_, hmem, rfl⟩)
      simp [hnot, eq_comm]
    · simp [beq_false_of_ne hkey, ih hl, hkey]

theorem lookup_eq_none_iff_notMem : l.lookup key = none ↔ key ∉ l.map Prod.fst := by
  rw [List.lookup_eq_none_iff]
  simp only [List.mem_map, not_exists, not_and, bne_iff_ne]
  exact ⟨fun h pair hpair heq => h pair hpair heq.symm,
    fun h pair hpair heq => h pair hpair heq.symm⟩

theorem notMem_keys_erase [DecidableEq α] {pair : String × α} (h : (l.map Prod.fst).Nodup)
    (hpair : pair ∈ l) : pair.1 ∉ (l.erase pair).map Prod.fst := by
  have hperm := (List.perm_cons_erase hpair).map Prod.fst
  rw [List.map_cons] at hperm
  exact (List.nodup_cons.mp (hperm.nodup_iff.mp h)).1

end Keyed

namespace Clauses

theorem setValue_of_notMem {name value : String} {values : List (String × String)}
    (h : name ∉ values.map Prod.fst) : setValue name value values = values ++ [(name, value)] := by
  induction values with
  | nil => rfl
  | cons w values ih =>
    rw [List.map_cons, List.mem_cons, not_or] at h
    rw [setValue, if_neg (Ne.symm h.1), ih h.2, List.cons_append]

theorem values_withValues {c : Clauses} {written : List (String × String)}
    (h : ((c.values ++ written).map Prod.fst).Nodup) :
    (c.withValues written).values = c.values ++ written := by
  induction written generalizing c with
  | nil => simp [withValues]
  | cons w written ih =>
    have hnew : w.1 ∉ c.values.map Prod.fst := by
      rw [List.map_append, List.nodup_append] at h
      exact fun hmem => h.2.2 _ hmem _ (by simp) rfl
    have hvalues : (c.withValue w.1 w.2).values = c.values ++ [w] := setValue_of_notMem hnew
    have hnext : (((c.withValue w.1 w.2).values ++ written).map Prod.fst).Nodup := by
      rwa [hvalues, List.append_assoc, List.singleton_append]
    change ((c.withValue w.1 w.2).withValues written).values = _
    rw [ih hnext, hvalues, List.append_assoc, List.singleton_append]

end Clauses

namespace Condition

variable {ds : List Condition}

theorem nodup_written (h : (ds.map wire).Nodup) :
    ((ds.filterMap written?).map Prod.fst).Nodup := by
  refine List.Nodup.sublist ?_ h
  induction ds with
  | nil => exact List.Sublist.refl _
  | cons d ds ih =>
    have htail := ih (List.nodup_cons.mp h).2
    cases hd : d.written? with
    | none =>
      rw [List.filterMap_cons_none hd, List.map_cons]
      exact htail.cons _
    | some w =>
      rw [List.filterMap_cons_some hd, List.map_cons, List.map_cons, fst_of_written? hd]
      exact htail.cons_cons _

/-- A row of the values that conditions on different names ask for is one of which they hold. -/
theorem holds_of_perm (h : (ds.map wire).Nodup) {r : Row} (hr : r.Perm (ds.filterMap written?))
    {d : Condition} (hd : d ∈ ds) : d.Holds r := by
  have hnodup : (r.map Prod.fst).Nodup := (hr.map Prod.fst).nodup_iff.mpr (nodup_written h)
  apply holds_of_lookup
  cases hw : d.written? with
  | some w =>
    have hmem : w ∈ r := hr.mem_iff.mpr (List.mem_filterMap.mpr ⟨d, hd, hw⟩)
    rw [← fst_of_written? hw]
    exact (Keyed.lookup_eq_some_iff_mem hnodup).mpr hmem
  | none =>
    -- No other condition can ask for a value under the same name.
    apply Keyed.lookup_eq_none_iff_notMem.mpr
    intro hmem
    obtain ⟨w, hmem, hwire⟩ := List.mem_map.mp hmem
    obtain ⟨d', hd', hw'⟩ := List.mem_filterMap.mp (hr.mem_iff.mp hmem)
    have hsame : d' = d :=
      List.inj_on_of_nodup_map h hd' hd ((fst_of_written? hw').symm.trans hwire)
    rw [hsame, hw] at hw'
    cases hw'

/-- Without one of the values that are asked for, some condition does not hold. -/
theorem exists_not_holds_of_erase (h : (ds.map wire).Nodup) {r : Row}
    (hr : r.Perm (ds.filterMap written?)) {entry : String × String} (hentry : entry ∈ r) :
    ∃ d ∈ ds, ¬ d.Holds (r.erase entry) := by
  have hnodup : (r.map Prod.fst).Nodup := (hr.map Prod.fst).nodup_iff.mpr (nodup_written h)
  obtain ⟨d, hd, hw⟩ := List.mem_filterMap.mp (hr.mem_iff.mp hentry)
  refine ⟨d, hd, not_holds_of_lookup_eq_none hw ?_⟩
  rw [← fst_of_written? hw]
  exact Keyed.lookup_eq_none_iff_notMem.mpr (Keyed.notMem_keys_erase hnodup hentry)

end Condition

namespace Clauses

/-- The values of a compiled filter on different names, read as a row, are all there is to the
filter: evaluated on this row it is true, and without any one of them it is not. -/
theorem eval_compiled_values {m : ApiModule} {c : Clauses} {e : Expr}
    (hc : filter m .empty e = .ok c) (hnames : (e.rowMembers.map MemberName.wire).Nodup)
    (hconst : ∀ v ∈ e.constants, v.isPlain) :
    let row : Row := Keyed.ofList c.values
    row.Perm c.values ∧ (e.eval row).truthy ∧
      ∀ entry ∈ row, ¬ (e.eval (row.erase entry)).truthy := by
  intro row
  obtain ⟨ds, hds, rfl⟩ := filter_eq_ok_iff.mp hc
  have hdenotes : List.Forall₂ Expr.Denotes e.conjuncts ds := hds.imp fun _ _ hd => hd.1
  have hwires : (ds.map Condition.wire).Nodup := by
    rw [Expr.rowMembers_eq_flatMap, Expr.rowMembers_of_forall₂ hdenotes, List.map_map] at hnames
    exact hnames
  have hvalues : (empty.withValues (ds.filterMap Condition.written?)).values =
      ds.filterMap Condition.written? := values_withValues (Condition.nodup_written hwires)
  have hperm : row.Perm (ds.filterMap Condition.written?) := by
    rw [← hvalues]
    exact Keyed.perm_ofList (by rw [hvalues]; exact Condition.nodup_written hwires)
  refine ⟨by rwa [hvalues], ?_, ?_⟩
  · rw [Expr.truthy_eval_iff_holds hdenotes hconst]
    exact fun d hd => Condition.holds_of_perm hwires hperm hd
  · intro entry hentry
    rw [Expr.truthy_eval_iff_holds hdenotes hconst]
    intro hall
    obtain ⟨d, hd, hnot⟩ := Condition.exists_not_holds_of_erase hwires hperm hentry
    exact hnot (hall d hd)

/-- A flag, a flag that is off, a number in front of its member and a text: two of them and the
number are asked for. -/
theorem eval_compiled_values_three :
    let m : ApiModule := ⟨"items", "it", [⟨"enabled", .named "boolean", false⟩,
      ⟨"hidden", .named "boolean", false⟩, ⟨"ns", .named "integer", true⟩,
      ⟨"*", .named "string", false⟩], true⟩
    let e : Expr := .binary .and
      (.binary .and (.member .row "Enabled") (.not (.member .row "hidden")))
      (.binary .and (.binary .equal (.const (.int (-5))) (.member .row "ns"))
        (.binary .equal (.member .row "value") (.const (.str "a"))))
    let c : Clauses := { Clauses.empty with values := [("enabled", ""), ("ns", "-5"), ("*", "a")] }
    let row : Row := [("*", "a"), ("enabled", ""), ("ns", "-5")]
    filter m .empty e = .ok c ∧ (e.rowMembers.map MemberName.wire).Nodup ∧
    (∀ v ∈ e.constants, v.isPlain) ∧ Keyed.ofList c.values = row ∧
    (e.eval row).truthy ∧ ¬ (e.eval [("*", "a"), ("ns", "-5")]).truthy := by
  intro m e c row
  have hc : filter m .empty e = .ok c := by rfl
  have hnames : (e.rowMembers.map MemberName.wire).Nodup := by
    have hwires : e.rowMembers.map MemberName.wire = ["enabled", "hidden", "ns", "*"] := by rfl
    rw [hwires]
    decide
  have hconst : ∀ v ∈ e.constants, v.isPlain := by simp [e, Expr.constants, Literal.isPlain]
  have hrow : Keyed.ofList c.values = row := by decide
  obtain ⟨-, htrue, hneeded⟩ := eval_compiled_values hc hnames hconst
  rw [hrow] at htrue hneeded
  exact ⟨hc, hnames, hconst, hrow, htrue, hneeded ("enabled", "") (by decide)⟩

end Clauses

end WikiRows
