import WikiRows.Proofs.Overwriting

/-!
# Filters in another order

Values of different names can be set in any order. A name that had a value before keeps its place,
and only the places of the new names tell in which order they were set. `Reordered` is what two such
runs have in common: it is kept by every value that is set (`Reordered.withValue`), and two values
that change places in a run keep to it (`reordered_swap`), from which it follows for all
permutations (`reordered_of_perm`).
-/

namespace WikiRows

namespace Clauses

section Values

variable {a b x y : String} {values : List (String × String)}

/-- Setting the value of a name that has one puts one pair for the other. -/
theorem perm_setValue_of_lookup (h : values.lookup a = some y) :
    (setValue a x values).Perm ((a, x) :: values.erase (a, y)) := by
  induction values with
  | nil => cases h
  | cons w values ih =>
    rw [Keyed.lookup_cons] at h
    by_cases hw : w.1 = a
    · rw [if_pos hw] at h
      obtain rfl : w = (a, y) := Prod.ext hw (Option.some.inj h)
      rw [setValue, if_pos rfl, List.erase_cons_head]
    · have hpair : w ≠ (a, y) := fun heq => hw (congrArg Prod.fst heq)
      rw [if_neg hw] at h
      rw [setValue, if_neg hw, List.erase_cons_tail (by simpa using hpair)]
      exact ((ih h).cons w).trans (.swap _ _ _)

/-- In the other order, two different names may change places, but nothing else. -/
theorem perm_setValue_comm (hne : a ≠ b) :
    (setValue b y (setValue a x values)).Perm (setValue a x (setValue b y values)) := by
  induction values with
  | nil => simp [setValue, hne, Ne.symm hne, List.Perm.swap]
  | cons w values ih =>
    by_cases hwa : w.1 = a
    · simp [setValue, hwa, hne]
    · by_cases hwb : w.1 = b
      · simp [setValue, hwb, Ne.symm hne]
      · simp [setValue, hwa, hwb, ih]

end Values

/-- Clauses that differ at most in the order of their values. -/
structure Reordered (c d : Clauses) : Prop where
  perm : c.values.Perm d.values
  value? : ∀ name, c.value? name = d.value? name
  sorting : c.sorting = d.sorting
  selection : c.selection = d.selection

namespace Reordered

variable {c d e : Clauses}

theorem refl (c : Clauses) : c.Reordered c := ⟨.refl _, fun _ => rfl, rfl, rfl⟩

theorem trans (h : c.Reordered d) (h' : d.Reordered e) : c.Reordered e :=
  ⟨h.perm.trans h'.perm, fun name => (h.value? name).trans (h'.value? name),
    h.sorting.trans h'.sorting, h.selection.trans h'.selection⟩

theorem withValue (h : c.Reordered d) (a x : String) :
    (c.withValue a x).Reordered (d.withValue a x) := by
  refine ⟨?_, fun name => ?_, h.sorting, h.selection⟩
  · change (setValue a x c.values).Perm (setValue a x d.values)
    have hsame : c.values.lookup a = d.values.lookup a := h.value? a
    cases hd : d.values.lookup a with
    | none =>
      have hc : a ∉ c.values.map Prod.fst := Keyed.lookup_eq_none_iff_notMem.mp (hsame.trans hd)
      rw [setValue_of_notMem hc, setValue_of_notMem (Keyed.lookup_eq_none_iff_notMem.mp hd)]
      exact h.perm.append_right _
    | some y =>
      have hpair : ((a, x) :: c.values.erase (a, y)).Perm ((a, x) :: d.values.erase (a, y)) :=
        (h.perm.erase _).cons _
      exact ((perm_setValue_of_lookup (hsame.trans hd)).trans hpair).trans
        (perm_setValue_of_lookup hd).symm
  · rw [value?_withValue, value?_withValue, h.value? name]

theorem withValues (h : c.Reordered d) (ws : List (String × String)) :
    (c.withValues ws).Reordered (d.withValues ws) := by
  induction ws generalizing c d with
  | nil => exact h
  | cons w ws ih => exact ih (h.withValue w.1 w.2)

/-- The requests of clauses that differ in this way hold the same parameters. -/
theorem perm_requestOf (h : c.Reordered d) (m : ApiModule) :
    (Query.requestOf m c).Perm (Query.requestOf m d) := by
  obtain ⟨hsort, hascending⟩ := Prod.mk.inj h.sorting
  obtain ⟨hproperties, -⟩ := Prod.mk.inj h.selection
  have hlist : Query.propertyParameter m c = Query.propertyParameter m d := by
    unfold Query.propertyParameter Query.fetched
    rw [hproperties]
  simp only [Query.requestOf, hlist, hsort, hascending]
  exact (((h.perm.map _).append_left _).append_right _).append_right _

end Reordered

theorem reordered_swap (c : Clauses) {a b : String} (hne : a ≠ b) (x y : String) :
    ((c.withValue a x).withValue b y).Reordered ((c.withValue b y).withValue a x) := by
  refine ⟨perm_setValue_comm hne, fun name => ?_, rfl, rfl⟩
  simp only [value?_withValue]
  by_cases ha : a = name
  · have hb : b ≠ name := fun hb => hne (ha.trans hb.symm)
    simp [ha, hb]
  · simp [ha]

/-- Values of different names may be set in any order. -/
theorem reordered_of_perm {ws vs : List (String × String)} (h : ws.Perm vs)
    (hws : (ws.map Prod.fst).Nodup) (c : Clauses) :
    (c.withValues ws).Reordered (c.withValues vs) := by
  induction h generalizing c with
  | nil => exact .refl c
  | cons w _ ih => exact ih (List.nodup_cons.mp hws).2 (c.withValue w.1 w.2)
  | swap w v rest =>
    have hne : v.1 ≠ w.1 := fun heq => (List.nodup_cons.mp hws).1 (by simp [heq])
    exact (reordered_swap c hne v.2 w.2).withValues rest
  | trans hfirst _ ih ih' =>
    exact (ih hws c).trans (ih' ((hfirst.map Prod.fst).nodup_iff.mp hws) c)

/-- Names that have values keep their places whatever values are set. -/
theorem valueNames_prefix_withValues (c : Clauses) (ws : List (String × String)) :
    c.valueNames <+: (c.withValues ws).valueNames := by
  induction ws generalizing c with
  | nil => exact List.prefix_refl _
  | cons w ws ih =>
    have hnames : (c.withValue w.1 w.2).valueNames =
        if w.1 ∈ c.valueNames then c.valueNames else c.valueNames ++ [w.1] := names_setValue
    have hfirst : c.valueNames <+: (c.withValue w.1 w.2).valueNames := by
      rw [hnames]
      split_ifs
      · exact List.prefix_refl _
      · exact List.prefix_append _ _
    exact hfirst.trans (ih _)

end Clauses

namespace Expr

def Writes (m : ApiModule) (t : Expr) (name : String) : Prop :=
  ∃ d text, t.Denotes d ∧ d.Fits m ∧ d.written? = some (name, text)

def asked? (m : ApiModule) (t : Expr) : Option (String × String) :=
  match t.condition m with
  | .ok d => d.written?
  | .error _ => none

theorem writes_iff {m : ApiModule} {t : Expr} {name : String} :
    t.Writes m name ↔ ∃ text, t.asked? m = some (name, text) := by
  have hasked : ∀ w, t.asked? m = some w ↔ ∃ d, t.condition m = .ok d ∧ d.written? = some w := by
    intro w
    unfold asked?
    cases t.condition m <;> simp
  simp only [Writes, hasked, condition_eq_ok_iff, and_assoc]
  exact exists_comm

/-- A filter whose conjuncts compile asks for what they ask for, in their order. -/
theorem written_eq_ok_iff {m : ApiModule} {e : Expr} {ws : List (String × String)} :
    e.written m = .ok ws ↔
      (∀ t ∈ e.conjuncts, t.Compiles m) ∧ ws = e.conjuncts.filterMap (asked? m) := by
  have hasked : ∀ {ts : List Expr} {ds : List Condition},
      List.Forall₂ (fun t d => t.condition m = .ok d) ts ds →
        ds.filterMap Condition.written? = ts.filterMap (asked? m) := by
    intro ts ds h
    induction h with
    | nil => rfl
    | @cons t d _ _ hd _ ih =>
      have hone : t.asked? m = d.written? := by rw [asked?, hd]
      rw [List.filterMap_cons, List.filterMap_cons, hone, ih]
  have hcompiles : (∀ t ∈ e.conjuncts, t.Compiles m) ↔
      ∃ ds, e.conjuncts.mapM (condition m) = .ok ds := by
    simp only [Traversal.exists_mapM_eq_ok_iff, condition_eq_ok_iff, Compiles]
  rw [hcompiles, written, Traversal.map_eq_ok_iff]
  constructor
  · rintro ⟨ds, hds, rfl⟩
    exact ⟨⟨ds, hds⟩, hasked (Traversal.mapM_eq_ok_iff.mp hds)⟩
  · rintro ⟨⟨ds, hds⟩, rfl⟩
    exact ⟨ds, hds, hasked (Traversal.mapM_eq_ok_iff.mp hds)⟩

end Expr

namespace Clauses

variable {m : ApiModule} {c previous : Clauses} {e : Expr}

theorem filter_eq_ok_iff_asked :
    filter m previous e = .ok c ↔ (∀ t ∈ e.conjuncts, t.Compiles m) ∧
      c = previous.withValues (e.conjuncts.filterMap (Expr.asked? m)) := by
  simp only [filter_eq, Traversal.map_eq_ok_iff, Expr.written_eq_ok_iff]
  constructor
  · rintro ⟨ws, ⟨hall, rfl⟩, rfl⟩
    exact ⟨hall, rfl⟩
  · rintro ⟨hall, rfl⟩
    exact ⟨_, ⟨hall, rfl⟩, rfl⟩

/-- Two filters of the same conjuncts in different orders, none of which writes a name that another
one writes, both compile or both fail. If they compile, they come to the same value for each name and
leave the same order and selection; names that had a value before keep their places, and the requests
hold the same parameters. -/
theorem filter_reordered (m : ApiModule) (previous : Clauses) {e f : Expr}
    (hperm : e.conjuncts.Perm f.conjuncts)
    (hone : e.conjuncts.Pairwise fun s t => ∀ name, s.Writes m name → ¬ t.Writes m name) :
    ((∃ c, filter m previous e = .ok c) ↔ ∃ d, filter m previous f = .ok d) ∧
    ∀ c d, filter m previous e = .ok c → filter m previous f = .ok d →
      (∀ name, c.value? name = d.value? name) ∧ c.values.Perm d.values ∧
      (c.sort = d.sort ∧ c.ascending = d.ascending) ∧
      (c.properties = d.properties ∧ c.projection = d.projection) ∧
      (previous.valueNames <+: c.valueNames ∧ previous.valueNames <+: d.valueNames) ∧
      (Query.requestOf m c).Perm (Query.requestOf m d) := by
  refine ⟨?_, ?_⟩
  · simp only [filter_eq_ok_iff_asked, exists_and_left, exists_eq, and_true, hperm.mem_iff]
  · intro c d hc hd
    obtain ⟨-, rfl⟩ := filter_eq_ok_iff_asked.mp hc
    obtain ⟨-, rfl⟩ := filter_eq_ok_iff_asked.mp hd
    have hnames : ((e.conjuncts.filterMap (Expr.asked? m)).map Prod.fst).Nodup := by
      rw [List.Nodup, List.pairwise_map, List.pairwise_filterMap]
      refine hone.imp fun hst w hw v hv heq => ?_
      exact hst w.1 (Expr.writes_iff.mpr ⟨w.2, hw⟩) (Expr.writes_iff.mpr ⟨v.2, heq ▸ hv⟩)
    have hreordered := reordered_of_perm (hperm.filterMap (Expr.asked? m)) hnames previous
    exact ⟨hreordered.value?, hreordered.perm, Prod.mk.inj hreordered.sorting,
      Prod.mk.inj hreordered.selection,
      ⟨valueNames_prefix_withValues _ _, valueNames_prefix_withValues _ _⟩,
      hreordered.perm_requestOf m⟩

/-- Two filters that set three values, one of them under a name that has one. -/
theorem filter_reordered_three :
    let m : ApiModule := ⟨"items", "it", [⟨"ns", .named "integer", false⟩,
      ⟨"title", .named "string", false⟩, ⟨"enabled", .named "boolean", false⟩,
      ⟨"hidden", .named "boolean", false⟩], true⟩
    let previous : Clauses := { empty with values := [("user", "a"), ("ns", "0")] }
    let number : Expr := .binary .equal (.member .row "NS") (.const (.int 14))
    let text : Expr := .binary .equal (.const (.str "B")) (.member .row "title")
    let flags : Expr := .binary .and (.not (.member .row "hidden")) (.member .row "enabled")
    let e : Expr := .binary .and (.binary .and text number) flags
    let f : Expr := .binary .and flags (.binary .and number text)
    let c : Clauses := { empty with
      values := [("user", "a"), ("ns", "14"), ("title", "B"), ("enabled", "")] }
    let d : Clauses := { empty with
      values := [("user", "a"), ("ns", "14"), ("enabled", ""), ("title", "B")] }
    e.conjuncts.Perm f.conjuncts ∧
    (e.conjuncts.Pairwise fun s t => ∀ name, s.Writes m name → ¬ t.Writes m name) ∧
    filter m previous e = .ok c ∧ filter m previous f = .ok d ∧
    (∀ name, c.value? name = d.value? name) ∧
    (Query.requestOf m c).Perm (Query.requestOf m d) := by
  intro m previous number text flags e f c d
  have hperm : e.conjuncts.Perm f.conjuncts := by
    change [text, number, _, _].Perm [_, _, number, text]
    exact (List.Perm.append_right _ (.swap number text [])).trans List.perm_append_comm
  have hone : e.conjuncts.Pairwise fun s t => ∀ name, s.Writes m name → ¬ t.Writes m name := by
    have htext : text.asked? m = some ("title", "B") := by rfl
    have hnumber : number.asked? m = some ("ns", "14") := by rfl
    have hoff : (Expr.not (.member .row "hidden")).asked? m = none := by rfl
    have hon : (Expr.member .row "enabled").asked? m = some ("enabled", "") := by rfl
    change [text, number, .not (.member .row "hidden"), .member .row "enabled"].Pairwise _
    simp [Expr.writes_iff, htext, hnumber, hoff, hon]
  have hc : filter m previous e = .ok c := by rfl
  have hd : filter m previous f = .ok d := by rfl
  obtain ⟨-, hboth⟩ := filter_reordered m previous hperm hone
  obtain ⟨hvalues, -, -, -, -, hrequest⟩ := hboth c d hc hd
  exact ⟨hperm, hone, hc, hd, hvalues, hrequest⟩

end Clauses

end WikiRows
