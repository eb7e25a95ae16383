import WikiRows.Proofs.ByteOrder
import WikiRows.Proofs.Narrowing
import WikiRows.Proofs.Parts

/-!
# What a selection refuses and fetches

The members that a selector reads of the row, however deep, decide alone whether it can be selected.
They are looked up in the order of their names, so that of several failures it is the one of the
least name that is reported, wherever in the selector that name stands.
-/

namespace WikiRows

namespace ApiModule

variable {m : ApiModule}

/-- Why a member of that name cannot be had: it is no legal name, or no property is declared under
the name by which requests know it. -/
inductive Refuses (m : ApiModule) (name : String) : Failure → Prop
  | illegal : MemberName.isLegal name = false → Refuses m name (.illegalMember name)
  | undeclared : MemberName.isLegal name →
      (∀ p ∈ m.properties, Text.asciiCaseEq p.name (MemberName.wire name) = false) →
      Refuses m name (.unknownProperty m.name name)

theorem property?_eq_none_iff {name : String} :
    m.property? name = none ↔ ∀ p ∈ m.properties, Text.asciiCaseEq p.name name = false := by
  simp [property?]

theorem refuses_iff {name : String} {failure : Failure} :
    m.Refuses name failure ↔ m.resolve name = .error failure := by
  rw [resolve_eq_error_iff, property?_eq_none_iff]
  constructor
  · rintro (hl | ⟨hl, hp⟩)
    · exact .inl ⟨hl, rfl⟩
    · exact .inr ⟨hl, hp, rfl⟩
  · rintro (⟨hl, rfl⟩ | ⟨hl, hp, rfl⟩)
    · exact .illegal hl
    · exact .undeclared hl hp

theorem exists_refuses_iff {name : String} :
    (∃ failure, m.Refuses name failure) ↔ ¬ ∃ p, m.Declares name p := by
  simp only [refuses_iff, Traversal.exists_eq_error_iff, Prod.exists, resolve_eq_ok_iff,
    exists_and_left, exists_eq_left]

/-- Names are looked up one after the other, up to the first that is refused. -/
theorem resolveAll_eq_error_iff {names : List String} {failure : Failure} :
    m.resolveAll names = .error failure ↔
      ∃ before name after, names = before ++ name :: after ∧
        (∀ other ∈ before, ∃ p, m.Declares other p) ∧ m.Refuses name failure := by
  have hok (name : String) :
      (∃ wire, (m.resolve name).map Prod.fst = .ok wire) ↔ ∃ p, m.Declares name p := by
    simp [Traversal.map_eq_ok_iff, resolve_eq_ok_iff]
  simp only [resolveAll_eq_mapM, Traversal.mapM_eq_error_iff, hok, Traversal.map_eq_error_iff,
    refuses_iff]

/-- Of names in increasing order, the least that is refused is the failure. -/
theorem resolveAll_eq_error_iff_of_pairwise {names : List String} {failure : Failure}
    (h : names.Pairwise (· < ·)) :
    m.resolveAll names = .error failure ↔
      ∃ name ∈ names, m.Refuses name failure ∧
        ∀ other ∈ names, (∃ f, m.Refuses other f) → name ≤ other := by
  rw [resolveAll_eq_error_iff]
  constructor
  · rintro ⟨before, name, after, rfl, hbefore, hrefused⟩
    refine ⟨name, by simp, hrefused, fun other hother hfails => ?_⟩
    rcases List.mem_append.mp hother with hother | hother
    · exact absurd (hbefore other hother) (exists_refuses_iff.mp hfails)
    · rcases List.mem_cons.mp hother with rfl | hother
      · exact le_rfl
      · exact (List.rel_of_pairwise_cons (List.pairwise_append.mp h).2.1 hother).le
  · rintro ⟨name, hname, hrefused, hleast⟩
    obtain ⟨before, after, rfl⟩ := List.append_of_mem hname
    refine ⟨before, name, after, rfl, fun other hother => ?_, hrefused⟩
    -- A name in front is less, so that it would be the least one if it were refused.
    by_contra hnone
    have hle := hleast other (by simp [hother]) (exists_refuses_iff.mpr hnone)
    exact absurd hle (not_le.mpr ((List.pairwise_append.mp h).2.2 other hother name (by simp)))

end ApiModule

namespace Clauses

variable {m : ApiModule} {c c' : Clauses} {selector : Expr}

theorem select_eq_error_iff {failure : Failure} :
    select m c selector = .error failure ↔
      ∃ name, selector.Reads name ∧ m.Refuses name failure ∧
        ∀ other, selector.Reads other → (∃ f, m.Refuses other f) → name ≤ other := by
  rw [select_eq, Traversal.map_eq_error_iff,
    ApiModule.resolveAll_eq_error_iff_of_pairwise (NameSet.pairwise_ofList _)]
  simp only [NameSet.mem_ofList, Expr.mem_rowMembers_iff]

/-- A selector is refused if any of the members that it reads of the row is. -/
theorem select_fails_iff :
    (∃ failure, select m c selector = .error failure) ↔
      ∃ name, selector.Reads name ∧ ∃ failure, m.Refuses name failure := by
  have hok : (∃ c', select m c selector = .ok c') ↔
      ∀ name, selector.Reads name → ∃ p, m.Declares name p := by
    simp only [select_eq_ok_iff, Expr.mem_rowMembers_iff, exists_and_left, exists_eq, and_true]
  simp only [Traversal.exists_eq_error_iff, hok, ApiModule.exists_refuses_iff, not_forall,
    exists_prop]

theorem properties_of_select (h : select m c selector = .ok c') :
    c'.properties = selector.selected? := by
  obtain ⟨-, rfl⟩ := select_eq_ok_iff.mp h
  rfl

end Clauses

namespace Expr

theorem selected?_eq_none_iff {e : Expr} : e.selected? = none ↔ e.ExposesRow := by
  rw [← usesWholeRow_iff, selected?]
  split_ifs with hw <;> simp [hw]

theorem mem_selected?_iff {e : Expr} {names : List String} (h : e.selected? = some names)
    {n : String} : n ∈ names ↔ ∃ name, e.Reads name ∧ n = MemberName.wire name := by
  rw [mem_of_selected? h, List.mem_map]
  simp only [mem_rowMembers_iff, eq_comm]

theorem pairwise_of_selected? {e : Expr} {names : List String} (h : e.selected? = some names) :
    names.Pairwise (· < ·) := by
  unfold selected? at h
  split_ifs at h
  obtain rfl := Option.some.inj h
  exact NameSet.pairwise_ofList _

end Expr

namespace Clauses

open Text.Utf8 (encode encode_toList_le_iff encode_toList_lt_iff)

/-- A selection fails just if a member that is read of the row is refused, and reports the least of
these names in the order of their bytes. Otherwise it fetches what is read of the row, or everything
where the row stands by itself, and leaves the values and the order as they are. -/
theorem select_refuses_least (m : ApiModule) (c : Clauses) (selector : Expr) :
    ((∃ failure, select m c selector = .error failure) ↔
      ∃ name, selector.Reads name ∧ ∃ failure, m.Refuses name failure) ∧
    (∀ failure, select m c selector = .error failure ↔
      ∃ name, selector.Reads name ∧ m.Refuses name failure ∧
        ∀ other, selector.Reads other → (∃ f, m.Refuses other f) →
          encode name.toList ≤ encode other.toList) ∧
    ∀ c', select m c selector = .ok c' →
      (c'.properties = none ↔ selector.ExposesRow) ∧
      (∀ names, c'.properties = some names →
        names.Pairwise (fun n n' => encode n.toList < encode n'.toList) ∧
        ∀ n, n ∈ names ↔ ∃ name, selector.Reads name ∧ n = MemberName.wire name) ∧
      c'.values = c.values ∧ c'.sort = c.sort ∧ c'.ascending = c.ascending := by
  simp only [encode_toList_le_iff, encode_toList_lt_iff]
  refine ⟨select_fails_iff, fun failure => select_eq_error_iff, fun c' h => ?_⟩
  have hproperties := properties_of_select h
  obtain ⟨-, rfl⟩ := select_eq_ok_iff.mp h
  refine ⟨?_, fun names hnames => ?_, rfl, rfl, rfl⟩
  · rw [hproperties]
    exact Expr.selected?_eq_none_iff
  · rw [hproperties] at hnames
    exact ⟨Expr.pairwise_of_selected? hnames, fun n => Expr.mem_selected?_iff hnames⟩

/-- Of three members that are refused the least is reported, though it is written last, and the
member of a member is not looked up. A record that counts the fields of the row exposes it. -/
theorem select_refuses_least_of_three :
    let m : ApiModule := ⟨"items", "it", [⟨"title", .named "string", false⟩], true⟩
    let refused : Expr := .record [("a", .member (.member .row "zz") "9x"),
      ("b", .not (.member .row "default")), ("c", .call .concat [.member .row "Title",
        .member .row "Nope"])]
    let counted : Expr := .record [("a", .member .row "Title"), ("b", .call .length [.row])]
    (select m .empty refused = .error (.unknownProperty "items" "Nope") ∧
      ∃ name, refused.Reads name ∧ m.Refuses name (.unknownProperty "items" "Nope") ∧
        ∀ other, refused.Reads other → (∃ f, m.Refuses other f) →
          encode name.toList ≤ encode other.toList) ∧
    ∃ c', select m .empty counted = .ok c' ∧ counted.ExposesRow := by
  intro m refused counted
  have hfails : select m .empty refused = .error (.unknownProperty "items" "Nope") := by rfl
  have hok : select m .empty counted =
      .ok (empty.withSelection none (.of counted)) := by rfl
  obtain ⟨-, hleast, -⟩ := select_refuses_least m .empty refused
  obtain ⟨-, -, hselected⟩ := select_refuses_least m .empty counted
  exact ⟨⟨hfails, (hleast _).mp hfails⟩, _, hok, (hselected _ hok).1.mp rfl⟩

end Clauses

end WikiRows
