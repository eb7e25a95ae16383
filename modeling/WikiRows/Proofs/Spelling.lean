import WikiRows.Proofs.Narrowing
import WikiRows.Query.Answer

/-!
# How the name of a property is spelled

A member resolves to a property whatever the case of the letters in its declared name, but it is
read and asked for by its wire name, which is in lower case. So a selected member is the property
that it resolved to just when that property is declared in lower case.
-/

namespace WikiRows

namespace Text

theorem asciiLower_asciiLower (s : String) : asciiLower (asciiLower s) = asciiLower s := by
  have htwice : Char.toLower ∘ Char.toLower = Char.toLower :=
    funext Char.toLower_toLower_eq_toLower
  simp only [asciiLower, String.toList_ofList, List.map_map, htwice]

theorem eq_star_of_asciiLower {s : String} (h : asciiLower s = "*") : s = "*" := by
  have hlist : s.toList.map Char.toLower = ['*'] := by
    rw [asciiLower, ← String.toList_inj, String.toList_ofList] at h
    exact h
  obtain ⟨c, hs, hc⟩ := List.map_eq_singleton_iff.mp hlist
  have hupper : ¬ c.isUpper := by
    intro hu
    have hl : c.toLower.isAlpha := by simp [Char.isAlpha, hu]
    rw [hc] at hl
    exact absurd hl (by decide)
  rw [Char.toLower_eq_of_not_isUpper hupper] at hc
  rw [← String.toList_inj, hs, hc]
  rfl

end Text

theorem MemberName.asciiLower_wire {name : String} (h : isLegal name) :
    Text.asciiLower (wire name) = wire name := by
  simp only [wire, lower_of_isLegal h]
  split_ifs
  · rfl
  · rfl
  · exact Text.asciiLower_asciiLower name

namespace ApiModule

variable {m : ApiModule} {name : String} {p : Property}

theorem Declares.mem (h : m.Declares name p) : p ∈ m.properties := List.mem_of_find?_eq_some h.2

theorem Declares.asciiLower_name (h : m.Declares name p) :
    Text.asciiLower p.name = MemberName.wire name := by
  have hcase : Text.asciiCaseEq p.name (MemberName.wire name) = true :=
    List.find?_some (p := fun q : Property => Text.asciiCaseEq q.name (MemberName.wire name)) h.2
  rw [Text.asciiCaseEq, decide_eq_true_eq] at hcase
  rw [hcase, MemberName.asciiLower_wire h.1]

theorem Declares.wire_eq_iff (h : m.Declares name p) :
    MemberName.wire name = p.name ↔ Text.asciiLower p.name = p.name := by
  rw [h.asciiLower_name]

theorem Declares.wire_ne_star (h : m.Declares name p) (hp : p.name ≠ "*") :
    MemberName.wire name ≠ "*" := by
  intro hstar
  exact hp (Text.eq_star_of_asciiLower (h.asciiLower_name.trans hstar))

end ApiModule

/-- Selecting a member of the row asks for its wire name and reads what stands under it. -/
theorem Clauses.select_rowMember {m : ApiModule} {name : String} {p : Property}
    (h : m.Declares name p) (c : Clauses) :
    select m c (.member .row name) =
      .ok (c.withSelection (some [MemberName.wire name]) (.of (.member .row name))) := by
  rw [select_eq_ok_iff]
  refine ⟨?_, rfl⟩
  intro n hn
  obtain rfl := List.mem_singleton.mp hn
  exact ⟨p, h⟩

namespace Query

variable {m : ApiModule} {name wire : String} {p : Property}

theorem propertyParameter_of_mem {c : Clauses} {name : String} (h : name ∈ fetched m c) :
    propertyParameter m c = [.text (m.stem ++ "prop") ("|".intercalate (fetched m c))] := by
  have hnonempty : (fetched m c).isEmpty = false :=
    List.isEmpty_eq_false_iff.mpr (List.ne_nil_of_mem h)
  simp [propertyParameter, hnonempty]

/-- A selected member is read from every row that holds the property it resolved to, and this
property is asked for as it is without a selection, if and only if it is declared in lower case. -/
theorem selected_as_declared_iff (h : m.resolve name = .ok (wire, p)) (c : Clauses)
    (hc : c.properties = none) :
    let declared := (m.properties.map Property.name).filter (· ≠ "*")
    ∃ c', Clauses.select m c (.member .row name) = .ok c' ∧
      ((∀ (r : Row) (v : String), r.lookup p.name = some v → c'.project r = .str v) ↔
        Text.asciiLower p.name = p.name) ∧
      (p.name ≠ "*" →
        requestOf m c = .text "action" "query" :: .text (kindName m) m.name ::
          .text (m.stem ++ "prop") ("|".intercalate declared) :: laterParameters m c ∧
        p.name ∈ declared ∧
        requestOf m c' = .text "action" "query" :: .text (kindName m) m.name ::
          .text (m.stem ++ "prop") wire :: laterParameters m c' ∧
        (wire = p.name ↔ Text.asciiLower p.name = p.name)) := by
  intro declared
  obtain ⟨rfl, hd⟩ := ApiModule.resolve_eq_ok_iff.mp h
  obtain ⟨c', hc'⟩ : ∃ c', c' =
      c.withSelection (some [MemberName.wire name]) (.of (.member .row name)) := ⟨_, rfl⟩
  have hproject : ∀ r : Row,
      c'.project r = ((r.lookup (MemberName.wire name)).map .str).getD .null := by
    intro r
    rw [hc']
    exact Expr.eval_rowMember r name
  refine ⟨c', by rw [hc', Clauses.select_rowMember hd], ?_, ?_⟩
  · rw [← hd.wire_eq_iff]
    constructor
    · intro hread
      by_contra hne
      -- A row with nothing but the declared name is read as null.
      have hnull := hread [(p.name, "")] "" (by simp)
      rw [hproject, List.lookup_cons, beq_false_of_ne hne] at hnull
      exact absurd hnull (by simp)
    · intro heq r v hv
      rw [hproject, heq, hv]
      rfl
  · intro hp
    have hfetched : fetched m c = declared := by rw [fetched, hc, Option.getD_none]
    have hmem : p.name ∈ declared :=
      List.mem_filter.mpr ⟨List.mem_map_of_mem hd.mem, by simpa using hp⟩
    have hall := propertyParameter_of_mem (hfetched ▸ hmem)
    have hone : propertyParameter m c' = [.text (m.stem ++ "prop") (MemberName.wire name)] := by
      rw [propertyParameter_of_some (by rw [hc']; rfl)]
      simp [hd.wire_ne_star hp]
    refine ⟨?_, hmem, ?_, hd.wire_eq_iff⟩
    · rw [requestOf_eq, hall, hfetched]
      rfl
    · rw [requestOf_eq, hone]
      rfl

/-- The text of a page and its title: `Title` resolves to the title, which is declared in lower
case. -/
theorem selected_as_declared_title :
    let m : ApiModule := ⟨"items", "it", [⟨"*", .named "string", false⟩,
      ⟨"title", .named "string", false⟩], true⟩
    m.resolve "Title" = .ok ("title", ⟨"title", .named "string", false⟩) ∧
    Clauses.empty.properties = none ∧
    ∃ c', Clauses.select m .empty (.member .row "Title") = .ok c' ∧
      (∀ (r : Row) (v : String), r.lookup "title" = some v → c'.project r = .str v) ∧
      requestOf m c' = [.text "action" "query", .text "list" "items", .text "itprop" "title",
        .text "itlimit" "max"] := by
  intro m
  have h : m.resolve "Title" = .ok ("title", ⟨"title", .named "string", false⟩) := by rfl
  obtain ⟨c', hc', hread, hasked⟩ := selected_as_declared_iff h .empty rfl
  obtain ⟨-, -, hrequest, -⟩ := hasked (by decide)
  have hlower : Text.asciiLower "title" = "title" := by rfl
  have hcompiled : Clauses.select m .empty (.member .row "Title") =
      .ok (Clauses.empty.withSelection (some ["title"]) (.of (.member .row "Title"))) := by rfl
  obtain rfl := Except.ok.inj (hc'.symm.trans hcompiled)
  exact ⟨h, rfl, _, hc', hread.mpr hlower, hrequest⟩

/-- A property that is declared with a capital letter is found in lower case, but neither read nor
asked for by its declared name. -/
theorem selected_capital_unread :
    let m : ApiModule := ⟨"items", "it", [⟨"Title", .named "string", false⟩], true⟩
    let c : Clauses := Clauses.empty.withSelection (some ["title"]) (.of (.member .row "title"))
    let row : Row := [("Title", "a")]
    m.resolve "title" = .ok ("title", ⟨"Title", .named "string", false⟩) ∧
    Clauses.select m .empty (.member .row "title") = .ok c ∧ row.lookup "Title" = some "a" ∧
    c.project row = .null ∧
    requestOf m .empty = [.text "action" "query", .text "list" "items", .text "itprop" "Title",
      .text "itlimit" "max"] ∧
    requestOf m c = [.text "action" "query", .text "list" "items", .text "itprop" "title",
      .text "itlimit" "max"] :=
  ⟨rfl, rfl, rfl, rfl, rfl, rfl⟩

end Query

end WikiRows
