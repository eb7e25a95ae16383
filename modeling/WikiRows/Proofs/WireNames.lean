import WikiRows.Proofs.Agreement
import WikiRows.Proofs.Collisions
import WikiRows.Proofs.Spelling

/-!
# Members that requests tell apart

Two legal member names go by the same name in requests just when they differ in the case of their
letters only. `value` and `defaultValue` are renamed, but neither `*` nor `default` is a legal member
name, so that no other member can go by these. What a clause writes into a request is written under
the wire name of a member that it reads (`Step.exists_member_of_mem_names`).
-/

namespace WikiRows

namespace MemberName

variable {a b : String}

theorem asciiLower_ne_default (h : isLegal a) : Text.asciiLower a ≠ "default" := by
  obtain ⟨c, rest, hn, -⟩ := exists_cons_of_isLegal h
  have hdefault : Text.asciiLower "default" = "default" := by rfl
  simp only [isLegal, hn, Text.asciiCaseEq, hdefault, Bool.and_eq_true, Bool.not_eq_true',
    decide_eq_false_iff_not] at h
  exact h.2

theorem asciiLower_ne_star (h : isLegal a) : Text.asciiLower a ≠ "*" := by
  intro hstar
  rw [Text.eq_star_of_asciiLower hstar] at h
  exact absurd h (by decide)

/-- The three cases of a wire name, by the lower case of the member name. -/
theorem wire_cases (h : isLegal a) :
    Text.asciiLower a = "value" ∧ wire a = "*" ∨
      Text.asciiLower a = "defaultvalue" ∧ wire a = "default" ∨
      Text.asciiLower a ≠ "value" ∧ Text.asciiLower a ≠ "defaultvalue" ∧
        wire a = Text.asciiLower a := by
  simp only [wire, lower_of_isLegal h]
  split_ifs with hvalue hdefault
  · exact .inl ⟨hvalue, rfl⟩
  · exact .inr (.inl ⟨hdefault, rfl⟩)
  · exact .inr (.inr ⟨hvalue, hdefault, rfl⟩)

theorem wire_eq_wire_iff (ha : isLegal a) (hb : isLegal b) :
    wire a = wire b ↔ Text.asciiCaseEq a b := by
  rw [Text.asciiCaseEq, decide_eq_true_eq]
  constructor
  · intro heq
    -- A renamed member keeps its wire name for itself, as no lower case of a member name is `*` or
    -- `default`.
    rcases wire_cases ha with ⟨hla, hwa⟩ | ⟨hla, hwa⟩ | ⟨-, -, hwa⟩ <;>
      rcases wire_cases hb with ⟨hlb, hwb⟩ | ⟨hlb, hwb⟩ | ⟨-, -, hwb⟩ <;>
      rw [hwa, hwb] at heq
    · rw [hla, hlb]
    · exact absurd heq (by decide)
    · exact absurd heq.symm (asciiLower_ne_star hb)
    · exact absurd heq (by decide)
    · rw [hla, hlb]
    · exact absurd heq.symm (asciiLower_ne_default hb)
    · exact absurd heq (asciiLower_ne_star ha)
    · exact absurd heq (asciiLower_ne_default ha)
    · exact heq
  · intro heq
    simp only [wire, lower_of_isLegal ha, lower_of_isLegal hb, heq]

end MemberName

theorem Condition.Fits.declares {m : ApiModule} {d : Condition} (h : d.Fits m) :
    ∃ p, m.Declares d.member p := by
  cases h with
  | flag declared | noFlag declared | equal declared _ => exact ⟨_, declared⟩

/-- The names that clauses write into a request: of values, of the sort key and of the properties to
fetch. -/
def Clauses.names (c : Clauses) : List String :=
  c.valueNames ++ c.sort.toList ++ c.properties.getD []

theorem Expr.exists_member_of_written {m : ApiModule} {e : Expr} {written : List (String × String)}
    (h : e.written m = .ok written) {n : String} (hn : n ∈ written.map Prod.fst) :
    ∃ a ∈ e.rowMembers, (∃ p, m.Declares a p) ∧ MemberName.wire a = n := by
  obtain ⟨ds, hds, rfl⟩ := Traversal.map_eq_ok_iff.mp h
  obtain ⟨w, hw, rfl⟩ := List.mem_map.mp hn
  obtain ⟨d, hd, hwritten⟩ := List.mem_filterMap.mp hw
  obtain ⟨t, ht, hcondition⟩ := Traversal.exists_of_mem_mapM hds hd
  obtain ⟨hdenotes, hfits⟩ := condition_eq_ok_iff.mp hcondition
  refine ⟨d.member, ?_, hfits.declares, (Condition.fst_of_written? hwritten).symm⟩
  rw [rowMembers_eq_flatMap, List.mem_flatMap]
  exact ⟨t, ht, by simp [rowMembers_of_denotes hdenotes]⟩

theorem Clauses.exists_member_of_sort {m : ApiModule} {c c' : Clauses} {key : Expr}
    {ascending : Bool} (h : c.orderBy m key ascending = .ok c') {n : String}
    (hn : c'.sort = some n) :
    ∃ a ∈ key.rowMembers, (∃ p, m.Declares a p) ∧ MemberName.wire a = n := by
  unfold orderBy at h
  split at h
  · obtain rfl := Except.ok.inj h
    cases hn
  · next name =>
    obtain ⟨⟨wire, p⟩, hfound, hc⟩ := Traversal.bind_eq_ok_iff.mp h
    obtain rfl := Except.ok.inj hc
    obtain ⟨rfl, hp⟩ := ApiModule.resolve_eq_ok_iff.mp hfound
    exact ⟨name, by simp [Expr.rowMembers], ⟨p, hp⟩, Option.some.inj hn⟩
  · cases h
  · cases h

namespace Step

def members : Step → List String
  | filter predicate => predicate.rowMembers
  | orderBy key _ => key.rowMembers
  | select selector => selector.rowMembers
  | selectIdentity _ => []

theorem exists_member_of_mem_names {m : ApiModule} {s : Step} {q : Query}
    (h : s.extend (.new m) = .ok q) {n : String} (hn : n ∈ q.clauses.names) :
    ∃ a ∈ s.members, (∃ p, m.Declares a p) ∧ MemberName.wire a = n := by
  rw [extend_eq] at h
  obtain ⟨e, he, rfl⟩ := Traversal.map_eq_ok_iff.mp h
  change n ∈ (e.apply .empty).names at hn
  change s.effect m = .ok e at he
  cases s with
  | filter predicate =>
    obtain ⟨written, hwritten, rfl⟩ := Traversal.map_eq_ok_iff.mp he
    have hmem : n ∈ (Clauses.empty.withValues written).valueNames := by
      simpa [Clauses.names, Effect.apply, Clauses.withValues_eq, Clauses.empty] using hn
    refine Expr.exists_member_of_written hwritten ?_
    simpa [Clauses.valueNames, Clauses.empty] using Clauses.mem_valueNames_withValues.mp hmem
  | orderBy key ascending =>
    obtain ⟨c, hc, rfl⟩ := Traversal.map_eq_ok_iff.mp he
    refine Clauses.exists_member_of_sort hc ?_
    simpa [Clauses.names, Effect.apply, Clauses.withSort, Clauses.empty, Clauses.valueNames] using hn
  | select selector =>
    obtain ⟨wires, hwires, rfl⟩ := Traversal.map_eq_ok_iff.mp he
    have hmem : n ∈ selector.selected?.getD [] := by
      simpa [Clauses.names, Effect.apply, Clauses.withSelection, Clauses.empty,
        Clauses.valueNames] using hn
    cases hsel : selector.selected? with
    | none => simp [hsel] at hmem
    | some names =>
      rw [hsel] at hmem
      obtain ⟨a, ha, rfl⟩ := List.mem_map.mp ((Expr.mem_of_selected? hsel).mp hmem)
      have hd := (ApiModule.resolveAll_eq_ok_iff.mp hwires).1 a (NameSet.mem_ofList.mpr ha)
      exact ⟨a, ha, hd, rfl⟩
  | selectIdentity declared =>
    obtain ⟨c, -, rfl⟩ := Traversal.map_eq_ok_iff.mp he
    simp [Clauses.names, Effect.apply, Clauses.empty, Clauses.valueNames] at hn

/-- A flag, a sort key and a selected member are each written under the name of their member. -/
theorem names_of_member {m : ApiModule} {a : String} {p : Property} (h : m.Declares a p)
    (ascending : Bool) {s : Step}
    (hs : s ∈ [filter (.member .row a), orderBy (.member .row a) ascending,
      select (.member .row a)]) :
    ∃ q, s.extend (.new m) = .ok q ∧ q.clauses.names = [MemberName.wire a] := by
  have hresolve : m.resolve a = .ok (MemberName.wire a, p) :=
    ApiModule.resolve_eq_ok_iff.mpr ⟨rfl, h⟩
  simp only [List.mem_cons, List.not_mem_nil, or_false] at hs
  rcases hs with rfl | rfl | rfl
  · have hfilter : Clauses.empty.filter m (.member .row a) =
        .ok (Clauses.empty.withValue (MemberName.wire a) Clauses.flagValue) := by
      change Clauses.filterFlag m a .empty = _
      rw [Clauses.filterFlag, hresolve]
      rfl
    refine ⟨⟨m, _⟩, congrArg (Query.withClauses (.new m)) hfilter, rfl⟩
  · have horder : Clauses.empty.orderBy m (.member .row a) ascending =
        .ok (Clauses.empty.withSort (some (MemberName.wire a)) ascending) := by
      rw [Clauses.orderBy, hresolve]
      rfl
    exact ⟨⟨m, _⟩, congrArg (Query.withClauses (.new m)) horder, rfl⟩
  · exact ⟨⟨m, _⟩, congrArg (Query.withClauses (.new m)) (Clauses.select_rowMember h .empty), rfl⟩

end Step

/-- Two legal member names go by the same name just when they are equal up to the case of ASCII
letters. A clause on one member writes this name, and whatever name two clauses both write, they
write it for members that are equal so. -/
theorem MemberName.wire_collision_free :
    (∀ a b, isLegal a → isLegal b → (wire a = wire b ↔ Text.asciiCaseEq a b)) ∧
    (∀ (m : ApiModule) (a : String) (ascending : Bool), (∃ p, m.Declares a p) →
      ∀ s ∈ [Step.filter (.member .row a), .orderBy (.member .row a) ascending,
        .select (.member .row a)],
      ∃ q, s.extend (.new m) = .ok q ∧ q.clauses.names = [wire a]) ∧
    ∀ (m : ApiModule) (s t : Step) (q r : Query),
      s.extend (.new m) = .ok q → t.extend (.new m) = .ok r →
      ∀ n, n ∈ q.clauses.names → n ∈ r.clauses.names →
        ∃ a ∈ s.members, ∃ b ∈ t.members, wire a = n ∧ wire b = n ∧ Text.asciiCaseEq a b := by
  refine ⟨fun a b ha hb => wire_eq_wire_iff ha hb, ?_, ?_⟩
  · rintro m a ascending ⟨p, hp⟩ s hs
    exact Step.names_of_member hp ascending hs
  · intro m s t q r hs ht n hq hr
    obtain ⟨a, ha, ⟨p, hp⟩, rfl⟩ := Step.exists_member_of_mem_names hs hq
    obtain ⟨b, hb, ⟨p', hp'⟩, hwire⟩ := Step.exists_member_of_mem_names ht hr
    exact ⟨a, ha, b, hb, rfl, hwire, (wire_eq_wire_iff hp.1 hp'.1).mp hwire.symm⟩

/-- The text of a row and a default value under their wire names. `VALUE` is `value`, and neither is
`defaultValue`; a filter and a selection that both write `*` are about two spellings of `value`. -/
theorem MemberName.wire_collision_free_value :
    let m : ApiModule := ⟨"items", "it", [⟨"*", .named "string", false⟩,
      ⟨"default", .named "string", false⟩], true⟩
    let s : Step := .filter (.binary .and (.member .row "defaultValue")
      (.binary .equal (.member .row "VALUE") (.const (.str "a"))))
    let t : Step := .select (.record [("text", .member .row "value")])
    isLegal "VALUE" ∧ isLegal "value" ∧ isLegal "defaultValue" ∧
    wire "VALUE" = wire "value" ∧ wire "defaultValue" ≠ wire "value" ∧
    (∃ q, Step.extend (.new m) (.filter (.member .row "VALUE")) = .ok q ∧
      q.clauses.names = [wire "VALUE"]) ∧
    ∃ q r, s.extend (.new m) = .ok q ∧ t.extend (.new m) = .ok r ∧
      "*" ∈ q.clauses.names ∧ "*" ∈ r.clauses.names ∧
      ∃ a ∈ s.members, ∃ b ∈ t.members, wire a = "*" ∧ wire b = "*" ∧ Text.asciiCaseEq a b := by
  intro m s t
  obtain ⟨hwire, hone, hboth⟩ := wire_collision_free
  have hupper : isLegal "VALUE" := by decide
  have hlower : isLegal "value" := by decide
  have hother : isLegal "defaultValue" := by decide
  have hdeclared : ∃ p, m.Declares "VALUE" p := ⟨⟨"*", .named "string", false⟩, hupper, rfl⟩
  have hs : s.extend (.new m) =
      .ok ⟨m, ⟨[("default", ""), ("*", "a")], none, none, none, none⟩⟩ := by rfl
  have ht : t.extend (.new m) = .ok ⟨m, Clauses.empty.withSelection (some ["*"])
      (.of (.record [("text", .member .row "value")]))⟩ := by rfl
  have hmems : "*" ∈ (⟨[("default", ""), ("*", "a")], none, none, none, none⟩ : Clauses).names := by
    decide
  have hmemt : "*" ∈ (Clauses.empty.withSelection (some ["*"])
      (.of (.record [("text", .member .row "value")]))).names := by decide
  refine ⟨hupper, hlower, hother, (hwire _ _ hupper hlower).mpr (by rfl), ?_, ?_, ?_⟩
  · rw [Ne, hwire _ _ hother hlower]
    decide
  · exact hone m "VALUE" true hdeclared _ (by simp)
  · exact ⟨_, _, hs, ht, hmems, hmemt, hboth m s t _ _ hs ht "*" hmems hmemt⟩

end WikiRows
