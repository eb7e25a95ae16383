import WikiRows.Proofs.Member
import WikiRows.Query.Filter

/-!
# Filters as lists of conditions

The conjuncts of a filter are its maximal subtrees that are no conjunctions. Each that a request can
say denotes a condition on one member, and asks for at most one value. Compiling a filter is
compiling its conjuncts from left to right: `Expr.written` collects the values they ask for without
looking at any clauses, and `Clauses.filter_eq` says that the filter sets just these. What is asked
for is computed by `Condition.written?` and laid down by `Condition.Asks`.
-/

namespace WikiRows

/-- What a request can say about a member of the row. -/
inductive Condition where
  | flag (name : String)
  | noFlag (name : String)
  | equal (name : String) (value : Literal)
  deriving Repr

namespace Condition

def member : Condition → String
  | flag name | noFlag name | equal name _ => name

/-- The value that a condition asks for. None is asked for by a flag that is off, and by null, which
has no wire text. -/
def written? : Condition → Option (String × String)
  | flag name => some (MemberName.wire name, "")
  | noFlag _ => none
  | equal name value => value.wire?.map fun text => (MemberName.wire name, text)

/-- A condition and what it writes: the empty text for a flag that is on, the text of a constant that
is not null for an equality, and otherwise nothing. -/
inductive Asks : Condition → Option (String × String) → Prop
  | flag (name : String) : Asks (.flag name) (some (MemberName.wire name, ""))
  | noFlag (name : String) : Asks (.noFlag name) none
  | null (name : String) : Asks (.equal name .null) none
  | equal (name : String) {value : Literal} {text : String} (nonnull : value ≠ .null)
      (sent : value.wire? = some text) :
      Asks (.equal name value) (some (MemberName.wire name, text))

inductive Fits (m : ApiModule) : Condition → Prop
  | flag {name : String} {p : Property} (declared : m.Declares name p) : Fits m (.flag name)
  | noFlag {name : String} {p : Property} (declared : m.Declares name p) : Fits m (.noFlag name)
  | equal {name : String} {value : Literal} {p : Property} (declared : m.Declares name p)
      (checked : p.check value = .ok ()) : Fits m (.equal name value)

end Condition

namespace Expr

/-- The maximal subtrees that are no conjunctions, from left to right. -/
def conjuncts : Expr → List Expr
  | binary .and left right => conjuncts left ++ conjuncts right
  | e => [e]

/-- The expressions that a request can say, with what they say. -/
inductive Denotes : Expr → Condition → Prop
  | flag (name : String) : Denotes (member row name) (.flag name)
  | noFlag (name : String) : Denotes (not (member row name)) (.noFlag name)
  | memberEqual (name : String) (value : Literal) :
      Denotes (binary .equal (member row name) (const value)) (.equal name value)
  | equalMember (name : String) (value : Literal) :
      Denotes (binary .equal (const value) (member row name)) (.equal name value)

def Compiles (m : ApiModule) (t : Expr) : Prop := ∃ d, t.Denotes d ∧ d.Fits m

/-- An expression that does not compile as a conjunct, with the first thing that is wrong. -/
inductive Fails (m : ApiModule) : Expr → Failure → Prop
  | unsupported {t : Expr} (silent : ∀ d, ¬ t.Denotes d) : Fails m t (.unsupported t)
  | illegalMember {t : Expr} {d : Condition} (denotes : t.Denotes d)
      (illegal : MemberName.isLegal d.member = false) : Fails m t (.illegalMember d.member)
  | unknownProperty {t : Expr} {d : Condition} (denotes : t.Denotes d)
      (legal : MemberName.isLegal d.member) (unknown : m.property? (MemberName.wire d.member) = none) :
      Fails m t (.unknownProperty m.name d.member)
  | invalidValue {t : Expr} {name : String} {value : Literal} {p : Property} {reason : Mismatch}
      (denotes : t.Denotes (.equal name value)) (declared : m.Declares name p)
      (mismatch : p.check value = .error reason) : Fails m t (.invalidValue name reason)

def condition? : Expr → Option Condition
  | member row name => some (.flag name)
  | not (member row name) => some (.noFlag name)
  | binary .equal (member row name) (const value) => some (.equal name value)
  | binary .equal (const value) (member row name) => some (.equal name value)
  | _ => none

theorem condition?_eq_some_iff {t : Expr} {d : Condition} :
    t.condition? = some d ↔ t.Denotes d := by
  constructor
  · intro h
    unfold condition? at h
    split at h
    · cases h; exact .flag _
    · cases h; exact .noFlag _
    · cases h; exact .memberEqual _ _
    · cases h; exact .equalMember _ _
    · cases h
  · rintro (_ | _ | _ | _) <;> rfl

end Expr

namespace Condition

theorem asks_written? (d : Condition) : d.Asks d.written? := by
  cases d with
  | flag name => exact .flag name
  | noFlag name => exact .noFlag name
  | equal name value =>
    by_cases hnull : value = .null
    · subst hnull
      exact .null name
    · obtain ⟨text, htext⟩ :=
        Option.ne_none_iff_exists'.mp (mt Literal.wire?_eq_none_iff.mp hnull)
      rw [written?, htext]
      exact .equal name hnull htext

def check (m : ApiModule) (d : Condition) : Except Failure Unit :=
  match m.resolve d.member with
  | .error failure => .error failure
  | .ok (_, p) =>
    match d with
    | equal name value => (p.check value).mapError (.invalidValue name)
    | _ => .ok ()

end Condition

namespace Expr

def condition (m : ApiModule) (t : Expr) : Except Failure Condition :=
  match t.condition? with
  | none => .error (.unsupported t)
  | some d => (d.check m).map fun _ => d

/-- The values that the conjuncts of a filter ask for, from left to right. -/
def written (m : ApiModule) (e : Expr) : Except Failure (List (String × String)) :=
  (e.conjuncts.mapM (condition m)).map fun ds => ds.filterMap Condition.written?

end Expr

namespace Clauses

def withValues (c : Clauses) (written : List (String × String)) : Clauses :=
  written.foldl (fun c w => c.withValue w.1 w.2) c

theorem withValues_eq (c : Clauses) (written : List (String × String)) :
    c.withValues written =
      { c with values := written.foldl (fun values w => setValue w.1 w.2 values) c.values } := by
  induction written generalizing c with
  | nil => rfl
  | cons w written ih =>
    rw [withValues, List.foldl_cons]
    exact ih (c.withValue w.1 w.2)

theorem withValues_append (c : Clauses) (ws vs : List (String × String)) :
    c.withValues (ws ++ vs) = (c.withValues ws).withValues vs := List.foldl_append

end Clauses

namespace Expr

theorem rowMember?_eq_some_iff {e : Expr} {name : String} :
    e.rowMember? = some name ↔ e = member row name := by
  unfold rowMember?
  split <;> simp_all

theorem memberAndConstant?_eq_some_iff {left right : Expr} {name : String} {value : Literal} :
    memberAndConstant? left right = some (name, value) ↔
      left = member row name ∧ right = const value ∨
      left = const value ∧ right = member row name := by
  unfold memberAndConstant?
  constructor
  · intro h
    split at h
    · simp_all [rowMember?_eq_some_iff]
    · split at h
      · simp_all [rowMember?_eq_some_iff]
      · simp at h
  · rintro (⟨rfl, rfl⟩ | ⟨rfl, rfl⟩) <;> rfl

end Expr

namespace Condition

theorem check_eq_ok_iff {m : ApiModule} {d : Condition} {u : Unit} :
    d.check m = .ok u ↔ d.Fits m := by
  unfold check
  cases hr : m.resolve d.member with
  | error failure =>
    have hn : ∀ p, ¬ m.Declares d.member p := by
      intro p hp
      simp [ApiModule.resolve_eq_ok_iff.mpr ⟨rfl, hp⟩] at hr
    simp only [reduceCtorEq, false_iff]
    rintro (hp | hp | ⟨hp, -⟩)
    · exact hn _ hp
    · exact hn _ hp
    · exact hn _ hp
  | ok found =>
    obtain ⟨wire, p⟩ := found
    obtain ⟨rfl, hp⟩ := ApiModule.resolve_eq_ok_iff.mp hr
    cases d with
    | flag name => exact iff_of_true rfl (.flag hp)
    | noFlag name => exact iff_of_true rfl (.noFlag hp)
    | equal name value =>
      constructor
      · intro h
        cases hc : p.check value with
        | error reason => simp [hc, Except.mapError] at h
        | ok u => exact .equal hp hc
      · rintro (_ | _ | ⟨hq, hc⟩)
        obtain rfl := Option.some.inj (hp.2.symm.trans hq.2)
        simp [hc, Except.mapError]

theorem check_eq_error_iff {m : ApiModule} {t : Expr} {d : Condition} {failure : Failure}
    (ht : t.Denotes d) : d.check m = .error failure ↔ t.Fails m failure := by
  have huniq : ∀ e, t.Denotes e → e = d := by
    intro e he
    rw [← Expr.condition?_eq_some_iff] at he ht
    exact Option.some.inj (he.symm.trans ht)
  constructor
  · intro h
    unfold check at h
    split at h
    · next f hr =>
      cases h
      rcases ApiModule.resolve_eq_error_iff.mp hr with ⟨hl, rfl⟩ | ⟨hl, hp, rfl⟩
      · exact .illegalMember ht hl
      · exact .unknownProperty ht hl hp
    · next wire p hr =>
      obtain ⟨-, hp⟩ := ApiModule.resolve_eq_ok_iff.mp hr
      split at h
      · next name value =>
        cases hc : p.check value with
        | ok u => simp [hc, Except.mapError] at h
        | error reason =>
          rw [hc] at h
          cases h
          exact .invalidValue ht hp hc
      · cases h
  · rintro (hn | ⟨he, hl⟩ | ⟨he, hl, hp⟩ | ⟨he, hp, hc⟩)
    · exact absurd ht (hn d)
    · obtain rfl := huniq _ he
      simp [check, ApiModule.resolve_eq_error_iff.mpr (.inl ⟨hl, rfl⟩)]
    · obtain rfl := huniq _ he
      simp [check, ApiModule.resolve_eq_error_iff.mpr (.inr ⟨hl, hp, rfl⟩)]
    · obtain rfl := huniq _ he
      have hr := ApiModule.resolve_eq_ok_iff.mpr ⟨rfl, hp⟩
      simp [check, member, hr, hc, Except.mapError]

end Condition

namespace Expr

theorem condition_eq_ok_iff {m : ApiModule} {t : Expr} {d : Condition} :
    t.condition m = .ok d ↔ t.Denotes d ∧ d.Fits m := by
  unfold condition
  cases ht : t.condition? with
  | none => simp [← condition?_eq_some_iff, ht]
  | some e =>
    simp only [Traversal.map_eq_ok_iff, Condition.check_eq_ok_iff, ← condition?_eq_some_iff, ht]
    constructor
    · rintro ⟨-, he, rfl⟩
      exact ⟨rfl, he⟩
    · rintro ⟨hd, he⟩
      obtain rfl := Option.some.inj hd
      exact ⟨(), he, rfl⟩

theorem condition_eq_error_iff {m : ApiModule} {t : Expr} {failure : Failure} :
    t.condition m = .error failure ↔ t.Fails m failure := by
  unfold condition
  cases ht : t.condition? with
  | none =>
    have hn : ∀ d, ¬ t.Denotes d := by simp [← condition?_eq_some_iff, ht]
    constructor
    · intro h
      cases h
      exact .unsupported hn
    · rintro (- | ⟨he, -⟩ | ⟨he, -, -⟩ | ⟨he, -, -⟩)
      · rfl
      · exact absurd he (hn _)
      · exact absurd he (hn _)
      · exact absurd he (hn _)
  | some d =>
    rw [Traversal.map_eq_error_iff]
    exact Condition.check_eq_error_iff (condition?_eq_some_iff.mp ht)

end Expr

namespace Clauses

variable {m : ApiModule} {c : Clauses}

theorem filterFlag_eq (name : String) :
    filterFlag m name c =
      ((Condition.flag name).check m).map fun _ => c.withValue (MemberName.wire name) "" := by
  simp only [filterFlag, Condition.check, Condition.member]
  cases hr : m.resolve name with
  | error failure => rfl
  | ok found =>
    obtain ⟨hw, -⟩ := ApiModule.resolve_eq_ok_iff.mp hr
    change Except.ok (c.withValue found.1 flagValue) = _
    rw [hw]
    rfl

theorem filterNoFlag_eq (name : String) :
    filterNoFlag m name c = ((Condition.noFlag name).check m).map fun _ => c := by
  simp only [filterNoFlag, Condition.check, Condition.member]
  cases m.resolve name <;> rfl

theorem filterEqual_eq (name : String) (value : Literal) :
    filterEqual m name value c = ((Condition.equal name value).check m).map fun _ =>
      c.withValues (Condition.equal name value).written?.toList := by
  simp only [filterEqual, Condition.check, Condition.member, Condition.written?]
  cases hr : m.resolve name with
  | error failure => rfl
  | ok found =>
    obtain ⟨hw, -⟩ := ApiModule.resolve_eq_ok_iff.mp hr
    cases hc : found.2.check value with
    | error reason => simp [hc, bind, Except.bind, Except.mapError, Except.map, throw, throwThe,
        MonadExceptOf.throw]
    | ok u =>
      cases value.wire? <;> simp [hc, hw, bind, Except.bind, Except.mapError, Except.map, pure,
        Except.pure, withValues]

theorem filter_of_denotes {t : Expr} {d : Condition} (h : t.Denotes d) :
    filter m c t = (d.check m).map fun _ => c.withValues d.written?.toList := by
  cases h with
  | flag name => exact filterFlag_eq name
  | noFlag name => exact filterNoFlag_eq name
  | memberEqual name value => exact filterEqual_eq name value
  | equalMember name value => exact filterEqual_eq name value

theorem filter_of_silent {t : Expr} (ht : ∀ left right, t ≠ .binary .and left right)
    (h : ∀ d, ¬ t.Denotes d) :
    filter m c t = .error (.unsupported t) := by
  unfold filter
  split
  · next target name =>
    split
    · next n hn =>
      rw [Expr.rowMember?_eq_some_iff] at hn
      exact absurd (hn ▸ .flag n) (h (.flag n))
    · rfl
  · next operand =>
    split
    · next n hn =>
      rw [Expr.rowMember?_eq_some_iff] at hn
      exact absurd (hn ▸ .noFlag n) (h (.noFlag n))
    · rfl
  · next left right =>
    split
    · next n v hn =>
      rcases Expr.memberAndConstant?_eq_some_iff.mp hn with ⟨rfl, rfl⟩ | ⟨rfl, rfl⟩
      · exact absurd (.memberEqual n v) (h (.equal n v))
      · exact absurd (.equalMember n v) (h (.equal n v))
    · rfl
  · next left right => exact absurd rfl (ht left right)
  · rfl

theorem filter_conjunct {t : Expr} (ht : ∀ left right, t ≠ .binary .and left right) :
    filter m c t = (t.condition m).map fun d => c.withValues d.written?.toList := by
  unfold Expr.condition
  cases hd : t.condition? with
  | none =>
    refine filter_of_silent ht fun d h => ?_
    simp [Expr.condition?_eq_some_iff.mpr h] at hd
  | some d =>
    rw [filter_of_denotes (Expr.condition?_eq_some_iff.mp hd)]
    cases hk : d.check m <;> simp [Except.map, hk]

end Clauses

theorem Expr.written_and (m : ApiModule) (left right : Expr) :
    (binary .and left right).written m =
      left.written m >>= fun ws => (right.written m).map fun vs => ws ++ vs := by
  simp only [written, conjuncts, List.mapM_append]
  cases left.conjuncts.mapM (condition m) with
  | error failure => rfl
  | ok ds =>
    cases right.conjuncts.mapM (condition m) with
    | error failure => rfl
    | ok es => simp [bind, Except.bind, Except.map, pure, Except.pure]

theorem Clauses.filter_eq (m : ApiModule) (c : Clauses) (e : Expr) :
    filter m c e = (e.written m).map c.withValues := by
  induction e using Expr.conjuncts.induct generalizing c with
  | case1 left right ihl ihr =>
    rw [filter, ihl, Expr.written_and]
    cases left.written m with
    | error failure => rfl
    | ok ws =>
      change filter m (c.withValues ws) right = _
      rw [ihr]
      cases right.written m with
      | error failure => rfl
      | ok vs => exact congrArg Except.ok (withValues_append c ws vs).symm
  | case2 e he =>
    rw [filter_conjunct he, Expr.written, Expr.conjuncts.eq_2 e he, List.mapM_cons, List.mapM_nil]
    cases hd : e.condition m with
    | error failure => rfl
    | ok d => cases h : d.written? <;> simp [bind, Except.bind, Except.map, pure, Except.pure, h]

namespace Clauses

theorem filter_eq_ok_iff {m : ApiModule} {c c' : Clauses} {e : Expr} :
    filter m c e = .ok c' ↔ ∃ ds,
      List.Forall₂ (fun t d => t.Denotes d ∧ d.Fits m) e.conjuncts ds ∧
        c.withValues (ds.filterMap Condition.written?) = c' := by
  simp only [filter_eq, Expr.written, Traversal.map_eq_ok_iff, Traversal.mapM_eq_ok_iff,
    Expr.condition_eq_ok_iff, exists_exists_and_eq_and]

/-- A filter compiles if and only if its conjuncts do, sets the values they ask for from left to
right and nothing else, and fails as the leftmost conjunct that fails. A value is asked for by a flag
and by an equality with a constant that is not null, and by no other conjunct. -/
theorem filter_folds_conjuncts (m : ApiModule) (previous : Clauses) (e : Expr) :
    ((∃ c, filter m previous e = .ok c) ↔ ∀ t ∈ e.conjuncts, t.Compiles m) ∧
    (∀ c, filter m previous e = .ok c →
      (∃ ds written, List.Forall₂ Expr.Denotes e.conjuncts ds ∧
        List.Forall₂ Condition.Asks ds written ∧
        c = written.reduceOption.foldl (fun c w => c.withValue w.1 w.2) previous) ∧
      c.sort = previous.sort ∧ c.ascending = previous.ascending ∧
      c.properties = previous.properties ∧ c.projection = previous.projection) ∧
    (∀ failure, filter m previous e = .error failure ↔
      ∃ before t after, e.conjuncts = before ++ t :: after ∧ (∀ s ∈ before, s.Compiles m) ∧
        t.Fails m failure) := by
  refine ⟨?_, ?_, ?_⟩
  · have h : (∃ ds, e.conjuncts.mapM (Expr.condition m) = .ok ds) ↔
        ∀ t ∈ e.conjuncts, ∃ d, t.condition m = .ok d := Traversal.exists_mapM_eq_ok_iff
    simp only [Expr.condition_eq_ok_iff] at h
    simp only [Expr.Compiles, ← h, filter_eq, Expr.written, Traversal.map_eq_ok_iff]
    constructor
    · rintro ⟨_, _, ⟨ds, hds, -⟩, -⟩
      exact ⟨ds, hds⟩
    · rintro ⟨ds, hds⟩
      exact ⟨_, _, ⟨ds, hds, rfl⟩, rfl⟩
  · intro c h
    obtain ⟨ds, hds, rfl⟩ := filter_eq_ok_iff.mp h
    have hasks : List.Forall₂ Condition.Asks ds (ds.map Condition.written?) := by
      rw [List.forall₂_map_right_iff, List.forall₂_same]
      exact fun d _ => d.asks_written?
    have hwritten : (ds.map Condition.written?).reduceOption = ds.filterMap Condition.written? :=
      List.filterMap_map ..
    refine ⟨⟨ds, _, hds.imp fun _ _ hd => hd.1, hasks, ?_⟩, ?_⟩
    · rw [hwritten]
      rfl
    · rw [withValues_eq]
      exact ⟨rfl, rfl, rfl, rfl⟩
  · intro failure
    simp only [filter_eq, Expr.written, Traversal.map_eq_error_iff, Traversal.mapM_eq_error_iff,
      Expr.condition_eq_ok_iff, Expr.condition_eq_error_iff, Expr.Compiles]

/-- A flag, a flag that is off, an equality with null and one with a number, which takes the place of
an earlier one. With a disjunction behind the flag, it is the disjunction that is reported. -/
theorem filter_folds_conjuncts_mixed :
    let m : ApiModule := ⟨"items", "it", [⟨"redirect", .named "boolean", false⟩,
      ⟨"title", .named "string", true⟩, ⟨"ns", .named "integer", false⟩], true⟩
    let previous : Clauses := ⟨[("ns", "0"), ("user", "A")], some "title", some false, none, none⟩
    let flag : Expr := .member .row "Redirect"
    let noFlag : Expr := .not flag
    let null : Expr := .binary .equal (.member .row "title") (.const .null)
    let number : Expr := .binary .equal (.const (.int 14)) (.member .row "ns")
    let either : Expr := .binary .or flag number
    let e : Expr := .binary .and (.binary .and flag noFlag) (.binary .and null number)
    let e' : Expr := .binary .and flag (.binary .and either (.member .row "missing"))
    (∀ t ∈ [flag, noFlag, null, number], t.Compiles m) ∧
    filter m previous e = .ok ⟨[("ns", "14"), ("user", "A"), ("redirect", "")], some "title",
      some false, none, none⟩ ∧
    filter m previous e' = .error (.unsupported either) := by
  intro m previous flag noFlag null number either e e'
  have hfilter : filter m previous e = .ok ⟨[("ns", "14"), ("user", "A"), ("redirect", "")],
    some "title", some false, none, none⟩ := by rfl
  have hcompiles := (filter_folds_conjuncts m previous e).1.mp ⟨_, hfilter⟩
  have hsilent : ∀ d, ¬ either.Denotes d := by
    intro d hd
    simpa [either, Expr.condition?] using Expr.condition?_eq_some_iff.mpr hd
  have hfails : either.Fails m (.unsupported either) := .unsupported hsilent
  refine ⟨hcompiles, hfilter, ((filter_folds_conjuncts m previous e').2.2 _).mpr
    ⟨[flag], either, [.member .row "missing"], rfl, ?_, hfails⟩⟩
  intro s hs
  exact hcompiles s (List.mem_cons.mpr (.inl (List.mem_singleton.mp hs)))

end Clauses

end WikiRows
