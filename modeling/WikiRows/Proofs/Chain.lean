import WikiRows.Proofs.Conjuncts
import WikiRows.Proofs.Narrowing
import WikiRows.Query.Answer
import WikiRows.Query.Spec

/-!
# Chains of clauses

A chain is a list of steps, each of which adds a clause to a query; a step that fails leaves the
query as it was. What a step does has one of four effects on the clauses, and which one depends on
the module and the step alone (`Step.extend_eq`). A run keeps the values of its filters in order,
the last sort clause and the last selection.
-/

namespace WikiRows

inductive Step where
  | filter (predicate : Expr)
  | orderBy (key : Expr) (ascending : Bool)
  | select (selector : Expr)
  | selectIdentity (declared : List Property)
  deriving Repr

inductive Effect where
  | values (written : List (String × String))
  | sort (key : Option String) (ascending : Bool)
  | selection (properties : Option (List String)) (projection : Projection)
  | nothing

namespace Clauses

def sorting (c : Clauses) : Option String × Option Bool := (c.sort, c.ascending)

def selection (c : Clauses) : Option (List String) × Option Projection :=
  (c.properties, c.projection)

theorem ext_parts {c d : Clauses} (hv : c.values = d.values) (hs : c.sorting = d.sorting)
    (hp : c.selection = d.selection) : c = d := by
  cases c
  cases d
  simp_all [sorting, selection]

theorem sorting_withValues (c : Clauses) (written : List (String × String)) :
    (c.withValues written).sorting = c.sorting := by
  rw [withValues_eq]
  rfl

theorem selection_withValues (c : Clauses) (written : List (String × String)) :
    (c.withValues written).selection = c.selection := by
  rw [withValues_eq]
  rfl

end Clauses

namespace Effect

def apply (c : Clauses) : Effect → Clauses
  | values written => c.withValues written
  | sort key ascending => c.withSort key ascending
  | selection properties projection => c.withSelection properties projection
  | nothing => c

end Effect

namespace Step

def extend (q : Query) : Step → Except Failure Query
  | filter predicate => q.filter predicate
  | orderBy key ascending => q.orderBy key ascending
  | select selector => q.select selector
  | selectIdentity declared => q.selectIdentity declared

/-- Whether a step succeeds on a query about which nothing has been said. -/
def succeeds (m : ApiModule) (s : Step) : Bool := (s.extend (.new m)).toBool

def effect (m : ApiModule) : Step → Except Failure Effect
  | filter predicate => (predicate.written m).map .values
  | orderBy key ascending =>
    (Clauses.empty.orderBy m key ascending).map fun c => .sort c.sort ascending
  | select selector =>
    (m.resolveAll (NameSet.ofList selector.rowMembers)).map fun _ =>
      .selection selector.selected? (.ofSelector selector)
  | selectIdentity declared =>
    (Clauses.empty.selectIdentity m .row declared).map fun _ => .nothing

def isFilter : Step → Bool
  | filter _ => true
  | _ => false

def isOrderBy : Step → Bool
  | orderBy _ _ => true
  | _ => false

def isSelect : Step → Bool
  | select _ => true
  | _ => false

def selector? : Step → Option Expr
  | select selector => some selector
  | _ => none

end Step

namespace Query

/-- Takes a step, or stays where the step fails. -/
def attempt (q : Query) (s : Step) : Query :=
  match s.extend q with
  | .ok next => next
  | .error _ => q

/-- The query at the end of a chain. -/
def run (m : ApiModule) (steps : List Step) : Query := steps.foldl attempt (.new m)

def accepted (m : ApiModule) (steps : List Step) : List Step := steps.filter (·.succeeds m)

/-- Chains with the same filters in the same order, the same last sort clause and the same last
selection, counting only the steps that succeed. -/
structure SameClauses (m : ApiModule) (xs ys : List Step) : Prop where
  filters : (accepted m xs).filter Step.isFilter = (accepted m ys).filter Step.isFilter
  sort : ((accepted m xs).filter Step.isOrderBy).getLast? =
    ((accepted m ys).filter Step.isOrderBy).getLast?
  selection : ((accepted m xs).filter Step.isSelect).getLast? =
    ((accepted m ys).filter Step.isSelect).getLast?

end Query

def QuerySpec.steps (s : QuerySpec) : List Step :=
  s.filter.toList.map .filter ++ s.orderBy.toList.map (fun o => .orderBy o.key o.ascending) ++
    s.select.toList.map .select

namespace Clauses

theorem orderBy_eq (m : ApiModule) (c : Clauses) (key : Expr) (ascending : Bool) :
    c.orderBy m key ascending =
      (empty.orderBy m key ascending).map fun d => c.withSort d.sort ascending := by
  unfold orderBy
  split
  · rfl
  · next name => cases m.resolve name <;> rfl
  · rfl
  · rfl

theorem selectIdentity_eq (m : ApiModule) (c : Clauses) (declared : List Property) :
    c.selectIdentity m .row declared =
      (empty.selectIdentity m .row declared).map fun _ => c := by
  unfold selectIdentity
  dsimp only
  split_ifs <;> rfl

end Clauses

namespace Step

/-- What a step does to a query depends on the module of the query and on the step alone. -/
theorem extend_eq (q : Query) (s : Step) :
    s.extend q = (s.effect q.target).map fun e => { q with clauses := e.apply q.clauses } := by
  cases s with
  | filter predicate =>
    simp only [extend, Query.filter, Query.withClauses, Clauses.filter_eq, effect]
    cases predicate.written q.target <;> rfl
  | orderBy key ascending =>
    simp only [extend, Query.orderBy, Query.withClauses, effect]
    rw [Clauses.orderBy_eq]
    cases Clauses.empty.orderBy q.target key ascending <;> rfl
  | select selector =>
    simp only [extend, Query.select, Query.withClauses, effect]
    rw [Clauses.select_eq]
    cases q.target.resolveAll (NameSet.ofList selector.rowMembers) <;> rfl
  | selectIdentity declared =>
    simp only [extend, Query.selectIdentity, Query.withClauses, effect]
    rw [Clauses.selectIdentity_eq]
    cases Clauses.empty.selectIdentity q.target .row declared <;> rfl

theorem extend_eq_error_iff {q : Query} {s : Step} {failure : Failure} :
    s.extend q = .error failure ↔ s.effect q.target = .error failure := by
  rw [extend_eq, Traversal.map_eq_error_iff]

theorem extend_new_eq_error_iff {m : ApiModule} {s : Step} {failure : Failure} :
    s.extend (.new m) = .error failure ↔ s.effect m = .error failure :=
  extend_eq_error_iff

theorem succeeds_iff {m : ApiModule} {s : Step} : s.succeeds m ↔ ∃ e, s.effect m = .ok e := by
  rw [succeeds, extend_eq]
  change (Except.map _ (s.effect m)).toBool = true ↔ _
  cases s.effect m <;> simp [Except.map, Except.toBool]

theorem values_apply {m : ApiModule} {s : Step} {e : Effect} (h : s.effect m = .ok e)
    (hs : ¬ s.isFilter) (c : Clauses) : (e.apply c).values = c.values := by
  cases s with
  | filter => exact absurd rfl hs
  | orderBy | select | selectIdentity =>
    obtain ⟨_, -, rfl⟩ := Traversal.map_eq_ok_iff.mp h
    rfl

theorem sorting_apply {m : ApiModule} {s : Step} {e : Effect} (h : s.effect m = .ok e)
    (hs : ¬ s.isOrderBy) (c : Clauses) : (e.apply c).sorting = c.sorting := by
  cases s with
  | orderBy => exact absurd rfl hs
  | filter =>
    obtain ⟨written, -, rfl⟩ := Traversal.map_eq_ok_iff.mp h
    exact Clauses.sorting_withValues c written
  | select | selectIdentity =>
    obtain ⟨_, -, rfl⟩ := Traversal.map_eq_ok_iff.mp h
    rfl

theorem sorting_apply_eq {m : ApiModule} {s : Step} {e : Effect} (h : s.effect m = .ok e)
    (hs : s.isOrderBy) (c d : Clauses) : (e.apply c).sorting = (e.apply d).sorting := by
  cases s with
  | orderBy =>
    obtain ⟨_, -, rfl⟩ := Traversal.map_eq_ok_iff.mp h
    rfl
  | filter | select | selectIdentity => exact absurd hs Bool.false_ne_true

theorem selection_apply {m : ApiModule} {s : Step} {e : Effect} (h : s.effect m = .ok e)
    (hs : ¬ s.isSelect) (c : Clauses) : (e.apply c).selection = c.selection := by
  cases s with
  | select => exact absurd rfl hs
  | filter =>
    obtain ⟨written, -, rfl⟩ := Traversal.map_eq_ok_iff.mp h
    exact Clauses.selection_withValues c written
  | orderBy | selectIdentity =>
    obtain ⟨_, -, rfl⟩ := Traversal.map_eq_ok_iff.mp h
    rfl

theorem selection_apply_eq {m : ApiModule} {s : Step} {e : Effect} (h : s.effect m = .ok e)
    (hs : s.isSelect) (c d : Clauses) : (e.apply c).selection = (e.apply d).selection := by
  cases s with
  | select =>
    obtain ⟨_, -, rfl⟩ := Traversal.map_eq_ok_iff.mp h
    rfl
  | filter | orderBy | selectIdentity => exact absurd hs Bool.false_ne_true

end Step

namespace Query

theorem attempt_eq {q : Query} {s : Step} {e : Effect} (h : s.effect q.target = .ok e) :
    q.attempt s = { q with clauses := e.apply q.clauses } := by
  unfold attempt
  rw [Step.extend_eq, h]
  rfl

theorem attempt_of_error {q : Query} {s : Step} {failure : Failure}
    (h : s.effect q.target = .error failure) : q.attempt s = q := by
  unfold attempt
  rw [Step.extend_eq, h]
  rfl

theorem run_append_singleton (m : ApiModule) (steps : List Step) (s : Step) :
    run m (steps ++ [s]) = (run m steps).attempt s := by
  simp [run, List.foldl_append]

theorem run_target (m : ApiModule) (steps : List Step) : (run m steps).target = m := by
  induction steps using List.reverseRecOn with
  | nil => rfl
  | append_singleton steps s ih =>
    rw [run_append_singleton]
    cases h : s.effect (run m steps).target with
    | ok e => rw [attempt_eq h, ih]
    | error failure => rw [attempt_of_error h, ih]

theorem accepted_append_singleton (m : ApiModule) (steps : List Step) (s : Step) :
    accepted m (steps ++ [s]) = accepted m steps ++ if s.succeeds m then [s] else [] := by
  simp [accepted, List.filter_cons]

/-- A step that fails, last in a chain, changes neither the query nor the steps that succeed. -/
theorem run_append_of_error {m : ApiModule} (steps : List Step) {s : Step} {failure : Failure}
    (h : s.effect m = .error failure) :
    run m (steps ++ [s]) = run m steps ∧ accepted m (steps ++ [s]) = accepted m steps := by
  have hs : ¬ s.succeeds m := by simp [Step.succeeds_iff, h]
  rw [run_append_singleton, attempt_of_error (by rw [run_target, h]), accepted_append_singleton,
    if_neg hs, List.append_nil]
  exact ⟨rfl, rfl⟩

theorem run_append_of_ok {m : ApiModule} (steps : List Step) {s : Step} {e : Effect}
    (h : s.effect m = .ok e) :
    (run m (steps ++ [s])).clauses = e.apply (run m steps).clauses ∧
      accepted m (steps ++ [s]) = accepted m steps ++ [s] := by
  have hs : s.succeeds m := Step.succeeds_iff.mpr ⟨e, h⟩
  rw [run_append_singleton, attempt_eq (by rw [run_target, h]), accepted_append_singleton,
    if_pos hs]
  exact ⟨rfl, rfl⟩

variable {m : ApiModule}

/-- The values are those of the filters that succeed. -/
theorem values_run (steps : List Step) :
    (run m steps).clauses.values =
      (run m ((accepted m steps).filter Step.isFilter)).clauses.values := by
  induction steps using List.reverseRecOn with
  | nil => rfl
  | append_singleton steps s ih =>
    cases h : s.effect m with
    | error failure =>
      obtain ⟨hr, ha⟩ := run_append_of_error steps h
      rw [hr, ha, ih]
    | ok e =>
      obtain ⟨hr, ha⟩ := run_append_of_ok steps h
      rw [hr, ha, List.filter_append]
      by_cases hs : s.isFilter
      · rw [List.filter_singleton, hs, cond_true, (run_append_of_ok _ h).1]
        cases e with
        | values written => simp only [Effect.apply, Clauses.withValues_eq, ih]
        | sort | selection | nothing => exact ih
      · rw [List.filter_singleton, Bool.eq_false_iff.mpr hs, cond_false, List.append_nil, ← ih]
        exact Step.values_apply h hs _

/-- What a view shows that some steps set anew and the others leave alone is what the last of these
steps sets. -/
theorem view_run {β : Type} (view : Clauses → β) (touches : Step → Bool)
    (frame : ∀ s e c, s.effect m = .ok e → ¬ touches s → view (e.apply c) = view c)
    (sets : ∀ s e c d, s.effect m = .ok e → touches s → view (e.apply c) = view (e.apply d))
    (steps : List Step) :
    view (run m steps).clauses =
      view (run m ((accepted m steps).filter touches).getLast?.toList).clauses := by
  induction steps using List.reverseRecOn with
  | nil => rfl
  | append_singleton steps s ih =>
    cases h : s.effect m with
    | error failure =>
      obtain ⟨hr, ha⟩ := run_append_of_error steps h
      rw [hr, ha, ih]
    | ok e =>
      obtain ⟨hr, ha⟩ := run_append_of_ok steps h
      rw [hr, ha, List.filter_append]
      by_cases hs : touches s
      · have hone : (run m [s]).clauses = e.apply (run m []).clauses :=
          (run_append_of_ok [] h).1
        rw [List.filter_singleton, hs, cond_true, List.getLast?_concat, Option.toList_some, hone]
        exact sets s e _ _ h hs
      · rw [List.filter_singleton, Bool.eq_false_iff.mpr hs, cond_false, List.append_nil, ← ih]
        exact frame s e _ h hs

theorem sorting_run (steps : List Step) :
    (run m steps).clauses.sorting =
      (run m ((accepted m steps).filter Step.isOrderBy).getLast?.toList).clauses.sorting :=
  view_run Clauses.sorting Step.isOrderBy (fun _ _ c h hs => Step.sorting_apply h hs c)
    (fun _ _ c d h hs => Step.sorting_apply_eq h hs c d) steps

theorem selection_run (steps : List Step) :
    (run m steps).clauses.selection =
      (run m ((accepted m steps).filter Step.isSelect).getLast?.toList).clauses.selection :=
  view_run Clauses.selection Step.isSelect (fun _ _ c h hs => Step.selection_apply h hs c)
    (fun _ _ c d h hs => Step.selection_apply_eq h hs c d) steps

def lastSelector? (m : ApiModule) (steps : List Step) : Option Expr :=
  ((accepted m steps).filterMap Step.selector?).getLast?

/-- The properties to fetch and the projection are set by the last selector. -/
theorem selection_run_eq (steps : List Step) :
    (run m steps).clauses.selection = (lastSelector? m steps).elim (none, none) fun selector =>
      (selector.selected?, some (.ofSelector selector)) := by
  induction steps using List.reverseRecOn with
  | nil => rfl
  | append_singleton steps s ih =>
    unfold lastSelector? at ih ⊢
    cases h : s.effect m with
    | error failure =>
      obtain ⟨hr, ha⟩ := run_append_of_error steps h
      rw [hr, ha, ih]
    | ok e =>
      obtain ⟨hr, ha⟩ := run_append_of_ok steps h
      rw [hr, ha, List.filterMap_append, List.getLast?_append]
      cases s with
      | select selector =>
        obtain ⟨_, -, rfl⟩ := Traversal.map_eq_ok_iff.mp h
        rfl
      | filter | orderBy | selectIdentity =>
        rw [Step.selection_apply h Bool.false_ne_true, ih]
        rfl

theorem apply_ofSelector (selector : Expr) (r : Row) :
    (Projection.ofSelector selector).apply r = selector.eval r := by
  unfold Projection.ofSelector
  split
  · rw [Projection.apply, Expr.eval]
  · rfl

theorem run_eq_of_sameClauses {xs ys : List Step} (h : SameClauses m xs ys) :
    run m xs = run m ys := by
  have hc : (run m xs).clauses = (run m ys).clauses := by
    apply Clauses.ext_parts
    · rw [values_run, h.filters, ← values_run]
    · rw [sorting_run, h.sort, ← sorting_run]
    · rw [selection_run, h.selection, ← selection_run]
  have ht : (run m xs).target = (run m ys).target := by rw [run_target, run_target]
  exact congrArg₂ Query.mk ht hc

theorem foldlM_of_succeeds {steps : List Step} (h : ∀ s ∈ steps, s.succeeds m) :
    steps.foldlM (fun q s => s.extend q) (new m) = .ok (run m steps) := by
  induction steps using List.reverseRecOn with
  | nil => rfl
  | append_singleton steps s ih =>
    obtain ⟨e, he⟩ := Step.succeeds_iff.mp (h s (by simp))
    have hs : s.extend (run m steps) = .ok ((run m steps).attempt s) := by
      rw [attempt_eq (by rw [run_target, he]), Step.extend_eq, run_target, he]
      rfl
    rw [List.foldlM_append, ih fun t ht => h t (by simp [ht]), run_append_singleton]
    simp [bind, Except.bind, pure, Except.pure, hs]

/-- A chain in which no step may fail stops at the first step that does. -/
theorem foldlM_of_error {before after : List Step} {s : Step} {failure : Failure}
    (h : ∀ t ∈ before, t.succeeds m) (hs : s.effect m = .error failure) :
    (before ++ s :: after).foldlM (fun q s => s.extend q) (new m) = .error failure := by
  have he : s.extend (run m before) = .error failure := by
    rw [Step.extend_eq_error_iff, run_target, hs]
  rw [List.foldlM_append, foldlM_of_succeeds h]
  simp [bind, Except.bind, he]

theorem exists_first_failure {steps : List Step} (h : ¬ ∀ s ∈ steps, s.succeeds m) :
    ∃ before s after failure, steps = before ++ s :: after ∧ (∀ t ∈ before, t.succeeds m) ∧
      s.effect m = .error failure := by
  induction steps with
  | nil => simp at h
  | cons s steps ih =>
    cases he : s.effect m with
    | error failure => exact ⟨[], s, steps, failure, rfl, by simp, he⟩
    | ok e =>
      have hs : s.succeeds m := Step.succeeds_iff.mpr ⟨e, he⟩
      obtain ⟨before, t, after, failure, rfl, hbefore, ht⟩ := ih fun hall =>
        h (List.forall_mem_cons.mpr ⟨hs, hall⟩)
      exact ⟨s :: before, t, after, failure, rfl, List.forall_mem_cons.mpr ⟨hs, hbefore⟩, ht⟩

theorem ofSpec_eq_foldlM (m : ApiModule) (spec : QuerySpec) :
    ofSpec m spec = spec.steps.foldlM (fun q s => s.extend q) (new m) := by
  unfold ofSpec QuerySpec.steps
  simp only [List.foldlM_append, List.foldlM_map, Traversal.foldlM_toList,
    bind_assoc]
  cases spec.filter <;> cases spec.orderBy <;> cases spec.select <;> rfl

/-- A specification that compiles is the query at the end of its chain. -/
theorem eq_run_of_ofSpec {spec : QuerySpec} {q : Query} (h : ofSpec m spec = .ok q) :
    q = run m spec.steps := by
  have hall : ∀ s ∈ spec.steps, s.succeeds m := by
    by_contra hn
    obtain ⟨before, s, after, failure, hsteps, hbefore, hs⟩ := exists_first_failure hn
    rw [ofSpec_eq_foldlM, hsteps, foldlM_of_error hbefore hs] at h
    cases h
  rw [ofSpec_eq_foldlM, foldlM_of_succeeds hall] at h
  exact (Except.ok.inj h).symm

/-- A specification has at most one step of each kind, so that their order does not matter. -/
theorem sameClauses_of_perm {steps : List Step} {spec : QuerySpec}
    (h : steps.Perm spec.steps) : SameClauses m steps spec.steps := by
  have heq : ∀ kind : Step → Bool, (spec.steps.filter kind).length ≤ 1 →
      (accepted m steps).filter kind = (accepted m spec.steps).filter kind := by
    intro kind hlen
    have hperm : ((accepted m steps).filter kind).Perm ((accepted m spec.steps).filter kind) :=
      (h.filter _).filter _
    have hshort : ((accepted m spec.steps).filter kind).length ≤ 1 :=
      (((List.filter_sublist).filter kind).length_le).trans hlen
    rcases Nat.le_one_iff_eq_zero_or_eq_one.mp hshort with hl | hl
    · rw [List.length_eq_zero_iff.mp hl] at hperm ⊢
      exact hperm.eq_nil
    · obtain ⟨s, hs⟩ := List.length_eq_one_iff.mp hl
      rw [hs] at hperm ⊢
      exact List.perm_singleton.mp hperm
  have hkinds : (spec.steps.filter Step.isFilter).length ≤ 1 ∧
      (spec.steps.filter Step.isOrderBy).length ≤ 1 ∧
      (spec.steps.filter Step.isSelect).length ≤ 1 := by
    unfold QuerySpec.steps
    cases spec.filter <;> cases spec.orderBy <;> cases spec.select <;>
      simp [List.filter_cons, Step.isFilter, Step.isOrderBy, Step.isSelect]
  exact ⟨heq _ hkinds.1, congrArg _ (heq _ hkinds.2.1), congrArg _ (heq _ hkinds.2.2)⟩

/-- The steps of a chain do not interfere. Whether a step succeeds does not depend on the steps
before it, the query at the end is given by the clauses that `SameClauses` compares, and a
specification is any chain of its steps, or fails like the first of them that does. -/
theorem chain_noninterference (m : ApiModule) :
    (∀ before (s : Step),
      (s.extend (run m before)).map (fun _ => ()) = (s.extend (new m)).map (fun _ => ())) ∧
    (∀ xs ys, SameClauses m xs ys →
      (run m xs).clauses = (run m ys).clauses ∧ (run m xs).request = (run m ys).request ∧
        ∀ d, (run m xs).read d = (run m ys).read d) ∧
    (∀ spec : QuerySpec, (∀ s ∈ spec.steps, s.succeeds m) →
      ∀ steps, SameClauses m steps spec.steps ∨ steps.Perm spec.steps →
        ofSpec m spec = .ok (run m steps)) ∧
    ∀ (spec : QuerySpec) failure, ofSpec m spec = .error failure ↔
      ∃ before s after, spec.steps = before ++ s :: after ∧ (∀ t ∈ before, t.succeeds m) ∧
        s.extend (new m) = .error failure := by
  refine ⟨?_, ?_, ?_, ?_⟩
  · intro before s
    rw [Step.extend_eq, Step.extend_eq, run_target]
    change _ = Except.map _ (Except.map _ (s.effect m))
    cases s.effect m <;> rfl
  · intro xs ys h
    rw [run_eq_of_sameClauses h]
    exact ⟨rfl, rfl, fun _ => rfl⟩
  · intro spec hspec steps hsteps
    have hsame : SameClauses m steps spec.steps := hsteps.elim id sameClauses_of_perm
    rw [ofSpec_eq_foldlM, foldlM_of_succeeds hspec, run_eq_of_sameClauses hsame]
  · intro spec failure
    rw [ofSpec_eq_foldlM]
    constructor
    · intro h
      have hn : ¬ ∀ s ∈ spec.steps, s.succeeds m := by
        intro hall
        simp [foldlM_of_succeeds hall] at h
      obtain ⟨before, s, after, failure', hsteps, hbefore, hs⟩ := exists_first_failure hn
      rw [hsteps, foldlM_of_error hbefore hs] at h
      obtain rfl := Except.error.inj h
      exact ⟨before, s, after, hsteps, hbefore, Step.extend_new_eq_error_iff.mpr hs⟩
    · rintro ⟨before, s, after, hsteps, hbefore, hs⟩
      rw [hsteps]
      exact foldlM_of_error hbefore (Step.extend_new_eq_error_iff.mp hs)

end Query

end WikiRows
