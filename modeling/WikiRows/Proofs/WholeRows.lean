import WikiRows.Proofs.Rows
import WikiRows.Proofs.Shapes

/-!
# Queries that give whole rows

Declaring the shape of the rows checks the shape and changes nothing else, so that rows stay
projected as the last selection of the chain has it. Hence all properties are asked for and all rows
given as they are just if there is no selection, or the selector of the last one gives every row
itself. Such a selector uses the row as a whole (`Expr.usesWholeRow_of_givesRow`), and whether all
documents are read alike is decided by documents of one row (`Query.read_ofRow`).
-/

namespace WikiRows

namespace Keyed

variable {α : Type} {l : List (String × α)}

theorem Sorted.nodup (h : Sorted l) : (l.map Prod.fst).Nodup :=
  (sorted_iff_keys.mp h).imp ne_of_lt

theorem ofList_of_sorted (h : Sorted l) : ofList l = l :=
  (sorted_ofList l).eq_of_perm h (perm_ofList h.nodup)

end Keyed

namespace Xml

theorem Element.sorted_toRow (e : Element) : Keyed.Sorted e.toRow := by
  rw [toRow]
  split_ifs
  · exact Keyed.sorted_ofList _
  · exact Keyed.sorted_insert (Keyed.sorted_ofList _)

def Document.ofRow (m : ApiModule) (r : Row) : Document :=
  let row : Element := ⟨"row", r, "", []⟩
  let rows : Element := if m.answersList then ⟨m.name, [], "", [row]⟩ else row
  ⟨some ⟨"api", [], "", [⟨"query", [], "", [rows]⟩]⟩⟩

end Xml

namespace Expr

/-- A selector that gives every row as an object of its values. -/
def GivesRow (e : Expr) : Prop := ∀ r : Row, Keyed.Sorted r → e.eval r = r.toJson

theorem givesRow_row : row.GivesRow := fun _ _ => by rw [eval]

/-- Without the row as a whole, a selector does not see names that it does not read. -/
theorem usesWholeRow_of_givesRow {e : Expr} (h : e.GivesRow) : e.usesWholeRow := by
  by_contra hw
  obtain ⟨fresh, hfresh⟩ :=
    Infinite.exists_notMem_finset (e.rowMembers.map MemberName.wire).toFinset
  rw [List.mem_toFinset] at hfresh
  have hagree : Row.Agree (e.rowMembers.map MemberName.wire) [] [(fresh, "")] := by
    intro name hname
    have hne : name ≠ fresh := fun heq => hfresh (heq ▸ hname)
    rw [Keyed.lookup_cons, if_neg (Ne.symm hne)]
  have heval := eval_eq_of_agree e (Bool.eq_false_iff.mpr hw) hagree
  rw [h [] .nil, h [(fresh, "")] (List.pairwise_singleton _ _)] at heval
  simp [Row.toJson] at heval

end Expr

namespace Query

open Xml (Document Element)

variable {m : ApiModule}

/-- What a query makes of a document of one row is what it makes of that row. -/
theorem read_ofRow (q : Query) {r : Row} (h : Keyed.Sorted r) :
    q.read (.ofRow q.target r) = .ok (if q.target.answersList then .list [q.clauses.project r]
      else .single (q.clauses.project r)) := by
  have hrow : Element.toRow ⟨"row", r, "", []⟩ = r := Keyed.ofList_of_sorted h
  cases hlist : q.target.answersList <;>
    simp [read, Document.ofRow, hlist, Document.checkApiError, Document.find?, Element.descend?,
      Element.child?, Element.onlyChild, hrow, bind, Except.bind, pure, Except.pure]

/-- Queries over one module that project rows alike read documents alike. -/
theorem read_eq_of_project {q q' : Query} (htarget : q.target = q'.target)
    (h : ∀ r, Keyed.Sorted r → q.clauses.project r = q'.clauses.project r) (d : Document) :
    q.read d = q'.read d := by
  have hrows : ∀ e : Element, q.clauses.project e.toRow = q'.clauses.project e.toRow :=
    fun e => h _ e.sorted_toRow
  simp only [read, htarget, hrows]

/-- The same properties are asked for as by a query without clauses, that is all, and every document
is read as by such a query, which gives the rows as objects of their values. -/
def GivesWholeRows (q : Query) : Prop :=
  propertyParameter q.target q.clauses = propertyParameter q.target .empty ∧
    ∀ d, q.read d = (new q.target).read d

theorem propertyParameter_of_none {c : Clauses} (h : c.properties = none) :
    propertyParameter m c = propertyParameter m .empty := by
  rw [propertyParameter, fetched, h]
  rfl

theorem givesWholeRows_iff {q : Query} : q.GivesWholeRows ↔
    propertyParameter q.target q.clauses = propertyParameter q.target .empty ∧
      ∀ r : Row, Keyed.Sorted r → q.clauses.project r = r.toJson := by
  refine and_congr_right fun _ => ⟨fun h r hr => ?_, fun h => read_eq_of_project rfl h⟩
  have hnew : (new q.target).read (.ofRow q.target r) = .ok (if q.target.answersList then
      .list [r.toJson] else .single r.toJson) := read_ofRow (new q.target) hr
  have hread := (read_ofRow q hr).symm.trans ((h _).trans hnew)
  cases hlist : q.target.answersList <;> simpa [hlist] using hread

/-- A chain gives whole rows unless its last selector makes something else of a row. -/
theorem givesWholeRows_run_iff (steps : List Step) : (run m steps).GivesWholeRows ↔
    ∀ selector, lastSelector? m steps = some selector → selector.GivesRow := by
  have hproperties : (run m steps).clauses.properties = _ :=
    congrArg Prod.fst (selection_run_eq steps)
  rw [givesWholeRows_iff]
  simp only [project_run]
  cases hlast : lastSelector? m steps with
  | none =>
    rw [hlast] at hproperties
    simp only [Option.elim_none, reduceCtorEq, false_implies, implies_true, iff_true, and_true]
    exact propertyParameter_of_none hproperties
  | some selector =>
    rw [hlast, Option.elim_some] at hproperties
    simp only [Option.elim_some, Option.some.injEq, forall_eq']
    refine ⟨fun h => h.2, fun h => ⟨propertyParameter_of_none (hproperties.trans ?_), h⟩⟩
    rw [Expr.selected?, if_pos (Expr.usesWholeRow_of_givesRow h)]

/-- A query whose shape has been declared is the one that it was. So it asks for all properties and
gives whole rows just if no selection of the chain has succeeded, or the selector of the last one that
has gives the row itself. -/
theorem selectIdentity_whole_rows_iff (m : ApiModule) (steps : List Step)
    (declared : List Property) {q : Query}
    (h : (run m steps).selectIdentity declared = .ok q) :
    q = run m steps ∧
    (q.GivesWholeRows ↔
      ∀ selector, lastSelector? m steps = some selector → selector.GivesRow) := by
  obtain ⟨c, hc, rfl⟩ := Traversal.map_eq_ok_iff.mp h
  obtain ⟨rfl, -⟩ := Clauses.selectIdentity_eq_ok_iff.mp hc
  exact ⟨rfl, givesWholeRows_run_iff steps⟩

/-- A selection of the title that is taken back by one of the row, behind which a refused one leaves
all as it is. -/
theorem selectIdentity_whole_rows_again :
    let m : ApiModule := ⟨"items", "it", [⟨"title", .named "string", false⟩,
      ⟨"ns", .named "integer", false⟩], true⟩
    let steps : List Step := [.select (.member .row "title"), .filter (.member .row "title"),
      .select .row, .orderBy (.member .row "ns") false, .select (.member .row "missing")]
    (∃ q, (run m steps).selectIdentity m.properties = .ok q) ∧
    lastSelector? m steps = some .row ∧ (run m steps).GivesWholeRows := by
  intro m steps
  have hok : (run m steps).selectIdentity m.properties = .ok (run m steps) := by rfl
  have hlast : lastSelector? m steps = some .row := by rfl
  refine ⟨⟨_, hok⟩, hlast, (selectIdentity_whole_rows_iff m steps m.properties hok).2.mpr ?_⟩
  intro selector hselector
  obtain rfl := Option.some.inj (hlast.symm.trans hselector)
  exact Expr.givesRow_row

/-- A title that was selected before is all that is fetched and given, though the shape of whole rows
has been declared. -/
theorem title_still_selected :
    let m : ApiModule := ⟨"items", "it", [⟨"title", .named "string", false⟩,
      ⟨"ns", .named "integer", false⟩], true⟩
    let steps : List Step := [.select (.member .row "title")]
    let row : Row := [("ns", "0"), ("title", "a")]
    ∃ q, (run m steps).selectIdentity m.properties = .ok q ∧
      q.clauses.properties = some ["title"] ∧
      q.request = [.text "action" "query", .text "list" "items", .text "itprop" "title",
        .text "itlimit" "max"] ∧
      q.read (.ofRow m row) = .ok (.list [.str "a"]) ∧
      (new m).read (.ofRow m row) = .ok (.list [row.toJson]) ∧
      ¬ q.GivesWholeRows := by
  intro m steps row
  have hread : (run m steps).read (.ofRow m row) = .ok (.list [.str "a"]) := by rfl
  have hnew : (new m).read (.ofRow m row) = .ok (.list [row.toJson]) := by rfl
  refine ⟨run m steps, by rfl, by rfl, by rfl, hread, hnew, fun h => ?_⟩
  cases hread.symm.trans ((h.2 _).trans hnew)

end Query

end WikiRows
