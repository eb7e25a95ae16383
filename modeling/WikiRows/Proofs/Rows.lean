import WikiRows.Proofs.Chain
import WikiRows.Proofs.Printed

/-!
# Rows of an answer

The rows that a list module answers with come to the caller one by one and in order, each as its
attributes and its text, and projected by the last selection of the query. The way goes through the
printed answer (`Document.read_display_eq`), the path to the list (`Query.read_of_isAnswer`) and the
row that each element makes (`Element.carries_toRow`).
-/

namespace WikiRows

namespace Keyed

variable {α : Type} {key : String} {value : α} {l pairs : List (String × α)}

def Sorted (l : List (String × α)) : Prop := l.Pairwise fun a b => a.1 < b.1

/-- A pair under a new key is added, and nothing is lost for it. -/
theorem perm_insert (h : key ∉ l.map Prod.fst) : (insert key value l).Perm ((key, value) :: l) := by
  fun_induction insert key value l with
  | case1 => rfl
  | case2 => rfl
  | case3 => simp at h
  | case4 k v rest _ _ ih =>
    rw [List.map_cons, List.mem_cons, not_or] at h
    exact ((ih h.2).cons (k, v)).trans (.swap (key, value) (k, v) rest)

theorem map_fst_insert :
    (insert key value l).map Prod.fst = NameSet.insert key (l.map Prod.fst) := by
  fun_induction insert key value l with
  | case1 => rfl
  | case2 k v rest hlt => simp [NameSet.insert, hlt]
  | case3 v rest hlt => simp [NameSet.insert]
  | case4 k v rest hlt hne ih => simp [NameSet.insert, hlt, hne, ih]

theorem Sorted.eq_of_perm {l' : List (String × α)} (h : Sorted l) (h' : Sorted l')
    (hperm : l.Perm l') : l = l' :=
  hperm.eq_of_pairwise (fun _ _ _ _ hab hba => absurd (hab.trans hba) (lt_irrefl _)) h h'

theorem sorted_iff_keys : Sorted l ↔ (l.map Prod.fst).Pairwise (· < ·) := List.pairwise_map.symm

theorem sorted_insert (h : Sorted l) : Sorted (insert key value l) := by
  rw [sorted_iff_keys, map_fst_insert]
  exact NameSet.pairwise_insert (sorted_iff_keys.mp h)

theorem ofList_concat (pairs : List (String × α)) (pair : String × α) :
    ofList (pairs ++ [pair]) = insert pair.1 pair.2 (ofList pairs) := by
  rw [ofList, List.foldl_append]
  rfl

theorem sorted_ofList (pairs : List (String × α)) : Sorted (ofList pairs) := by
  induction pairs using List.reverseRecOn with
  | nil => exact .nil
  | append_singleton pairs pair ih =>
    rw [ofList_concat]
    exact sorted_insert ih

/-- Under distinct keys every pair is kept. -/
theorem perm_ofList (h : (pairs.map Prod.fst).Nodup) : (ofList pairs).Perm pairs := by
  induction pairs using List.reverseRecOn with
  | nil => rfl
  | append_singleton pairs pair ih =>
    rw [List.map_append, List.map_singleton, List.nodup_append] at h
    obtain ⟨hpairs, -, hne⟩ := h
    have hkept := ih hpairs
    -- The last pair is inserted last, when its key is still new.
    have hnew : pair.1 ∉ (ofList pairs).map Prod.fst := by
      intro hmem
      exact hne _ ((hkept.map Prod.fst).mem_iff.mp hmem) _ (List.mem_singleton_self _) rfl
    have hlast := (List.perm_append_singleton pair pairs).symm
    rw [ofList_concat]
    exact ((perm_insert hnew).trans (hkept.cons pair)).trans hlast

end Keyed

/-- A row of these attributes and this text: these pairs and no others, and the text under `*`
unless it is empty, in the order of the names. -/
structure Row.Carries (r : Row) (attributes : List (String × String)) (text : String) : Prop where
  sorted : Keyed.Sorted r
  perm : r.Perm (if text = "" then attributes else ("*", text) :: attributes)

theorem Row.Carries.eq {r r' : Row} {attributes : List (String × String)} {text : String}
    (h : r.Carries attributes text) (h' : r'.Carries attributes text) : r = r' :=
  h.sorted.eq_of_perm h'.sorted (h.perm.trans h'.perm.symm)

namespace Xml

namespace Element

variable {e child : Element}

/-- With distinct keys, none of which is that of the text, no pair is put in place of another. -/
theorem carries_toRow (hdistinct : (e.attributes.map Prod.fst).Nodup)
    (hkeys : "*" ∉ e.attributes.map Prod.fst) : e.toRow.Carries e.attributes e.text := by
  have hsorted := Keyed.sorted_ofList e.attributes
  have hperm := Keyed.perm_ofList hdistinct
  rw [toRow]
  by_cases htext : e.text = ""
  · have hempty : e.text.isEmpty = true := by simpa using htext
    rw [if_pos hempty]
    exact ⟨hsorted, by rwa [if_pos htext]⟩
  · have hnonempty : ¬ e.text.isEmpty = true := by simpa using htext
    have hnew : "*" ∉ (Keyed.ofList e.attributes).map Prod.fst :=
      fun hmem => hkeys ((hperm.map Prod.fst).mem_iff.mp hmem)
    rw [if_neg hnonempty]
    refine ⟨Keyed.sorted_insert hsorted, ?_⟩
    rw [if_neg htext]
    exact (Keyed.perm_insert hnew).trans (hperm.cons _)

theorem child?_of_filter {name : String}
    (h : e.children.filter (fun child => child.name = name) = [child]) :
    e.child? name = some child := by
  rw [child?, ← List.head?_filter, h]
  rfl

end Element

/-- Elements carry one list of rows only. -/
theorem eq_of_forall₂_carries {rows : List Element} {maps maps' : List Row}
    (h : List.Forall₂ (fun row map => map.Carries row.attributes row.text) rows maps)
    (h' : List.Forall₂ (fun row map => map.Carries row.attributes row.text) rows maps') :
    maps = maps' := by
  induction h generalizing maps' with
  | nil =>
    cases h'
    rfl
  | cons hrow _ ih =>
    cases h' with
    | cons hrow' hrest => rw [hrow.eq hrow', ih hrest]

/-- An answer of a list module whose rows are the children of `list`. -/
structure IsAnswer (m : ApiModule) (api list : Element) : Prop where
  root : api.name = "api"
  noError : ∀ child ∈ api.children, child.name ≠ "error"
  path : ∃ query, api.children.filter (fun child => child.name = "query") = [query] ∧
    query.children.filter (fun child => child.name = m.name) = [list]

namespace IsAnswer

variable {m : ApiModule} {api list : Element}

theorem filter_withoutLayout {e child : Element} {name : String}
    (h : e.children.filter (fun child => child.name = name) = [child]) :
    e.withoutLayout.children.filter (fun child => child.name = name) = [child.withoutLayout] := by
  have hname : (fun child : Element => decide (child.name = name)) ∘ Element.withoutLayout =
      fun child => decide (child.name = name) := by
    funext child
    simp
  rw [Element.children_withoutLayout, List.filter_map, hname, h, List.map_singleton]

/-- Dropping layout changes nothing about where the rows are. -/
theorem withoutLayout (h : IsAnswer m api list) :
    IsAnswer m api.withoutLayout list.withoutLayout := by
  obtain ⟨query, hquery, hlist⟩ := h.path
  refine ⟨?_, ?_, query.withoutLayout, filter_withoutLayout hquery, filter_withoutLayout hlist⟩
  · simpa using h.root
  · simpa using h.noError

theorem ordinary (h : IsAnswer m api list) (hapi : api.Ordinary) : list.Ordinary := by
  obtain ⟨query, hquery, hlist⟩ := h.path
  have hquery : query ∈ api.children :=
    List.mem_of_mem_filter (hquery ▸ List.mem_singleton_self query)
  have hlist : list ∈ query.children :=
    List.mem_of_mem_filter (hlist ▸ List.mem_singleton_self list)
  exact (hapi.of_mem hquery).of_mem hlist

end IsAnswer

end Xml

/-- A row is projected by the last selector of a chain. Without one it stays as it is. -/
theorem Query.project_run (m : ApiModule) (steps : List Step) (r : Row) :
    (run m steps).clauses.project r =
      (lastSelector? m steps).elim r.toJson fun selector => selector.eval r := by
  have hprojection : (run m steps).clauses.projection = _ :=
    congrArg Prod.snd (selection_run_eq steps)
  rw [Clauses.project, hprojection]
  cases lastSelector? m steps with
  | none => rfl
  | some selector => exact apply_ofSelector selector r

namespace Query

open Xml (Document Element IsAnswer eq_of_forall₂_carries)

variable {m : ApiModule} {api list : Element}

/-- The rows of an answer are the children of the list, each projected. -/
theorem read_of_isAnswer {q : Query} (hlist : q.target.answersList = true)
    (h : IsAnswer q.target api list) :
    q.read ⟨some api⟩ =
      .ok (.list (list.children.map fun row => q.clauses.project row.toRow)) := by
  obtain ⟨query, hquery, hrows⟩ := h.path
  have herror : api.child? "error" = none := by
    simpa [Element.child?] using h.noError
  have hnone : Document.find? ⟨some api⟩ ["api", "error"] = none := by
    simp [Document.find?, h.root, Element.descend?, herror]
  have hfound : Document.find? ⟨some api⟩ ["api", "query", q.target.name] = some list := by
    simp [Document.find?, h.root, Element.descend?, Element.child?_of_filter hquery,
      Element.child?_of_filter hrows]
  simp [read, Document.checkApiError, hnone, hfound, hlist, bind, Except.bind, pure, Except.pure]

/-- What is read of the printed answer of a list module is its rows in their order, each as its
attributes and its text. The last selector of the chain makes a value of each; without a selection a
row is an object of its pairs. -/
theorem read_display_answer (hlist : m.answersList = true) (steps : List Step)
    (hapi : api.Ordinary) (h : IsAnswer m api list)
    (hrows : ∀ row ∈ list.children, "*" ∉ row.attributes.map Prod.fst ∧
      (row.text = "" ∨ Text.allBlank row.text.toList = false)) :
    ∃ maps : List Row,
      List.Forall₂ (fun row map => map.Carries row.attributes row.text) list.children maps ∧
      (Document.read api.display).bind (run m steps).read =
        .ok (.list (maps.map fun map => (lastSelector? m steps).elim
          (.obj (map.map fun pair => (pair.1, .str pair.2))) fun selector => selector.eval map)) := by
  have hordinary := h.ordinary hapi
  refine ⟨list.children.map fun row => row.withoutLayout.toRow, ?_, ?_⟩
  · rw [List.forall₂_map_right_iff, List.forall₂_same]
    intro row hrow
    obtain ⟨hkeys, htext⟩ := hrows row hrow
    have hsame := Element.attributes_withoutLayout row
    have hcarries := Element.carries_toRow (hsame ▸ (hordinary.of_mem hrow).nodup) (hsame ▸ hkeys)
    rwa [hsame, Element.text_withoutLayout htext] at hcarries
  · have hread : (run m steps).read ⟨some api.withoutLayout⟩ = _ :=
      read_of_isAnswer (by rw [run_target, hlist]) (by rw [run_target]; exact h.withoutLayout)
    have hobject : ∀ map : Row, map.toJson = .obj (map.map fun pair => (pair.1, .str pair.2)) :=
      fun _ => rfl
    rw [Document.read_display_eq hapi, Except.bind, hread, Element.children_withoutLayout]
    simp only [List.map_map, Function.comp_def, project_run, hobject]

/-- Two rows behind a warning, the second of them with a text: their titles, and the rows as they
are. -/
theorem read_display_answer_titles :
    let m : ApiModule := ⟨"items", "it", [⟨"title", .named "string", false⟩], true⟩
    let order : Step := .orderBy (.member .row "title") true
    let select : Step := .select (.member .row "title")
    let list : Element := ⟨"items", [], "", [⟨"i", [("title", "A & \"B\""), ("ns", "0")], "", []⟩,
      ⟨"i", [("title", "<C>")], " plain\n", []⟩]⟩
    let api : Element :=
      ⟨"api", [], "", [⟨"warnings", [], " ", []⟩, ⟨"query", [], "", [list]⟩]⟩
    let maps : List Row :=
      [[("ns", "0"), ("title", "A & \"B\"")], [("*", " plain\n"), ("title", "<C>")]]
    m.answersList = true ∧ api.Ordinary ∧ IsAnswer m api list ∧
    (∀ row ∈ list.children, "*" ∉ row.attributes.map Prod.fst ∧
      (row.text = "" ∨ Text.allBlank row.text.toList = false)) ∧
    List.Forall₂ (fun row map => map.Carries row.attributes row.text) list.children maps ∧
    (Document.read api.display).bind (run m [select, order]).read =
      .ok (.list [.str "A & \"B\"", .str "<C>"]) ∧
    (Document.read api.display).bind (run m [order]).read =
      .ok (.list [.obj [("ns", .str "0"), ("title", .str "A & \"B\"")],
        .obj [("*", .str " plain\n"), ("title", .str "<C>")]]) := by
  intro m order select list api maps
  have hapi : api.Ordinary := by
    simp [api, list, Element.ordinary_mk_iff, Xml.IsName, Xml.isNameChar, Xml.isSpace]
  have hanswer : IsAnswer m api list := ⟨rfl, by simp [api], ⟨"query", [], "", [list]⟩, rfl, rfl⟩
  have hrows : ∀ row ∈ list.children, "*" ∉ row.attributes.map Prod.fst ∧
      (row.text = "" ∨ Text.allBlank row.text.toList = false) := by
    have hplain : Text.allBlank " plain\n".toList = false := by cbv
    simp only [list, List.forall_mem_cons]
    exact ⟨⟨by simp, .inl trivial⟩, ⟨by simp, .inr hplain⟩, by simp⟩
  have hmaps : List.Forall₂ (fun row map => map.Carries row.attributes row.text)
      list.children maps := by
    refine .cons ⟨?_, .swap _ _ _⟩ (.cons ⟨?_, .refl _⟩ .nil)
    · exact List.pairwise_pair.mpr (by decide)
    · exact List.pairwise_pair.mpr (by decide)
  -- A row is known from what it carries, so that the theorem speaks of these maps.
  have hread := fun steps => read_display_answer rfl steps hapi hanswer hrows
  have hselected : lastSelector? m [select, order] = some (.member .row "title") := by rfl
  have hplain : lastSelector? m [order] = none := by rfl
  refine ⟨rfl, hapi, hanswer, hrows, hmaps, ?_, ?_⟩
  · obtain ⟨found, hfound, h⟩ := hread [select, order]
    obtain rfl := eq_of_forall₂_carries hfound hmaps
    rw [h, hselected]
    rfl
  · obtain ⟨found, hfound, h⟩ := hread [order]
    obtain rfl := eq_of_forall₂_carries hfound hmaps
    rw [h, hplain]
    rfl

end Query

end WikiRows
