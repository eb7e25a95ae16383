import WikiRows.Proofs.Rows

/-!
# Elements by path

A path of names may lead to several elements, and `Document.find?` goes down to the first child of
each name. What it finds is the first element of the path in document order. It misses that element
where the first child of some name does not have the next one and a later child has, which
`Document.find?_eq_head?_iff` makes precise.
-/

namespace WikiRows

namespace Xml

namespace Element

/-- A chain of elements, each a child of the one before. The names below the first are the path. -/
inductive Leads : Element → List String → Element → Prop
  | here (e : Element) : Leads e [] e
  | child {e child last : Element} {path : List String} (isChild : child ∈ e.children)
      (after : Leads child path last) : Leads e (child.name :: path) last

mutual

def elements : Element → List Element
  | ⟨name, attributes, text, children⟩ =>
    ⟨name, attributes, text, children⟩ :: childrenElements children

def childrenElements : List Element → List Element
  | [] => []
  | child :: children => elements child ++ childrenElements children

end

/-- The elements at the end of a path, branch after branch. -/
def allBelow : List String → Element → List Element
  | [], e => [e]
  | name :: path, e => (e.children.filter fun child => child.name = name).flatMap (allBelow path)

variable {e last : Element} {path : List String}

theorem mem_allBelow_iff : last ∈ e.allBelow path ↔ e.Leads path last := by
  induction path generalizing e with
  | nil =>
    rw [allBelow, List.mem_singleton]
    constructor
    · rintro rfl
      exact .here last
    · rintro ⟨⟩
      rfl
  | cons name path ih =>
    rw [allBelow, List.mem_flatMap]
    constructor
    · rintro ⟨child, hchild, hlast⟩
      obtain ⟨hmem, hname⟩ := List.mem_filter.mp hchild
      obtain rfl : child.name = name := by simpa using hname
      exact .child hmem (ih.mp hlast)
    · rintro (_ | ⟨hmem, hafter⟩)
      exact ⟨_, List.mem_filter.mpr ⟨hmem, by simp⟩, ih.mpr hafter⟩

theorem childrenElements_eq (children : List Element) :
    childrenElements children = children.flatMap elements := by
  induction children with
  | nil => rfl
  | cons child children ih => rw [childrenElements, ih, List.flatMap_cons]

theorem elements_eq (e : Element) : e.elements = e :: e.children.flatMap elements := by
  obtain ⟨name, attributes, text, children⟩ := e
  rw [elements, childrenElements_eq]

/-- Branch after branch is document order. -/
theorem allBelow_sublist : (e.allBelow path).Sublist e.elements := by
  induction path generalizing e with
  | nil =>
    rw [allBelow, elements_eq]
    exact (List.nil_sublist _).cons_cons e
  | cons name path ih =>
    rw [allBelow, elements_eq]
    refine (List.Sublist.trans ?_ (List.sublist_cons_self e _))
    induction e.children with
    | nil => exact .slnil
    | cons child children ihc =>
      rw [List.filter_cons, List.flatMap_cons]
      split_ifs
      · exact ih.append ihc
      · exact ihc.trans (List.sublist_append_right _ _)

/-- The first child of a name comes before its sisters. -/
theorem allBelow_of_child? {name : String} {child : Element} (h : e.child? name = some child)
    (path : List String) : ∃ later, e.allBelow (name :: path) = child.allBelow path ++ later := by
  rw [child?, ← List.head?_filter] at h
  obtain ⟨sisters, hsisters⟩ := List.head?_eq_some_iff.mp h
  exact ⟨_, by rw [allBelow, hsisters, List.flatMap_cons]⟩

/-- What the descent finds is the first element of the path. -/
theorem head?_allBelow_of_descend? (h : e.descend? path = some last) :
    (e.allBelow path).head? = some last := by
  induction path generalizing e with
  | nil => exact h
  | cons name path ih =>
    obtain ⟨child, hchild, hdescend⟩ := Option.bind_eq_some_iff.mp h
    obtain ⟨later, hlater⟩ := allBelow_of_child? hchild path
    obtain ⟨tail, htail⟩ := List.head?_eq_some_iff.mp (ih hdescend)
    rw [hlater, htail]
    rfl

end Element

namespace Document

def allAt (d : Document) (path : List String) : List Element :=
  match d.root, path with
  | some root, name :: rest => if root.name = name then root.allBelow rest else []
  | _, _ => []

def elements (d : Document) : List Element := d.root.elim [] Element.elements

/-- The first element at each part of a path has a child of the name that comes next. -/
def FirstsLeadOn (d : Document) (path : List String) : Prop :=
  ∀ front name, front ++ [name] <+: path → front ≠ [] →
    ∀ e, (d.allAt front).head? = some e → (e.child? name).isSome

variable {d : Document} {path : List String} {e : Element}

theorem mem_allAt_iff :
    e ∈ d.allAt path ↔ ∃ root rest, d.root = some root ∧ path = root.name :: rest ∧
      root.Leads rest e := by
  obtain ⟨_ | root⟩ := d
  · simp [allAt]
  cases path with
  | nil => simp [allAt]
  | cons name rest =>
    by_cases hname : root.name = name
    · simp [allAt, hname, Element.mem_allBelow_iff]
    · simp [allAt, hname, Ne.symm hname]

theorem allAt_sublist : (d.allAt path).Sublist d.elements := by
  obtain ⟨_ | root⟩ := d
  · simp [allAt]
  cases path with
  | nil => simp [allAt]
  | cons name rest =>
    simp only [allAt, elements, Option.elim]
    split_ifs
    · exact Element.allBelow_sublist
    · exact List.nil_sublist _

theorem head?_allAt_of_find? (h : d.find? path = some e) : (d.allAt path).head? = some e := by
  obtain ⟨_ | root⟩ := d
  · simp [find?] at h
  cases path with
  | nil => simp [find?] at h
  | cons name rest =>
    simp only [find?] at h
    split_ifs at h with hname
    simpa [allAt, hname] using Element.head?_allBelow_of_descend? h

/-- The way along a path goes on from what the front of it leads to. -/
theorem find?_append {front : List String} (hfront : front ≠ []) (rest : List String) :
    d.find? (front ++ rest) = (d.find? front).bind fun e => e.descend? rest := by
  obtain ⟨_ | root⟩ := d
  · simp [find?]
  obtain ⟨name, front, rfl⟩ := List.exists_cons_of_ne_nil hfront
  by_cases hname : root.name = name
  · simp only [List.cons_append, find?, hname, if_true]
    exact List.foldlM_append
  · simp [find?, hname]

/-- Where firsts lead on, the descent comes to the end of a path that some element has. -/
theorem isSome_find?_of_firstsLeadOn (h : d.FirstsLeadOn path) (hsome : d.allAt path ≠ [])
    {front : List String} (hfront : front ≠ []) (hleads : front <+: path) :
    (d.find? front).isSome := by
  induction front using List.reverseRecOn with
  | nil => exact absurd rfl hfront
  | append_singleton front name ih =>
    rcases eq_or_ne front [] with rfl | hne
    · -- The path begins with the root, since it leads somewhere.
      obtain ⟨last, hlast⟩ := List.exists_mem_of_ne_nil _ hsome
      obtain ⟨root, rest, hroot, rfl, -⟩ := mem_allAt_iff.mp hlast
      obtain rfl : name = root.name := by simpa using List.cons_prefix_cons.mp hleads
      simp [find?, hroot, Element.descend?]
    · obtain ⟨e, he⟩ := Option.isSome_iff_exists.mp
        (ih hne ((List.prefix_append _ _).trans hleads))
      have hchild := h front name hleads hne e (head?_allAt_of_find? he)
      simpa [find?_append hne, he, Element.descend?] using hchild

/-- The descent finds the first element of a path, if there is one, just if firsts lead on. -/
theorem find?_eq_head?_iff :
    d.find? path = (d.allAt path).head? ↔ d.allAt path = [] ∨ d.FirstsLeadOn path := by
  by_cases hnone : d.allAt path = []
  · have hlost : d.find? path = none := by
      by_contra hfound
      obtain ⟨e, he⟩ := Option.ne_none_iff_exists'.mp hfound
      simpa [hnone] using head?_allAt_of_find? he
    simp [hnone, hlost]
  rw [or_iff_right hnone]
  constructor
  · rintro h front name ⟨rest, rfl⟩ hfront e he
    obtain ⟨last, hlast⟩ := Option.isSome_iff_exists.mp (List.isSome_head?.mpr hnone)
    rw [hlast, List.append_assoc, find?_append hfront] at h
    obtain ⟨first, hfirst, hdescend⟩ := Option.bind_eq_some_iff.mp h
    obtain ⟨child, hchild, -⟩ := Option.bind_eq_some_iff.mp hdescend
    rw [head?_allAt_of_find? hfirst] at he
    obtain rfl := Option.some.inj he
    simp [hchild]
  · intro hleads
    have hpath : path ≠ [] := by
      obtain ⟨last, hlast⟩ := List.exists_mem_of_ne_nil _ hnone
      obtain ⟨root, rest, -, rfl, -⟩ := mem_allAt_iff.mp hlast
      exact List.cons_ne_nil _ _
    obtain ⟨e, he⟩ := Option.isSome_iff_exists.mp
      (isSome_find?_of_firstsLeadOn hleads hnone hpath List.prefix_rfl)
    rw [he, head?_allAt_of_find? he]

theorem find?_eq_none_iff :
    d.find? path = none ↔ d.allAt path = [] ∨ ¬ d.FirstsLeadOn path := by
  have hiff : d.find? path = (d.allAt path).head? ↔ d.allAt path = [] ∨ d.FirstsLeadOn path :=
    find?_eq_head?_iff
  cases hfind : d.find? path with
  | none =>
    rw [hfind, eq_comm, List.head?_eq_none_iff] at hiff
    tauto
  | some e =>
    -- An element that is found is the first of the path, so that its firsts lead on.
    have hhead := head?_allAt_of_find? hfind
    have hne : d.allAt path ≠ [] := by
      intro hnone
      simp [hnone] at hhead
    have hleads := (hiff.mp (hfind.trans hhead.symm)).resolve_left hne
    simp [hne, hleads]

end Document

end Xml

namespace Query

open Xml (Document Element)

/-- The elements of a path are those at the end of a chain of its names, in document order. What is
found is the first of them. Nothing is found though there is one just if some first on the way does
not lead on; a list module then answers with no rows, and else with those of the first list. -/
theorem finds_first_iff (d : Document) :
    (∀ path,
      (∀ e, e ∈ d.allAt path ↔ ∃ root rest, d.root = some root ∧ path = root.name :: rest ∧
        root.Leads rest e) ∧
      (d.allAt path).Sublist d.elements ∧
      (∀ e, d.find? path = some e → (d.allAt path).head? = some e) ∧
      (d.find? path = (d.allAt path).head? ↔ d.allAt path = [] ∨ d.FirstsLeadOn path)) ∧
    ∀ q : Query, q.target.answersList = true → d.checkApiError = .ok () →
      let lists := d.allAt ["api", "query", q.target.name]
      let leadOn := d.FirstsLeadOn ["api", "query", q.target.name]
      (∀ list, lists.head? = some list → leadOn →
        q.read d = .ok (.list (list.children.map fun row => q.clauses.project row.toRow))) ∧
      (lists = [] ∨ ¬ leadOn → q.read d = .ok (.list [])) := by
  refine ⟨fun path => ⟨fun e => Document.mem_allAt_iff, Document.allAt_sublist,
    fun e => Document.head?_allAt_of_find?, Document.find?_eq_head?_iff⟩, ?_⟩
  intro q hlist herror lists leadOn
  refine ⟨fun list hfirst hleads => ?_, fun hlost => ?_⟩
  · have hfound := Document.find?_eq_head?_iff.mpr (.inr hleads)
    rw [hfirst] at hfound
    simp [read, herror, hlist, hfound, bind, Except.bind, pure, Except.pure]
  · have hnone := Document.find?_eq_none_iff.mpr hlost
    simp [read, herror, hlist, hnone, bind, Except.bind, pure, Except.pure]

/-- Two lists with the same path, of which the first one is read. -/
theorem finds_first_iff_sisters :
    let first : Element := ⟨"items", [], "", [⟨"i", [("title", "a")], "", []⟩]⟩
    let second : Element := ⟨"items", [], "", [⟨"i", [("title", "b")], "", []⟩]⟩
    let d : Document := ⟨some ⟨"api", [], "", [⟨"warnings", [], "", []⟩,
      ⟨"query", [], "", [first]⟩, ⟨"query", [], "", [second]⟩]⟩⟩
    let q : Query := .new ⟨"items", "it", [⟨"title", .named "string", false⟩], true⟩
    q.target.answersList = true ∧ d.checkApiError = .ok () ∧
    d.allAt ["api", "query", "items"] = [first, second] ∧
    d.FirstsLeadOn ["api", "query", "items"] ∧
    q.read d = .ok (.list [.obj [("title", .str "a")]]) := by
  intro first second d q
  have hlists : d.allAt ["api", "query", "items"] = [first, second] := rfl
  have hleads : d.FirstsLeadOn ["api", "query", "items"] :=
    (Document.find?_eq_head?_iff.mp rfl).resolve_left (by simp [hlists])
  have herror : d.checkApiError = .ok () := rfl
  have hread := ((finds_first_iff d).2 q rfl herror).1 first (by simp [q, new, hlists]) hleads
  exact ⟨rfl, herror, hlists, hleads, hread⟩

/-- A list that stands in the second of two elements of one name is overlooked. -/
theorem second_query_unread :
    let list : Element := ⟨"items", [], "", [⟨"i", [("title", "a")], "", []⟩]⟩
    let api : Element := ⟨"api", [], "", [⟨"query", [], "", []⟩, ⟨"query", [], "", [list]⟩]⟩
    let q : Query := .new ⟨"items", "it", [⟨"title", .named "string", false⟩], true⟩
    Document.read "<api><query/><query><items><i title=\"a\"/></items></query></api>" =
      .ok ⟨some api⟩ ∧
    api.Leads ["query", "items"] list ∧
    Document.find? ⟨some api⟩ ["api", "query", "items"] = none ∧
    q.read ⟨some api⟩ = .ok (.list []) := by
  intro list api q
  have hquery : (⟨"query", [], "", [list]⟩ : Element) ∈ api.children := by simp [api]
  have hchain : api.Leads ["query", "items"] list :=
    .child hquery (.child (List.mem_singleton_self list) (.here list))
  exact ⟨by cbv, hchain, rfl, rfl⟩

end Query

end WikiRows
