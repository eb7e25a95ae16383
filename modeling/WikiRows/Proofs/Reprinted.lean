import WikiRows.Proofs.Entries
import WikiRows.Proofs.Printed

/-!
# Printing what has been read

The elements of a document that has been read have distinct keys, so that with ordinary names they
are printed as text that can be read again. A text of white space alone is the one thing that comes
back changed. Only a CDATA section can give such a text, since in any other place white space is
dropped when it is read first.
-/

namespace WikiRows

namespace Xml

/-- The key that has been found to be new, and whose value is still to come. -/
def AttributeScan.newKey : AttributeScan → List String
  | .afterEquals name | .value name _ _ => [String.ofList name]
  | .between | .key _ | .afterKey _ => []

namespace Tag

variable {done attributes : List (String × String)} {scan : AttributeScan} {content : List Char}

/-- A key that ends is waiting for its value, and differs from those that are done. -/
theorem nodup_of_endKey {key : List Char} (h : endKey done key = .ok scan)
    (hdone : (done.map Prod.fst).Nodup) : (done.map Prod.fst ++ scan.newKey).Nodup := by
  simp only [endKey] at h
  split_ifs at h with hany
  obtain rfl := Except.ok.inj h
  have hnew : String.ofList key ∉ done.map Prod.fst := by
    intro hmem
    obtain ⟨pair, hpair, heq⟩ := List.mem_map.mp hmem
    exact hany (List.any_eq_true.mpr ⟨pair, hpair, decide_eq_true heq⟩)
  simpa [AttributeScan.newKey] using hdone.concat hnew

/-- Reading on keeps the keys distinct, the one that is waiting for its value included. -/
theorem nodup_of_attributesFrom (h : attributesFrom done scan content = .ok attributes)
    (hkeys : (done.map Prod.fst ++ scan.newKey).Nodup) : (attributes.map Prod.fst).Nodup := by
  fun_induction attributesFrom done scan content with
  | case1 done =>
    obtain rfl := Except.ok.inj h
    exact hkeys.of_append_left
  | case5 _ _ _ _ hend ih | case10 _ _ _ _ hend _ ih =>
    exact ih h (nodup_of_endKey hend hkeys.of_append_left)
  | case16 _ _ _ _ _ _ _ ih => exact ih h (by simpa [AttributeScan.newKey] using hkeys)
  | case3 _ _ _ _ ih | case4 _ _ _ _ ih | case7 _ _ _ _ _ _ ih | case8 _ _ _ _ _ _ ih
  | case9 _ _ _ _ _ ih | case13 _ _ _ _ _ ih | case14 _ _ _ _ _ _ ih
  | case18 _ _ _ _ _ _ _ ih => exact ih h hkeys
  | _ => simp at h

theorem nodup_of_attributes (h : Tag.attributes content = .ok attributes) :
    (attributes.map Prod.fst).Nodup :=
  nodup_of_attributesFrom h .nil

end Tag

namespace Markup

theorem nodup_of_mem_entries {pieces : List Markup} {depth : Nat} {x : Entry}
    (h : x ∈ entries depth pieces) : (x.attributes.map Prod.fst).Nodup := by
  have htag : ∀ depth content text, ((entry depth content text).attributes.map Prod.fst).Nodup := by
    intro depth content text
    cases hread : Tag.attributes content with
    | ok attributes => simpa [entry, hread, Except.toOption] using Tag.nodup_of_attributes hread
    | error fault => simp [entry, hread, Except.toOption]
  fun_induction entries depth pieces with
  | case1 => cases h
  | case2 depth content rest ih | case3 depth content rest ih =>
    rcases List.mem_cons.mp h with rfl | h
    · exact htag _ _ _
    · exact ih h
  | case4 _ _ _ ih | case5 _ _ _ _ _ _ ih => exact ih h

/-- No section is white space that would be layout anywhere else. -/
def KeepsSections (pieces : List Markup) : Prop :=
  ∀ content, cdata content ∈ pieces → content = [] ∨ Text.allBlank content = false

theorem KeepsSections.tail {piece : Markup} {pieces : List Markup}
    (h : KeepsSections (piece :: pieces)) : KeepsSections pieces :=
  fun content hmem => h content (List.mem_cons_of_mem _ hmem)

theorem ownText?_of_keepsSections {piece : Markup} {pieces : List Markup}
    (h : KeepsSections (piece :: pieces)) :
    piece.ownText?.getD [] = [] ∨ Text.allBlank (piece.ownText?.getD []) = false := by
  cases piece with
  | text content =>
    cases hread : unescape? content with
    | none => simp [ownText?, hread]
    | some t => by_cases hblank : Text.allBlank t <;> simp [ownText?, hread, hblank]
  | cdata content => exact h content List.mem_cons_self
  | opening | empty | closing | skipped | broken => exact .inl rfl

/-- Texts that are read are not white space alone, where no section is. -/
theorem directText_of_keepsSections {pieces : List Markup} (h : KeepsSections pieces)
    (depth : Nat) :
    directText depth pieces = [] ∨ Text.allBlank (directText depth pieces) = false := by
  fun_induction directText depth pieces with
  | case1 | case3 => exact .inl rfl
  | case2 _ _ _ ih | case4 _ _ _ ih | case6 _ _ _ _ _ ih => exact ih h.tail
  | case5 piece rest _ _ ih =>
    rcases ownText?_of_keepsSections h with hown | hown
    · simpa [hown] using ih h.tail
    · right
      rw [Text.allBlank, List.all_append]
      exact Bool.and_eq_false_iff.mpr (.inl hown)

theorem text_of_mem_entries {pieces : List Markup} (h : KeepsSections pieces) {depth : Nat}
    {x : Entry} (hx : x ∈ entries depth pieces) :
    x.text = "" ∨ Text.allBlank x.text.toList = false := by
  fun_induction entries depth pieces with
  | case1 => cases hx
  | case2 depth content rest ih =>
    rcases List.mem_cons.mp hx with rfl | hx
    · simpa [entry] using directText_of_keepsSections h.tail 0
    · exact ih h.tail hx
  | case3 depth content rest ih =>
    rcases List.mem_cons.mp hx with rfl | hx
    · exact .inl rfl
    · exact ih h.tail hx
  | case4 _ _ _ ih | case5 _ _ _ _ _ _ ih => exact ih h.tail hx

end Markup

namespace Element

/-- What holds of an element if it holds of its children holds of all elements. -/
@[elab_as_elim]
theorem induction_children {motive : Element → Prop}
    (step : ∀ e, (∀ child ∈ e.children, motive child) → motive e) (e : Element) : motive e :=
  step e fun child _ => induction_children step child
termination_by sizeOf e
decreasing_by
  obtain ⟨name, attributes, text, children⟩ := e
  have hlt : sizeOf child < sizeOf children := List.sizeOf_lt_of_mem ‹_›
  simp only [mk.sizeOf_spec]
  omega

theorem childrenEntries_eq (children : List Element) (depth : Nat) :
    childrenEntries depth children = children.flatMap (entries depth) := by
  induction children with
  | nil => rfl
  | cons child children ih => rw [childrenEntries, ih, List.flatMap_cons]

theorem entries_eq (e : Element) (depth : Nat) :
    e.entries depth =
      ⟨depth, e.name, e.attributes, e.text⟩ :: e.children.flatMap (entries (depth + 1)) := by
  obtain ⟨name, attributes, text, children⟩ := e
  rw [entries, childrenEntries_eq]

theorem ordinary_iff_entries (e : Element) (depth : Nat) :
    e.Ordinary ↔ ∀ x ∈ e.entries depth, IsName x.name ∧
      (∀ pair ∈ x.attributes, IsName pair.1) ∧ (x.attributes.map Prod.fst).Nodup := by
  induction e using induction_children generalizing depth with
  | step e ih =>
    rw [ordinary_iff, entries_eq, List.forall_mem_cons, List.forall_mem_flatMap]
    simp only [and_assoc]
    exact and_congr_right' (and_congr_right' (and_congr_right'
      (forall₂_congr fun child hchild => ih child hchild (depth + 1))))

theorem keepsTexts_iff {e : Element} :
    e.KeepsTexts ↔ (e.text = "" ∨ Text.allBlank e.text.toList = false) ∧
      ∀ child ∈ e.children, child.KeepsTexts :=
  ⟨fun ⟨text, children⟩ => ⟨text, children⟩, fun ⟨text, children⟩ => ⟨text, children⟩⟩

theorem keepsTexts_iff_entries (e : Element) (depth : Nat) :
    e.KeepsTexts ↔
      ∀ x ∈ e.entries depth, x.text = "" ∨ Text.allBlank x.text.toList = false := by
  induction e using induction_children generalizing depth with
  | step e ih =>
    rw [keepsTexts_iff, entries_eq, List.forall_mem_cons, List.forall_mem_flatMap]
    exact and_congr_right' (forall₂_congr fun child hchild => ih child hchild (depth + 1))

/-- Without layout an element is the same just if none of its texts is layout. -/
theorem withoutLayout_eq_self_iff {e : Element} : e.withoutLayout = e ↔ e.KeepsTexts := by
  refine ⟨fun h => ?_, withoutLayout_of_keepsTexts⟩
  induction e using induction_children with
  | step e ih =>
    have htext := congrArg Element.text h
    have hchildren := congrArg Element.children h
    rw [withoutLayout_eq] at htext
    rw [children_withoutLayout] at hchildren
    refine .intro ?_ fun child hchild => ih child hchild ?_
    · by_cases hblank : Text.allBlank e.text.toList
      · exact .inl (by simpa [hblank] using htext.symm)
      · exact .inr (by simpa using hblank)
    · exact List.map_inj_left.mp (hchildren.trans (List.map_id' _).symm) child hchild

end Element

namespace Document

/-- A document with ordinary names is printed as a text that is read as the same document, but for
texts of white space alone, which come back empty. There are no such texts where no CDATA section
is white space alone. -/
theorem read_display_of_read {body : String} {root : Element} (h : read body = .ok ⟨some root⟩)
    (hnames : ∀ x ∈ root.entries 0, IsName x.name ∧ ∀ pair ∈ x.attributes, IsName pair.1) :
    read root.display = .ok ⟨some root.withoutLayout⟩ ∧
    (read root.display = .ok ⟨some root⟩ ↔ root.KeepsTexts) ∧
    (Markup.KeepsSections (Markup.split (dropMark body.toList)) → root.KeepsTexts) := by
  have hblank : Text.allBlank body.toList = false := by
    by_contra hblank
    rw [read_eq_ok_iff, ofChars, if_pos (by simpa using hblank)] at h
    simp [empty] at h
  obtain ⟨_, hroot, hpieces⟩ := (ofChars_eq_ok_iff hblank).mp (read_eq_ok_iff.mp h)
  obtain rfl := Option.some.inj (congrArg Document.root hroot)
  have hentries := Markup.entries_documentOf hpieces
  have hordinary : root.Ordinary := by
    rw [Element.ordinary_iff_entries root 0]
    intro x hx
    obtain ⟨hname, hkeys⟩ := hnames x hx
    exact ⟨hname, hkeys, Markup.nodup_of_mem_entries (hentries ▸ hx)⟩
  have hread := read_display_eq hordinary
  refine ⟨hread, ?_, fun hsections => ?_⟩
  · rw [hread, ← Element.withoutLayout_eq_self_iff]
    simp
  · rw [Element.keepsTexts_iff_entries root 0]
    exact fun x hx => Markup.text_of_mem_entries hsections (hentries ▸ hx)

/-- White space in a section, beside a text and around an element. -/
theorem read_display_of_read_mixed :
    let body := "<?x?><a k='&lt;'> <b/>\n<![CDATA[ ]]>t</a>"
    let root : Element := ⟨"a", [("k", "<")], " t", [⟨"b", [], "", []⟩]⟩
    read body = .ok ⟨some root⟩ ∧
    (∀ x ∈ root.entries 0, IsName x.name ∧ ∀ pair ∈ x.attributes, IsName pair.1) ∧
    root.KeepsTexts ∧ read root.display = .ok ⟨some root⟩ := by
  intro body root
  have hread : read body = .ok ⟨some root⟩ := by cbv
  have hnames : ∀ x ∈ root.entries 0, IsName x.name ∧ ∀ pair ∈ x.attributes, IsName pair.1 := by
    simp [root, Element.entries_eq, IsName, isNameChar, isSpace]
  have hinner : (⟨"b", [], "", []⟩ : Element).KeepsTexts := .intro (.inl rfl) (by simp)
  have htexts : root.KeepsTexts := .intro (.inr (by cbv)) (by simp [root, hinner])
  exact ⟨hread, hnames, htexts, (read_display_of_read hread hnames).2.1.mpr htexts⟩

/-- A section of white space is printed as white space, which is layout when it is read again. -/
theorem display_loses_blank_section :
    let root : Element := ⟨"a", [], " ", []⟩
    read "<a><![CDATA[ ]]></a>" = .ok ⟨some root⟩ ∧
    (∀ x ∈ root.entries 0, IsName x.name ∧ ∀ pair ∈ x.attributes, IsName pair.1) ∧
    root.display = "<a> </a>" ∧ read root.display = .ok ⟨some ⟨"a", [], "", []⟩⟩ ∧
    read root.display ≠ .ok ⟨some root⟩ := by
  intro root
  have hnames : ∀ x ∈ root.entries 0, IsName x.name ∧ ∀ pair ∈ x.attributes, IsName pair.1 := by
    simp [root, Element.entries_eq, IsName, isNameChar, isSpace]
  have hreread : read root.display = .ok ⟨some ⟨"a", [], "", []⟩⟩ := by cbv
  refine ⟨by cbv, hnames, by cbv, hreread, ?_⟩
  rw [hreread]
  simp [root]

end Document

end Xml

end WikiRows
