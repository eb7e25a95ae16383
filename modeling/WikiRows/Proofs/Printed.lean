import WikiRows.Proofs.Builder
import WikiRows.Proofs.Tags
import WikiRows.Query.Answer

/-!
# Printed documents

An element with ordinary names is printed as text that is cut into the pieces of just that element,
so that reading what is printed gives the element back. Only texts of nothing but white space are
lost: they are taken for layout.
-/

namespace WikiRows

namespace Xml

namespace Element

@[mk_iff]
inductive Ordinary : Element → Prop
  | intro {e : Element} (name : IsName e.name) (keys : ∀ pair ∈ e.attributes, IsName pair.1)
      (distinct : (e.attributes.map Prod.fst).Nodup)
      (children : ∀ child ∈ e.children, Ordinary child) : Ordinary e

theorem ordinary_mk_iff {name text : String} {attributes : List (String × String)}
    {children : List Element} :
    Ordinary ⟨name, attributes, text, children⟩ ↔ IsName name ∧
      (∀ pair ∈ attributes, IsName pair.1) ∧ (attributes.map Prod.fst).Nodup ∧
      ∀ child ∈ children, child.Ordinary :=
  ordinary_iff _

theorem Ordinary.nodup {e : Element} (h : e.Ordinary) : (e.attributes.map Prod.fst).Nodup :=
  ((ordinary_iff e).mp h).2.2.1

theorem Ordinary.of_mem {e child : Element} (h : e.Ordinary) (hchild : child ∈ e.children) :
    child.Ordinary :=
  ((ordinary_iff e).mp h).2.2.2 child hchild

/-- No text is white space that would be taken for layout. -/
inductive KeepsTexts : Element → Prop
  | intro {e : Element} (text : e.text = "" ∨ Text.allBlank e.text.toList = false)
      (children : ∀ child ∈ e.children, KeepsTexts child) : KeepsTexts e

mutual

def withoutLayout : Element → Element
  | ⟨name, attributes, text, children⟩ =>
    ⟨name, attributes, if Text.allBlank text.toList then "" else text,
      childrenWithoutLayout children⟩

def childrenWithoutLayout : List Element → List Element
  | [] => []
  | child :: children => withoutLayout child :: childrenWithoutLayout children

end

theorem childrenWithoutLayout_eq_map (children : List Element) :
    childrenWithoutLayout children = children.map withoutLayout := by
  induction children with
  | nil => rfl
  | cons child children ih => rw [childrenWithoutLayout, ih, List.map_cons]

theorem withoutLayout_eq (e : Element) :
    e.withoutLayout = ⟨e.name, e.attributes, if Text.allBlank e.text.toList then "" else e.text,
      e.children.map withoutLayout⟩ := by
  obtain ⟨name, attributes, text, children⟩ := e
  rw [withoutLayout, childrenWithoutLayout_eq_map]

@[simp]
theorem name_withoutLayout (e : Element) : e.withoutLayout.name = e.name := by
  rw [withoutLayout_eq]

@[simp]
theorem attributes_withoutLayout (e : Element) : e.withoutLayout.attributes = e.attributes := by
  rw [withoutLayout_eq]

@[simp]
theorem children_withoutLayout (e : Element) :
    e.withoutLayout.children = e.children.map withoutLayout := by
  rw [withoutLayout_eq]

theorem text_withoutLayout {e : Element} (h : e.text = "" ∨ Text.allBlank e.text.toList = false) :
    e.withoutLayout.text = e.text := by
  rw [withoutLayout_eq]
  rcases h with h | h <;> simp [h]

theorem withoutLayout_of_keepsTexts {e : Element} (h : e.KeepsTexts) : e.withoutLayout = e := by
  induction h with
  | @intro e htext hchildren ih =>
    obtain ⟨name, attributes, text, children⟩ := e
    have hkept := text_withoutLayout htext
    simp only [withoutLayout_eq] at hkept
    rw [withoutLayout_eq, hkept, List.map_congr_left ih, List.map_id']

end Element

namespace Markup

variable {rest : List Char}

theorem outputs_text {s : List Char} (h : '<' ∉ s) (read : List Char) :
    splitter.outputs (.text read) (s ++ rest) =
      splitter.outputs (.text (s.reverse ++ read)) rest := by
  have hsilent : ∀ read, ∀ c ∈ s, splitter.step (.text read) c = ([], .text (c :: read)) := by
    rintro read c hc
    have hne : c ≠ '<' := by
      rintro rfl
      exact h hc
    simp [splitter, step, hne]
  rw [splitter.outputs_append_of_silent .text (fun read c => c :: read) hsilent]
  simp

/-- Up to the bracket that closes it, a tag is read with account of its quotes. -/
theorem outputs_quoted (state : Option Char × List Char → Scan)
    (hstate : ∀ x c, c ≠ '>' → splitter.step (state x) c = ([], state (quoteAfter x.1 c, c :: x.2)))
    {s : List Char} (h : '>' ∉ s) (quote : Option Char) (read rest : List Char) :
    splitter.outputs (state (quote, read)) (s ++ rest) =
      splitter.outputs (state (s.foldl quoteAfter quote, s.reverse ++ read)) rest := by
  have hsilent : ∀ x, ∀ c ∈ s,
      splitter.step (state x) c = ([], state (quoteAfter x.1 c, c :: x.2)) := by
    rintro x c hc
    exact hstate x c fun heq => h (heq ▸ hc)
  have hfold : ∀ x : Option Char × List Char,
      s.foldl (fun x c => (quoteAfter x.1 c, c :: x.2)) x =
        (s.foldl quoteAfter x.1, s.reverse ++ x.2) := by
    clear h hsilent
    induction s with
    | nil => simp
    | cons c s ih => simp [ih]
  rw [splitter.outputs_append_of_silent state _ hsilent, hfold]

theorem foldl_quoteAfter_none {s : List Char} (h : '"' ∉ s ∧ '\'' ∉ s) :
    s.foldl quoteAfter none = none := by
  induction s with
  | nil => rfl
  | cons c s ih =>
    simp only [List.mem_cons, not_or] at h
    simp [quoteAfter, Ne.symm h.1.1, Ne.symm h.2.1, ih ⟨h.1.2, h.2.2⟩]

theorem foldl_quoteAfter_some {quote : Char} {s : List Char} (h : quote ∉ s) :
    s.foldl quoteAfter (some quote) = some quote := by
  induction s with
  | nil => rfl
  | cons c s ih =>
    simp only [List.mem_cons, not_or] at h
    simp [quoteAfter, Ne.symm h.1, ih h.2]

theorem notMem_of_isNameChar {d : Char} (hd : isNameChar d = false) {s : List Char}
    (h : ∀ c ∈ s, isNameChar c = true) : d ∉ s :=
  fun hmem => ne_of_isNameChar (h d hmem) hd rfl

theorem foldl_quoteAfter_name {s : String} (h : IsName s) :
    s.toList.foldl quoteAfter none = none :=
  foldl_quoteAfter_none ⟨notMem_of_isNameChar rfl h.2, notMem_of_isNameChar rfl h.2⟩

variable {name : String} {attributes : List (String × String)}

theorem foldl_quoteAfter_tagChars (hname : IsName name)
    (hnames : ∀ pair ∈ attributes, IsName pair.1) :
    (tagChars name attributes).foldl quoteAfter none = none := by
  have hattribute : ∀ pair ∈ attributes, (attributeChars pair).foldl quoteAfter none = none := by
    intro pair hpair
    have hvalue : (escape pair.2.toList).foldl quoteAfter (some '"') = some '"' :=
      foldl_quoteAfter_some (notMem_escape (by simp) _)
    simp [attributeChars, quoteAfter, foldl_quoteAfter_name (hnames pair hpair), hvalue]
  rw [tagChars, List.foldl_append, foldl_quoteAfter_name hname]
  clear hnames
  induction attributes with
  | nil => rfl
  | cons pair attributes ih =>
    obtain ⟨hpair, hattributes⟩ := List.forall_mem_cons.mp hattribute
    rw [List.flatMap_cons, List.foldl_append, hpair, ih hattributes]

theorem notMem_tagChars (hname : IsName name) (hnames : ∀ pair ∈ attributes, IsName pair.1) :
    '>' ∉ tagChars name attributes := by
  intro hmem
  rcases List.mem_append.mp hmem with hmem | hmem
  · exact notMem_of_isNameChar rfl hname.2 hmem
  · obtain ⟨pair, hpair, hmem⟩ := List.mem_flatMap.mp hmem
    have hkey := notMem_of_isNameChar (d := '>') rfl (hnames pair hpair).2
    have hvalue := notMem_escape (c := '>') (by simp) pair.2.toList
    simp [attributeChars, hkey, hvalue] at hmem

theorem head?_reverse_tagChars (hname : IsName name) :
    (tagChars name attributes).reverse.head? ≠ some '/' := by
  rcases List.eq_nil_or_concat attributes with rfl | ⟨front, pair, rfl⟩
  · intro h
    have hmem : '/' ∈ name.toList := by
      simpa [tagChars] using List.mem_of_mem_head? h
    exact notMem_of_isNameChar rfl hname.2 hmem
  · simp [tagChars, attributeChars]

theorem ofTag_of_head? {read : List Char} (h : read.head? ≠ some '/') :
    ofTag read = opening read.reverse := by
  unfold ofTag
  split
  · simp at h
  · rfl

theorem outputs_tagChars (hname : IsName name) (hnames : ∀ pair ∈ attributes, IsName pair.1)
    (read : List Char) :
    splitter.outputs (.text read) ('<' :: (tagChars name attributes ++ rest)) =
      ofText read ++ splitter.outputs (.tag none (tagChars name attributes).reverse) rest := by
  obtain ⟨c, cs, hcs, hc, -⟩ := hname.exists_cons
  obtain ⟨content, hcontent⟩ : ∃ content, tagChars name attributes = c :: content :=
    ⟨_, by rw [tagChars, hcs, List.cons_append]⟩
  have hquote := foldl_quoteAfter_tagChars hname hnames
  have hclose := notMem_tagChars hname hnames
  rw [hcontent] at hquote hclose ⊢
  have hopened : splitter.step .opened c = ([], .tag (quoteAfter none c) [c]) := by
    have hne : ∀ d, isNameChar d = false → c ≠ d := fun d hd => ne_of_isNameChar hc hd
    simp [splitter, step, hne '!' rfl, hne '/' rfl, hne '?' rfl, hne '>' rfl]
  have htag := outputs_quoted (fun x => .tag x.1 x.2) (fun x c hc => by simp [splitter, step, hc])
    (List.not_mem_of_not_mem_cons hclose) (quoteAfter none c) [c] rest
  calc splitter.outputs (.text read) ('<' :: (c :: content ++ rest))
      = ofText read ++ splitter.outputs .opened (c :: (content ++ rest)) := rfl
    _ = ofText read ++ splitter.outputs (.tag (quoteAfter none c) [c]) (content ++ rest) := by
        rw [Transducer.outputs, hopened]
        rfl
    _ = ofText read ++ splitter.outputs (.tag none (c :: content).reverse) rest := by
        rw [List.foldl_cons] at hquote
        rw [htag, hquote, List.reverse_cons]

theorem outputs_opening (hname : IsName name) (hnames : ∀ pair ∈ attributes, IsName pair.1)
    (read : List Char) :
    splitter.outputs (.text read) ('<' :: (tagChars name attributes ++ '>' :: rest)) =
      ofText read ++ .opening (tagChars name attributes) :: splitter.outputs (.text []) rest := by
  rw [outputs_tagChars hname hnames, Transducer.outputs]
  simp [splitter, step, ofTag_of_head? (head?_reverse_tagChars hname)]

theorem outputs_empty (hname : IsName name) (hnames : ∀ pair ∈ attributes, IsName pair.1)
    (read : List Char) :
    splitter.outputs (.text read) ('<' :: (tagChars name attributes ++ '/' :: '>' :: rest)) =
      ofText read ++ .empty (tagChars name attributes) :: splitter.outputs (.text []) rest := by
  rw [outputs_tagChars hname hnames, Transducer.outputs, Transducer.outputs]
  simp [splitter, step, quoteAfter, ofTag]

theorem ofClosing_name (hname : IsName name) :
    ofClosing name.toList.reverse = .closing name.toList := by
  have hdrop : name.toList.reverse.dropWhile isSpace = name.toList.reverse := by
    apply List.dropWhile_eq_self_iff.mpr
    intro hlength
    have hchar := hname.2 _ (List.mem_reverse.mp (List.getElem_mem hlength))
    rw [isSpace_of_isNameChar hchar]
    exact Bool.false_ne_true
  unfold ofClosing
  rw [hdrop]
  split <;> simp_all

theorem outputs_closing (hname : IsName name) :
    splitter.outputs .opened ('/' :: (name.toList ++ '>' :: rest)) =
      .closing name.toList :: splitter.outputs (.text []) rest := by
  have hscan := outputs_quoted (fun x => .closing x.1 x.2)
    (fun x c hc => by simp [splitter, step, hc]) (notMem_of_isNameChar rfl hname.2) none []
    ('>' :: rest)
  rw [foldl_quoteAfter_name hname, List.append_nil] at hscan
  calc splitter.outputs .opened ('/' :: (name.toList ++ '>' :: rest))
      = splitter.outputs (.closing none []) (name.toList ++ '>' :: rest) := rfl
    _ = .closing name.toList :: splitter.outputs (.text []) rest := by
        rw [hscan, Transducer.outputs]
        simp [splitter, step, ofClosing_name hname]

end Markup

namespace Element

open Markup (splitter ofText)

/-- Children that are each cut into their pieces are so one after the other. -/
theorem exists_childrenPieces {children : List Element}
    (h : ∀ child ∈ children, ∃ pieces, ElementOf pieces child.withoutLayout ∧ ∀ read rest,
      splitter.outputs (.text read) (child.chars ++ rest) =
        ofText read ++ (pieces ++ splitter.outputs (.text []) rest)) :
    ∃ pieces, Content pieces [] (childrenWithoutLayout children) ∧ ∀ read rest,
      splitter.outputs (.text read) (childrenChars children ++ '<' :: rest) =
        ofText read ++ (pieces ++ splitter.outputs .opened rest) := by
  induction children with
  | nil => exact ⟨[], .nil, fun _ _ => rfl⟩
  | cons child children ih =>
    obtain ⟨hchild, hchildren⟩ := List.forall_mem_cons.mp h
    obtain ⟨first, helement, hfirst⟩ := hchild
    obtain ⟨pieces, hcontent, hpieces⟩ := ih hchildren
    refine ⟨first ++ pieces, ?_, ?_⟩
    · rw [childrenWithoutLayout]
      generalize child.withoutLayout = kept at helement
      cases helement with
      | empty tag => exact .empty tag hcontent
      | tags tag within => simpa using Content.element tag within hcontent
    · intro read rest
      -- The first child ends the text in front of it, and the others follow on none.
      rw [childrenChars, List.append_assoc, hfirst, hpieces]
      simp [ofText]

/-- The text of an element is one piece, if it is there, and stands for itself or for layout. -/
theorem content_ofText (text : String) {pieces : List Markup} {children : List Element}
    (hc : Content pieces [] children) :
    Content (ofText (escape text.toList).reverse ++ pieces)
      (if Text.allBlank text.toList then [] else text.toList) children := by
  unfold ofText
  split_ifs with hnil hblank hblank
  · exact hc
  · -- Only the empty text is escaped to nothing, and it is layout.
    have hescape : escape text.toList = [] := by simpa using hnil
    have hread := unescape?_escape text.toList
    rw [hescape] at hread
    rw [← Option.some.inj hread] at hblank
    exact absurd rfl hblank
  · have hown : (Markup.text (escape text.toList)).ownText? = some [] := by
      simp [Markup.ownText?, unescape?_escape, hblank]
    simpa using Content.beside hown hc
  · have hown : (Markup.text (escape text.toList)).ownText? = some text.toList := by
      simp [Markup.ownText?, unescape?_escape, hblank]
    simpa using Content.beside hown hc

/-- What is printed of an ordinary element is cut into pieces that are this element, but for
layout. -/
theorem exists_pieces {e : Element} (h : e.Ordinary) :
    ∃ pieces, ElementOf pieces e.withoutLayout ∧ ∀ read rest,
      splitter.outputs (.text read) (e.chars ++ rest) =
        ofText read ++ (pieces ++ splitter.outputs (.text []) rest) := by
  induction h with
  | @intro e hname hkeys hdistinct hchildren ih =>
    obtain ⟨name, attributes, text, children⟩ := e
    have htag := Tag.element_tagChars hname hkeys hdistinct
    by_cases hnone : (children.isEmpty && text.isEmpty) = true
    · obtain ⟨rfl, rfl⟩ : children = [] ∧ text = "" := by simpa using hnone
      refine ⟨[.empty (tagChars name attributes)], .empty htag, fun read rest => ?_⟩
      have hprinted : chars ⟨name, attributes, "", []⟩ ++ rest =
          '<' :: (tagChars name attributes ++ '/' :: '>' :: rest) := by
        simp [chars, tagChars]
      rw [hprinted, Markup.outputs_empty hname hkeys]
      rfl
    · obtain ⟨inner, hcontent, hinner⟩ := exists_childrenPieces ih
      have helement := ElementOf.tags htag (content_ofText text hcontent)
      have hroot : withoutLayout ⟨name, attributes, text, children⟩ =
          ⟨name, attributes, String.ofList (if Text.allBlank text.toList then [] else text.toList),
            childrenWithoutLayout children⟩ := by
        rw [withoutLayout, apply_ite String.ofList, String.ofList_toList]
      rw [Tag.name_tagChars hname, ← hroot] at helement
      refine ⟨_, helement, fun read rest => ?_⟩
      calc splitter.outputs (.text read) (chars ⟨name, attributes, text, children⟩ ++ rest)
          = splitter.outputs (.text read) ('<' :: (tagChars name attributes ++ '>' ::
              (escape text.toList ++ (childrenChars children ++ '<' :: '/' ::
                (name.toList ++ '>' :: rest))))) := by
            simp [chars, hnone, tagChars]
        _ = ofText read ++ .opening (tagChars name attributes) ::
              (ofText (escape text.toList).reverse ++ (inner ++
                .closing name.toList :: splitter.outputs (.text []) rest)) := by
            rw [Markup.outputs_opening hname hkeys,
              Markup.outputs_text (notMem_escape (by simp) _), List.append_nil, hinner,
              Markup.outputs_closing hname]
        _ = _ := by simp

/-- Reading what is printed of an ordinary element gives the element, but for layout. -/
theorem ofChars_chars {e : Element} (h : e.Ordinary) :
    Document.ofChars e.chars = .ok ⟨some e.withoutLayout⟩ := by
  obtain ⟨pieces, helement, hpieces⟩ := exists_pieces h
  obtain ⟨rest, hrest⟩ : ∃ rest, e.chars = '<' :: rest := by
    obtain ⟨name, attributes, text, children⟩ := e
    rw [chars]
    split <;> exact ⟨_, rfl⟩
  have hblank : Text.allBlank e.chars = false := by
    have hbracket : Text.isBlank '<' = false := by cbv
    simp [hrest, Text.allBlank, hbracket]
  have hsplit : Markup.split (Document.dropMark e.chars) = pieces := by
    have hmark : Document.dropMark e.chars = e.chars := by
      rw [hrest]
      rfl
    rw [hmark, Markup.split, Transducer.run_eq, ← List.append_nil e.chars, hpieces]
    exact List.append_nil pieces
  rw [Document.ofChars_eq_ok_iff hblank, hsplit]
  exact ⟨_, rfl, [], pieces, [], by simp, by simp, helement, by simp⟩

end Element

namespace Document

theorem read_display_eq {e : Element} (h : e.Ordinary) :
    read e.display = .ok ⟨some e.withoutLayout⟩ := by
  rw [read, Element.toList_display, Element.ofChars_chars h]

/-- Printing an ordinary element and reading the text gives the element back, with its names, its
attributes in order, its texts and its children. -/
theorem read_display {e : Element} (h : e.Ordinary) (htexts : e.KeepsTexts) :
    read e.display = .ok ⟨some e⟩ := by
  rw [read_display_eq h, Element.withoutLayout_of_keepsTexts htexts]

/-- An element with characters that have to be escaped and with an end of a section in its text. -/
theorem read_display_nested :
    let e : Element :=
      ⟨"api", [("k", "a\"<&>'b\n")], " x & y", [⟨"b", [], "", []⟩, ⟨"c.d", [], "]]>", []⟩]⟩
    e.Ordinary ∧ e.KeepsTexts ∧ read e.display = .ok ⟨some e⟩ := by
  intro e
  have h : e.Ordinary := by
    simp [e, Element.ordinary_mk_iff, IsName, isNameChar, isSpace]
  have hb : (⟨"b", [], "", []⟩ : Element).KeepsTexts := .intro (.inl rfl) (by simp)
  have hc : (⟨"c.d", [], "]]>", []⟩ : Element).KeepsTexts := .intro (.inr (by cbv)) (by simp)
  have htexts : e.KeepsTexts := .intro (.inr (by cbv)) (by simp [e, hb, hc])
  exact ⟨h, htexts, read_display h htexts⟩

end Document

end Xml

end WikiRows
