import WikiRows.Proofs.Grammar

/-!
# The builder and the grammar

The builder goes through the pieces of a text once, with the elements that are open on its stack.
`feed_content` follows it through pieces that stand for text and children;
`exists_content_of_feed` goes back from a run that closes the innermost element. It follows that a
text is read just if its pieces are a document, and gives the root that they stand for.
-/

namespace WikiRows

namespace Xml

namespace Element

/-- Adds text and children to an element of which the last child stands first. -/
def adding (e : Element) (text : List Char) (children : List Element) : Element :=
  { e with text := e.text ++ String.ofList text, children := children.reverse ++ e.children }

theorem adding_nil (e : Element) : e.adding [] [] = e := by
  cases e
  simp [adding]

theorem adding_adding (e : Element) (s t : List Char) (cs ds : List Element) :
    (e.adding s cs).adding t ds = e.adding (s ++ t) (cs ++ ds) := by
  simp [adding, String.append_assoc]

end Element

namespace Builder

/-- What pieces make of a builder, given the names of the tags that are open. -/
def feed (names : List (List Char)) (b : Builder) (pieces : List Markup) : Except Fault Builder :=
  (Markup.checker.outputs (some names) pieces).foldlM step b

section

variable {names : List (List Char)} {b : Builder} {rest : List Markup}

theorem feed_nil : feed names b [] = .ok b := rfl

theorem feed_opening (content : List Char) :
    feed names b (.opening content :: rest) =
      (b.openTag content).bind fun b => feed (Tag.name content :: names) b rest := rfl

theorem feed_empty (content : List Char) :
    feed names b (.empty content :: rest) =
      (b.step (.empty content)).bind fun b => feed names b rest := rfl

theorem feed_beside {piece : Markup} (h : piece.isTag = false) :
    feed names b (piece :: rest) = (b.step piece).bind fun b => feed names b rest := by
  cases piece with
  | text | cdata | skipped | broken => rfl
  | opening | empty | closing => simp [Markup.isTag] at h

theorem feed_closing (name : List Char) :
    feed (name :: names) b (.closing name :: rest) =
      b.closeTag.bind fun b => feed names b rest := by
  have houtputs : Markup.checker.outputs (some (name :: names)) (.closing name :: rest) =
      .closing name :: Markup.checker.outputs (some names) rest := by
    simp [Transducer.outputs, Markup.checker, Markup.checkEnd]
  rw [feed, houtputs]
  rfl

/-- A closing tag that does not name the tag that is open breaks the text off. -/
theorem feed_mismatched {name : List Char} (h : names.head? ≠ some name) :
    feed names b (.closing name :: rest) = .error .malformed := by
  have hstep : Markup.checker.step (some names) (.closing name) = ([.broken], none) := by
    cases names with
    | nil => rfl
    | cons innermost outer =>
      have hne : name ≠ innermost := by
        rintro rfl
        exact h rfl
      simp [Markup.checker, Markup.checkEnd, hne]
  rw [feed, Transducer.outputs, hstep]
  rfl

theorem exists_cons_of_feed_closing {name : List Char} {b' : Builder}
    (h : feed names b (.closing name :: rest) = .ok b') : ∃ outer, names = name :: outer := by
  by_cases hhead : names.head? = some name
  · exact List.head?_eq_some_iff.mp hhead
  · simp [feed_mismatched hhead] at h

end

def closed (e : Element) : Element := { e with children := e.children.reverse }

theorem closed_adding {content text : List Char} {e : Element} {children : List Element}
    (h : Tag.element content = .ok e) :
    closed (e.adding text children) = { e with text := String.ofList text, children } := by
  obtain ⟨attributes, -, rfl⟩ := Tag.element_eq_ok_iff.mp h
  simp [closed, Element.adding]

variable {names : List (List Char)} {rest : List Markup} {stack : List Element}
  {root : Option Element}

theorem closeTag_inner (child e : Element) :
    closeTag ⟨child :: e :: stack, root⟩ = .ok ⟨e.adding [] [closed child] :: stack, root⟩ := by
  simp [closeTag, attach, closed, Element.adding]

theorem step_empty_inner {content : List Char} {child : Element}
    (h : Tag.element content = .ok child) (e : Element) :
    step ⟨e :: stack, root⟩ (.empty content) = .ok ⟨e.adding [] [child] :: stack, root⟩ := by
  simp [step, h, attach, Element.adding]

theorem step_beside_inner {piece : Markup} {own : List Char} (h : piece.ownText? = some own)
    (e : Element) :
    step ⟨e :: stack, root⟩ piece = .ok ⟨e.adding own [] :: stack, root⟩ := by
  cases piece with
  | text content =>
    obtain ⟨t, ht, rfl⟩ := Option.map_eq_some_iff.mp h
    by_cases hblank : Text.allBlank t
    · simp [step, ht, hblank, Element.adding_nil]
    · simp [step, ht, hblank, addText, Element.adding]
  | cdata content =>
    obtain rfl := Option.some.inj h
    simp [step, addText, Element.adding]
  | skipped =>
    obtain rfl := Option.some.inj h
    simp [step, Element.adding_nil]
  | opening | empty | closing | broken => simp [Markup.ownText?] at h

/-- Where an element is open, pieces add the text and the children that they stand for. -/
theorem feed_content {pieces : List Markup} {text : List Char} {children : List Element}
    (h : Content pieces text children) (e : Element) :
    feed names ⟨e :: stack, root⟩ (pieces ++ rest) =
      feed names ⟨e.adding text children :: stack, root⟩ rest := by
  induction h generalizing names rest stack e with
  | nil => rw [Element.adding_nil, List.nil_append]
  | beside adds after ih =>
    rw [List.cons_append, feed_beside (Markup.isReadable_of_ownText? adds).1,
      step_beside_inner adds]
    exact (ih _).trans (by rw [Element.adding_adding, List.nil_append])
  | empty tag after ih =>
    rw [List.cons_append, feed_empty, step_empty_inner tag]
    exact (ih _).trans (by rw [Element.adding_adding, List.nil_append, List.singleton_append])
  | @element content _ _ _ _ child _ _ tag within after ihw iha =>
    have hopen : openTag ⟨e :: stack, root⟩ content = .ok ⟨child :: e :: stack, root⟩ := by
      simp [openTag, tag]
    rw [List.cons_append, feed_opening, hopen, List.append_assoc]
    refine (ihw _).trans ?_
    rw [List.cons_append, feed_closing, closeTag_inner, closed_adding tag]
    exact (iha _).trans (by rw [Element.adding_adding, List.nil_append, List.singleton_append])

theorem openTag_eq_ok {b b' : Builder} {content : List Char} (h : b.openTag content = .ok b') :
    (b.stack = [] → b.root = none) ∧
      ∃ child, Tag.element content = .ok child ∧ b' = { b with stack := child :: b.stack } := by
  unfold openTag at h
  split_ifs at h with hroot
  refine ⟨?_, ?_⟩
  · intro hs
    simpa [hs] using hroot
  · cases htag : Tag.element content with
    | ok child => exact ⟨child, rfl, by simpa [htag] using h.symm⟩
    | error fault => simp [htag] at h

theorem exists_element_of_step {b b' : Builder} {content : List Char}
    (h : b.step (.empty content) = .ok b') : ∃ child, Tag.element content = .ok child := by
  cases htag : Tag.element content with
  | ok child => exact ⟨child, rfl⟩
  | error fault => simp [step, htag] at h

theorem isReadable_of_step {b b' : Builder} {piece : Markup} (htag : piece.isTag = false)
    (h : b.step piece = .ok b') : piece.IsReadable := by
  cases piece with
  | text content =>
    cases ht : unescape? content with
    | some t => exact ⟨t, ht⟩
    | none => simp [step, ht] at h
  | cdata | skipped => trivial
  | broken => simp [step] at h
  | opening | empty | closing => simp [Markup.isTag] at htag

/-- A run that closes the innermost element has read its content and its closing tag. -/
theorem exists_content_of_feed {pieces : List Markup} {e : Element} {b : Builder}
    (h : feed names ⟨e :: stack, root⟩ pieces = .ok b) (hb : b.stack = []) :
    ∃ inner name rest outer text children, pieces = inner ++ .closing name :: rest ∧
      names = name :: outer ∧ Content inner text children ∧
      (closeTag ⟨e.adding text children :: stack, root⟩).bind (fun b => feed outer b rest) =
        .ok b := by
  induction hn : pieces.length using Nat.strong_induction_on
    generalizing pieces names e stack with
  | _ n ih =>
    cases pieces with
    | nil =>
      obtain rfl := Except.ok.inj h
      simp at hb
    | cons piece pieces =>
      have hlt : pieces.length < n := by simp [← hn]
      cases piece using Markup.cases_tag with
      | beside piece htag =>
        rw [feed_beside htag] at h
        obtain ⟨b₁, hstep, hfeed⟩ := Traversal.bind_eq_ok_iff.mp h
        obtain ⟨own, hown⟩ := Markup.exists_ownText? htag (isReadable_of_step htag hstep)
        obtain rfl := Except.ok.inj ((step_beside_inner hown e).symm.trans hstep)
        obtain ⟨inner, name, rest, outer, text, children, rfl, rfl, hc, hclose⟩ :=
          ih _ hlt hfeed rfl
        rw [Element.adding_adding] at hclose
        exact ⟨piece :: inner, name, rest, outer, own ++ text, children, rfl, rfl,
          .beside hown hc, hclose⟩
      | closing name =>
        obtain ⟨outer, rfl⟩ := exists_cons_of_feed_closing h
        rw [feed_closing] at h
        exact ⟨[], name, pieces, outer, [], [], rfl, rfl, .nil, by rwa [Element.adding_nil]⟩
      | empty content =>
        rw [feed_empty] at h
        obtain ⟨b₁, hstep, hfeed⟩ := Traversal.bind_eq_ok_iff.mp h
        obtain ⟨child, hchild⟩ := exists_element_of_step hstep
        obtain rfl := Except.ok.inj ((step_empty_inner hchild e).symm.trans hstep)
        obtain ⟨inner, name, rest, outer, text, children, rfl, rfl, hc, hclose⟩ :=
          ih _ hlt hfeed rfl
        rw [Element.adding_adding] at hclose
        exact ⟨.empty content :: inner, name, rest, outer, text, child :: children, rfl, rfl,
          .empty hchild hc, hclose⟩
      | opening content =>
        rw [feed_opening] at h
        obtain ⟨b₁, hopen, hfeed⟩ := Traversal.bind_eq_ok_iff.mp h
        obtain ⟨-, child, hchild, rfl⟩ := openTag_eq_ok hopen
        obtain ⟨within, name, rest, outer, text, children, rfl, hnames, hc, hclose⟩ :=
          ih _ hlt hfeed rfl
        obtain ⟨rfl, rfl⟩ := List.cons.inj hnames
        -- The tag is closed; what is behind it is again content of the element around it.
        rw [closeTag_inner, closed_adding hchild] at hclose
        obtain ⟨inner, name, rest, outer, text, children, rfl, rfl, hc', hclose'⟩ :=
          ih rest.length (by simp at hlt; omega) hclose rfl
        rw [Element.adding_adding] at hclose'
        exact ⟨_, name, rest, outer, text, _, by simp, rfl, .element hchild hc hc', hclose'⟩

theorem step_layout {piece : Markup} (h : piece.IsLayout) :
    step ⟨[], root⟩ piece = .ok ⟨[], root⟩ := by
  cases piece with
  | text content =>
    obtain ⟨t, ht, hblank⟩ := h
    simp [step, ht, hblank]
  | cdata content =>
    have hblank : Text.allBlank content = true := h
    simp [step, addText, hblank]
  | skipped => rfl
  | opening | empty | closing | broken => exact h.elim

theorem isLayout_of_step {piece : Markup} {b : Builder} (htag : piece.isTag = false)
    (h : step ⟨[], root⟩ piece = .ok b) : piece.IsLayout := by
  cases piece with
  | text content =>
    obtain ⟨t, ht⟩ := isReadable_of_step htag h
    refine ⟨t, ht, ?_⟩
    by_contra hblank
    simp [step, ht, hblank, addText] at h
  | cdata content =>
    change Text.allBlank content = true
    by_contra hblank
    simp [step, addText, hblank] at h
  | skipped => trivial
  | broken => simp [step] at h
  | opening | empty | closing => simp [Markup.isTag] at htag

/-- Beside tags there is only layout where no element is open. -/
theorem layout_of_feed {piece : Markup} {b : Builder} (htag : piece.isTag = false)
    (h : feed names ⟨[], root⟩ (piece :: rest) = .ok b) :
    piece.IsLayout ∧ feed names ⟨[], root⟩ rest = .ok b := by
  rw [feed_beside htag] at h
  obtain ⟨b₁, hstep, hfeed⟩ := Traversal.bind_eq_ok_iff.mp h
  have hlayout := isLayout_of_step htag hstep
  obtain rfl := Except.ok.inj ((step_layout hlayout).symm.trans hstep)
  exact ⟨hlayout, hfeed⟩

theorem feed_layout {before : List Markup} (h : ∀ piece ∈ before, piece.IsLayout) :
    feed names ⟨[], root⟩ (before ++ rest) = feed names ⟨[], root⟩ rest := by
  induction before with
  | nil => rfl
  | cons piece before ih =>
    obtain ⟨hpiece, hbefore⟩ := List.forall_mem_cons.mp h
    rw [List.cons_append, feed_beside (Markup.isTag_of_isLayout hpiece), step_layout hpiece]
    exact ih hbefore

theorem feed_elementOf {pieces : List Markup} {e : Element} (h : ElementOf pieces e) :
    feed names ⟨[], none⟩ (pieces ++ rest) = feed names ⟨[], some e⟩ rest := by
  cases h with
  | empty tag =>
    rw [List.singleton_append, feed_empty]
    simp [step, tag, attach, Except.bind]
  | @tags content text inner child children tag within =>
    have hopen : openTag ⟨[], none⟩ content = .ok ⟨[child], none⟩ := by
      simp [openTag, tag]
    have hclose : closeTag ⟨[child.adding text children], none⟩ =
        .ok ⟨[], some (closed (child.adding text children))⟩ := rfl
    rw [List.cons_append, feed_opening, hopen, List.append_assoc]
    refine (feed_content within child).trans ?_
    rw [List.singleton_append, feed_closing, hclose, closed_adding tag]
    rfl

theorem eq_of_feed_root {pieces : List Markup} {e : Element} {b : Builder}
    (h : feed [] ⟨[], some e⟩ pieces = .ok b) :
    b = ⟨[], some e⟩ ∧ ∀ piece ∈ pieces, piece.IsLayout := by
  induction pieces with
  | nil => exact ⟨(Except.ok.inj h).symm, by simp⟩
  | cons piece pieces ih =>
    cases piece using Markup.cases_tag with
    | beside piece htag =>
      obtain ⟨hlayout, hfeed⟩ := layout_of_feed htag h
      obtain ⟨rfl, hpieces⟩ := ih hfeed
      exact ⟨rfl, List.forall_mem_cons.mpr ⟨hlayout, hpieces⟩⟩
    | closing name =>
      obtain ⟨outer, hnames⟩ := exists_cons_of_feed_closing h
      simp at hnames
    | empty content =>
      rw [feed_empty] at h
      obtain ⟨b₁, hstep, -⟩ := Traversal.bind_eq_ok_iff.mp h
      obtain ⟨child, hchild⟩ := exists_element_of_step hstep
      simp [step, hchild, attach] at hstep
    | opening content =>
      rw [feed_opening] at h
      obtain ⟨b₁, hopen, -⟩ := Traversal.bind_eq_ok_iff.mp h
      simpa using (openTag_eq_ok hopen).1 rfl

theorem documentOf_of_feed {pieces : List Markup} {e : Element}
    (h : feed [] initial pieces = .ok ⟨[], some e⟩) : DocumentOf pieces e := by
  induction pieces with
  | nil => simp [feed_nil, initial] at h
  | cons piece pieces ih =>
    cases piece using Markup.cases_tag with
    | beside piece htag =>
      obtain ⟨hlayout, hfeed⟩ := layout_of_feed htag h
      obtain ⟨before, element, after, rfl, hbefore, helement, hafter⟩ := ih hfeed
      exact ⟨piece :: before, element, after, rfl, List.forall_mem_cons.mpr ⟨hlayout, hbefore⟩,
        helement, hafter⟩
    | closing name =>
      obtain ⟨outer, hnames⟩ := exists_cons_of_feed_closing h
      simp at hnames
    | empty content =>
      rw [feed_empty] at h
      obtain ⟨b₁, hstep, hfeed⟩ := Traversal.bind_eq_ok_iff.mp h
      obtain ⟨child, hchild⟩ := exists_element_of_step hstep
      have hb₁ : b₁ = ⟨[], some child⟩ := by
        simpa [step, hchild, attach, initial] using hstep.symm
      rw [hb₁] at hfeed
      obtain ⟨heq, hafter⟩ := eq_of_feed_root hfeed
      obtain rfl : e = child := by simpa using heq
      exact ⟨[], [.empty content], pieces, rfl, by simp, .empty hchild, hafter⟩
    | opening content =>
      rw [feed_opening] at h
      obtain ⟨b₁, hopen, hfeed⟩ := Traversal.bind_eq_ok_iff.mp h
      obtain ⟨-, child, hchild, rfl⟩ := openTag_eq_ok hopen
      obtain ⟨inner, name, after, outer, text, children, rfl, hnames, hc, hclose⟩ :=
        exists_content_of_feed hfeed rfl
      obtain ⟨rfl, rfl⟩ := List.cons.inj hnames
      obtain ⟨heq, hafter⟩ := eq_of_feed_root (e := closed (child.adding text children)) hclose
      obtain rfl : e = closed (child.adding text children) := by simpa using heq
      rw [closed_adding hchild]
      exact ⟨[], _, after, by simp, by simp, .tags hchild hc, hafter⟩

theorem feed_eq_ok_iff {pieces : List Markup} {e : Element} :
    feed [] initial pieces = .ok ⟨[], some e⟩ ↔ DocumentOf pieces e := by
  constructor
  · exact documentOf_of_feed
  · rintro ⟨before, element, after, rfl, hbefore, helement, hafter⟩
    rw [initial, feed_layout hbefore, feed_elementOf helement, ← List.append_nil after,
      feed_layout hafter, feed_nil]

theorem finish_eq_ok_iff {b : Builder} {e : Element} : b.finish = .ok e ↔ b = ⟨[], some e⟩ := by
  obtain ⟨stack, root⟩ := b
  cases stack <;> cases root <;> simp [finish]

end Builder

namespace Document

theorem ofChars_eq_feed {s : List Char} (hs : Text.allBlank s = false) :
    ofChars s = ((Builder.feed [] .initial (Markup.split (dropMark s))).bind Builder.finish).map
      fun root => ⟨some root⟩ := by
  rw [ofChars, hs, Markup.read, Transducer.run_eq]
  change (Builder.feed [] .initial _).bind _ = _
  cases Builder.feed [] .initial (Markup.split (dropMark s)) with
  | error fault => rfl
  | ok b => cases hb : b.finish <;> simp [Except.bind, Except.map, hb]

/-- A text that is not white space as a whole is read just if its pieces are a document. -/
theorem ofChars_eq_ok_iff {s : List Char} (hs : Text.allBlank s = false) {d : Document} :
    ofChars s = .ok d ↔
      ∃ root, d = ⟨some root⟩ ∧ DocumentOf (Markup.split (dropMark s)) root := by
  rw [ofChars_eq_feed hs, Traversal.map_eq_ok_iff]
  constructor
  · rintro ⟨root, h, rfl⟩
    obtain ⟨b, hfeed, hfinish⟩ := Traversal.bind_eq_ok_iff.mp h
    rw [Builder.finish_eq_ok_iff.mp hfinish] at hfeed
    exact ⟨root, rfl, Builder.feed_eq_ok_iff.mp hfeed⟩
  · rintro ⟨root, rfl, h⟩
    exact ⟨root, Traversal.bind_eq_ok_iff.mpr ⟨_, Builder.feed_eq_ok_iff.mpr h, rfl⟩, rfl⟩

end Document

end Xml

end WikiRows
