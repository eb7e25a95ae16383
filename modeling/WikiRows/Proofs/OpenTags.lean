import WikiRows.Proofs.Entries

/-!
# Open tags and open elements

While a text is read, the reader holds the names of the tags that are open, and the builder holds the
elements that are. The two stay in step (`InStep`): one piece that the reader passes on keeps them so
(`InStep.step`), hence every run does (`InStep.feed`). So an element is there for every closing tag
that is passed on, and no root is ever replaced.
-/

namespace WikiRows

namespace Xml

namespace Markup

/-- A closing tag has to name the innermost tag that is open. -/
def Fits (names : List (List Char)) : Markup → Prop
  | closing name => names.head? = some name
  | _ => True

/-- The names of the tags that are open behind a piece, the innermost first. -/
def openAfter (names : List (List Char)) : Markup → List (List Char)
  | opening content => Tag.name content :: names
  | closing _ => names.tail
  | _ => names

def isPaired : Markup → Bool
  | opening _ | closing _ => true
  | _ => false

theorem checker_step {names : List (List Char)} {piece : Markup} (h : piece.Fits names) :
    checker.step (some names) piece = ([piece], some (piece.openAfter names)) := by
  cases piece with
  | closing name =>
    obtain ⟨outer, rfl⟩ := List.head?_eq_some_iff.mp h
    simp [checker, checkEnd, openAfter]
  | opening | empty | text | cdata | skipped | broken => rfl

end Markup

namespace Builder

open Markup (checker)

variable {names : List (List Char)} {b b' : Builder} {piece : Markup} {rest : List Markup}

theorem feed_cons (h : piece.Fits names) :
    feed names b (piece :: rest) =
      (b.step piece).bind fun b => feed (piece.openAfter names) b rest := by
  rw [feed, Transducer.outputs, Markup.checker_step h]
  rfl

theorem feed_cons_of_not_fits (h : ¬ piece.Fits names) :
    feed names b (piece :: rest) = .error .malformed := by
  cases piece with
  | closing name => exact feed_mismatched h
  | opening | empty | text | cdata | skipped | broken => exact absurd trivial h

/-- A run that ends well passes its first piece on and takes it. -/
theorem exists_step_of_feed_cons (h : feed names b (piece :: rest) = .ok b') :
    piece.Fits names ∧
      ∃ next, b.step piece = .ok next ∧ feed (piece.openAfter names) next rest = .ok b' := by
  by_cases hfits : piece.Fits names
  · rw [feed_cons hfits] at h
    exact ⟨hfits, Traversal.bind_eq_ok_iff.mp h⟩
  · rw [feed_cons_of_not_fits hfits] at h
    cases h

theorem feed_append {before : List Markup} {last : List (List Char)}
    (hafter : checker.after (some names) before = (before, some last)) :
    feed names b (before ++ rest) = (feed names b before).bind fun b => feed last b rest := by
  have hbefore : checker.outputs (some names) before = before := by
    have h := Transducer.outputs_append checker (some names) before []
    rw [List.append_nil, hafter] at h
    exact h.trans (List.append_nil before)
  rw [feed, feed, Transducer.outputs_append, hafter, List.foldlM_append, hbefore]
  rfl

/-! ## One piece -/

/-- The same elements are open, and what was the root still is. -/
structure SameOpen (b b' : Builder) : Prop where
  stack_names : b'.stack.map Element.name = b.stack.map Element.name
  root_eq : b'.stack ≠ [] → b'.root = b.root
  root_kept : ∀ root, b.root = some root → b'.root = some root

theorem SameOpen.refl (b : Builder) : SameOpen b b := ⟨rfl, fun _ => rfl, fun _ => id⟩

theorem sameOpen_of_attach {e : Element} (h : b.attach e = .ok b') : SameOpen b b' := by
  obtain ⟨stack, root⟩ := b
  cases stack with
  | cons parent stack =>
    obtain rfl := Except.ok.inj h
    exact ⟨rfl, fun _ => rfl, fun _ => id⟩
  | nil =>
    cases root with
    | some root => cases h
    | none =>
      obtain rfl := Except.ok.inj h
      exact ⟨rfl, fun h => absurd rfl h, nofun⟩

theorem sameOpen_of_addText {text : List Char} (h : b.addText text = .ok b') : SameOpen b b' := by
  obtain ⟨stack, root⟩ := b
  cases stack with
  | cons e stack =>
    obtain rfl := Except.ok.inj h
    exact ⟨rfl, fun _ => rfl, fun _ => id⟩
  | nil =>
    simp only [addText] at h
    split_ifs at h
    obtain rfl := Except.ok.inj h
    exact .refl _

theorem sameOpen_of_step (hpaired : piece.isPaired = false) (h : b.step piece = .ok b') :
    SameOpen b b' := by
  cases piece with
  | opening | closing => cases hpaired
  | empty content =>
    obtain ⟨child, hchild⟩ := exists_element_of_step h
    simp only [step, hchild] at h
    exact sameOpen_of_attach h
  | text content =>
    obtain ⟨t, ht⟩ := isReadable_of_step rfl h
    simp only [step, ht] at h
    split_ifs at h
    · obtain rfl := Except.ok.inj h
      exact .refl _
    · exact sameOpen_of_addText h
  | cdata content => exact sameOpen_of_addText h
  | skipped =>
    obtain rfl := Except.ok.inj h
    exact .refl _
  | broken => cases h

theorem root_of_step {root : Element} (h : b.step piece = .ok b') (hroot : b.root = some root) :
    b'.root = some root := by
  cases piece with
  | opening content =>
    obtain ⟨-, child, -, rfl⟩ := openTag_eq_ok h
    exact hroot
  | closing name =>
    obtain ⟨stack, broot⟩ := b
    cases stack with
    | nil => cases h
    | cons e stack =>
      have hattach : attach ⟨stack, broot⟩ (closed e) = .ok b' := h
      exact (sameOpen_of_attach hattach).root_kept root hroot
  | empty | text | cdata | skipped | broken => exact (sameOpen_of_step rfl h).root_kept root hroot

/-- The elements on the stack have the names of the tags that are open, and there is no root as long
as one is. -/
structure InStep (names : List (List Char)) (b : Builder) : Prop where
  stack_names : b.stack.map Element.name = names.map String.ofList
  root_eq_none : b.stack ≠ [] → b.root = none

theorem inStep_initial : InStep [] .initial := ⟨rfl, fun h => absurd rfl h⟩

theorem InStep.sameOpen (h : InStep names b) (hsame : SameOpen b b') : InStep names b' := by
  refine ⟨hsame.stack_names.trans h.stack_names, fun hne => ?_⟩
  rw [hsame.root_eq hne]
  refine h.root_eq_none fun hnil => hne ?_
  simpa [hnil] using hsame.stack_names

/-- The innermost element can be closed: it has a parent or becomes the root, of which there is none
yet. -/
theorem InStep.exists_closeTag {name : List Char} (h : InStep (name :: names) b) :
    ∃ b', b.closeTag = .ok b' ∧ InStep names b' := by
  obtain ⟨stack, root⟩ := b
  obtain ⟨hnames, hroot⟩ := h
  cases stack with
  | nil => cases hnames
  | cons e stack =>
    obtain rfl : root = none := hroot (List.cons_ne_nil _ _)
    have hinner : InStep names ⟨stack, none⟩ := ⟨(List.cons.inj hnames).2, fun _ => rfl⟩
    have hattach : ∃ b', attach ⟨stack, none⟩ (closed e) = .ok b' := by
      cases stack <;> exact ⟨_, rfl⟩
    obtain ⟨b', hb'⟩ := hattach
    exact ⟨b', hb', hinner.sameOpen (sameOpen_of_attach hb')⟩

/-- A piece that the reader passes on keeps the two in step. -/
theorem InStep.step (h : InStep names b) (hfits : piece.Fits names)
    (hstep : b.step piece = .ok b') : InStep (piece.openAfter names) b' := by
  cases piece with
  | opening content =>
    obtain ⟨hroot, child, hchild, rfl⟩ := openTag_eq_ok hstep
    obtain ⟨attributes, -, rfl⟩ := Tag.element_eq_ok_iff.mp hchild
    refine ⟨by rw [Markup.openAfter, List.map_cons, List.map_cons, h.stack_names], fun _ => ?_⟩
    by_cases hstack : b.stack = []
    · exact hroot hstack
    · exact h.root_eq_none hstack
  | closing name =>
    obtain ⟨outer, rfl⟩ := List.head?_eq_some_iff.mp hfits
    obtain ⟨b₁, hclose, hin⟩ := h.exists_closeTag
    obtain rfl := Except.ok.inj (hclose.symm.trans hstep)
    exact hin
  | empty | text | cdata | skipped | broken => exact h.sameOpen (sameOpen_of_step rfl hstep)

theorem ofTag_ne_unexpectedClosing (fault : TagFault) : Fault.ofTag fault ≠ .unexpectedClosing := by
  cases fault <;> simp [Fault.ofTag]

theorem attach_ne_unexpectedClosing (e : Element) : b.attach e ≠ .error .unexpectedClosing := by
  obtain ⟨stack, root⟩ := b
  cases stack <;> cases root <;> simp [attach]

theorem addText_ne_unexpectedClosing (text : List Char) :
    b.addText text ≠ .error .unexpectedClosing := by
  obtain ⟨stack, root⟩ := b
  cases stack with
  | nil => by_cases hblank : Text.allBlank text <;> simp [addText, hblank]
  | cons => simp [addText]

theorem openTag_ne_unexpectedClosing (content : List Char) :
    b.openTag content ≠ .error .unexpectedClosing := by
  by_cases hroot : (b.stack.isEmpty && b.root.isSome)
  · simp [openTag, hroot]
  · cases htag : Tag.element content with
    | ok e => simp [openTag, hroot, htag]
    | error fault => simp [openTag, hroot, htag, ofTag_ne_unexpectedClosing]

theorem InStep.step_ne_unexpectedClosing (h : InStep names b) (hfits : piece.Fits names) :
    b.step piece ≠ .error .unexpectedClosing := by
  cases piece with
  | opening content => exact openTag_ne_unexpectedClosing content
  | empty content =>
    cases htag : Tag.element content with
    | ok e => simpa [Builder.step, htag] using attach_ne_unexpectedClosing e
    | error fault => simp [Builder.step, htag, ofTag_ne_unexpectedClosing]
  | closing name =>
    obtain ⟨outer, rfl⟩ := List.head?_eq_some_iff.mp hfits
    obtain ⟨b', hclose, -⟩ := h.exists_closeTag
    simp [Builder.step, hclose]
  | text content =>
    cases ht : unescape? content with
    | none => simp [Builder.step, ht]
    | some t =>
      by_cases hblank : Text.allBlank t
      · simp [Builder.step, ht, hblank]
      · simpa [Builder.step, ht, hblank] using addText_ne_unexpectedClosing t
  | cdata content => exact addText_ne_unexpectedClosing content
  | skipped | broken => simp [Builder.step]

/-! ## Runs -/

/-- From where the two are in step, a run passes on every piece and ends where they are. -/
theorem InStep.feed {pieces : List Markup} (h : InStep names b)
    (hfeed : feed names b pieces = .ok b') :
    ∃ last, checker.after (some names) pieces = (pieces, some last) ∧ InStep last b' := by
  induction pieces generalizing names b with
  | nil =>
    obtain rfl := Except.ok.inj hfeed
    exact ⟨names, rfl, h⟩
  | cons piece pieces ih =>
    obtain ⟨hfits, next, hstep, hrest⟩ := exists_step_of_feed_cons hfeed
    obtain ⟨last, hafter, hlast⟩ := ih (h.step hfits hstep) hrest
    refine ⟨last, ?_, hlast⟩
    rw [Transducer.after, Markup.checker_step hfits, hafter]
    rfl

theorem InStep.feed_ne_unexpectedClosing {pieces : List Markup} (h : InStep names b) :
    Builder.feed names b pieces ≠ .error .unexpectedClosing := by
  induction pieces generalizing names b with
  | nil => simp [feed_nil]
  | cons piece pieces ih =>
    by_cases hfits : piece.Fits names
    · rw [feed_cons hfits]
      cases hstep : b.step piece with
      | ok b₁ => exact ih (h.step hfits hstep)
      | error fault =>
        intro hfault
        obtain rfl := Except.error.inj hfault
        exact h.step_ne_unexpectedClosing hfits hstep
    · rw [feed_cons_of_not_fits hfits]
      simp

theorem root_of_feed {pieces : List Markup} {root : Element}
    (hfeed : feed names b pieces = .ok b') (hroot : b.root = some root) :
    b'.root = some root := by
  induction pieces generalizing names b with
  | nil =>
    obtain rfl := Except.ok.inj hfeed
    exact hroot
  | cons piece pieces ih =>
    obtain ⟨-, next, hstep, hrest⟩ := exists_step_of_feed_cons hfeed
    exact ih hrest (root_of_step hstep hroot)

end Builder

namespace Document

/-- The pieces that are read of a text: none if it is white space as a whole. -/
def pieces (s : List Char) : List Markup :=
  if Text.allBlank s then [] else Markup.split (dropMark s)

/-- What is the root anywhere in a run is the root of the document. -/
theorem root_of_ofChars {s : List Char} {d : Document} {before rest : List Markup} {b : Builder}
    {root : Element} (hpieces : pieces s = before ++ rest)
    (hfeed : Builder.feed [] .initial before = .ok b) (hroot : b.root = some root)
    (h : ofChars s = .ok d) : d.root = some root := by
  cases hblank : Text.allBlank s with
  | true =>
    rw [pieces, if_pos hblank] at hpieces
    obtain ⟨rfl, -⟩ := List.append_eq_nil_iff.mp hpieces.symm
    obtain rfl := Except.ok.inj hfeed
    cases hroot
  | false =>
    rw [pieces, if_neg (by simp [hblank])] at hpieces
    obtain ⟨last, hafter, -⟩ := Builder.inStep_initial.feed hfeed
    rw [ofChars_eq_feed hblank, hpieces, Builder.feed_append hafter, hfeed] at h
    obtain ⟨e, hall, rfl⟩ := Traversal.map_eq_ok_iff.mp h
    obtain ⟨b', hrest, hfinish⟩ := Traversal.bind_eq_ok_iff.mp hall
    rw [Builder.finish_eq_ok_iff.mp hfinish] at hrest
    exact Builder.root_of_feed hrest hroot

theorem ofChars_ne_unexpectedClosing (s : List Char) : ofChars s ≠ .error .unexpectedClosing := by
  intro h
  cases hblank : Text.allBlank s with
  | true =>
    rw [ofChars, if_pos hblank] at h
    cases h
  | false =>
    rw [ofChars_eq_feed hblank, Traversal.map_eq_error_iff] at h
    cases hfeed : Builder.feed [] .initial (Markup.split (dropMark s)) with
    | error fault =>
      rw [hfeed] at h
      obtain rfl := Except.error.inj h
      exact Builder.inStep_initial.feed_ne_unexpectedClosing hfeed
    | ok b =>
      rw [hfeed] at h
      obtain ⟨stack, root⟩ := b
      cases stack <;> cases root <;> cases h

/-- Wherever the reading of a body has got to, the elements on the stack have the names of the tags
that the reader holds open, the innermost first, and there is no root as long as one is open. So a
closing tag that names the innermost of them is closed without a fault, what is the root stays the
root of the document, and no body is refused for a closing tag without an element. -/
theorem stack_follows_open_tags (body : String) :
    (∀ before rest b, pieces body.toList = before ++ rest →
      Builder.feed [] .initial before = .ok b →
      (b.stack ≠ [] → b.root = none) ∧
      (∃ names, Markup.checker.after (some []) before = (before, some names) ∧
        b.stack.map Element.name = names.map String.ofList ∧
        ∀ name, names.head? = some name → ∃ b', b.step (.closing name) = .ok b') ∧
      ∀ root d, b.root = some root → read body = .ok d → d.root = some root) ∧
    ∀ excerpt, read body ≠ .error (.answer (.xml .unexpectedClosing) excerpt) := by
  constructor
  · intro before rest b hpieces hfeed
    obtain ⟨names, hafter, hin⟩ := Builder.inStep_initial.feed hfeed
    refine ⟨hin.root_eq_none, ⟨names, hafter, hin.stack_names, ?_⟩, ?_⟩
    · intro name hname
      obtain ⟨outer, rfl⟩ := List.head?_eq_some_iff.mp hname
      obtain ⟨b', hclose, -⟩ := hin.exists_closeTag
      exact ⟨b', hclose⟩
    · intro root d hroot hread
      exact root_of_ofChars hpieces hfeed hroot (read_eq_ok_iff.mp hread)
  · intro excerpt h
    unfold read at h
    cases hread : ofChars body.toList with
    | ok d => simp [hread] at h
    | error fault =>
      simp only [hread, Except.error.injEq, Failure.answer.injEq, AnswerFault.xml.injEq] at h
      exact ofChars_ne_unexpectedClosing _ (hread.trans (congrArg _ h.1))

/-- In the middle of a text, where a tag is to be closed within another one, and behind the root. -/
theorem stack_follows_open_tags_nested :
    let body := "<a><b k='1'>t<c/></b> <b/></a> "
    let before : List Markup :=
      [.opening ['a'], .opening "b k='1'".toList, .text ['t'], .empty ['c']]
    let rest : List Markup := [.closing ['b'], .text [' '], .empty ['b'], .closing ['a']]
    let inner : Element := ⟨"b", [("k", "1")], "t", [⟨"c", [], "", []⟩]⟩
    let root : Element := ⟨"a", [], "", [inner, ⟨"b", [], "", []⟩]⟩
    pieces body.toList = before ++ rest ++ [.text [' ']] ∧
      Builder.feed [] .initial before = .ok ⟨[inner, ⟨"a", [], "", []⟩], none⟩ ∧
      Markup.checker.after (some []) before = (before, some [['b'], ['a']]) ∧
      (∃ b, Builder.step ⟨[inner, ⟨"a", [], "", []⟩], none⟩ (.closing ['b']) = .ok b) ∧
      Builder.feed [] .initial (before ++ rest) = .ok ⟨[], some root⟩ ∧
      ∃ d, read body = .ok d ∧ d.root = some root := by
  intro body before rest inner root
  have hpieces : pieces body.toList = before ++ rest ++ [.text [' ']] := by cbv
  have hmiddle : Builder.feed [] .initial before = .ok ⟨[inner, ⟨"a", [], "", []⟩], none⟩ := by cbv
  have hend : Builder.feed [] .initial (before ++ rest) = .ok ⟨[], some root⟩ := by cbv
  have hafter : Markup.checker.after (some []) before = (before, some [['b'], ['a']]) := by rfl
  have hread : read body = .ok ⟨some root⟩ := by cbv
  have hrun := (stack_follows_open_tags body).1
  obtain ⟨-, ⟨names, hnames, -, hclose⟩, -⟩ :=
    hrun before _ _ (hpieces.trans (List.append_assoc _ _ _)) hmiddle
  obtain rfl : [['b'], ['a']] = names := by simpa [hafter] using hnames
  obtain ⟨-, -, hroot⟩ := hrun (before ++ rest) _ _ hpieces hend
  exact ⟨hpieces, hmiddle, hafter, hclose ['b'] rfl, hend, _, hread, hroot root _ rfl hread⟩

end Document

end Xml

end WikiRows
