import WikiRows.Proofs.Traversal
import WikiRows.Xml.Document

/-!
# The grammar of documents

`Markup.IsDocument` says which pieces of markup are a document: one element whose tags are balanced,
with nothing but layout around it. `DocumentOf` tells in addition what the root is, from what
`Content` says of the text and the children that pieces stand for. The two agree on pieces that can
be read, by `Markup.exists_documentOf_iff`.
-/

namespace WikiRows

namespace Xml

namespace Markup

def isTag : Markup → Bool
  | opening _ | empty _ | closing _ => true
  | text _ | cdata _ | skipped | broken => false

def IsReadable : Markup → Prop
  | opening content | empty content => ∃ e, Tag.element content = .ok e
  | text content => ∃ t, unescape? content = some t
  | closing _ | cdata _ | skipped => True
  | broken => False

/-- What may stand beside the root. -/
def IsLayout : Markup → Prop
  | text content => ∃ t, unescape? content = some t ∧ Text.allBlank t
  | cdata content => Text.allBlank content
  | skipped => True
  | opening _ | empty _ | closing _ | broken => False

/-- What a piece that is no tag adds to the text of the element directly around it. White space
between tags is layout and adds nothing. -/
def ownText? : Markup → Option (List Char)
  | text content => (unescape? content).map fun t => if Text.allBlank t then [] else t
  | cdata content => some content
  | skipped => some []
  | opening _ | empty _ | closing _ | broken => none

/-- Every tag that is opened is closed by one of its name. -/
inductive Balanced : List Markup → Prop
  | nil : Balanced []
  | beside {piece : Markup} {rest : List Markup} (noTag : piece.isTag = false)
      (after : Balanced rest) : Balanced (piece :: rest)
  | empty (content : List Char) {rest : List Markup} (after : Balanced rest) :
      Balanced (.empty content :: rest)
  | element (content : List Char) {inner rest : List Markup} (within : Balanced inner)
      (after : Balanced rest) :
      Balanced (.opening content :: (inner ++ .closing (Tag.name content) :: rest))

inductive IsElement : List Markup → Prop
  | empty (content : List Char) : IsElement [.empty content]
  | tags (content : List Char) {inner : List Markup} (within : Balanced inner) :
      IsElement (.opening content :: (inner ++ [.closing (Tag.name content)]))

def IsDocument (pieces : List Markup) : Prop :=
  ∃ before element after, pieces = before ++ (element ++ after) ∧
    (∀ piece ∈ before, piece.IsLayout) ∧ IsElement element ∧ ∀ piece ∈ after, piece.IsLayout

end Markup

open Markup (Balanced)

/-- Pieces that stand for a text and for children. -/
inductive Content : List Markup → List Char → List Element → Prop
  | nil : Content [] [] []
  | beside {piece : Markup} {own text : List Char} {rest : List Markup} {children : List Element}
      (adds : piece.ownText? = some own) (after : Content rest text children) :
      Content (piece :: rest) (own ++ text) children
  | empty {content text : List Char} {rest : List Markup} {e : Element} {children : List Element}
      (tag : Tag.element content = .ok e) (after : Content rest text children) :
      Content (.empty content :: rest) text (e :: children)
  | element {content innerText text : List Char} {inner rest : List Markup} {e : Element}
      {innerChildren children : List Element} (tag : Tag.element content = .ok e)
      (within : Content inner innerText innerChildren) (after : Content rest text children) :
      Content (.opening content :: (inner ++ .closing (Tag.name content) :: rest)) text
        ({ e with text := String.ofList innerText, children := innerChildren } :: children)

inductive ElementOf : List Markup → Element → Prop
  | empty {content : List Char} {e : Element} (tag : Tag.element content = .ok e) :
      ElementOf [.empty content] e
  | tags {content text : List Char} {inner : List Markup} {e : Element} {children : List Element}
      (tag : Tag.element content = .ok e) (within : Content inner text children) :
      ElementOf (.opening content :: (inner ++ [.closing (Tag.name content)]))
        { e with text := String.ofList text, children }

def DocumentOf (pieces : List Markup) (root : Element) : Prop :=
  ∃ before element after, pieces = before ++ (element ++ after) ∧
    (∀ piece ∈ before, piece.IsLayout) ∧ ElementOf element root ∧ ∀ piece ∈ after, piece.IsLayout

namespace Tag

theorem element_eq_ok_iff {content : List Char} {e : Element} :
    element content = .ok e ↔
      ∃ attributes, Tag.attributes content = .ok attributes ∧
        e = ⟨String.ofList (name content), attributes, "", []⟩ := by
  rw [element, Traversal.map_eq_ok_iff]
  simp only [eq_comm]

end Tag

namespace Markup

theorem isReadable_of_ownText? {piece : Markup} {own : List Char} (h : piece.ownText? = some own) :
    piece.isTag = false ∧ piece.IsReadable := by
  cases piece with
  | text content =>
    obtain ⟨t, ht, -⟩ := Option.map_eq_some_iff.mp h
    exact ⟨rfl, t, ht⟩
  | cdata | skipped => exact ⟨rfl, trivial⟩
  | opening | empty | closing | broken => simp [ownText?] at h

theorem exists_ownText? {piece : Markup} (htag : piece.isTag = false) (h : piece.IsReadable) :
    ∃ own, piece.ownText? = some own := by
  cases piece with
  | text content =>
    obtain ⟨t, ht⟩ := h
    exact ⟨_, by rw [ownText?, ht]; rfl⟩
  | cdata | skipped => exact ⟨_, rfl⟩
  | broken => exact h.elim
  | opening | empty | closing => simp [isTag] at htag

theorem isReadable_of_isLayout {piece : Markup} (h : piece.IsLayout) : piece.IsReadable := by
  cases piece with
  | text content =>
    obtain ⟨t, ht, -⟩ := h
    exact ⟨t, ht⟩
  | cdata | skipped => trivial
  | opening | empty | closing | broken => exact h.elim

theorem isTag_of_isLayout {piece : Markup} (h : piece.IsLayout) : piece.isTag = false := by
  cases piece with
  | text | cdata | skipped => rfl
  | opening | empty | closing | broken => exact h.elim

/-- A piece is one of the three kinds of tag, or stands beside tags. -/
theorem cases_tag {motive : Markup → Prop}
    (beside : ∀ piece, isTag piece = false → motive piece)
    (opening : ∀ content, motive (.opening content))
    (empty : ∀ content, motive (.empty content))
    (closing : ∀ name, motive (.closing name)) (piece : Markup) : motive piece := by
  cases piece with
  | opening content => exact opening content
  | empty content => exact empty content
  | closing name => exact closing name
  | text | cdata | skipped | broken => exact beside _ rfl

/-- Balanced pieces that can be read stand for something. -/
theorem exists_content_iff {pieces : List Markup} :
    (∃ text children, Content pieces text children) ↔
      Balanced pieces ∧ ∀ piece ∈ pieces, piece.IsReadable := by
  constructor
  · rintro ⟨text, children, h⟩
    induction h with
    | nil => exact ⟨.nil, by simp⟩
    | beside adds after ih =>
      obtain ⟨htag, hread⟩ := isReadable_of_ownText? adds
      exact ⟨.beside htag ih.1, List.forall_mem_cons.mpr ⟨hread, ih.2⟩⟩
    | empty tag after ih =>
      exact ⟨.empty _ ih.1, List.forall_mem_cons.mpr ⟨⟨_, tag⟩, ih.2⟩⟩
    | element tag within after ihw iha =>
      refine ⟨.element _ ihw.1 iha.1, List.forall_mem_cons.mpr ⟨⟨_, tag⟩, ?_⟩⟩
      exact List.forall_mem_append.mpr ⟨ihw.2, List.forall_mem_cons.mpr ⟨trivial, iha.2⟩⟩
  · rintro ⟨hbalanced, hread⟩
    induction hbalanced with
    | nil => exact ⟨[], [], .nil⟩
    | beside noTag after ih =>
      obtain ⟨hpiece, hrest⟩ := List.forall_mem_cons.mp hread
      obtain ⟨own, hown⟩ := exists_ownText? noTag hpiece
      obtain ⟨text, children, h⟩ := ih hrest
      exact ⟨_, _, .beside hown h⟩
    | empty content after ih =>
      obtain ⟨⟨e, htag⟩, hrest⟩ := List.forall_mem_cons.mp hread
      obtain ⟨text, children, h⟩ := ih hrest
      exact ⟨_, _, .empty htag h⟩
    | element content within after ihw iha =>
      obtain ⟨⟨e, htag⟩, hboth⟩ := List.forall_mem_cons.mp hread
      obtain ⟨hinner, hrest⟩ := List.forall_mem_append.mp hboth
      obtain ⟨_, _, hw⟩ := ihw hinner
      obtain ⟨_, _, ha⟩ := iha (List.forall_mem_cons.mp hrest).2
      exact ⟨_, _, .element htag hw ha⟩

theorem exists_elementOf_iff {pieces : List Markup} :
    (∃ e, ElementOf pieces e) ↔ IsElement pieces ∧ ∀ piece ∈ pieces, piece.IsReadable := by
  constructor
  · rintro ⟨e, h⟩
    cases h with
    | empty tag => exact ⟨.empty _, by simpa [IsReadable] using ⟨_, tag⟩⟩
    | tags tag within =>
      obtain ⟨hbalanced, hread⟩ := exists_content_iff.mp ⟨_, _, within⟩
      refine ⟨.tags _ hbalanced, List.forall_mem_cons.mpr ⟨⟨_, tag⟩, ?_⟩⟩
      exact List.forall_mem_append.mpr ⟨hread, by simp [IsReadable]⟩
  · rintro ⟨helement, hread⟩
    cases helement with
    | empty content =>
      obtain ⟨e, htag⟩ := hread _ List.mem_cons_self
      exact ⟨e, .empty htag⟩
    | tags content within =>
      obtain ⟨⟨e, htag⟩, hboth⟩ := List.forall_mem_cons.mp hread
      obtain ⟨_, _, hw⟩ := exists_content_iff.mpr ⟨within, (List.forall_mem_append.mp hboth).1⟩
      exact ⟨_, .tags htag hw⟩

theorem exists_documentOf_iff {pieces : List Markup} :
    (∃ root, DocumentOf pieces root) ↔
      (∀ piece ∈ pieces, piece.IsReadable) ∧ IsDocument pieces := by
  constructor
  · rintro ⟨root, before, element, after, rfl, hbefore, helement, hafter⟩
    obtain ⟨hshape, hread⟩ := exists_elementOf_iff.mp ⟨root, helement⟩
    refine ⟨?_, before, element, after, rfl, hbefore, hshape, hafter⟩
    exact List.forall_mem_append.mpr ⟨fun p hp => isReadable_of_isLayout (hbefore p hp),
      List.forall_mem_append.mpr ⟨hread, fun p hp => isReadable_of_isLayout (hafter p hp)⟩⟩
  · rintro ⟨hread, before, element, after, rfl, hbefore, hshape, hafter⟩
    have helement := (List.forall_mem_append.mp (List.forall_mem_append.mp hread).2).1
    obtain ⟨root, hroot⟩ := exists_elementOf_iff.mpr ⟨hshape, helement⟩
    exact ⟨root, before, element, after, rfl, hbefore, hroot, hafter⟩

end Markup

end Xml

end WikiRows
