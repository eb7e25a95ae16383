import WikiRows.Proofs.Builder
import WikiRows.Query.Answer

/-!
# Documents tag by tag

The entries of a tree list its elements in document order, each with its depth and what it says of
itself. The entries of pieces are read off the opening and empty tags alone, without a tree. That
they are the same means that a document is read without an element lost, moved or made up.
-/

namespace WikiRows

namespace Xml

/-- What an element says of itself, and how many elements it stands in. -/
structure Entry where
  depth : Nat
  name : String
  attributes : List (String × String)
  text : String
  deriving DecidableEq, Repr

namespace Element

mutual

def entries (depth : Nat) : Element → List Entry
  | ⟨name, attributes, text, children⟩ =>
    ⟨depth, name, attributes, text⟩ :: childrenEntries (depth + 1) children

def childrenEntries (depth : Nat) : List Element → List Entry
  | [] => []
  | child :: children => entries depth child ++ childrenEntries depth children

end

end Element

namespace Markup

/-- The text directly in the element around some pieces, up to its closing tag. The depth counts
the tags that have been opened in it since. -/
def directText : Nat → List Markup → List Char
  | _, [] => []
  | depth, opening _ :: rest => directText (depth + 1) rest
  | 0, closing _ :: _ => []
  | depth + 1, closing _ :: rest => directText depth rest
  | 0, piece :: rest => piece.ownText?.getD [] ++ directText 0 rest
  | depth + 1, _ :: rest => directText (depth + 1) rest

def entry (depth : Nat) (content text : List Char) : Entry :=
  ⟨depth, String.ofList (Tag.name content), (Tag.attributes content).toOption.getD [],
    String.ofList text⟩

/-- The entries of the opening and empty tags, in their order, where the depth counts the tags that
are open. -/
def entries : Nat → List Markup → List Entry
  | _, [] => []
  | depth, opening content :: rest =>
    entry depth content (directText 0 rest) :: entries (depth + 1) rest
  | depth, empty content :: rest => entry depth content [] :: entries depth rest
  | depth, closing _ :: rest => entries (depth - 1) rest
  | depth, _ :: rest => entries depth rest

theorem directText_beside {piece : Markup} (h : piece.isTag = false) (rest : List Markup) :
    directText 0 (piece :: rest) = piece.ownText?.getD [] ++ directText 0 rest ∧
      ∀ depth, directText (depth + 1) (piece :: rest) = directText (depth + 1) rest := by
  cases piece with
  | text | cdata | skipped | broken => exact ⟨rfl, fun _ => rfl⟩
  | opening | empty | closing => simp [isTag] at h

theorem entries_beside {piece : Markup} (h : piece.isTag = false) (depth : Nat)
    (rest : List Markup) : entries depth (piece :: rest) = entries depth rest := by
  cases piece with
  | text | cdata | skipped | broken => rfl
  | opening | empty | closing => simp [isTag] at h

theorem entries_layout {pieces : List Markup} (h : ∀ piece ∈ pieces, piece.IsLayout) (depth : Nat)
    (rest : List Markup) : entries depth (pieces ++ rest) = entries depth rest := by
  induction pieces with
  | nil => rfl
  | cons piece pieces ih =>
    obtain ⟨hpiece, hpieces⟩ := List.forall_mem_cons.mp h
    rw [List.cons_append, entries_beside (isTag_of_isLayout hpiece), ih hpieces]

variable {content text : List Char} {pieces : List Markup} {e : Element} {children : List Element}

theorem entry_of_element (h : Tag.element content = .ok e) (depth : Nat) (text : List Char) :
    entry depth content text = ⟨depth, e.name, e.attributes, String.ofList text⟩ := by
  obtain ⟨attributes, hattributes, rfl⟩ := Tag.element_eq_ok_iff.mp h
  simp [entry, hattributes, Except.toOption]

/-- Content has its text directly in the element around it, and no text below. -/
theorem directText_content (h : Content pieces text children) (rest : List Markup) :
    directText 0 (pieces ++ rest) = text ++ directText 0 rest ∧
      ∀ depth, directText (depth + 1) (pieces ++ rest) = directText (depth + 1) rest := by
  induction h generalizing rest with
  | nil => exact ⟨rfl, fun _ => rfl⟩
  | beside adds after ih =>
    obtain ⟨hown, hbelow⟩ := directText_beside (isReadable_of_ownText? adds).1 (_ ++ rest)
    refine ⟨?_, fun depth => (hbelow depth).trans ((ih rest).2 depth)⟩
    rw [List.cons_append, hown, adds, (ih rest).1, List.append_assoc]
    rfl
  | empty tag after ih => exact ih rest
  | @element content innerText text inner pieces child _ _ tag within after ihw iha =>
    have hcons : ∀ depth, directText depth
        (opening content :: (inner ++ closing (Tag.name content) :: pieces) ++ rest) =
          directText depth (pieces ++ rest) := by
      intro depth
      rw [List.cons_append, List.append_assoc, directText, (ihw _).2]
      rfl
    exact ⟨(hcons 0).trans (iha rest).1, fun depth => (hcons _).trans ((iha rest).2 depth)⟩

theorem entries_content (h : Content pieces text children) (depth : Nat) (rest : List Markup) :
    entries depth (pieces ++ rest) =
      Element.childrenEntries depth children ++ entries depth rest := by
  induction h generalizing depth rest with
  | nil => rfl
  | beside adds after ih =>
    rw [List.cons_append, entries_beside (isReadable_of_ownText? adds).1, ih]
  | @empty content text pieces child children tag after ih =>
    obtain ⟨attributes, -, rfl⟩ := Tag.element_eq_ok_iff.mp tag
    rw [List.cons_append, entries, entry_of_element tag, ih]
    rfl
  | @element content innerText text inner pieces child innerChildren children tag within after ihw
      iha =>
    rw [List.cons_append, List.append_assoc, entries, entry_of_element tag, ihw, List.cons_append,
      entries, Nat.add_sub_cancel, iha, (directText_content within _).1]
    simp [Element.childrenEntries, Element.entries, directText]

theorem entries_documentOf {root : Element} (h : DocumentOf pieces root) :
    entries 0 pieces = root.entries 0 := by
  obtain ⟨before, element, after, rfl, hbefore, helement, hafter⟩ := h
  have hrest : entries 0 after = [] := by
    simpa [entries] using entries_layout hafter 0 []
  have hcontent : Content element [] [root] := by
    cases helement with
    | empty tag => exact .empty tag .nil
    | tags tag within => exact .element tag within .nil
  rw [entries_layout hbefore, entries_content hcontent, hrest]
  simp [Element.childrenEntries]

end Markup

namespace Document

theorem read_eq_ok_iff {body : String} {d : Document} :
    read body = .ok d ↔ ofChars body.toList = .ok d := by
  unfold read
  cases ofChars body.toList <;> simp

/-- A body that is not white space as a whole is accepted just if all its pieces can be read and
are a document. The tree then has the elements of its tags and no others, in their order and at
their depth, with the attributes of the tag and the text directly inside. -/
theorem reads_document_iff {body : String} (h : Text.allBlank body.toList = false) :
    let pieces := Markup.split (dropMark body.toList)
    ((∃ d, read body = .ok d) ↔
      (∀ piece ∈ pieces, piece.IsReadable) ∧ Markup.IsDocument pieces) ∧
    ∀ d, read body = .ok d →
      ∃ root, d.root = some root ∧ root.entries 0 = Markup.entries 0 pieces := by
  intro pieces
  have hread : ∀ d, read body = .ok d ↔ ∃ root, d = ⟨some root⟩ ∧ DocumentOf pieces root :=
    fun d => read_eq_ok_iff.trans (ofChars_eq_ok_iff h)
  refine ⟨?_, ?_⟩
  · rw [← Markup.exists_documentOf_iff]
    constructor
    · rintro ⟨d, hd⟩
      obtain ⟨root, -, hroot⟩ := (hread d).mp hd
      exact ⟨root, hroot⟩
    · rintro ⟨root, hroot⟩
      exact ⟨_, (hread _).mpr ⟨root, rfl, hroot⟩⟩
  · intro d hd
    obtain ⟨root, rfl, hroot⟩ := (hread d).mp hd
    exact ⟨root, rfl, (Markup.entries_documentOf hroot).symm⟩

/-- A body with a declaration, two tags with two attributes each, a reference, a bracket in quotes,
layout, and a section of white space. -/
theorem reads_document_nested :
    let body := "<?x?><a k='&lt;' j=\"2\"> <b z='' y='>'/>t<![CDATA[ ]]></a>"
    let pieces := Markup.split (dropMark body.toList)
    Text.allBlank body.toList = false ∧ (∃ d, read body = .ok d) ∧
    ((∀ piece ∈ pieces, piece.IsReadable) ∧ Markup.IsDocument pieces) ∧
    Markup.entries 0 pieces = [⟨0, "a", [("k", "<"), ("j", "2")], "t "⟩,
      ⟨1, "b", [("z", ""), ("y", ">")], ""⟩] := by
  intro body pieces
  have hblank : Text.allBlank body.toList = false := by cbv
  have hread : read body = .ok ⟨some ⟨"a", [("k", "<"), ("j", "2")], "t ",
    [⟨"b", [("z", ""), ("y", ">")], "", []⟩]⟩⟩ := by cbv
  obtain ⟨haccepts, hentries⟩ := reads_document_iff hblank
  obtain ⟨root, hroot, hlist⟩ := hentries _ hread
  obtain rfl := Option.some.inj hroot
  exact ⟨hblank, ⟨_, hread⟩, haccepts.mp ⟨_, hread⟩, hlist.symm⟩

end Document

end Xml

end WikiRows
