import WikiRows.Proofs.Entries
import WikiRows.Proofs.Printed

/-!
# Layout between tags

White space and comments may stand at the beginning of a text, and behind every tag that no text
follows. There they are cut into pieces that add nothing, in whatever element they stand, so that
the text is read as it was without them.
-/

namespace WikiRows

namespace Xml

namespace Markup

/-- A text ends in a tag: its last piece is one, and nothing has been read behind it. -/
def EndsInTag (front : List Char) : Prop :=
  ∃ pieces tag, isTag tag = true ∧ splitter.after (.text []) front = (pieces ++ [tag], .text [])

/-- The place between two parts of a text is one for layout: at the beginning, in front of a
bracket, or directly behind a tag, in front of a bracket or at the end. -/
def IsGap (front rest : List Char) : Prop :=
  front = [] ∧ rest.head? = some '<' ∨ EndsInTag front ∧ (rest = [] ∨ rest.head? = some '<')

/-- White space and complete comments in any order. What is in a comment does not end it. -/
inductive Filler : List Char → Prop
  | nil : Filler []
  | blank {c : Char} {rest : List Char} (white : Text.isBlank c = true) (after : Filler rest) :
      Filler (c :: rest)
  | comment {content rest : List Char} (complete : ¬ ['-', '-', '>'] <:+: content)
      (after : Filler rest) :
      Filler ('<' :: '!' :: '-' :: '-' :: (content ++ '-' :: '-' :: '>' :: rest))

/-- The second text is the first one with layout put in at a place for it. -/
inductive Spaced : List Char → List Char → Prop
  | intro {front layout rest : List Char} (gap : IsGap front rest) (filler : Filler layout) :
      Spaced (front ++ rest) (front ++ (layout ++ rest))

variable {rest : List Char}

/-- In front of a bracket and at the end, text that has been read is a piece of its own. -/
theorem outputs_text_of_boundary (h : rest = [] ∨ rest.head? = some '<') (read : List Char) :
    splitter.outputs (.text read) rest = ofText read ++ splitter.outputs (.text []) rest := by
  rcases h with rfl | h
  · exact (List.append_nil _).symm
  · obtain ⟨tail, rfl⟩ := List.head?_eq_some_iff.mp h
    rfl

theorem after_text {s : List Char} (h : '<' ∉ s) (read : List Char) :
    splitter.after (.text read) s = ([], .text (s.reverse ++ read)) := by
  induction s generalizing read with
  | nil => rfl
  | cons c s ih =>
    obtain ⟨hc, hs⟩ := not_or.mp (mt List.mem_cons.mpr h)
    have hstep : splitter.step (.text read) c = ([], .text (c :: read)) := by
      simp [splitter, step, Ne.symm hc]
    simp only [Transducer.after, hstep, ih hs]
    simp

/-- A comment goes on until two dashes and a bracket stand together in it. -/
theorem step_comment {content : List Char} {c : Char}
    (h : ¬ ['-', '-', '>'] <:+: content ++ [c]) :
    splitter.step (.comment (content.reverse ++ ['-', '-', '!'])) c =
      ([], .comment (c :: (content.reverse ++ ['-', '-', '!']))) := by
  by_cases hc : c = '>'
  · subst hc
    have hopen : ¬ (['-', '-'] <+: content.reverse ++ ['-', '-', '!'] ∧ 2 ≤ content.length) := by
      rintro ⟨hdashes, hlength⟩
      have hcontent : ['-', '-'].reverse <+: content.reverse :=
        List.prefix_of_prefix_length_le hdashes (List.prefix_append _ _) (by simpa using hlength)
      obtain ⟨front, rfl⟩ := List.reverse_prefix.mp hcontent
      exact h ⟨front, [], by simp⟩
    have hlength : 4 < (content.reverse ++ ['-', '-', '!']).length ↔ 2 ≤ content.length := by
      simp
      omega
    rw [← hlength, ← List.isPrefixOf_iff_prefix, ← decide_eq_true_iff (p := 4 < _),
      ← Bool.and_eq_true, Bool.not_eq_true] at hopen
    simp only [splitter, step, decide_true, Bool.true_and, hopen]
    rfl
  · simp [splitter, step, hc]

theorem outputs_comment {content : List Char} (h : ¬ ['-', '-', '>'] <:+: content) :
    splitter.outputs (.comment ['-', '-', '!']) (content ++ rest) =
      splitter.outputs (.comment (content.reverse ++ ['-', '-', '!'])) rest := by
  induction content using List.reverseRecOn generalizing rest with
  | nil => rfl
  | append_singleton content c ih =>
    have hbefore : ¬ ['-', '-', '>'] <:+: content :=
      fun hmem => h (hmem.trans (List.prefix_append _ _).isInfix)
    rw [List.append_assoc, ih hbefore, List.singleton_append, Transducer.outputs, step_comment h]
    simp

/-- A complete comment is skipped, and ends the text in front of it. -/
theorem outputs_complete {content : List Char} (h : ¬ ['-', '-', '>'] <:+: content)
    (read : List Char) :
    splitter.outputs (.text read)
        ('<' :: '!' :: '-' :: '-' :: (content ++ '-' :: '-' :: '>' :: rest)) =
      ofText read ++ skipped :: splitter.outputs (.text []) rest := by
  have hlength : 4 < content.length + 3 + 2 := by omega
  calc splitter.outputs (.text read)
        ('<' :: '!' :: '-' :: '-' :: (content ++ '-' :: '-' :: '>' :: rest))
      = ofText read ++ splitter.outputs (.comment ['-', '-', '!'])
          (content ++ '-' :: '-' :: '>' :: rest) := rfl
    _ = ofText read ++ splitter.outputs
          (.comment ('-' :: '-' :: (content.reverse ++ ['-', '-', '!']))) ('>' :: rest) := by
        rw [outputs_comment h]
        rfl
    _ = ofText read ++ skipped :: splitter.outputs (.text []) rest := by
        rw [Transducer.outputs]
        simp [splitter, step, endComment, commentStart]

theorem notMem_of_isBlank {c : Char} (h : Text.isBlank c = true) :
    c ∉ ['<', '>', '&', '\'', '"', '\ufeff'] := by
  have hmarks : ∀ d ∈ ['<', '>', '&', '\'', '"', '\ufeff'], Text.isBlank d = false := by
    simp only [List.forall_mem_cons]
    exact ⟨by cbv, by cbv, by cbv, by cbv, by cbv, by cbv, by simp⟩
  intro hmem
  simp [hmarks c hmem] at h

/-- White space holds no reference. -/
theorem unescape?_of_allBlank {s : List Char} (h : Text.allBlank s = true) :
    unescape? s = some s := by
  have hescape : escape s = s := by
    have hchars : ∀ c ∈ s, escapeChar c = [c] := fun c hc =>
      escapeChar_of_notMem fun hmem => notMem_of_isBlank (List.all_eq_true.mp h c hc) (by
        simp at hmem ⊢
        tauto)
    rw [escape, List.flatMap_congr hchars, List.flatMap_singleton']
  simpa only [hescape] using unescape?_escape s

theorem ownText?_of_mem_ofText {read : List Char} (h : Text.allBlank read = true) :
    ∀ piece ∈ ofText read, piece.ownText? = some [] := by
  have hblank : Text.allBlank read.reverse = true := by rwa [Text.allBlank, List.all_reverse]
  intro piece hpiece
  unfold ofText at hpiece
  split_ifs at hpiece
  · simp at hpiece
  · rw [List.mem_singleton.mp hpiece]
    simp [ownText?, unescape?_of_allBlank hblank, hblank]

/-- Layout is cut into pieces that add nothing, and leaves the cut of what follows as it is. -/
theorem exists_silent {layout : List Char} (h : Filler layout)
    (hrest : rest = [] ∨ rest.head? = some '<') {read : List Char}
    (hread : Text.allBlank read = true) :
    ∃ pieces, (∀ piece ∈ pieces, piece.ownText? = some []) ∧
      splitter.outputs (.text read) (layout ++ rest) =
        pieces ++ splitter.outputs (.text []) rest := by
  induction h generalizing read with
  | nil => exact ⟨_, ownText?_of_mem_ofText hread, outputs_text_of_boundary hrest read⟩
  | @blank c layout white after ih =>
    have hblank : Text.allBlank (c :: read) = true := by simp_all [Text.allBlank]
    obtain ⟨pieces, hsilent, hpieces⟩ := ih hblank
    refine ⟨pieces, hsilent, ?_⟩
    have hne : c ≠ '<' := by
      rintro rfl
      exact notMem_of_isBlank white (by simp)
    rw [← hpieces, List.cons_append, Transducer.outputs]
    simp [splitter, step, hne]
  | @comment content layout complete after ih =>
    have hnone : Text.allBlank [] = true := rfl
    obtain ⟨pieces, hsilent, hpieces⟩ := ih hnone
    refine ⟨ofText read ++ skipped :: pieces, ?_, ?_⟩
    · exact List.forall_mem_append.mpr ⟨ownText?_of_mem_ofText hread,
        List.forall_mem_cons.mpr ⟨rfl, hsilent⟩⟩
    · simp only [List.cons_append, List.append_assoc]
      rw [outputs_complete complete, hpieces]

end Markup

namespace Builder

theorem step_silent {piece : Markup} (h : piece.ownText? = some []) (b : Builder) :
    b.step piece = .ok b := by
  obtain ⟨stack, root⟩ := b
  cases stack with
  | nil =>
    apply step_layout
    cases piece with
    | text content =>
      obtain ⟨t, ht, hnil⟩ := Option.map_eq_some_iff.mp h
      refine ⟨t, ht, ?_⟩
      by_contra hblank
      simp [hblank] at hnil
      simp [hnil, Text.allBlank] at hblank
    | cdata content =>
      obtain rfl := Option.some.inj h
      rfl
    | skipped => trivial
    | opening | empty | closing | broken => simp [Markup.ownText?] at h
  | cons e stack => rw [step_beside_inner h, Element.adding_nil]

/-- What a checker lets through is built to the same with and without pieces that add nothing. -/
theorem build_silent {silent : List Markup} (h : ∀ piece ∈ silent, piece.ownText? = some [])
    (state : Option (List (List Char))) (before after : List Markup) (b : Builder) :
    (Markup.checker.outputs state (before ++ (silent ++ after))).foldlM step b =
      (Markup.checker.outputs state (before ++ after)).foldlM step b := by
  have hfeed : ∀ names b, feed names b (silent ++ after) = feed names b after := by
    intro names b
    induction silent with
    | nil => rfl
    | cons piece silent ih =>
      obtain ⟨hpiece, hsilent⟩ := List.forall_mem_cons.mp h
      rw [List.cons_append, feed_beside (Markup.isReadable_of_ownText? hpiece).1,
        step_silent hpiece]
      exact ih hsilent
  have hbroken : ∀ pieces, Markup.checker.outputs none pieces = [] := by
    intro pieces
    induction pieces with
    | nil => rfl
    | cons piece pieces ih => exact ih
  rw [Transducer.outputs_append _ _ before, Transducer.outputs_append _ _ before,
    List.foldlM_append, List.foldlM_append]
  congr 1
  funext b
  cases (Markup.checker.after state before).2 with
  | none => rw [hbroken, hbroken]
  | some names => exact hfeed names b

end Builder

namespace Document

open Markup (IsGap Spaced splitter notMem_of_isBlank after_text)

/-- A text with a place for layout is not white space as a whole. -/
theorem allBlank_of_isGap {front rest : List Char} (h : IsGap front rest) (layout : List Char) :
    Text.allBlank (front ++ (layout ++ rest)) = false := by
  rw [Text.allBlank, List.all_append, List.all_append]
  rcases h with ⟨-, hrest⟩ | ⟨⟨pieces, tag, -, hpieces⟩, -⟩
  · obtain ⟨tail, rfl⟩ := List.head?_eq_some_iff.mp hrest
    have hbracket : Text.isBlank '<' = false := by cbv
    simp [hbracket]
  · -- Without a bracket the front would still be read as text.
    by_contra hblank
    have hfront : '<' ∉ front := fun hmem => notMem_of_isBlank
      (List.all_eq_true.mp (by simp_all) _ hmem) (by simp)
    simp [after_text hfront] at hpieces

/-- Layout that is put in changes nothing about what is read, or why nothing can be. -/
theorem ofChars_of_spaced {body spaced : List Char} (h : Spaced body spaced)
    (hmark : body.head? ≠ some '\ufeff') :
    ofChars spaced = ofChars body ∧ spaced.head? ≠ some '\ufeff' := by
  obtain @⟨front, layout, rest, hgap, hfiller⟩ := h
  have hspaced : (front ++ (layout ++ rest)).head? ≠ some '\ufeff' := by
    cases front with
    | cons c front => exact hmark
    | nil =>
      cases hfiller with
      | nil => exact hmark
      | @blank c _ white =>
        simp only [List.nil_append, List.cons_append, List.head?_cons, ne_eq, Option.some.injEq]
        rintro rfl
        exact notMem_of_isBlank white (by simp)
      | comment => simp
  have hdrop : ∀ s : List Char, s.head? ≠ some '\ufeff' → dropMark s = s := by
    intro s hs
    unfold dropMark
    split
    · simp at hs
    · rfl
  have hbefore : (splitter.after (.text []) front).2 = .text [] := by
    rcases hgap with ⟨rfl, -⟩ | ⟨⟨pieces, tag, -, hpieces⟩, -⟩
    · rfl
    · rw [hpieces]
  have hboundary : rest = [] ∨ rest.head? = some '<' := by
    rcases hgap with ⟨-, hrest⟩ | ⟨-, hrest⟩
    · exact .inr hrest
    · exact hrest
  have hnone : Text.allBlank [] = true := rfl
  obtain ⟨silent, hsilent, hpieces⟩ := Markup.exists_silent hfiller hboundary hnone
  have hbuild := Builder.build_silent hsilent (some []) (splitter.after (.text []) front).1
    (splitter.outputs (.text []) rest) .initial
  refine ⟨?_, hspaced⟩
  have hblank := allBlank_of_isGap hgap layout
  have hblank' := allBlank_of_isGap hgap []
  rw [List.nil_append] at hblank'
  simp only [ofChars, hblank, hblank', hdrop _ hspaced, hdrop _ hmark, Markup.read, Markup.split,
    Transducer.run_eq, Transducer.outputs_append _ _ front, hbefore, hpieces, hbuild]

/-- However often layout is put in between the tags of a body, it is accepted just if it was, and as
the same document. -/
theorem read_of_spaced {body spaced : String} (hmark : body.toList.head? ≠ some '\ufeff')
    (h : Relation.ReflTransGen Spaced body.toList spaced.toList) (d : Document) :
    read spaced = .ok d ↔ read body = .ok d := by
  have hsame : ofChars spaced.toList = ofChars body.toList ∧
      spaced.toList.head? ≠ some '\ufeff' := by
    generalize spaced.toList = s at h
    induction h with
    | refl => exact ⟨rfl, hmark⟩
    | tail _ hstep ih =>
      obtain ⟨hread, hmark'⟩ := ofChars_of_spaced hstep ih.2
      exact ⟨hread.trans ih.1, hmark'⟩
  rw [read_eq_ok_iff, read_eq_ok_iff, hsame.1]

/-- A comment with a dash at its end in front of the root, a no-break space behind a tag. -/
theorem read_of_spaced_twice :
    let body := "<?x?><a k='<'><b/>t</a>"
    let spaced := " <!--x---><?x?><a k='<'>\u00a0<b/>t</a>"
    body.toList.head? ≠ some '\ufeff' ∧
    Relation.ReflTransGen Spaced body.toList spaced.toList ∧
    read spaced = .ok ⟨some ⟨"a", [("k", "<")], "t", [⟨"b", [], "", []⟩]⟩⟩ := by
  intro body spaced
  have hspace : Text.isBlank ' ' = true := by cbv
  have hnbsp : Text.isBlank '\u00a0' = true := by cbv
  have hmark : body.toList.head? ≠ some '\ufeff' := by decide
  have hcomment : ¬ ['-', '-', '>'] <:+: ['x', '-'] := by decide
  have hfront : Spaced ([] ++ body.toList) ([] ++ (" <!--x--->".toList ++ body.toList)) :=
    .intro (.inl ⟨rfl, by decide⟩) (.blank hspace (.comment hcomment .nil))
  have htag : Markup.EndsInTag " <!--x---><?x?><a k='<'>".toList :=
    ⟨[.text [' '], .skipped, .skipped], .opening "a k='<'".toList, rfl, by cbv⟩
  have hinner : Spaced (" <!--x---><?x?><a k='<'>".toList ++ "<b/>t</a>".toList)
      (" <!--x---><?x?><a k='<'>".toList ++ (['\u00a0'] ++ "<b/>t</a>".toList)) :=
    .intro (.inr ⟨htag, .inr (by decide)⟩) (.blank hnbsp .nil)
  have hbody : " <!--x---><?x?><a k='<'>".toList ++ "<b/>t</a>".toList =
      " <!--x--->".toList ++ body.toList := by cbv
  have hend : " <!--x---><?x?><a k='<'>".toList ++ (['\u00a0'] ++ "<b/>t</a>".toList) =
      spaced.toList := by cbv
  rw [hbody, hend] at hinner
  have hspaced := (Relation.ReflTransGen.single hfront).tail hinner
  exact ⟨hmark, hspaced, (read_of_spaced hmark hspaced _).mpr (by cbv)⟩

end Document

end Xml

end WikiRows
