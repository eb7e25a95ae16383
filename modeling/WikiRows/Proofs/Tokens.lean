import WikiRows.Json.Printer
import WikiRows.Proofs.Checks
import WikiRows.Proofs.InstantText
import WikiRows.Proofs.Pieces

/-!
# What a checked literal is sent as

A literal that a property takes is sent as texts of the values of its type with bars between them,
however deep its lists nest. The one other piece that can come up is an empty one, for a list that
has no item to send.
-/

namespace WikiRows

namespace Instant

def wholeSecond (t : Instant) : Instant :=
  { t with clock := { t.clock with nanosecond := 0, nanosecond_lt := by decide } }

theorem toSecondText_eq (t : Instant) : t.toSecondText = t.wholeSecond.toText := by
  simp [toSecondText, wholeChars, toText, exactChars, wholeSecond, Clock.fractionChars,
    Clock.wholeChars]

theorem bar_notMem_padded (width n : Nat) : '|' ∉ padded width n := fun h =>
  absurd (isDigit_of_mem_padded h) (by decide)

theorem bar_notMem_exactChars (t : Instant) : '|' ∉ t.exactChars := by
  have hyear : '|' ∉ Day.yearChars t.day.year := by
    unfold Day.yearChars
    split_ifs <;> simp [bar_notMem_padded]
  have hfraction : '|' ∉ Clock.fractionChars t.clock.nanosecond := by
    unfold Clock.fractionChars
    split_ifs <;> simp [bar_notMem_padded]
  simp [exactChars, Day.chars, Clock.wholeChars, hyear, hfraction, bar_notMem_padded]

end Instant

namespace Json

theorem intChars_ne_nil (i : Int) : intChars i ≠ [] := by
  unfold intChars
  split_ifs
  · exact List.cons_ne_nil _ _
  · exact Nat.toDigits_ne_nil

theorem isDigit_or_eq_minus_of_mem_intChars {i : Int} {c : Char} (h : c ∈ intChars i) :
    c.isDigit ∨ c = '-' := by
  have hdigits : c ∈ Nat.toDigits 10 i.natAbs → c.isDigit :=
    Nat.isDigit_of_mem_toDigits (by decide) (by decide)
  unfold intChars at h
  split_ifs at h
  · exact (List.mem_cons.mp h).symm.imp_left hdigits
  · exact .inl (hdigits h)

theorem bar_notMem_intChars (i : Int) : '|' ∉ intChars i := fun hmem =>
  absurd (isDigit_or_eq_minus_of_mem_intChars hmem) (by decide)

end Json

namespace WireType

/-- A type whose values have texts of their own, none of which has a bar in it. -/
def HasTokens : WireType → Prop
  | named name => name = "boolean" ∨ name = "integer" ∨ name = "timestamp"
  | oneOf tokens => ∀ token ∈ tokens, '|' ∉ token.toList

instance : DecidablePred HasTokens
  | named name => inferInstanceAs (Decidable (name = "boolean" ∨ name = "integer" ∨
      name = "timestamp"))
  | oneOf tokens => inferInstanceAs (Decidable (∀ token ∈ tokens, '|' ∉ token.toList))

/-- The texts of the values of such a type. An instant has to be on a whole second. -/
inductive Token : WireType → String → Prop
  | oneOf {tokens : List String} {token : String} (declared : token ∈ tokens) :
      Token (oneOf tokens) token
  | yes : Token (named "boolean") "true"
  | no : Token (named "boolean") "false"
  | integer (i : Int64) : Token (named "integer") (toString i.toInt)
  | timestamp (t : Instant) (whole : t.clock.nanosecond = 0) : Token (named "timestamp") t.toText

variable {type : WireType}

theorem HasTokens.isStrict (h : type.HasTokens) : type.isStrict := by
  cases type with
  | oneOf tokens => rfl
  | named name => rcases h with rfl | rfl | rfl <;> rfl

theorem Token.bar_notMem {text : String} (h : type.Token text) (htype : type.HasTokens) :
    '|' ∉ text.toList := by
  cases h with
  | oneOf declared => exact htype _ declared
  | yes | no => decide
  | integer i =>
    rw [← Json.ofList_intChars, String.toList_ofList]
    exact Json.bar_notMem_intChars i.toInt
  | timestamp t whole =>
    rw [Instant.toText, String.toList_ofList]
    exact Instant.bar_notMem_exactChars t

theorem token_integer_iff {text : String} :
    (named "integer").Token text ↔ ∃ i : Int64, text = toString i.toInt := by
  constructor
  · generalize htype : named "integer" = type
    rintro (_ | _ | _ | i | _)
    · cases htype
    · simp at htype
    · simp at htype
    · exact ⟨i, rfl⟩
    · simp at htype
  · rintro ⟨i, rfl⟩
    exact .integer i

theorem not_token_integer_empty : ¬ (named "integer").Token "" := by
  rw [token_integer_iff]
  rintro ⟨i, hi⟩
  rw [← Json.ofList_intChars] at hi
  exact Json.intChars_ne_nil i.toInt (String.ofList_eq_empty_iff.mp hi.symm)

end WireType

namespace Literal

/-- A list that has no item to send, be it the literal itself or within it. -/
inductive HasBlankList : Literal → Prop
  | whole {items : List Literal} (nulls : ∀ item ∈ items, item = null) : HasBlankList (list items)
  | within {items : List Literal} {item : Literal} (mem : item ∈ items)
      (blank : HasBlankList item) : HasBlankList (list items)

theorem hasBlankList_list {items : List Literal} : (list items).HasBlankList ↔
    (∀ item ∈ items, item = null) ∨ ∃ item ∈ items, item.HasBlankList := by
  constructor
  · rintro (nulls | ⟨mem, blank⟩)
    · exact .inl nulls
    · exact .inr ⟨_, mem, blank⟩
  · rintro (nulls | ⟨item, mem, blank⟩)
    · exact .whole nulls
    · exact .within mem blank

theorem IsLeaf.not_hasBlankList {v : Literal} (h : v.IsLeaf) : ¬ v.HasBlankList := by
  rintro (_ | _) <;> exact h _ rfl

theorem wireItems_eq_filterMap (items : List Literal) :
    wireItems items = items.filterMap wire? := by
  induction items with
  | nil => rfl
  | cons item items ih =>
    rw [wireItems, List.filterMap_cons, ih]
    cases item.wire? <;> rfl

theorem wireItems_eq_nil_iff {items : List Literal} :
    wireItems items = [] ↔ ∀ item ∈ items, item = null := by
  rw [wireItems_eq_filterMap, List.filterMap_eq_nil_iff]
  simp only [wire?_eq_none_iff]

/-- The pieces of a list are those of its items, or an empty one if none is sent. -/
theorem mem_pieces_list {items : List Literal} {text : String} (h : (list items).wire? = some text)
    {piece : String} :
    piece ∈ Text.pieces text ↔
      (∀ item ∈ items, item = null) ∧ piece = "" ∨
        ∃ item ∈ items, ∃ t, item.wire? = some t ∧ piece ∈ Text.pieces t := by
  obtain rfl := Option.some.inj h
  rw [Text.pieces_intercalate, Text.joinedPieces, ← wireItems_eq_nil_iff]
  split_ifs with hnil
  · have hitems := wireItems_eq_nil_iff.mp hnil
    rw [List.mem_singleton, or_iff_left, and_iff_right hnil]
    rintro ⟨item, hitem, t, ht, -⟩
    rw [hitems item hitem, wire?] at ht
    cases ht
  · rw [or_iff_right fun hblank => hnil hblank.1]
    simp only [List.mem_flatMap, wireItems_eq_filterMap, List.mem_filterMap]
    constructor
    · rintro ⟨t, ⟨item, hitem, ht⟩, hpiece⟩
      exact ⟨item, hitem, t, ht, hpiece⟩
    · rintro ⟨item, hitem, t, ht, hpiece⟩
      exact ⟨t, ⟨item, hitem, ht⟩, hpiece⟩

/-- A list without an item to send leaves an empty piece. -/
theorem HasBlankList.empty_mem_pieces {v : Literal} (h : v.HasBlankList) {text : String}
    (hv : v.wire? = some text) : "" ∈ Text.pieces text := by
  induction h generalizing text with
  | whole nulls => exact (mem_pieces_list hv).mpr (.inl ⟨nulls, rfl⟩)
  | @within items item mem blank ih =>
    have hne : item ≠ null := by
      rintro rfl
      cases blank
    obtain ⟨t, ht⟩ := Option.ne_none_iff_exists'.mp (mt wire?_eq_none_iff.mp hne)
    exact (mem_pieces_list hv).mpr (.inr ⟨item, mem, t, ht, ih ht⟩)

end Literal

namespace Property

variable {p : Property}

theorem checkToken_eq_ok_iff {token : String} {allowed : List String} :
    checkToken token allowed = .ok () ↔ token ∈ allowed := by
  rw [checkToken]
  split_ifs with h <;> simpa using h

theorem token_of_check_leaf (h : p.type.HasTokens) {v : Literal} (hleaf : v.IsLeaf)
    (hv : p.check v = .ok ()) {text : String} (ht : v.wire? = some text) : p.type.Token text := by
  obtain ⟨name, type, nullable⟩ := p
  cases type with
  | oneOf tokens =>
    cases v with
    | null => cases ht
    | list items => exact absurd rfl (hleaf items)
    | str token | token token =>
      obtain rfl := Option.some.inj ht
      exact .oneOf (checkToken_eq_ok_iff.mp hv)
    | bool | int | float | date => cases hv
  | named type =>
    -- Each kind of literal belongs to one of the three names, and the check refuses the others.
    cases v with
    | null => cases ht
    | list items => exact absurd rfl (hleaf items)
    | bool b =>
      obtain rfl := Option.some.inj ht
      obtain rfl | rfl | rfl := h
      · cases b
        · exact .no
        · exact .yes
      · cases hv
      · cases hv
    | int i =>
      obtain rfl := Option.some.inj ht
      obtain rfl | rfl | rfl := h
      · cases hv
      · exact .integer i
      · cases hv
    | date t =>
      obtain rfl := Option.some.inj ht
      obtain rfl | rfl | rfl := h
      · cases hv
      · cases hv
      · rw [Instant.toSecondText_eq]
        exact .timestamp t.wholeSecond rfl
    | str | float | token =>
      obtain rfl | rfl | rfl := h <;> cases hv

/-- Every piece is the text of a value, but for the empty ones of lists without an item to send. -/
theorem token_or_empty_of_mem_pieces (h : p.type.HasTokens) {v : Literal}
    (hv : p.check v = .ok ()) {text : String} (ht : v.wire? = some text) {piece : String}
    (hpiece : piece ∈ Text.pieces text) : p.type.Token piece ∨ piece = "" ∧ v.HasBlankList := by
  induction v using Literal.induction_items generalizing text with
  | leaf v hleaf =>
    have htoken := token_of_check_leaf h hleaf hv ht
    rw [Text.pieces_of_notMem (htoken.bar_notMem h), List.mem_singleton] at hpiece
    exact .inl (hpiece ▸ htoken)
  | list items ih =>
    have hitems := (check_list_of_strict h.isStrict items).mp hv
    obtain ⟨hnulls, rfl⟩ | ⟨item, hitem, t, hit, hmem⟩ := (Literal.mem_pieces_list ht).mp hpiece
    · exact .inr ⟨rfl, .whole hnulls⟩
    · exact (ih item hitem (hitems item hitem) hit hmem).imp_right
        (And.imp_right (Literal.HasBlankList.within hitem))

/-- What a property of such a type takes is sent as texts of values of the type, and as empty pieces
for the lists that have no item to send, if any. -/
theorem checked_sent_as_tokens (h : p.type.HasTokens) {v : Literal} (hne : v ≠ .null)
    (hv : p.check v = .ok ()) :
    ∃ text, v.wire? = some text ∧
      (∀ piece ∈ Text.pieces text, p.type.Token piece ∨ piece = "" ∧ v.HasBlankList) ∧
      ((∀ piece ∈ Text.pieces text, p.type.Token piece) ↔
        (v.HasBlankList → p.type.Token "")) := by
  obtain ⟨text, ht⟩ := Option.ne_none_iff_exists'.mp (mt Literal.wire?_eq_none_iff.mp hne)
  have hpieces : ∀ piece ∈ Text.pieces text, p.type.Token piece ∨ piece = "" ∧ v.HasBlankList :=
    fun piece hmem => token_or_empty_of_mem_pieces h hv ht hmem
  refine ⟨text, ht, hpieces, fun htokens hblank => ?_, fun hempty piece hmem => ?_⟩
  · exact htokens "" (hblank.empty_mem_pieces ht)
  · obtain htoken | ⟨rfl, hblank⟩ := hpieces piece hmem
    · exact htoken
    · exact hempty hblank

/-- A list within a list, and a null that is not sent. -/
theorem checked_sent_as_tokens_nested :
    let kind : Property := ⟨"kind", .oneOf ["page", "file"], true⟩
    let v : Literal := .list [.token "page", .list [.str "file", .null]]
    kind.type.HasTokens ∧ v ≠ .null ∧ kind.check v = .ok () ∧ ¬ v.HasBlankList ∧
    v.wire? = some "page|file" ∧ ∀ piece ∈ Text.pieces "page|file", kind.type.Token piece := by
  intro kind v
  have htype : kind.type.HasTokens := by decide
  have hne : v ≠ .null := Literal.noConfusion
  have hcheck : kind.check v = .ok () := by rfl
  have hpage : (Literal.token "page").IsLeaf := fun _ => Literal.noConfusion
  have hfile : (Literal.str "file").IsLeaf := fun _ => Literal.noConfusion
  have hnull : Literal.null.IsLeaf := fun _ => Literal.noConfusion
  have hblank : ¬ v.HasBlankList := by
    simp [v, Literal.hasBlankList_list, hpage.not_hasBlankList, hfile.not_hasBlankList,
      hnull.not_hasBlankList]
  have hwire : v.wire? = some "page|file" := by rfl
  obtain ⟨text, ht, -, htokens⟩ := checked_sent_as_tokens htype hne hcheck
  obtain rfl := Option.some.inj (hwire.symm.trans ht)
  exact ⟨htype, hne, hcheck, hblank, hwire, htokens.mpr fun h => absurd h hblank⟩

/-- A list without items is sent as an empty text, which is no integer. -/
theorem empty_list_sent_as_no_token :
    let ns : Property := ⟨"ns", .named "integer", false⟩
    ns.type.HasTokens ∧ ns.check (.list []) = .ok () ∧ (Literal.list []).wire? = some "" ∧
    "" ∈ Text.pieces "" ∧ ¬ ns.type.Token "" := by
  intro ns
  have hpieces : Text.pieces "" = [""] := Text.pieces_of_notMem (by decide)
  exact ⟨.inr (.inl rfl), rfl, rfl, hpieces ▸ List.mem_cons_self, WireType.not_token_integer_empty⟩

end Property

end WikiRows
