import WikiRows.Query.Spec
import WikiRows.Schema.Json
import WikiRows.Proofs.StoredExprs

/-!
# Stored values

A module, a specification, an expression and a literal are read back from the texts that they are
stored as. Literals must not hold doubles, and a text must not nest deeper than the reader goes; a
module never does.
-/

namespace WikiRows

open Json (Raw Access)

/-! ## Schemas -/

namespace WireType

theorem ofRaw?_raw (type : WireType) : ofRaw? type.toJson.raw = some type := by
  cases type with
  | named name => rfl
  | oneOf tokens =>
    have htokens : ∀ token ∈ tokens, Raw.text? (Json.str token).raw = some token := fun _ _ => rfl
    obtain ⟨parts, hparts, hread⟩ := Raw.items?_array htokens
    have htext : (Raw.array (Json.itemsRaw (tokens.map .str))).text? = none := rfl
    simp [ofRaw?, toJson, Json.raw, htext, hparts, hread]

end WireType

namespace Property

theorem ofRaw?_raw (p : Property) {access : Access} (h : access.Admits p.toJson.nesting) :
    ofRaw? access p.toJson.raw = some p := by
  obtain ⟨inner, henter, hinner⟩ := Access.Admits.enter h
  simp only [Json.membersNesting] at hinner
  have hholds : inner.holds p.type.toJson.raw := (hinner.mono (by omega)).holds
  obtain ⟨parts, hparts, hraws⟩ := Raw.fields?_object
    [("name", .str p.name), ("wireType", p.type.toJson), ("nullable", .bool p.nullable)]
    (by simp)
  obtain ⟨name, type, nullable, rfl, hname, htype, hnullable⟩ := Raw.exists_of_map_raw_triple hraws
  simp only [List.map_cons, List.map_nil] at hparts
  simp [ofRaw?, toJson, Json.raw, henter, hparts, hname, htype, hnullable, hholds, Raw.text?,
    Raw.bool?, WireType.ofRaw?_raw]

end Property

namespace ApiModule

theorem propertiesOfRaw?_raw (properties : List Property) {access : Access}
    (h : access.Admits (Json.arr (properties.map Property.toJson)).nesting) :
    propertiesOfRaw? access (Json.arr (properties.map Property.toJson)).raw = some properties := by
  obtain ⟨inner, henter, hinner⟩ := Access.Admits.enter h
  have hproperties : ∀ p ∈ properties, Property.ofRaw? inner p.toJson.raw = some p := by
    intro p hp
    have hle := Json.nesting_le_itemsNesting (List.mem_map_of_mem (f := Property.toJson) hp)
    exact Property.ofRaw?_raw p (hinner.mono hle)
  obtain ⟨parts, hparts, hread⟩ := Raw.items?_array hproperties
  simp [propertiesOfRaw?, Json.raw, henter, hparts, hread]

theorem ofRaw?_raw (m : ApiModule) {access : Access} (h : access.Admits m.toJson.nesting) :
    ofRaw? access m.toJson.raw = some m := by
  obtain ⟨inner, henter, hinner⟩ := Access.Admits.enter h
  simp only [Json.membersNesting] at hinner
  obtain ⟨parts, hparts, hraws⟩ := Raw.fields?_object [("moduleName", .str m.name),
    ("wireParameterPrefix", .str m.stem), ("propertyList", .arr (m.properties.map Property.toJson)),
    ("listResult", .bool m.answersList)] (by simp)
  obtain ⟨name, parts, rfl, hname, hraws⟩ := List.map_eq_cons_iff.mp hraws
  obtain ⟨stem, properties, answersList, rfl, hstem, hproperties, hanswers⟩ :=
    Raw.exists_of_map_raw_triple hraws
  simp only [List.map_cons, List.map_nil] at hparts
  have hread : propertiesOfRaw? inner properties.raw = some m.properties := by
    rw [hproperties, propertiesOfRaw?_raw m.properties (hinner.mono (by omega))]
  simp [ofRaw?, toJson, Json.raw, henter, hparts, hname, hstem, hread, hanswers, Raw.text?,
    Raw.bool?]

end ApiModule

/-! ## Specifications -/

theorem SortSpec.ofRaw?_raw (s : SortSpec) (hs : ∀ c ∈ s.key.constants, c.isFloatFree)
    {access : Access} (h : access.Admits s.toJson.nesting) :
    ofRaw? access s.toJson.raw = some s := by
  obtain ⟨inner, henter, hinner⟩ := Access.Admits.enter h
  have hkey := Expr.ofRaw?_raw s.key hs (hinner.mono (Nat.le_max_left _ _))
  obtain ⟨parts, hparts, hraws⟩ := Raw.fields?_object
    [("key", s.key.toJson), ("ascending", .bool s.ascending)] (by simp)
  obtain ⟨key, ascending, rfl, hkeyRaw, hascending⟩ := Raw.exists_of_map_raw_pair hraws
  simp only [List.map_cons, List.map_nil] at hparts
  simp [ofRaw?, toJson, Json.raw, henter, hparts, hkeyRaw, hkey, hascending, Raw.bool?]

namespace QuerySpec

def expressions (s : QuerySpec) : List Expr :=
  s.filter.toList ++ (s.orderBy.map SortSpec.key).toList ++ s.select.toList

def constants (s : QuerySpec) : List Literal := s.expressions.flatMap Expr.constants

theorem clause?_raw {α : Type} {whole : Raw} {read : Raw → Option α} {store : α → Json}
    {clause : Option α} {part : Raw.Part whole}
    (hpart : part.raw = ((clause.map store).getD .null).raw)
    (hread : ∀ x ∈ clause, read (store x).raw = some x ∧ (store x).raw.isNull = false) :
    clause? read (some part) = some clause := by
  cases clause with
  | none =>
    have hnull : part.raw.isNull := by rw [hpart]; rfl
    simp [clause?, hnull]
  | some x =>
    obtain ⟨hx, hnull⟩ := hread x rfl
    simp only [Option.map_some, Option.getD_some] at hpart
    simp [clause?, hpart, hx, hnull]

theorem clause?_expr {whole : Raw} {inner : Access} {clause : Option Expr} {part : Raw.Part whole}
    (hpart : part.raw = ((clause.map Expr.toJson).getD .null).raw)
    (hfree : ∀ e ∈ clause, ∀ c ∈ e.constants, c.isFloatFree)
    (h : inner.Admits ((clause.map Expr.toJson).getD .null).nesting) :
    clause? (Expr.ofRaw? inner) (some part) = some clause := by
  refine clause?_raw hpart ?_
  rintro e rfl
  exact ⟨Expr.ofRaw?_raw e (hfree e rfl) h, e.isNull_raw⟩

theorem clause?_sort {whole : Raw} {inner : Access} {clause : Option SortSpec}
    {part : Raw.Part whole} (hpart : part.raw = ((clause.map SortSpec.toJson).getD .null).raw)
    (hfree : ∀ sort ∈ clause, ∀ c ∈ sort.key.constants, c.isFloatFree)
    (h : inner.Admits ((clause.map SortSpec.toJson).getD .null).nesting) :
    clause? (SortSpec.ofRaw? inner) (some part) = some clause := by
  refine clause?_raw hpart ?_
  rintro sort rfl
  exact ⟨SortSpec.ofRaw?_raw sort (hfree sort rfl) h, rfl⟩

theorem ofRaw?_raw (s : QuerySpec) (hs : ∀ c ∈ s.constants, c.isFloatFree) {access : Access}
    (h : access.Admits s.toJson.nesting) : ofRaw? access s.toJson.raw = some s := by
  obtain ⟨inner, henter, hinner⟩ := Access.Admits.enter h
  simp only [Json.membersNesting] at hinner
  have hfree : ∀ e ∈ s.expressions, ∀ c ∈ e.constants, c.isFloatFree :=
    fun e he c hc => hs c (List.mem_flatMap.mpr ⟨e, he, hc⟩)
  obtain ⟨parts, hparts, hraws⟩ := Raw.fields?_object
    [("filter", (s.filter.map Expr.toJson).getD .null),
      ("order_by", (s.orderBy.map SortSpec.toJson).getD .null),
      ("select", (s.select.map Expr.toJson).getD .null)] (by simp)
  obtain ⟨filter, order, select, rfl, hfilterRaw, horderRaw, hselectRaw⟩ :=
    Raw.exists_of_map_raw_triple hraws
  simp only [List.map_cons, List.map_nil] at hparts
  have hfilter := clause?_expr hfilterRaw
    (fun e he => hfree e (by simp [expressions, Option.mem_def.mp he]))
    (hinner.mono (by omega))
  have horder := clause?_sort horderRaw
    (fun sort hsort => hfree sort.key (by simp [expressions, Option.mem_def.mp hsort]))
    (hinner.mono (by omega))
  have hselect := clause?_expr hselectRaw
    (fun e he => hfree e (by simp [expressions, Option.mem_def.mp he]))
    (hinner.mono (by omega))
  simp [ofRaw?, toJson, Json.raw, henter, hparts, hfilter, horder, hselect]

end QuerySpec

/-! ## Texts -/

theorem QuerySpec.isExact_toJson (s : QuerySpec) (hs : ∀ c ∈ s.constants, c.isFloatFree) :
    s.toJson.IsExact := by
  have hfree : ∀ e ∈ s.expressions, e.toJson.IsExact := fun e he =>
    e.isExact_toJson fun c hc => hs c (List.mem_flatMap.mpr ⟨e, he, hc⟩)
  have hclause : ∀ clause : Option Expr, (∀ e ∈ clause, e ∈ s.expressions) →
      ((clause.map Expr.toJson).getD .null).IsExact := by
    rintro (_ | e) h
    · trivial
    · exact hfree e (h e rfl)
  have hfilter := hclause s.filter fun e he => by simp [expressions, Option.mem_def.mp he]
  have hselect := hclause s.select fun e he => by simp [expressions, Option.mem_def.mp he]
  have horder : ((s.orderBy.map SortSpec.toJson).getD .null).IsExact := by
    cases hsort : s.orderBy with
    | none => trivial
    | some sort => exact ⟨hfree sort.key (by simp [expressions, hsort]), trivial, trivial⟩
  exact ⟨hfilter, horder, hselect, trivial⟩

namespace ApiModule

theorem isExact_toJson (m : ApiModule) : m.toJson.IsExact := by
  have htype : ∀ type : WireType, type.toJson.IsExact := by
    rintro (name | tokens)
    · trivial
    · exact Json.itemsExact_map fun _ _ => trivial
  have hproperties : Json.ItemsExact (m.properties.map Property.toJson) :=
    Json.itemsExact_map fun p _ => ⟨trivial, htype p.type, trivial, trivial⟩
  exact ⟨trivial, trivial, hproperties, trivial, trivial⟩

theorem nesting_toJson_le (m : ApiModule) : m.toJson.nesting ≤ 4 := by
  have htype : ∀ type : WireType, type.toJson.nesting ≤ 1 := by
    rintro (name | tokens)
    · exact Nat.zero_le 1
    · exact Nat.succ_le_succ (Json.itemsNesting_map_le fun _ _ => Nat.le_refl 0)
  have hproperties : Json.itemsNesting (m.properties.map Property.toJson) ≤ 2 := by
    refine Json.itemsNesting_map_le fun p _ => ?_
    have := htype p.type
    simp only [Property.toJson, Json.nesting, Json.membersNesting]
    omega
  simp only [toJson, Json.nesting, Json.membersNesting]
  omega

end ApiModule

/-- Every module is read back from the text that it is stored as, and so is every specification,
expression and literal that holds no double and nests no deeper than a text may. -/
theorem stored_reads_back :
    (∀ m : ApiModule, ApiModule.ofText? m.toJson.compact = some m) ∧
    (∀ s : QuerySpec, (∀ c ∈ s.constants, c.isFloatFree) → s.toJson.nesting ≤ 127 →
      QuerySpec.ofText? s.toJson.compact = some s) ∧
    (∀ e : Expr, (∀ c ∈ e.constants, c.isFloatFree) → e.toJson.nesting ≤ 127 →
      Expr.ofText? e.toJson.compact = some e) ∧
    (∀ v : Literal, v.isFloatFree → v.toJson.nesting ≤ 127 →
      Literal.ofText? v.toJson.compact = some v) := by
  refine ⟨fun m => ?_, fun s hs hnesting => ?_, fun e he hnesting => ?_, fun v hv hnesting => ?_⟩
  · have hnesting : m.toJson.nesting ≤ 127 := Nat.le_trans m.nesting_toJson_le (by omega)
    have hread : ApiModule.ofRaw? .text m.toJson.raw = some m := m.ofRaw?_raw hnesting
    simp [ApiModule.ofText?, Raw.ofText?_compact _ m.isExact_toJson, hread]
  · have hread : QuerySpec.ofRaw? .text s.toJson.raw = some s := s.ofRaw?_raw hs hnesting
    simp [QuerySpec.ofText?, Raw.ofText?_compact _ (s.isExact_toJson hs), hread]
  · have hread : Expr.ofRaw? .text e.toJson.raw = some e := e.ofRaw?_raw he hnesting
    simp [Expr.ofText?, Raw.ofText?_compact _ (e.isExact_toJson he), hread]
  · have hread : Literal.ofRaw? .text v.toJson.raw = some v := v.ofRaw?_raw hv hnesting
    simp [Literal.ofText?, Raw.ofText?_compact _ (v.isExact_toJson hv), hread]

theorem stored_reads_back_nested :
    let eve : Instant := ⟨⟨-4, 12, 31, by decide, by decide, by decide⟩,
      ⟨23, 59, 60, 120000000, by decide, by decide, by decide, by decide⟩⟩
    let values : Literal := .list [.null, .bool true, .int Int64.minValue, .date eve, .token "",
      .list [.str "\"\\/\n\x01é𝄞"]]
    let s : QuerySpec := {
      filter := some (.binary .and (.binary .equal (.member .row "a") (.const values))
        (.not (.binary .or .row (.binary .notEqual .row (.const .null)))))
      orderBy := none
      select := some (.record [("", .call .concat [.row, .const (.str "x")]),
        ("", .call .upper [])]) }
    (∀ c ∈ s.constants, c.isFloatFree) ∧ s.toJson.nesting ≤ 127 ∧
      QuerySpec.ofText? s.toJson.compact = some s := by
  intro eve values s
  have hfree : ∀ c ∈ s.constants, c.isFloatFree := by decide
  have hnesting : s.toJson.nesting ≤ 127 := by decide
  exact ⟨hfree, hnesting, stored_reads_back.2.1 s hfree hnesting⟩

end WikiRows
