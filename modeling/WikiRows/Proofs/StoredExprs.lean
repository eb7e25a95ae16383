import WikiRows.Expr.Json
import WikiRows.Proofs.InstantText
import WikiRows.Proofs.Records

/-!
# Stored literals and expressions

A literal without doubles is read back from its stored form, and so is an expression whose constants
are such literals. The numbers in these forms are whole and fit 64 bits, so that their texts are
exact.
-/

namespace WikiRows

open Json (Raw Access)

/-! ## Literals -/

namespace Literal

mutual

def isFloatFree : Literal → Bool
  | float _ => false
  | list items => itemsFloatFree items
  | _ => true

def itemsFloatFree : List Literal → Bool
  | [] => true
  | item :: items => isFloatFree item && itemsFloatFree items

end

theorem itemsToJson_eq_map (items : List Literal) : itemsToJson items = items.map toJson := by
  induction items with
  | nil => rfl
  | cons item items ih => simp [itemsToJson, ih]

theorem stored?_tagged {access inner : Access} (h : access.enter = some inner) (type : String)
    (value : Json) :
    ∃ part : Raw.Part (tagged type value).raw,
      stored? access (tagged type value).raw = some ⟨type, some part, inner⟩ ∧
        part.raw = value.raw := by
  obtain ⟨parts, hparts, hnames, hraws⟩ :=
    Raw.members?_object [("type", .str type), ("value", value)]
  simp only [List.map_cons, List.map_nil, List.map_eq_cons_iff, List.map_eq_nil_iff] at hnames
  obtain ⟨first, -, rfl, hfirst, second, -, rfl, hsecond, rfl⟩ := hnames
  obtain ⟨typeName, typePart⟩ := first
  obtain ⟨valueName, valuePart⟩ := second
  obtain rfl : typeName = "type" := hfirst
  obtain rfl : valueName = "value" := hsecond
  obtain ⟨htype, hvalue⟩ : typePart.raw = .string (some type) ∧ valuePart.raw = value.raw := by
    simpa [Json.raw] using hraws
  refine ⟨valuePart, ?_, hvalue⟩
  simp only [tagged, Json.raw]
  simp [stored?, h, hparts, htype, Raw.choice?]

theorem stored?_null {access inner : Access} (h : access.enter = some inner) :
    stored? access null.toJson.raw = some ⟨"null", none, inner⟩ := by
  obtain ⟨parts, hparts, hnames, hraws⟩ := Raw.members?_object [("type", .str "null")]
  simp only [List.map_cons, List.map_nil, List.map_eq_cons_iff, List.map_eq_nil_iff] at hnames
  obtain ⟨⟨name, part⟩, -, rfl, rfl, rfl⟩ := hnames
  have htype : part.raw = .string (some "null") := by simpa [Json.raw] using hraws
  simp only [toJson, Json.raw]
  simp [stored?, h, hparts, htype, Raw.choice?]

theorem int_range (i : Int64) : -0x8000000000000000 ≤ i.toInt ∧ i.toInt < 0x8000000000000000 :=
  ⟨i.le_toInt, i.toInt_lt⟩

theorem exists_enter {v : Literal} {access : Access} (h : access.Admits v.toJson.nesting) :
    ∃ inner, access.enter = some inner := by
  cases v <;>
    · obtain ⟨inner, henter, -⟩ := Access.Admits.enter h
      exact ⟨inner, henter⟩

theorem ofRaw?_tagged {access inner : Access} (h : access.enter = some inner) {type : String}
    (htype : type ≠ "list") (value : Json) :
    ofRaw? access (tagged type value).raw = scalar? type value.raw := by
  obtain ⟨part, hstored, hpart⟩ := stored?_tagged h type value
  rw [ofRaw?]
  simp [hstored, htype, hpart]

mutual

theorem ofRaw?_raw (v : Literal) (hv : v.isFloatFree) {access : Access}
    (h : access.Admits v.toJson.nesting) : ofRaw? access v.toJson.raw = some v := by
  obtain ⟨inner, henter⟩ := exists_enter h
  match v with
  | null =>
    have hstored := stored?_null henter
    rw [ofRaw?]
    simp [hstored]
  | bool b => simp [toJson, ofRaw?_tagged henter, scalar?, Json.raw, Raw.bool?]
  | int i => simp [toJson, ofRaw?_tagged henter, scalar?, Json.raw, Raw.int64?, int_range i]
  | str s => simp [toJson, ofRaw?_tagged henter, scalar?, Json.raw, Raw.text?]
  | date t =>
    simp [toJson, ofRaw?_tagged henter, scalar?, Json.raw, Raw.text?, Instant.ofText?_toText]
  | token name => simp [toJson, ofRaw?_tagged henter, scalar?, Json.raw, Raw.text?]
  | list items =>
    -- the items stand in an array in the object of the type and the value
    obtain ⟨inner, henter, hinner⟩ := Access.Admits.enter h
    have hinside : inner.Admits (Json.itemsNesting (itemsToJson items) + 1) :=
      hinner.mono (by simp [Json.membersNesting, Json.nesting])
    obtain ⟨innermost, hnext, hinnermost⟩ := hinside.enter
    have hitems := ofRaw?_items items hv hinnermost
    obtain ⟨⟨raw, hsmaller⟩, hstored, hpart⟩ :=
      stored?_tagged henter "list" (.arr (itemsToJson items))
    obtain rfl : raw = .array (Json.itemsRaw (items.map toJson)) := by
      rw [← itemsToJson_eq_map]
      exact hpart
    obtain ⟨parts, hparts, hread⟩ := Raw.items?_array hitems
    rw [toJson, ofRaw?]
    simp [hstored, hnext, hparts, hread]

theorem ofRaw?_items (items : List Literal) (hitems : itemsFloatFree items) {access : Access}
    (h : access.Admits (Json.itemsNesting (itemsToJson items))) :
    ∀ item ∈ items, ofRaw? access item.toJson.raw = some item := by
  match items with
  | [] => simp
  | first :: items =>
    simp only [itemsFloatFree, Bool.and_eq_true] at hitems
    have hfirst := ofRaw?_raw first hitems.1 (h.mono (Nat.le_max_left _ _))
    have hrest := ofRaw?_items items hitems.2 (h.mono (Nat.le_max_right _ _))
    exact List.forall_mem_cons.mpr ⟨hfirst, hrest⟩

end

mutual

theorem isExact_toJson (v : Literal) (hv : v.isFloatFree) : v.toJson.IsExact := by
  match v with
  | null | bool _ | str _ | date _ | token _ =>
    simp [toJson, tagged, Json.IsExact, Json.MembersExact]
  | int i => simpa [toJson, tagged, Json.IsExact, Json.MembersExact] using int_range i
  | list items =>
    have hitems := itemsExact_toJson items hv
    simpa [toJson, tagged, Json.IsExact, Json.MembersExact] using hitems

theorem itemsExact_toJson (items : List Literal) (h : itemsFloatFree items) :
    Json.ItemsExact (itemsToJson items) := by
  match items with
  | [] => trivial
  | item :: items =>
    simp only [itemsFloatFree, Bool.and_eq_true] at h
    exact ⟨isExact_toJson item h.1, itemsExact_toJson items h.2⟩

end

end Literal

/-! ## Expressions -/

theorem Function.ofName?_name (function : Function) : ofName? function.name = some function := by
  cases function <;> rfl

namespace Expr

theorem argsToJson_eq_map (args : List Expr) : argsToJson args = args.map toJson := by
  induction args with
  | nil => rfl
  | cons arg args ih => simp [argsToJson, ih]

def fieldToJson (field : String × Expr) : Json := .arr [.str field.1, field.2.toJson]

theorem fieldsToJson_eq_map (fields : List (String × Expr)) :
    fieldsToJson fields = fields.map fieldToJson := by
  induction fields with
  | nil => rfl
  | cons field fields ih => simp [fieldsToJson, fieldToJson, ih]

abbrev taggedRaw (kind : String) (parts : List (String × Json)) : Raw :=
  .object (Json.membersRaw (("kind", .str kind) :: parts))

theorem raw_tagged (kind : String) (parts : List (String × Json)) :
    (tagged kind parts).raw = taggedRaw kind parts := by
  simp [tagged, taggedRaw, Json.raw]

theorem stored?_tagged (kind : String) (parts : List (String × Json))
    (hnames : ("kind" :: parts.map Prod.fst).Nodup) (hparts : partNames kind = parts.map Prod.fst) :
    ∃ (stored : Stored (taggedRaw kind parts)) (held : List (Raw.Part (taggedRaw kind parts))),
      stored? (taggedRaw kind parts) = some stored ∧ stored.kind = .string (some kind) ∧
        stored.parts (partNames kind) = some (held.map some) ∧
          held.map Raw.Part.raw = parts.map (·.2.raw) := by
  obtain ⟨members, hmembers, hfst, hraws⟩ :=
    Raw.members?_object (("kind", .str kind) :: parts)
  rcases members with _ | ⟨⟨name, first⟩, rest⟩
  · simp at hfst
  simp only [List.map_cons, List.cons.injEq] at hfst hraws
  obtain ⟨rfl, hrest⟩ := hfst
  have hnodup : ((("kind", first) :: rest).map Prod.fst).Nodup := by
    simpa [hrest] using hnames
  have hkind : Raw.unique? (("kind", first) :: rest) "kind" = some (some first) :=
    Raw.unique?_eq_some hnodup List.mem_cons_self
  have hheld := Raw.mapM_unique? hnodup fun part hpart =>
    List.mem_cons_of_mem ("kind", first) (a := part) hpart
  refine ⟨⟨first.raw, fun names => names.mapM (Raw.unique? (("kind", first) :: rest))⟩,
    rest.map Prod.snd, ?_, ?_, ?_, ?_⟩
  · simp [stored?, hmembers, hkind]
  · exact hraws.1
  · simp only [hparts, ← hrest, hheld, List.map_map]
    rfl
  · rw [List.map_map]
    exact hraws.2

theorem ofHeld?_pair {kind : String} {op : BinaryOp} (hop : binaryOp? kind = some op)
    {left right : Expr} (hleft : ofHeld? left.toJson.raw = some left)
    (hright : ofHeld? right.toJson.raw = some right) :
    ofHeld? (tagged kind [("left", left.toJson), ("right", right.toJson)]).raw =
      some (binary op left right) := by
  have hnames : partNames kind = ["left", "right"] := by
    unfold binaryOp? at hop
    split at hop
    case h_5 => exact absurd hop (by simp)
    all_goals rfl
  obtain ⟨stored, held, hstored, hkind, hparts, hraws⟩ := stored?_tagged kind
    [("left", left.toJson), ("right", right.toJson)] (by simp) hnames
  obtain ⟨first, second, rfl, hfirst, hsecond⟩ := Raw.exists_of_map_raw_pair hraws
  rw [raw_tagged, ofHeld?]
  unfold binaryOp? at hop
  split at hop
  case h_5 => exact absurd hop (by simp)
  all_goals
    obtain rfl := Option.some.inj hop
    simp [hstored, hkind, kind?, hparts, hfirst, hsecond, hleft, hright, binaryOp?]

def fieldOfHeld? (raw : Raw) : Option (String × Expr) := do
  match ← raw.items? with
  | [name, value] => return (← name.raw.text?, ← ofHeld? value.raw)
  | _ => none

mutual

theorem ofHeld?_raw (e : Expr) (he : ∀ c ∈ e.constants, c.isFloatFree) :
    ofHeld? e.toJson.raw = some e := by
  match e with
  | row =>
    obtain ⟨stored, held, hstored, hkind, hparts, hraws⟩ :=
      stored?_tagged "identity" [] (by simp) rfl
    obtain rfl : held = [] := by simpa using hraws
    rw [toJson, raw_tagged, ofHeld?]
    simp [hstored, hkind, kind?, hparts]
  | member target name =>
    have htarget := ofHeld?_raw target he
    obtain ⟨stored, held, hstored, hkind, hparts, hraws⟩ := stored?_tagged "member"
      [("target", target.toJson), ("name", .str name)] (by simp) rfl
    obtain ⟨first, second, rfl, hfirst, hsecond⟩ := Raw.exists_of_map_raw_pair hraws
    have hname : second.raw.text? = some name := by rw [hsecond]; rfl
    rw [toJson, raw_tagged, ofHeld?]
    simp [hstored, hkind, kind?, hparts, hfirst, htarget, hname]
  | const value =>
    have hvalue : Literal.ofRaw? .held value.toJson.raw = some value :=
      Literal.ofRaw?_raw value (he value List.mem_cons_self) trivial
    obtain ⟨stored, held, hstored, hkind, hparts, hraws⟩ := stored?_tagged "constant"
      [("value", value.toJson)] (by simp) rfl
    obtain ⟨part, rfl, hpart⟩ := List.map_eq_singleton_iff.mp hraws
    rw [toJson, raw_tagged, ofHeld?]
    simp [hstored, hkind, kind?, hparts, hpart, hvalue]
  | not operand =>
    have hoperand := ofHeld?_raw operand he
    obtain ⟨stored, held, hstored, hkind, hparts, hraws⟩ := stored?_tagged "not"
      [("operand", operand.toJson)] (by simp) rfl
    obtain ⟨part, rfl, hpart⟩ := List.map_eq_singleton_iff.mp hraws
    rw [toJson, raw_tagged, ofHeld?]
    simp [hstored, hkind, kind?, hparts, hpart, hoperand]
  | binary op left right =>
    have hleft := ofHeld?_raw left fun c hc => he c (List.mem_append_left _ hc)
    have hright := ofHeld?_raw right fun c hc => he c (List.mem_append_right _ hc)
    have hop : binaryOp? op.kind = some op := by cases op <;> rfl
    rw [toJson, ofHeld?_pair hop hleft hright]
  | call function args =>
    have hargs := ofHeld?_args args he
    obtain ⟨stored, held, hstored, hkind, hparts, hraws⟩ := stored?_tagged "call"
      [("function", .str function.name), ("args", .arr (argsToJson args))] (by simp) rfl
    obtain ⟨first, ⟨raw, hsmaller⟩, rfl, hfirst, hsecond⟩ := Raw.exists_of_map_raw_pair hraws
    obtain rfl : raw = .array (Json.itemsRaw (args.map toJson)) := by
      rw [← argsToJson_eq_map]
      exact hsecond
    obtain ⟨items, hitems, hread⟩ := Raw.items?_array hargs
    have hfunction : first.raw.choice? .held = some function.name := by rw [hfirst]; rfl
    rw [toJson, raw_tagged, ofHeld?]
    simp [hstored, hkind, kind?, hparts, hfunction, Function.ofName?_name, hitems, hread]
  | record fields =>
    have hfields := ofHeld?_fields fields he
    obtain ⟨stored, held, hstored, hkind, hparts, hraws⟩ := stored?_tagged "record"
      [("fields", .arr (fieldsToJson fields))] (by simp) rfl
    obtain ⟨⟨raw, hsmaller⟩, rfl, hpart⟩ := List.map_eq_singleton_iff.mp hraws
    obtain rfl : raw = .array (Json.itemsRaw (fields.map fieldToJson)) := by
      rw [← fieldsToJson_eq_map]
      exact hpart
    obtain ⟨items, hitems, hread⟩ := Raw.items?_array hfields
    rw [toJson, raw_tagged, ofHeld?]
    simp [hstored, hkind, kind?, hparts, hitems]
    refine congrArg (Option.bind · fun fields => some (record fields)) (Eq.trans ?_ hread)
    -- the reader of a field that is written out in the reader of expressions is the one above
    refine congrArg (items.mapM ·) (funext fun item => ?_)
    unfold fieldOfHeld?
    cases item.raw.items? with
    | none => rfl
    | some parts => rcases parts with _ | ⟨name, _ | ⟨value, _ | ⟨other, parts⟩⟩⟩ <;> rfl

theorem ofHeld?_args (args : List Expr) (h : ∀ c ∈ argsConstants args, c.isFloatFree) :
    ∀ arg ∈ args, ofHeld? arg.toJson.raw = some arg := by
  match args with
  | [] => simp
  | first :: args =>
    have hfirst := ofHeld?_raw first fun c hc => h c (List.mem_append_left _ hc)
    have hrest := ofHeld?_args args fun c hc => h c (List.mem_append_right _ hc)
    exact List.forall_mem_cons.mpr ⟨hfirst, hrest⟩

theorem ofHeld?_fields (fields : List (String × Expr))
    (h : ∀ c ∈ fieldsConstants fields, c.isFloatFree) :
    ∀ field ∈ fields, fieldOfHeld? (fieldToJson field).raw = some field := by
  match fields with
  | [] => simp
  | (name, value) :: fields =>
    have hvalue := ofHeld?_raw value fun c hc => h c (List.mem_append_left _ hc)
    have hrest := ofHeld?_fields fields fun c hc => h c (List.mem_append_right _ hc)
    refine List.forall_mem_cons.mpr ⟨?_, hrest⟩
    simp [fieldOfHeld?, fieldToJson, Json.raw, Json.itemsRaw, Raw.items?, Raw.text?, hvalue]

end

/-- Every stored form is that of a kind with the parts of that kind. -/
theorem toJson_eq_tagged (e : Expr) :
    ∃ kind parts, e.toJson = tagged kind parts ∧ ("kind" :: parts.map Prod.fst).Nodup ∧
      partNames kind = parts.map Prod.fst := by
  cases e with
  | binary op left right => cases op <;> exact ⟨_, _, rfl, by simp, rfl⟩
  | _ => exact ⟨_, _, rfl, by simp, rfl⟩

theorem ofRaw?_raw (e : Expr) (he : ∀ c ∈ e.constants, c.isFloatFree) {access : Access}
    (h : access.Admits e.toJson.nesting) : ofRaw? access e.toJson.raw = some e := by
  have hholds := h.holds
  have hkind : namesKind e.toJson.raw := by
    obtain ⟨kind, parts, heq, hnames, hparts⟩ := toJson_eq_tagged e
    obtain ⟨stored, held, hstored, hkind, -⟩ := stored?_tagged kind parts hnames hparts
    rw [heq, raw_tagged]
    simp [namesKind, hstored, hkind, Raw.text?]
  cases access <;> simp [ofRaw?, hholds, hkind, ofHeld?_raw e he]

theorem isNull_raw (e : Expr) : e.toJson.raw.isNull = false := by
  obtain ⟨kind, parts, heq, -⟩ := toJson_eq_tagged e
  rw [heq]
  rfl

mutual

theorem isExact_toJson (e : Expr) (he : ∀ c ∈ e.constants, c.isFloatFree) :
    e.toJson.IsExact := by
  match e with
  | row => simp [toJson, tagged, Json.IsExact, Json.MembersExact]
  | member target name =>
    have htarget := isExact_toJson target he
    simpa [toJson, tagged, Json.IsExact, Json.MembersExact] using htarget
  | const value =>
    have hvalue := value.isExact_toJson (he value List.mem_cons_self)
    simpa [toJson, tagged, Json.IsExact, Json.MembersExact] using hvalue
  | not operand =>
    have hoperand := isExact_toJson operand he
    simpa [toJson, tagged, Json.IsExact, Json.MembersExact] using hoperand
  | binary op left right =>
    have hleft := isExact_toJson left fun c hc => he c (List.mem_append_left _ hc)
    have hright := isExact_toJson right fun c hc => he c (List.mem_append_right _ hc)
    simpa [toJson, tagged, Json.IsExact, Json.MembersExact] using ⟨hleft, hright⟩
  | call function args =>
    have hargs := argsExact_toJson args he
    simpa [toJson, tagged, Json.IsExact, Json.MembersExact] using hargs
  | record fields =>
    have hfields := fieldsExact_toJson fields he
    simpa [toJson, tagged, Json.IsExact, Json.MembersExact] using hfields

theorem argsExact_toJson (args : List Expr) (h : ∀ c ∈ argsConstants args, c.isFloatFree) :
    Json.ItemsExact (argsToJson args) := by
  match args with
  | [] => trivial
  | arg :: args =>
    have harg := isExact_toJson arg fun c hc => h c (List.mem_append_left _ hc)
    have hargs := argsExact_toJson args fun c hc => h c (List.mem_append_right _ hc)
    exact ⟨harg, hargs⟩

theorem fieldsExact_toJson (fields : List (String × Expr))
    (h : ∀ c ∈ fieldsConstants fields, c.isFloatFree) :
    Json.ItemsExact (fieldsToJson fields) := by
  match fields with
  | [] => trivial
  | (name, value) :: fields =>
    have hvalue := isExact_toJson value fun c hc => h c (List.mem_append_left _ hc)
    have hfields := fieldsExact_toJson fields fun c hc => h c (List.mem_append_right _ hc)
    exact ⟨⟨trivial, hvalue, trivial⟩, hfields⟩

end

end Expr

end WikiRows
