import WikiRows.Proofs.Pieces
import WikiRows.Query.Selection

/-!
# Declared shapes

A declared shape is compared with that of the module by names in lower case and by the texts of the
types, in whatever order and however often the properties stand. Different types may have the same
text: an enumeration shows its tokens joined by bars, and any text may be the name of a type.
`WireType.display_eq_display_iff` says which types look alike.
-/

namespace WikiRows

open Text (pieces joinedPieces)

namespace WireType

/-- Types that are shown alike: by the same name, by tokens with the same pieces, or by a name that
spells out an enumeration. -/
def Alike : WireType → WireType → Prop
  | named n, named n' => n = n'
  | oneOf tokens, oneOf others => joinedPieces tokens = joinedPieces others
  | named n, oneOf tokens | oneOf tokens, named n => n = (oneOf tokens).display

theorem display_eq_display_iff {t u : WireType} : t.display = u.display ↔ t.Alike u := by
  match t, u with
  | named n, named n' => exact Iff.rfl
  | oneOf tokens, oneOf others =>
    simp only [display, Alike, String.append_left_inj, String.append_right_inj,
      Text.intercalate_eq_intercalate_iff]
  | named n, oneOf tokens => exact Iff.rfl
  | oneOf tokens, named n => exact eq_comm

/-- A type whose text is that of no other type of this kind: a name that spells out no enumeration, or an
enumeration of tokens without bars. -/
def IsClear : WireType → Prop
  | named n => ∀ tokens, n ≠ (oneOf tokens).display
  | oneOf tokens => tokens ≠ [] ∧ ∀ token ∈ tokens, '|' ∉ token.toList

theorem isClear_named {n : String} (h : ¬ "enum(".toList <+: n.toList) : (named n).IsClear := by
  rintro tokens rfl
  exact h (by simp [display])

theorem Alike.eq_of_isClear {t u : WireType} (h : t.Alike u) (ht : t.IsClear) (hu : u.IsClear) :
    t = u := by
  match t, u with
  | named n, named n' => exact congrArg named h
  | oneOf tokens, oneOf others =>
    change joinedPieces tokens = joinedPieces others at h
    rw [Text.joinedPieces_of_notMem ht.1 ht.2, Text.joinedPieces_of_notMem hu.1 hu.2] at h
    rw [h]
  | named n, oneOf tokens => exact absurd h (ht tokens)
  | oneOf tokens, named n => exact absurd h (hu tokens)

end WireType

namespace Property

def field (p : Property) : String × WireType := (Text.lower p.name, p.type)

def shown (p : Property) : String × String := (Text.lower p.name, p.type.display)

def LooksLike (p q : Property) : Prop :=
  Text.lower p.name = Text.lower q.name ∧ p.type.Alike q.type

theorem shown_eq_shown_iff {p q : Property} : p.shown = q.shown ↔ p.LooksLike q := by
  simp only [shown, LooksLike, Prod.mk.injEq, WireType.display_eq_display_iff]

theorem LooksLike.of_field_eq {p q : Property} (h : p.field = q.field) : p.LooksLike q := by
  obtain ⟨hname, htype⟩ := Prod.mk.inj h
  exact ⟨hname, WireType.display_eq_display_iff.mp (congrArg _ htype)⟩

end Property

namespace Shape

def Sorted (shape : Shape) : Prop := shape.Pairwise fun f g => toLex f < toLex g

theorem mem_insert {field f : String × String} {shape : Shape} :
    f ∈ insert field shape ↔ f = field ∨ f ∈ shape := by
  induction shape with
  | nil => simp [insert]
  | cons first rest ih =>
    unfold insert
    split_ifs with hlt heq
    · simp
    · simp [heq]
    · simp only [List.mem_cons, ih]
      tauto

theorem sorted_insert {field : String × String} {shape : Shape} (h : shape.Sorted) :
    (insert field shape).Sorted := by
  fun_induction insert field shape with
  | case1 => exact List.pairwise_singleton _ _
  | case2 first rest hlt =>
    have hfirst : toLex field < toLex first := Prod.Lex.toLex_lt_toLex.mpr hlt
    refine List.pairwise_cons.mpr ⟨fun other hother => ?_, h⟩
    rcases List.mem_cons.mp hother with rfl | hother
    · exact hfirst
    · exact hfirst.trans (List.rel_of_pairwise_cons h hother)
  | case3 => exact h
  | case4 first rest hlt hne ih =>
    obtain ⟨hfirst, hrest⟩ := List.pairwise_cons.mp h
    refine List.pairwise_cons.mpr ⟨fun other hother => ?_, ih hrest⟩
    rcases mem_insert.mp hother with rfl | hother
    · have hle : toLex first ≤ toLex other :=
        not_lt.mp fun hlt' => hlt (Prod.Lex.toLex_lt_toLex.mp hlt')
      exact lt_of_le_of_ne hle fun heq => hne (toLex.injective heq).symm
    · exact hfirst other hother

theorem ofProperties_concat (properties : List Property) (p : Property) :
    ofProperties (properties ++ [p]) = insert p.shown (ofProperties properties) := by
  rw [ofProperties, List.foldl_append]
  rfl

theorem sorted_ofProperties (properties : List Property) : (ofProperties properties).Sorted := by
  induction properties using List.reverseRecOn with
  | nil => exact .nil
  | append_singleton properties p ih =>
    rw [ofProperties_concat]
    exact sorted_insert ih

theorem mem_ofProperties {f : String × String} {properties : List Property} :
    f ∈ ofProperties properties ↔ ∃ p ∈ properties, p.shown = f := by
  induction properties using List.reverseRecOn with
  | nil => simp [ofProperties]
  | append_singleton properties p ih =>
    rw [ofProperties_concat, mem_insert, ih]
    simp only [List.mem_append, List.mem_singleton, or_and_right, exists_or, exists_eq_left]
    rw [or_comm, eq_comm]

/-- Each property of either list has one that looks like it in the other. -/
def LookAlike (ps qs : List Property) : Prop :=
  (∀ p ∈ ps, ∃ q ∈ qs, p.LooksLike q) ∧ ∀ q ∈ qs, ∃ p ∈ ps, p.LooksLike q

/-- The same names with the same types, in whatever order and however often. -/
def Same (ps qs : List Property) : Prop :=
  ∀ field, field ∈ ps.map Property.field ↔ field ∈ qs.map Property.field

variable {ps qs : List Property}

theorem ofProperties_eq_iff : ofProperties ps = ofProperties qs ↔ LookAlike ps qs := by
  simp only [LookAlike, ← Property.shown_eq_shown_iff]
  constructor
  · intro h
    refine ⟨fun p hp => ?_, fun q hq => ?_⟩
    · have hmem : p.shown ∈ ofProperties qs := h ▸ mem_ofProperties.mpr ⟨p, hp, rfl⟩
      obtain ⟨q, hq, heq⟩ := mem_ofProperties.mp hmem
      exact ⟨q, hq, heq.symm⟩
    · have hmem : q.shown ∈ ofProperties ps := h ▸ mem_ofProperties.mpr ⟨q, hq, rfl⟩
      exact mem_ofProperties.mp hmem
  · rintro ⟨hps, hqs⟩
    -- Sorted lists without repetitions are equal if they have the same members.
    refine (sorted_ofProperties ps).eq_of_mem_iff (sorted_ofProperties qs) fun f => ?_
    rw [mem_ofProperties, mem_ofProperties]
    constructor
    · rintro ⟨p, hp, rfl⟩
      obtain ⟨q, hq, heq⟩ := hps p hp
      exact ⟨q, hq, heq.symm⟩
    · rintro ⟨q, hq, rfl⟩
      exact hqs q hq

theorem Same.lookAlike (h : Same ps qs) : LookAlike ps qs := by
  refine ⟨fun p hp => ?_, fun q hq => ?_⟩
  · obtain ⟨q, hq, heq⟩ := List.mem_map.mp ((h p.field).mp (List.mem_map_of_mem hp))
    exact ⟨q, hq, .of_field_eq heq.symm⟩
  · obtain ⟨p, hp, heq⟩ := List.mem_map.mp ((h q.field).mpr (List.mem_map_of_mem hq))
    exact ⟨p, hp, .of_field_eq heq⟩

theorem LookAlike.same_of_isClear (h : LookAlike ps qs) (hps : ∀ p ∈ ps, p.type.IsClear)
    (hqs : ∀ q ∈ qs, q.type.IsClear) : Same ps qs := by
  have hfield : ∀ p ∈ ps, ∀ q ∈ qs, p.LooksLike q → p.field = q.field := fun p hp q hq hlike =>
    Prod.ext hlike.1 (hlike.2.eq_of_isClear (hps p hp) (hqs q hq))
  intro field
  simp only [List.mem_map]
  constructor
  · rintro ⟨p, hp, rfl⟩
    obtain ⟨q, hq, hlike⟩ := h.1 p hp
    exact ⟨q, hq, (hfield p hp q hq hlike).symm⟩
  · rintro ⟨q, hq, rfl⟩
    obtain ⟨p, hp, hlike⟩ := h.2 q hq
    exact ⟨p, hp, hfield p hp q hq hlike⟩

end Shape

namespace Clauses

variable {m : ApiModule} {c c' : Clauses} {declared : List Property}

theorem selectIdentity_eq_ok_iff :
    selectIdentity m c .row declared = .ok c' ↔
      c' = c ∧ Shape.LookAlike m.properties declared := by
  rw [← Shape.ofProperties_eq_iff]
  unfold selectIdentity
  dsimp only
  split_ifs with h
  · simp [h, eq_comm]
  · simp [h]

theorem selectIdentity_eq_error_iff {failure : Failure} :
    selectIdentity m c .row declared = .error failure ↔
      ¬ Shape.LookAlike m.properties declared ∧
        failure = .shapeMismatch (Shape.ofProperties m.properties) (Shape.ofProperties declared) := by
  rw [← Shape.ofProperties_eq_iff]
  unfold selectIdentity
  dsimp only
  split_ifs with h
  · simp [h]
  · simp [h, eq_comm]

/-- Declaring the shape of the rows leaves the clauses as they are or fails because of the shape. It
succeeds for every list of properties that is the same as that of the module, but also for the lists
that only look like it, of which there are none where all types are clear. -/
theorem selectIdentity_same_or_alike (m : ApiModule) (previous : Clauses)
    (declared : List Property) :
    (∀ c, selectIdentity m previous .row declared = .ok c → c = previous) ∧
    (∀ failure, selectIdentity m previous .row declared = .error failure →
      failure = .shapeMismatch (Shape.ofProperties m.properties) (Shape.ofProperties declared)) ∧
    (selectIdentity m previous .row declared = .ok previous ↔
      Shape.LookAlike m.properties declared) ∧
    (¬ (selectIdentity m previous .row declared = .ok previous ↔
        Shape.Same m.properties declared) ↔
      Shape.LookAlike m.properties declared ∧ ¬ Shape.Same m.properties declared) ∧
    ((∀ p ∈ m.properties, p.type.IsClear) → (∀ p ∈ declared, p.type.IsClear) →
      (selectIdentity m previous .row declared = .ok previous ↔
        Shape.Same m.properties declared)) := by
  have hok : selectIdentity m previous .row declared = .ok previous ↔
      Shape.LookAlike m.properties declared := by
    simp only [selectIdentity_eq_ok_iff, true_and]
  have hsame : Shape.Same m.properties declared → Shape.LookAlike m.properties declared :=
    Shape.Same.lookAlike
  refine ⟨fun c h => (selectIdentity_eq_ok_iff.mp h).1,
    fun failure h => (selectIdentity_eq_error_iff.mp h).2, hok, ?_, fun hm hd => ?_⟩
  · rw [hok]
    tauto
  · rw [hok]
    exact ⟨fun h => h.same_of_isClear hm hd, hsame⟩

/-- The properties of a module in another order and case, one of them twice. -/
theorem selectIdentity_same_or_alike_clear :
    let m : ApiModule := ⟨"items", "it", [⟨"ns", .named "integer", false⟩,
      ⟨"kind", .oneOf ["page", "file"], true⟩], true⟩
    let declared : List Property := [⟨"Kind", .oneOf ["page", "file"], false⟩,
      ⟨"NS", .named "integer", true⟩, ⟨"kind", .oneOf ["page", "file"], true⟩]
    let previous : Clauses := Clauses.empty.withValue "ns" "0"
    (∀ p ∈ m.properties, p.type.IsClear) ∧ (∀ p ∈ declared, p.type.IsClear) ∧
    selectIdentity m previous .row declared = .ok previous ∧ Shape.Same m.properties declared := by
  intro m declared previous
  have hkind : (WireType.oneOf ["page", "file"]).IsClear := ⟨by decide, by decide⟩
  have hinteger : (WireType.named "integer").IsClear := WireType.isClear_named (by decide)
  have hm : ∀ p ∈ m.properties, p.type.IsClear := by simp [m, hkind, hinteger]
  have hd : ∀ p ∈ declared, p.type.IsClear := by simp [declared, hkind, hinteger]
  have hok : selectIdentity m previous .row declared = .ok previous := by rfl
  obtain ⟨-, -, -, -, hclear⟩ := selectIdentity_same_or_alike m previous declared
  exact ⟨hm, hd, hok, (hclear hm hd).mp hok⟩

/-- A shape with other tokens, and one with a named type instead of an enumeration, pass for that of
the module. -/
theorem selectIdentity_confuses_types :
    let m : ApiModule := ⟨"items", "it", [⟨"kind", .oneOf ["page", "file"], false⟩], true⟩
    let joined : List Property := [⟨"kind", .oneOf ["page|file"], false⟩]
    let named : List Property := [⟨"kind", .named "enum(page|file)", false⟩]
    selectIdentity m .empty .row joined = .ok .empty ∧ ¬ Shape.Same m.properties joined ∧
    selectIdentity m .empty .row named = .ok .empty ∧ ¬ Shape.Same m.properties named := by
  intro m joined named
  have hlower : Text.lower "kind" = "kind" := by rfl
  refine ⟨by rfl, fun h => ?_, by rfl, fun h => ?_⟩
  · have hmem := (h ("kind", .oneOf ["page", "file"])).mp (by simp [m, Property.field, hlower])
    simp [joined, Property.field] at hmem
  · have hmem := (h ("kind", .oneOf ["page", "file"])).mp (by simp [m, Property.field, hlower])
    simp [named, Property.field] at hmem

end Clauses

end WikiRows
