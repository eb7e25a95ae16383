import WikiRows.Json.Access
import WikiRows.Proofs.JsonText

/-!
# Records in JSON

What a JSON value offers to the readers of typed values: it can be taken in as a whole where there
is room for its nesting, its items come back in order, and a record gives back its fields, as long
as their names differ.
-/

namespace WikiRows

namespace Json

/-! ## Nesting -/

mutual

def nesting : Json → Nat
  | arr items => itemsNesting items + 1
  | obj members => membersNesting members + 1
  | _ => 0

def itemsNesting : List Json → Nat
  | [] => 0
  | item :: items => max (nesting item) (itemsNesting items)

def membersNesting : List (String × Json) → Nat
  | [] => 0
  | (_, value) :: members => max (nesting value) (membersNesting members)

end

theorem itemsNesting_map_le {α : Type} {store : α → Json} {n : Nat} {xs : List α}
    (h : ∀ x ∈ xs, (store x).nesting ≤ n) : itemsNesting (xs.map store) ≤ n := by
  induction xs with
  | nil => exact Nat.zero_le n
  | cons x xs ih =>
    obtain ⟨hx, hxs⟩ := List.forall_mem_cons.mp h
    exact Nat.max_le.mpr ⟨hx, ih hxs⟩

theorem nesting_le_itemsNesting {item : Json} {items : List Json} (h : item ∈ items) :
    item.nesting ≤ itemsNesting items := by
  induction items with
  | nil => simp at h
  | cons first items ih =>
    rcases List.mem_cons.mp h with rfl | h
    · exact Nat.le_max_left _ _
    · exact Nat.le_trans (ih h) (Nat.le_max_right _ _)

mutual

theorem fits_raw (j : Json) {room : Nat} (h : j.nesting ≤ room) : j.raw.fits room := by
  match j, room with
  | null, _ | bool _, _ | int _, _ | float _, _ | str _, _ => simp [raw, Raw.fits]
  | arr items, 0 => simp [nesting] at h
  | arr items, room + 1 =>
    simp only [nesting, Nat.add_le_add_iff_right] at h
    simpa [raw, Raw.fits] using itemsFit_itemsRaw items h
  | obj members, 0 => simp [nesting] at h
  | obj members, room + 1 =>
    simp only [nesting, Nat.add_le_add_iff_right] at h
    simpa [raw, Raw.fits] using membersFit_membersRaw members h

theorem itemsFit_itemsRaw (items : List Json) {room : Nat} (h : itemsNesting items ≤ room) :
    Raw.itemsFit room (itemsRaw items) := by
  match items with
  | [] => simp [itemsRaw, Raw.itemsFit]
  | item :: items =>
    simp only [itemsNesting, Nat.max_le] at h
    simp [itemsRaw, Raw.itemsFit, fits_raw item h.1, itemsFit_itemsRaw items h.2]

theorem membersFit_membersRaw (members : List (String × Json)) {room : Nat}
    (h : membersNesting members ≤ room) : Raw.membersFit room (membersRaw members) := by
  match members with
  | [] => simp [membersRaw, Raw.membersFit]
  | (name, value) :: members =>
    simp only [membersNesting, Nat.max_le] at h
    simp [membersRaw, Raw.membersFit, fits_raw value h.1, membersFit_membersRaw members h.2]

end

namespace Access

def Admits : Access → Nat → Prop
  | streamed room, n => n ≤ room
  | held, _ => True

theorem Admits.mono {access : Access} {m n : Nat} (h : access.Admits n) (hle : m ≤ n) :
    access.Admits m := by
  cases access with
  | streamed room => exact Nat.le_trans hle h
  | held => trivial

theorem Admits.enter {access : Access} {n : Nat} (h : access.Admits (n + 1)) :
    ∃ inner, access.enter = some inner ∧ inner.Admits n := by
  match access with
  | streamed 0 => exact absurd h (by simp [Admits])
  | streamed (room + 1) => exact ⟨streamed room, rfl, Nat.le_of_succ_le_succ h⟩
  | held => exact ⟨held, rfl, trivial⟩

theorem Admits.holds {access : Access} {j : Json} (h : access.Admits j.nesting) :
    access.holds j.raw := by
  cases access with
  | streamed room => exact fits_raw j h
  | held => rfl

end Access

/-! ## Items and fields -/

namespace Raw

theorem mapM_eq_some_map {α β : Type} {f : α → Option β} {g : α → β} {xs : List α}
    (h : ∀ x ∈ xs, f x = some (g x)) : xs.mapM f = some (xs.map g) := by
  induction xs with
  | nil => rfl
  | cons x xs ih =>
    have hxs := ih fun y hy => h y (List.mem_cons_of_mem x hy)
    simp [h x List.mem_cons_self, hxs]

theorem exists_of_map_raw_pair {whole : Raw} {parts : List (Part whole)} {a b : Raw}
    (h : parts.map Part.raw = [a, b]) :
    ∃ first second : Part whole, parts = [first, second] ∧ first.raw = a ∧ second.raw = b := by
  obtain ⟨first, rest, rfl, hfirst, hrest⟩ := List.map_eq_cons_iff.mp h
  obtain ⟨second, rfl, hsecond⟩ := List.map_eq_singleton_iff.mp hrest
  exact ⟨first, second, rfl, hfirst, hsecond⟩

theorem exists_of_map_raw_triple {whole : Raw} {parts : List (Part whole)} {a b c : Raw}
    (h : parts.map Part.raw = [a, b, c]) :
    ∃ first second third : Part whole, parts = [first, second, third] ∧ first.raw = a ∧
      second.raw = b ∧ third.raw = c := by
  obtain ⟨first, rest, rfl, hfirst, hrest⟩ := List.map_eq_cons_iff.mp h
  obtain ⟨second, third, rfl, hsecond, hthird⟩ := exists_of_map_raw_pair hrest
  exact ⟨first, second, third, rfl, hfirst, hsecond, hthird⟩

theorem itemsRaw_eq_map (items : List Json) : itemsRaw items = items.map raw := by
  induction items with
  | nil => rfl
  | cons item items ih => simp [itemsRaw, ih]

theorem items?_array {α : Type} {store : α → Json} {read : Raw → Option α} {xs : List α}
    (h : ∀ x ∈ xs, read (store x).raw = some x) :
    ∃ parts : List (Part (array (itemsRaw (xs.map store)))),
      (array (itemsRaw (xs.map store))).items? = some parts ∧
        (parts.mapM fun part => read part.raw) = some xs := by
  refine ⟨_, rfl, ?_⟩
  have hread : (itemsRaw (xs.map store)).mapM read = some xs := by
    rw [itemsRaw_eq_map, List.map_map, List.mapM_map]
    simpa [Function.comp_def] using mapM_eq_some_map (g := id) h
  have hraws : (itemsRaw (xs.map store)).attach.map Subtype.val = itemsRaw (xs.map store) :=
    List.attach_map_subtype_val _
  rw [← hread, ← hraws]
  simp [Function.comp_def]

theorem membersRaw_eq_map (members : List (String × Json)) :
    membersRaw members = members.map fun member => (some member.1, member.2.raw) := by
  induction members with
  | nil => rfl
  | cons member members ih => simp [membersRaw, ih]

/-- Under distinct names every name is found once. -/
theorem unique?_eq_some {whole : Raw} {parts : List (String × Part whole)}
    (h : (parts.map Prod.fst).Nodup) {part : String × Part whole} (hpart : part ∈ parts) :
    unique? parts part.1 = some (some part.2) := by
  have honly : parts.filter (·.1 = part.1) = [part] := by
    induction parts with
    | nil => simp at hpart
    | cons first parts ih =>
      rw [List.map_cons, List.nodup_cons] at h
      rcases List.mem_cons.mp hpart with rfl | hpart
      · have hrest : parts.filter (·.1 = part.1) = [] := by
          simp only [List.filter_eq_nil_iff, decide_eq_true_eq]
          exact fun other hother heq => h.1 (heq ▸ List.mem_map_of_mem hother)
        simp [hrest]
      · have hne : first.1 ≠ part.1 := fun heq => h.1 (heq ▸ List.mem_map_of_mem hpart)
        simp [hne, ih h.2 hpart]
  simp [unique?, honly]

theorem mapM_unique? {whole : Raw} {parts asked : List (String × Part whole)}
    (h : (parts.map Prod.fst).Nodup) (hasked : ∀ part ∈ asked, part ∈ parts) :
    (asked.map Prod.fst).mapM (unique? parts) = some (asked.map fun part => some part.2) := by
  rw [List.mapM_map]
  exact mapM_eq_some_map fun part hpart => unique?_eq_some h (hasked part hpart)

theorem members?_object (members : List (String × Json)) :
    ∃ parts : List (String × Part (object (membersRaw members))),
      (object (membersRaw members)).members? = some parts ∧
        parts.map Prod.fst = members.map Prod.fst ∧
          parts.map (·.2.raw) = members.map (·.2.raw) := by
  have hnamed : ∀ member ∈ (membersRaw members).attach,
      (member.1.1.map fun name => (name, (⟨member.1.2, sizeOf_lt_of_mem_members member.2⟩ :
        Part (object (membersRaw members))))) =
      some (member.1.1.getD "", ⟨member.1.2, sizeOf_lt_of_mem_members member.2⟩) := by
    rintro ⟨member, hmember⟩ -
    have hsome : ∃ name value, (name, value) ∈ members ∧ (some name, value.raw) = member := by
      simpa [membersRaw_eq_map] using hmember
    obtain ⟨name, value, -, rfl⟩ := hsome
    rfl
  refine ⟨_, mapM_eq_some_map hnamed, ?_, ?_⟩
  · have hnames : (membersRaw members).attach.map (fun member => member.1.1.getD "") =
        (membersRaw members).map (·.1.getD "") :=
      List.attach_map_val (f := fun member : Option String × Raw => member.1.getD "")
    simp [Function.comp_def, hnames, membersRaw_eq_map]
  · have hraws : (membersRaw members).attach.map (fun member => member.1.2) =
        (membersRaw members).map Prod.snd := List.attach_map_val (f := Prod.snd)
    simp [Function.comp_def, hraws, membersRaw_eq_map]

theorem fields?_object (members : List (String × Json)) (h : (members.map Prod.fst).Nodup) :
    ∃ parts : List (Part (object (membersRaw members))),
      (object (membersRaw members)).fields? (members.map Prod.fst) = some (parts.map some) ∧
        parts.map Part.raw = members.map (·.2.raw) := by
  obtain ⟨parts, hparts, hnames, hraws⟩ := members?_object members
  refine ⟨parts.map Prod.snd, ?_, by simpa [Function.comp_def] using hraws⟩
  rw [← hnames] at h ⊢
  simp [fields?, hparts, mapM_unique? h fun _ => id]

end Raw

end Json

end WikiRows
