import WikiRows.Proofs.Agreement
import WikiRows.Proofs.Collisions

/-!
# Clauses as a record of writes

Clauses are built by writes: a value under a name, a sort clause, a selection. The values keep the
order in which their names were first written and the texts that were last written for them, and the
last sort clause and the last selection stay. `Clauses.ofWrites_eq_last` says so of every view of the
clauses that one kind of write sets and the others leave alone.
-/

namespace WikiRows

inductive Write where
  | value (name text : String)
  | sort (key : Option String) (ascending : Bool)
  | selection (properties : Option (List String)) (projection : Projection)
  deriving Repr

namespace Write

def apply (c : Clauses) : Write → Clauses
  | value name text => c.withValue name text
  | sort key ascending => c.withSort key ascending
  | selection properties projection => c.withSelection properties projection

def name? : Write → Option String
  | value name _ => some name
  | _ => none

def text? (name : String) : Write → Option String
  | value n text => if n = name then some text else none
  | _ => none

def sorting? : Write → Option (Option String × Option Bool)
  | sort key ascending => some (key, some ascending)
  | _ => none

def selection? : Write → Option (Option (List String) × Option Projection)
  | selection properties projection => some (properties, some projection)
  | _ => none

end Write

namespace Clauses

def ofWrites (ws : List Write) : Clauses := ws.foldl Write.apply .empty

theorem ofWrites_concat (ws : List Write) (w : Write) :
    ofWrites (ws ++ [w]) = w.apply (ofWrites ws) := by
  rw [ofWrites, List.foldl_append]
  rfl

variable {name text : String} {values : List (String × String)}

theorem lookup_setValue (n : String) :
    (setValue name text values).lookup n = if name = n then some text else values.lookup n := by
  induction values with
  | nil => rw [setValue, Keyed.lookup_cons]
  | cons w values ih =>
    rw [setValue]
    by_cases hw : w.1 = name
    · rw [if_pos hw, Keyed.lookup_cons, Keyed.lookup_cons, hw]
      split_ifs <;> rfl
    · rw [if_neg hw, Keyed.lookup_cons, Keyed.lookup_cons, ih]
      by_cases hn : name = n
      · simp [hn, hn ▸ hw]
      · simp [hn]

/-- A view of clauses that a write sets or leaves as it is shows what the last write that sets it
has set. -/
theorem ofWrites_eq_last {β : Type} (view : Clauses → β) (sets? : Write → Option β)
    (step : ∀ (w : Write) (c : Clauses), view (w.apply c) = (sets? w).getD (view c))
    (ws : List Write) :
    view (ofWrites ws) = (ws.filterMap sets?).getLast?.getD (view .empty) := by
  induction ws using List.reverseRecOn with
  | nil => rfl
  | append_singleton ws w ih =>
    rw [ofWrites_concat, step, ih, List.filterMap_append, List.getLast?_append]
    cases hw : sets? w with
    | none => simp [hw]
    | some b => simp [hw]

theorem value?_apply (w : Write) (c : Clauses) (n : String) :
    (w.apply c).value? n = ((w.text? n).map some).getD (c.value? n) := by
  cases w with
  | value name text =>
    change (setValue name text c.values).lookup n = _
    rw [lookup_setValue, Write.text?]
    split_ifs <;> rfl
  | sort | selection => rfl

theorem value?_ofWrites (ws : List Write) (n : String) :
    (ofWrites ws).value? n = (ws.filterMap (Write.text? n)).getLast? := by
  have hlast := ofWrites_eq_last (·.value? n) (fun w => (w.text? n).map some)
    (fun w c => value?_apply w c n) ws
  have hsome : ws.filterMap (fun w => (w.text? n).map some) =
      (ws.filterMap (Write.text? n)).map some := (List.map_filterMap ..).symm
  rw [hsome, List.getLast?_map] at hlast
  rw [hlast]
  cases (ws.filterMap (Write.text? n)).getLast? <;> rfl

theorem sorting_ofWrites (ws : List Write) :
    (ofWrites ws).sorting = (ws.filterMap Write.sorting?).getLast?.getD (none, none) := by
  refine ofWrites_eq_last sorting Write.sorting? (fun w c => ?_) ws
  cases w <;> rfl

theorem selection_ofWrites (ws : List Write) :
    (ofWrites ws).selection = (ws.filterMap Write.selection?).getLast?.getD (none, none) := by
  refine ofWrites_eq_last selection Write.selection? (fun w c => ?_) ws
  cases w <;> rfl

/-- A write adds its name at the end, unless it is there. -/
theorem valueNames_apply (w : Write) (c : Clauses) :
    (w.apply c).valueNames = c.valueNames ++ w.name?.toList.filter (· ∉ c.valueNames) := by
  cases w with
  | value name text =>
    have hnames : (c.withValue name text).valueNames =
        if name ∈ c.valueNames then c.valueNames else c.valueNames ++ [name] := names_setValue
    rw [Write.apply, hnames, Write.name?, Option.toList_some, List.filter_singleton]
    split_ifs with h <;> simp [h]
  | sort | selection => exact (List.append_nil _).symm

/-- The names that writes set values of, as often as they do. -/
def writtenNames (ws : List Write) : List String := ws.filterMap Write.name?

theorem writtenNames_concat (ws : List Write) (w : Write) :
    writtenNames (ws ++ [w]) = writtenNames ws ++ w.name?.toList := by
  rw [writtenNames, List.filterMap_append, ← writtenNames]
  cases w <;> rfl

theorem mem_valueNames_ofWrites {ws : List Write} {name : String} :
    name ∈ (ofWrites ws).valueNames ↔ name ∈ writtenNames ws := by
  induction ws using List.reverseRecOn with
  | nil => rfl
  | append_singleton ws w ih =>
    rw [ofWrites_concat, valueNames_apply, writtenNames_concat, List.mem_append, List.mem_append,
      List.mem_filter, ← ih]
    by_cases hname : name ∈ (ofWrites ws).valueNames <;> simp [hname]

/-- The names of the values stand in the order in which they were first written. -/
theorem pairwise_valueNames_ofWrites (ws : List Write) :
    (ofWrites ws).valueNames.Pairwise
      fun a b => (writtenNames ws).idxOf a < (writtenNames ws).idxOf b := by
  induction ws using List.reverseRecOn with
  | nil => exact .nil
  | append_singleton ws w ih =>
    rw [ofWrites_concat, valueNames_apply, writtenNames_concat, List.pairwise_append]
    -- What comes behind the names that are written already does not change where they begin.
    have hold : ∀ a ∈ (ofWrites ws).valueNames,
        (writtenNames ws ++ w.name?.toList).idxOf a = (writtenNames ws).idxOf a :=
      fun a ha => List.idxOf_append_of_mem (mem_valueNames_ofWrites.mp ha)
    refine ⟨?_, ?_, ?_⟩
    · refine ih.imp_of_mem fun ha hb hab => ?_
      rwa [hold _ ha, hold _ hb]
    · refine List.Pairwise.filter _ ?_
      cases w.name? <;> simp
    · intro a ha b hb
      obtain ⟨hb, hnew⟩ := List.mem_filter.mp hb
      have hb' : b ∉ writtenNames ws := by
        rw [← mem_valueNames_ofWrites]
        simpa using hnew
      rw [hold a ha, List.idxOf_append_of_notMem hb']
      exact (List.idxOf_lt_length_of_mem (mem_valueNames_ofWrites.mp ha)).trans_le
        (Nat.le_add_right _ _)

/-- Clauses that are built by writes hold a value for each name that was written, once and with the
text that was last written for it, in the order in which the names were first written. They hold the
last sort clause and the last selection, or none if none was written. -/
theorem ofWrites_first_place_last_text (ws : List Write) :
    (ofWrites ws).valueNames.Nodup ∧
    (∀ name, name ∈ (ofWrites ws).valueNames ↔ name ∈ writtenNames ws) ∧
    ((ofWrites ws).valueNames.Pairwise
      fun a b => (writtenNames ws).idxOf a < (writtenNames ws).idxOf b) ∧
    (∀ name text, (name, text) ∈ (ofWrites ws).values ↔
      (ws.filterMap (Write.text? name)).getLast? = some text) ∧
    (∀ name, (ofWrites ws).value? name = (ws.filterMap (Write.text? name)).getLast? ∧
      ((ofWrites ws).value? name = none ↔ name ∉ writtenNames ws)) ∧
    (ofWrites ws).sorting = (ws.filterMap Write.sorting?).getLast?.getD (none, none) ∧
    (ofWrites ws).selection = (ws.filterMap Write.selection?).getLast?.getD (none, none) := by
  have horder := pairwise_valueNames_ofWrites ws
  have hnodup : (ofWrites ws).valueNames.Nodup := horder.imp fun {a b} hab heq => by
    rw [heq] at hab
    exact lt_irrefl _ hab
  refine ⟨hnodup, fun _ => mem_valueNames_ofWrites, horder, ?_, ?_, sorting_ofWrites ws,
    selection_ofWrites ws⟩
  · intro name text
    rw [← value?_ofWrites]
    exact (Keyed.lookup_eq_some_iff_mem hnodup).symm
  · intro name
    rw [← mem_valueNames_ofWrites]
    exact ⟨value?_ofWrites ws name, Keyed.lookup_eq_none_iff_notMem⟩

example :
    (ofWrites [.value "ns" "0", .value "title" "A", .sort none true, .value "ns" "14"]).values =
      [("ns", "14"), ("title", "A")] := rfl

end Clauses

end WikiRows
