import Mathlib

/-!
# Texts joined by bars

Several texts become one by bars between them. The pieces of the joined text, which are what a reader
of it sees, are those of the texts one after the other. A bar within a text cuts it like any other,
and no text at all looks like an empty one.
-/

namespace WikiRows.Text

/-- What stands between the bars of a text. -/
def pieces (s : String) : List String := (s.split '|').toList.map (·.copy)

theorem pieces_eq_splitOn (s : String) :
    pieces s = (s.toList.splitOn '|').map String.ofList := String.toList_split_char

theorem pieces_of_notMem {s : String} (h : '|' ∉ s.toList) : pieces s = [s] := by
  rw [pieces_eq_splitOn, List.splitOn_eq_singleton h, List.map_singleton, String.ofList_toList]

theorem pieces_append_bar (s t : String) : pieces (s ++ "|" ++ t) = pieces s ++ pieces t := by
  have hlist : (s ++ "|" ++ t).toList = s.toList ++ '|' :: t.toList := by simp
  simp only [pieces_eq_splitOn, hlist, List.splitOn_append_cons_self, List.map_append]

def joinedPieces (texts : List String) : List String :=
  if texts = [] then [""] else texts.flatMap pieces

theorem pieces_intercalate (texts : List String) :
    pieces ("|".intercalate texts) = joinedPieces texts := by
  induction texts with
  | nil => exact pieces_of_notMem (by simp)
  | cons text texts ih =>
    cases texts with
    | nil => simp [joinedPieces]
    | cons next texts =>
      rw [String.intercalate_cons_cons, pieces_append_bar, ih]
      simp [joinedPieces]

theorem intercalate_pieces (s : String) : "|".intercalate (pieces s) = s := by
  have hid : String.toList ∘ String.ofList = id := funext fun _ => String.toList_ofList
  rw [← String.toList_inj, String.toList_intercalate, pieces_eq_splitOn, List.map_map, hid,
    List.map_id]
  exact List.intercalate_splitOn '|'

theorem intercalate_eq_intercalate_iff {texts others : List String} :
    "|".intercalate texts = "|".intercalate others ↔
      joinedPieces texts = joinedPieces others := by
  rw [← pieces_intercalate, ← pieces_intercalate]
  refine ⟨congrArg pieces, fun h => ?_⟩
  rw [← intercalate_pieces ("|".intercalate texts), h, intercalate_pieces]

/-- Texts without bars can be told apart, if there are any. -/
theorem joinedPieces_of_notMem {texts : List String} (hne : texts ≠ [])
    (h : ∀ text ∈ texts, '|' ∉ text.toList) : joinedPieces texts = texts := by
  rw [joinedPieces, if_neg hne]
  have hsingle : ∀ text ∈ texts, pieces text = [text] := fun text ht => pieces_of_notMem (h text ht)
  rw [List.flatMap_congr hsingle, List.flatMap_singleton']

end WikiRows.Text
