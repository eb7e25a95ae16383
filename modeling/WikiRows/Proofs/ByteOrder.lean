import Mathlib
import WikiRows.Text.Utf8

/-!
# The order of bytes

Texts are put in order by their characters. Their bytes in UTF-8 are in the same order, as a
character never begins with the bytes of another and a later one has the greater bytes.
-/

namespace WikiRows.Text.Utf8

theorem ofNat_cons_lt_cons_iff {a b : Nat} (ha : a < 256) (hb : b < 256) {x y : List UInt8} :
    UInt8.ofNat a :: x < UInt8.ofNat b :: y ↔ a < b ∨ a = b ∧ x < y := by
  have hlt : UInt8.ofNat a < UInt8.ofNat b ↔ a < b := by
    rw [UInt8.lt_iff_toNat_lt, UInt8.toNat_ofNat_of_lt' ha, UInt8.toNat_ofNat_of_lt' hb]
  have heq : UInt8.ofNat a = UInt8.ofNat b ↔ a = b := by
    rw [← UInt8.toNat_inj, UInt8.toNat_ofNat_of_lt' ha, UInt8.toNat_ofNat_of_lt' hb]
  rw [List.cons_lt_cons_iff, hlt, heq]

theorem utf8EncodeChar_append_lt {c d : Char} (h : c < d) (x y : List UInt8) :
    String.utf8EncodeChar c ++ x < String.utf8EncodeChar d ++ y := by
  have hlt : c.toNat < d.toNat := UInt32.lt_iff_toNat_lt.mp h
  have hvalid : d.toNat < 0xd800 ∨ 0xdfff < d.toNat ∧ d.toNat < 0x110000 := d.valid
  have hdigits (n : Nat) (hn : n < 0x110000) :
      n / 64 / 64 = n / 4096 ∧ n / 4096 / 64 = n / 262144 ∧ n / 262144 % 8 = n / 262144 :=
    ⟨Nat.div_div_eq_div_mul .., Nat.div_div_eq_div_mul .., Nat.mod_eq_of_lt (by omega)⟩
  unfold String.utf8EncodeChar
  dsimp only
  rw [show c.val.toNat = c.toNat from rfl, show d.val.toNat = d.toNat from rfl]
  generalize c.toNat = a at hlt
  generalize d.toNat = b at hlt hvalid
  have ha := hdigits a (by omega)
  have hb := hdigits b (by omega)
  -- Where the two are of one length, the first bytes to differ are those of the first digits to
  -- differ; else the greater length has the greater first byte.
  split_ifs <;>
    simp (disch := omega) only [List.cons_append, List.nil_append, ofNat_cons_lt_cons_iff] <;>
    omega

theorem encode_lt_encode {s t : List Char} (h : s < t) : encode s < encode t := by
  induction s generalizing t with
  | nil =>
    cases t with
    | nil => cases h
    | cons d t =>
      obtain ⟨b, bytes, hb⟩ := List.exists_cons_of_ne_nil String.utf8EncodeChar_ne_nil
      rw [encode, List.flatMap_nil, encode, List.flatMap_cons, hb]
      exact .nil
  | cons c s ih =>
    cases t with
    | nil => cases h
    | cons d t =>
      rw [encode, encode, List.flatMap_cons, List.flatMap_cons]
      rcases List.cons_lt_cons_iff.mp h with hlt | ⟨rfl, hlt⟩
      · exact utf8EncodeChar_append_lt hlt _ _
      · exact List.append_left_lt (ih hlt)

theorem encode_lt_encode_iff {s t : List Char} : encode s < encode t ↔ s < t := by
  refine ⟨fun h => ?_, encode_lt_encode⟩
  rcases lt_trichotomy s t with hlt | rfl | hgt
  · exact hlt
  · exact absurd h (List.lt_irrefl _)
  · exact absurd h (List.lt_asymm (encode_lt_encode hgt))

/-- Texts are in the order of their bytes. -/
theorem encode_toList_lt_iff {s t : String} : encode s.toList < encode t.toList ↔ s < t := by
  rw [encode_lt_encode_iff, String.lt_iff_toList_lt]

theorem encode_toList_le_iff {s t : String} : encode s.toList ≤ encode t.toList ↔ s ≤ t := by
  rw [← List.not_lt, encode_toList_lt_iff, not_lt]

end WikiRows.Text.Utf8
