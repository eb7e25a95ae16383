import Mathlib
import WikiRows.Http.Form

/-!
# Reading what a form carries

Bytes of a text are read as that text, escapes are undone by resolving them, and the signs that
separate names, values and fields occur in no escaped text. So fields are read as they were written,
whatever characters they hold.
-/

namespace WikiRows

namespace Text.Utf8

theorem step_of_more {p : Partial} {b : Nat} (hb : p.least ≤ b ∧ b ≤ p.greatest)
    (hm : 1 < p.missing) :
    step (some p) b = ([], some ⟨64 * p.bits + (b - 0x80), p.missing - 1, 0x80, 0xbf⟩) := by
  have hmissing : ¬ p.missing ≤ 1 := by omega
  simp [step, hb, hmissing]

theorem step_of_last {p : Partial} {b : Nat} (hb : p.least ≤ b ∧ b ≤ p.greatest)
    (hm : p.missing ≤ 1) :
    step (some p) b = ([some (Char.ofNat (64 * p.bits + (b - 0x80)))], none) := by
  simp [step, hb, hm]

theorem start_two {n : Nat} (h : 0x7f < n ∧ n ≤ 0x7ff) :
    start (n / 64 % 32 + 192) = ([], some ⟨n / 64, 1, 0x80, 0xbf⟩) := by
  have hbyte : Partial.ofByte? (n / 64 % 32 + 192) = some ⟨n / 64, 1, 0x80, 0xbf⟩ := by
    unfold Partial.ofByte?
    have hbits : n / 64 % 32 + 192 - 0xc0 = n / 64 := by omega
    rw [if_neg (by omega), if_neg (by omega), if_pos (by omega), hbits]
  simp [start, hbyte]

theorem start_three {n : Nat} (h : 0x7ff < n ∧ n ≤ 0xffff) (hs : n < 0xd800 ∨ 0xdfff < n) :
    ∃ least greatest, start (n / 4096 % 16 + 224) = ([], some ⟨n / 4096, 2, least, greatest⟩) ∧
      least ≤ n / 64 % 64 + 128 ∧ n / 64 % 64 + 128 ≤ greatest := by
  have hbyte : ∃ least greatest,
      Partial.ofByte? (n / 4096 % 16 + 224) = some ⟨n / 4096, 2, least, greatest⟩ ∧
      least ≤ n / 64 % 64 + 128 ∧ n / 64 % 64 + 128 ≤ greatest := by
    unfold Partial.ofByte?
    rw [if_neg (by omega), if_neg (by omega), if_neg (by omega)]
    split_ifs with hlow hsurrogate hother
    · have hbits : n / 4096 = 0 := by omega
      exact ⟨_, _, by rw [hbits], by omega, by omega⟩
    · have hbits : n / 4096 = 0xd := by omega
      exact ⟨_, _, by rw [hbits], by omega, by omega⟩
    · have hbits : n / 4096 % 16 + 224 - 0xe0 = n / 4096 := by omega
      exact ⟨_, _, by rw [hbits], by omega, by omega⟩
    all_goals omega
  obtain ⟨least, greatest, hbyte, hbounds⟩ := hbyte
  exact ⟨least, greatest, by simp [start, hbyte], hbounds⟩

theorem start_four {n : Nat} (h : 0xffff < n ∧ n < 0x110000) :
    ∃ least greatest, start (n / 262144 % 8 + 240) = ([], some ⟨n / 262144, 3, least, greatest⟩) ∧
      least ≤ n / 4096 % 64 + 128 ∧ n / 4096 % 64 + 128 ≤ greatest := by
  have hbyte : ∃ least greatest,
      Partial.ofByte? (n / 262144 % 8 + 240) = some ⟨n / 262144, 3, least, greatest⟩ ∧
      least ≤ n / 4096 % 64 + 128 ∧ n / 4096 % 64 + 128 ≤ greatest := by
    unfold Partial.ofByte?
    rw [if_neg (by omega), if_neg (by omega), if_neg (by omega), if_neg (by omega),
      if_neg (by omega), if_neg (by omega)]
    split_ifs with hlow hother hhigh
    · have hbits : n / 262144 = 0 := by omega
      exact ⟨_, _, by rw [hbits], by omega, by omega⟩
    · have hbits : n / 262144 % 8 + 240 - 0xf0 = n / 262144 := by omega
      exact ⟨_, _, by rw [hbits], by omega, by omega⟩
    · have hbits : n / 262144 = 4 := by omega
      exact ⟨_, _, by rw [hbits], by omega, by omega⟩
    all_goals omega
  obtain ⟨least, greatest, hbyte, hbounds⟩ := hbyte
  exact ⟨least, greatest, by simp [start, hbyte], hbounds⟩

theorem outputs_cons (begun : Option Partial) {n : Nat} (hn : n < 256) (rest : List UInt8) :
    decoder.outputs begun (UInt8.ofNat n :: rest) =
      (step begun n).1 ++ decoder.outputs (step begun n).2 rest := by
  have hbyte : (UInt8.ofNat n).toNat = n := by simp [Nat.mod_eq_of_lt hn]
  simp only [Transducer.outputs, decoder, hbyte]

theorem outputs_utf8EncodeChar (c : Char) (rest : List UInt8) :
    decoder.outputs none (String.utf8EncodeChar c ++ rest) =
      some c :: decoder.outputs none rest := by
  have hvalid : c.toNat < 0xd800 ∨ 0xdfff < c.toNat ∧ c.toNat < 0x110000 := c.valid
  have hchar : Char.ofNat c.toNat = c := Char.ofNat_toNat c
  have hval : c.val.toNat = c.toNat := rfl
  unfold String.utf8EncodeChar
  dsimp only
  rw [hval]
  generalize c.toNat = n at hvalid hchar
  split_ifs with h1 h2 h3
  · have hbyte : Partial.ofByte? n = some ⟨n, 0, 0, 0⟩ := by
      unfold Partial.ofByte?
      rw [if_pos (by omega)]
    have hstep : step none n = ([some c], none) := by simp [step, start, hbyte, hchar]
    rw [List.singleton_append, outputs_cons _ (by omega), hstep]
    rfl
  · have hfirst : step none (n / 64 % 32 + 192) = _ := start_two ⟨by omega, h2⟩
    have hlast : 64 * (n / 64) + (n % 64 + 128 - 0x80) = n := by omega
    rw [List.cons_append, List.singleton_append, outputs_cons _ (by omega), hfirst,
      List.nil_append, outputs_cons _ (by omega), step_of_last ⟨by simp, by simp; omega⟩ (by simp)]
    dsimp only
    rw [hlast, hchar]
    rfl
  · obtain ⟨least, greatest, hfirst, hleast, hgreatest⟩ :=
      start_three (n := n) ⟨by omega, h3⟩ (by omega)
    have hlast :
        64 * (64 * (n / 4096) + (n / 64 % 64 + 128 - 0x80)) + (n % 64 + 128 - 0x80) = n := by
      omega
    have hfirst : step none (n / 4096 % 16 + 224) = _ := hfirst
    rw [List.cons_append, List.cons_append, List.singleton_append, outputs_cons _ (by omega),
      hfirst, List.nil_append, outputs_cons _ (by omega),
      step_of_more ⟨hleast, hgreatest⟩ (by simp), List.nil_append, outputs_cons _ (by omega), step_of_last ⟨by simp, by simp; omega⟩ (by simp)]
    dsimp only
    rw [hlast, hchar]
    rfl
  · obtain ⟨least, greatest, hfirst, hleast, hgreatest⟩ := start_four (n := n) (by omega)
    have hlast : 64 * (64 * (64 * (n / 262144) + (n / 4096 % 64 + 128 - 0x80)) +
        (n / 64 % 64 + 128 - 0x80)) + (n % 64 + 128 - 0x80) = n := by omega
    have hfirst : step none (n / 262144 % 8 + 240) = _ := hfirst
    rw [List.cons_append, List.cons_append, List.cons_append, List.singleton_append,
      outputs_cons _ (by omega), hfirst, List.nil_append, outputs_cons _ (by omega),
      step_of_more ⟨hleast, hgreatest⟩ (by simp), List.nil_append, outputs_cons _ (by omega),
      step_of_more ⟨by simp, by simp; omega⟩ (by simp), List.nil_append, outputs_cons _ (by omega),
      step_of_last ⟨by simp, by simp; omega⟩ (by simp)]
    dsimp only
    rw [hlast, hchar]
    rfl

theorem decode_encode (s : List Char) : decode (encode s) = s.map some := by
  rw [decode, Transducer.run_eq]
  induction s with
  | nil => rfl
  | cons c s ih =>
    rw [encode, List.flatMap_cons, outputs_utf8EncodeChar, ← encode, ih, List.map_cons]

theorem decodeLossy_encode (s : List Char) : decodeLossy (encode s) = s := by
  rw [decodeLossy, decode_encode, List.map_map]
  exact List.map_id s

theorem decode?_encode (s : List Char) : decode? (encode s) = some s := by
  rw [decode?, decode_encode]
  induction s with
  | nil => rfl
  | cons c s ih => simp [List.mapM_cons, ih]

end Text.Utf8

namespace Url.Percent

theorem value?_digit {n : Nat} (h : n < 16) : value? (digit n) = some n := by
  interval_cases n <;> rfl

theorem isAlphanum_digit {n : Nat} (h : n < 16) : (digit n).isAlphanum := by
  interval_cases n <;> rfl

theorem decode_encodeByte (b : UInt8) (rest : List Char) :
    decode (encodeByte b ++ rest) = b :: decode rest := by
  have hb : b.toNat < 256 := b.toNat_lt
  have hbyte : UInt8.ofNat (16 * (b.toNat / 16) + b.toNat % 16) = b := by
    rw [Nat.div_add_mod]
    exact UInt8.ofNat_toNat
  have hhigh := value?_digit (n := b.toNat / 16) (by omega)
  have hlow := value?_digit (n := b.toNat % 16) (by omega)
  simp [encodeByte, decode, hhigh, hlow, hbyte]

theorem decode_encodeBytes (bytes : List UInt8) (rest : List Char) :
    decode (bytes.flatMap encodeByte ++ rest) = bytes ++ decode rest := by
  induction bytes with
  | nil => rfl
  | cons b bytes ih =>
    rw [List.flatMap_cons, List.append_assoc, decode_encodeByte, ih, List.cons_append]

theorem decode_cons_of_ne {c : Char} (h : c ≠ '%') (rest : List Char) :
    decode (c :: rest) = String.utf8EncodeChar c ++ decode rest := by
  rw [decode]
  intro high low tail hc
  exact absurd hc h

end Url.Percent

namespace Http.Form

open Url (Percent.encodeByte Percent.encodeChar Percent.decode)

/-- What a form reads in place of a character before it resolves escapes. -/
def spaced (c : Char) : Char := if c = '+' then ' ' else c

theorem spaced_of_ne {c : Char} (h : c ≠ '+') : spaced c = c := if_neg h

theorem map_spaced_encodeByte (b : UInt8) :
    (Percent.encodeByte b).map spaced = Percent.encodeByte b := by
  have hb : b.toNat < 256 := b.toNat_lt
  have hne : ∀ n < 16, Url.Percent.digit n ≠ '+' := by
    intro n hn hplus
    have halnum := Url.Percent.isAlphanum_digit hn
    rw [hplus] at halnum
    exact absurd halnum (by decide)
  have hhigh := spaced_of_ne (hne (b.toNat / 16) (by omega))
  have hlow := spaced_of_ne (hne (b.toNat % 16) (by omega))
  have hpercent : spaced '%' = '%' := rfl
  simp only [Percent.encodeByte, List.map_cons, List.map_nil, hhigh, hlow, hpercent]

theorem map_spaced_encodeChar (c : Char) :
    (Percent.encodeChar c).map spaced = Percent.encodeChar c := by
  simp only [Percent.encodeChar, List.map_flatMap, map_spaced_encodeByte]

theorem decode_escapeChar (c : Char) (rest : List Char) :
    Percent.decode ((escapeChar c).map spaced ++ rest) =
      String.utf8EncodeChar c ++ Percent.decode rest := by
  unfold escapeChar
  split_ifs with hplain hspace
  · have hplus : c ≠ '+' := by
      rintro rfl
      exact absurd hplain (by decide)
    have hpercent : c ≠ '%' := by
      rintro rfl
      exact absurd hplain (by decide)
    rw [List.map_singleton, spaced_of_ne hplus, List.singleton_append,
      Url.Percent.decode_cons_of_ne hpercent]
  · subst hspace
    exact Url.Percent.decode_cons_of_ne (by decide) rest
  · rw [map_spaced_encodeChar, Percent.encodeChar, Url.Percent.decode_encodeBytes]

theorem unescape_escape (text : String) : unescape (escape text) = text := by
  have hbytes : ∀ s : List Char,
      Percent.decode ((s.flatMap escapeChar).map spaced) = Text.Utf8.encode s := by
    intro s
    induction s with
    | nil => rfl
    | cons c s ih =>
      rw [List.flatMap_cons, List.map_append, decode_escapeChar, ih]
      rfl
  have hspaced : unescape (escape text) = String.ofList
      (Text.Utf8.decodeLossy (Percent.decode ((text.toList.flatMap escapeChar).map spaced))) := rfl
  rw [hspaced, hbytes, Text.Utf8.decodeLossy_encode, String.ofList_toList]

/-- The signs between names, values and fields are none of the characters of an escaped text. -/
theorem notMem_escape {d : Char} (hd : d = '&' ∨ d = '=') (text : String) : d ∉ escape text := by
  have hplain : isPlain d = false := by rcases hd with rfl | rfl <;> decide
  have halnum : d.isAlphanum = false := by rcases hd with rfl | rfl <;> decide
  intro hmem
  obtain ⟨c, -, hc⟩ := List.mem_flatMap.mp hmem
  unfold escapeChar at hc
  split_ifs at hc with hcplain hspace
  · obtain rfl := List.mem_singleton.mp hc
    rw [hcplain] at hplain
    exact absurd hplain (by decide)
  · obtain rfl := List.mem_singleton.mp hc
    revert hd
    decide
  · obtain ⟨b, -, hb⟩ := List.mem_flatMap.mp hc
    have hbyte : b.toNat < 256 := b.toNat_lt
    simp only [Percent.encodeByte, List.mem_cons, List.not_mem_nil, or_false] at hb
    rcases hb with rfl | rfl | rfl
    · revert hd
      decide
    · rw [Url.Percent.isAlphanum_digit (by omega)] at halnum
      exact absurd halnum (by decide)
    · rw [Url.Percent.isAlphanum_digit (by omega)] at halnum
      exact absurd halnum (by decide)

theorem splitAll_append {separator : Char} {part : List Char} (h : separator ∉ part)
    (rest : List Char) :
    splitAll separator (part ++ separator :: rest) = part :: splitAll separator rest := by
  induction part with
  | nil => simp [splitAll]
  | cons c part ih =>
    rw [List.mem_cons, not_or] at h
    rw [List.cons_append, splitAll, if_neg (Ne.symm h.1), ih h.2]

theorem splitAll_of_notMem {separator : Char} {part : List Char} (h : separator ∉ part) :
    splitAll separator part = [part] := by
  induction part with
  | nil => rfl
  | cons c part ih =>
    rw [List.mem_cons, not_or] at h
    rw [splitAll, if_neg (Ne.symm h.1), ih h.2]

/-- What stands in front of a sign that it does not hold ends at that sign. -/
theorem span_append_of_notMem {separator : Char} {part : List Char} (h : separator ∉ part)
    (rest : List Char) :
    (part ++ separator :: rest).span (· ≠ separator) = (part, separator :: rest) := by
  have hpart : ∀ c ∈ part, decide (c ≠ separator) = true := by
    intro c hc
    rw [decide_eq_true_eq]
    rintro rfl
    exact h hc
  rw [List.span_eq_takeWhile_dropWhile, List.takeWhile_append_of_pos hpart,
    List.dropWhile_append_of_pos hpart]
  simp

theorem readField_fieldChars (field : Field) : readField (fieldChars field) = field := by
  rw [readField, fieldChars, span_append_of_notMem (notMem_escape (.inr rfl) field.1)]
  simp [unescape_escape]

theorem notMem_fieldChars (field : Field) : '&' ∉ fieldChars field := by
  have hname := notMem_escape (.inl rfl) field.1
  have hvalue := notMem_escape (.inl rfl) field.2
  simp [fieldChars, hname, hvalue]

theorem splitAll_chars {fields : List Field} (h : fields ≠ []) :
    splitAll '&' (chars fields) = fields.map fieldChars := by
  fun_induction chars fields with
  | case1 => exact absurd rfl h
  | case2 field => exact splitAll_of_notMem (notMem_fieldChars field)
  | case3 field fields hne ih =>
    have hrest : fields ≠ [] := fun hnil => hne hnil
    rw [splitAll_append (notMem_fieldChars field), ih hrest, List.map_cons]

theorem decode_chars (fields : List Field) : decode (String.ofList (chars fields)) = fields := by
  by_cases hnil : fields = []
  · subst hnil
    rfl
  · have hkept : ∀ part ∈ fields.map fieldChars, (!part.isEmpty) = true := by
      intro part hpart
      obtain ⟨field, -, rfl⟩ := List.mem_map.mp hpart
      simp [fieldChars]
    have hread : readField ∘ fieldChars = id := funext readField_fieldChars
    rw [decode, String.toList_ofList, splitAll_chars hnil, List.filter_eq_self.mpr hkept,
      List.map_map, hread, List.map_id]

def decodeBytes (bytes : List UInt8) : List Field :=
  decode (String.ofList (Text.Utf8.decodeLossy bytes))

theorem decodeBytes_encode (fields : List Field) :
    decodeBytes (Text.Utf8.encode (chars fields)) = fields := by
  rw [decodeBytes, Text.Utf8.decodeLossy_encode, decode_chars]

end Http.Form

end WikiRows
