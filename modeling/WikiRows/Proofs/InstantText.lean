import Mathlib
import WikiRows.Instant.Printer
import WikiRows.Instant.Reader

/-!
# Reading back instants

The reader of instants is lenient and the printer is not: every instant is read back from its text
with the fraction. The parts are read off the front one by one, whatever stands behind them.
-/

namespace WikiRows

namespace Instant

open Text (isBlank trimStart)

/-! ## Padded numbers -/

theorem isDigit_of_mem_padded {width n : Nat} {c : Char} (h : c ∈ padded width n) : c.isDigit := by
  simp only [padded, List.mem_append, List.mem_replicate] at h
  rcases h with ⟨-, rfl⟩ | h
  · decide
  · exact Nat.isDigit_of_mem_toDigits (by decide) (by decide) h

theorem padded_ne_nil (width n : Nat) : padded width n ≠ [] := by
  simp [padded, Nat.toDigits_ne_nil]

theorem length_padded_le {width n : Nat} (hwidth : 0 < width) (hn : n < 10 ^ width) :
    (padded width n).length ≤ width := by
  have hle := (Nat.length_toDigits_le_iff (by decide : 1 < 10) hwidth).mpr hn
  simp only [padded, List.length_append, List.length_replicate]
  omega

theorem le_length_padded (width n : Nat) : width ≤ (padded width n).length := by
  simp only [padded, List.length_append, List.length_replicate]
  omega

theorem digitsValue_padded (width n : Nat) : digitsValue (padded width n) = n := by
  rw [digitsValue, ← Nat.ofDigitChars_eq_foldl, padded, Nat.ofDigitChars_append,
    Nat.ofDigitChars_replicate_zero, Nat.mul_zero, Nat.ofDigitChars_ten_toDigits]

theorem isBlank_of_isDigit {c : Char} (h : c.isDigit) : isBlank c = false := by
  have hc : '0'.toNat ≤ c.toNat ∧ c.toNat ≤ '9'.toNat := by
    simpa [Char.isDigit, UInt32.le_iff_toNat_le] using h
  have hzero : '0'.toNat = 48 := rfl
  have hnine : '9'.toNat = 57 := rfl
  simp [isBlank, Text.blankRanges, Text.Ranges.contains]
  omega

theorem trimStart_cons {c : Char} (h : isBlank c = false) (rest : List Char) :
    trimStart (c :: rest) = c :: rest := by
  simp [trimStart, h]

theorem trimStart_padded (width n : Nat) (rest : List Char) :
    trimStart (padded width n ++ rest) = padded width n ++ rest := by
  obtain ⟨c, s, hcs⟩ := List.exists_cons_of_ne_nil (padded_ne_nil width n)
  have hc : c.isDigit := isDigit_of_mem_padded (hcs ▸ List.mem_cons_self)
  rw [hcs, List.cons_append, trimStart_cons (isBlank_of_isDigit hc)]

/-- The reader takes no more digits than it may, and stops before what is no digit. -/
theorem takeWhile_padded {width n most : Nat} (hmost : (padded width n).length ≤ most)
    {rest : List Char} (hrest : rest.takeWhile Char.isDigit = []) :
    ((padded width n ++ rest).take most).takeWhile Char.isDigit = padded width n := by
  have hnone : (rest.take (most - (padded width n).length)).takeWhile Char.isDigit = [] := by
    rw [← List.take_takeWhile, hrest, List.take_nil]
  rw [List.take_append, List.take_of_length_le hmost,
    List.takeWhile_append_of_pos fun c hc => isDigit_of_mem_padded hc, hnone, List.append_nil]

theorem scanNumber_padded {width n most : Nat} (hmost : (padded width n).length ≤ most)
    {rest : List Char} (hrest : rest.takeWhile Char.isDigit = []) :
    scanNumber most (padded width n ++ rest) = some (n, rest) := by
  have hdigits := takeWhile_padded hmost hrest
  simp [scanNumber, hdigits, padded_ne_nil, digitsValue_padded]

theorem scanPart_padded {n : Nat} (hn : n < 100) {rest : List Char}
    (hrest : rest.takeWhile Char.isDigit = []) :
    scanPart (padded 2 n ++ rest) = some (n, rest) := by
  rw [scanPart, trimStart_padded, scanNumber_padded (length_padded_le (by decide) hn) hrest]

theorem scanMark_cons {c : Char} (h : isBlank c = false) (rest : List Char) :
    scanMark c (c :: rest) = some rest := by
  simp [scanMark, trimStart_cons h, scanChar]

/-! ## Days -/

theorem scanLongNumber_padded (width n : Nat) {rest : List Char}
    (hrest : rest.takeWhile Char.isDigit = []) :
    scanLongNumber (padded width n ++ rest) = some (n, rest) :=
  scanNumber_padded (by simp) hrest

theorem scanYear_yearChars (year : Int) {rest : List Char}
    (hrest : rest.takeWhile Char.isDigit = []) :
    scanYear (Day.yearChars year ++ rest) = some (year, rest) := by
  by_cases hplain : 0 ≤ year ∧ year ≤ 9999
  · have hlength : (padded 4 year.toNat).length ≤ 4 := length_padded_le (by decide) (by omega)
    have hvalue : (year.toNat : Int) = year := by omega
    have hnumber := scanNumber_padded hlength hrest
    rw [Day.yearChars, if_pos hplain, scanYear, trimStart_padded]
    obtain ⟨c, s, hcs⟩ := List.exists_cons_of_ne_nil (padded_ne_nil 4 year.toNat)
    have hc : c.isDigit := isDigit_of_mem_padded (hcs ▸ List.mem_cons_self)
    split
    · simp_all
    · simp_all
    · simp [hnumber, hvalue]
  · by_cases hneg : year < 0
    · have hvalue : -(year.natAbs : Int) = year := by omega
      have hsign : trimStart ('-' :: (padded 4 year.natAbs ++ rest)) = _ :=
        trimStart_cons (by cbv) _
      simp only [Day.yearChars, hplain, hneg, ↓reduceIte, List.cons_append, scanYear, hsign,
        scanLongNumber_padded _ _ hrest, Option.map_some, hvalue]
    · have hvalue : (year.natAbs : Int) = year := by omega
      have hsign : trimStart ('+' :: (padded 4 year.natAbs ++ rest)) = _ :=
        trimStart_cons (by cbv) _
      simp only [Day.yearChars, hplain, hneg, ↓reduceIte, List.cons_append, scanYear, hsign,
        scanLongNumber_padded _ _ hrest, Option.map_some, hvalue]

theorem daysInMonth_le (year : Int) (month : Nat) : daysInMonth year month ≤ 31 := by
  unfold daysInMonth
  split
  · split <;> omega
  all_goals omega

theorem scanDay_chars (d : Day) {rest : List Char} (hrest : rest.takeWhile Char.isDigit = []) :
    scanDay (d.chars ++ rest) = some (d, rest) := by
  have hdash : isBlank '-' = false := by cbv
  have hday : d.day < 100 := by
    have := daysInMonth_le d.year d.month
    have := d.day_mem
    omega
  have hmonth : d.month < 100 := by
    have := d.month_mem
    omega
  have hof : Day.of? d.year d.month d.day = some d := by
    simp [Day.of?, d.year_mem, d.month_mem, d.day_mem]
  have hstop : ∀ s, ('-' :: s).takeWhile Char.isDigit = [] := fun s => rfl
  simp [scanDay, Day.chars, scanYear_yearChars, scanMark_cons hdash, scanPart_padded, hday, hmonth,
    hof, hstop, hrest]

/-! ## Times of day -/

theorem scanFraction_padded (width n : Nat) (hwidth : 0 < width) (hnine : width ≤ 9)
    (hn : n < 10 ^ width) {rest : List Char} (hrest : rest.takeWhile Char.isDigit = []) :
    scanFraction ('.' :: (padded width n ++ rest)) = some (n * 10 ^ (9 - width), rest) := by
  have hlength : (padded width n).length = width :=
    Nat.le_antisymm (length_padded_le hwidth hn) (le_length_padded width n)
  have hdigits := takeWhile_padded (Nat.le_trans (Nat.le_of_eq hlength) hnine) hrest
  have hdrop : (padded width n ++ rest).dropWhile Char.isDigit = rest := by
    have hstop : rest.dropWhile Char.isDigit = rest := by
      simpa [hrest] using List.takeWhile_append_dropWhile (p := Char.isDigit) (l := rest)
    rw [List.dropWhile_append_of_pos fun c hc => isDigit_of_mem_padded hc, hstop]
  simp [scanFraction, hdigits, padded_ne_nil, digitsValue_padded, hlength, hdrop]

theorem scanFraction_fractionChars {nanosecond : Nat} (h : nanosecond < 1000000000)
    (rest : List Char) :
    scanFraction (Clock.fractionChars nanosecond ++ 'Z' :: rest) =
      some (nanosecond, 'Z' :: rest) := by
  have hstop : ('Z' :: rest).takeWhile Char.isDigit = [] := rfl
  unfold Clock.fractionChars
  split
  · subst nanosecond
    rfl
  split
  · have hvalue : nanosecond / 1000000 * 1000000 = nanosecond := by omega
    have hread := scanFraction_padded 3 (nanosecond / 1000000) (by decide) (by decide) (by omega)
      hstop
    simpa [hvalue] using hread
  split
  · have hvalue : nanosecond / 1000 * 1000 = nanosecond := by omega
    have hread := scanFraction_padded 6 (nanosecond / 1000) (by decide) (by decide) (by omega)
      hstop
    simpa [hvalue] using hread
  · have hread := scanFraction_padded 9 nanosecond (by decide) (by decide) h hstop
    simpa using hread

theorem scanClock_chars (c : Clock) (rest : List Char) :
    scanClock (c.wholeChars ++ Clock.fractionChars c.nanosecond ++ 'Z' :: rest) =
      some (c, 'Z' :: rest) := by
  have hcolon : isBlank ':' = false := by cbv
  have hhour : c.hour < 100 := Nat.lt_trans c.hour_lt (by decide)
  have hminute : c.minute < 100 := Nat.lt_trans c.minute_lt (by decide)
  have hsecond : c.second < 100 := Nat.lt_of_le_of_lt c.second_le (by decide)
  have hstop : ∀ s, (':' :: s).takeWhile Char.isDigit = [] := fun s => rfl
  have hfraction :
      (Clock.fractionChars c.nanosecond ++ 'Z' :: rest).takeWhile Char.isDigit = [] := by
    unfold Clock.fractionChars
    split_ifs <;> rfl
  have hof : Clock.of? c.hour c.minute c.second c.nanosecond = some c := by
    simp [Clock.of?, c.hour_lt, c.minute_lt, c.second_le, c.nanosecond_lt]
  simp [scanClock, Clock.wholeChars, scanPart_padded, scanMark_cons hcolon, hhour, hminute,
    hsecond, hstop, hfraction, scanFraction_fractionChars c.nanosecond_lt, hof]

theorem ofLocal?_zero (day : Day) (clock : Clock) : ofLocal? day clock 0 = some ⟨day, clock⟩ := by
  have hlt : clock.minuteOfDay < 1440 := by
    have := clock.hour_lt
    have := clock.minute_lt
    simp only [Clock.minuteOfDay]
    omega
  have hhour : clock.minuteOfDay / 60 = clock.hour := by
    have := clock.minute_lt
    simp only [Clock.minuteOfDay]
    omega
  have hminute : clock.minuteOfDay % 60 = clock.minute := by
    have := clock.minute_lt
    simp only [Clock.minuteOfDay]
    omega
  have hsame : ((clock.minuteOfDay : Int) % 1440).toNat = clock.minuteOfDay := by omega
  have hnonneg : ¬(clock.minuteOfDay : Int) < 0 := by omega
  have hle : ¬1440 ≤ (clock.minuteOfDay : Int) := by omega
  simp only [ofLocal?, Int.sub_zero, if_neg hnonneg, if_neg hle]
  simp [Clock.atMinute, hsame, hhour, hminute]

/-- Every instant is read back from its text with the fraction. -/
theorem ofText?_toText (t : Instant) : ofText? t.toText = some t := by
  have hday : scanDay (t.day.chars ++ 'T' :: (t.clock.wholeChars ++
      Clock.fractionChars t.clock.nanosecond ++ ['Z'])) = some (t.day, _) :=
    scanDay_chars t.day rfl
  have hclock := scanClock_chars t.clock []
  have hoffset : scanOffset (trimStart ['Z']) = some (0, []) := by
    rw [trimStart_cons (by cbv)]
    rfl
  have hend : Text.allBlank [] = true := rfl
  simp only [List.append_assoc] at hday hclock
  simp [ofText?, toText, exactChars, ofChars?, hday, scanSeparator, hclock, hoffset, hend,
    ofLocal?_zero]

end Instant

end WikiRows
