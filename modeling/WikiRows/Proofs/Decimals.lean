import Mathlib
import WikiRows.Decimal.Layout

/-!
# Two layouts of one double

Requests write a double positionally and without a point if it is whole. JSON always shows a point or
an exponent, and decides ties between two shortest decimals in another way. The two texts are the
same just for fractions of a moderate size on which no tie is decided, by `Layout.float_eq_iff`.
-/

namespace WikiRows

namespace Decimal

def value (d : Decimal) : ℚ := d.coefficient * 10 ^ d.exponent

/-- The digits in front of the point of a decimal that is no whole number. -/
def wholePart (d : Decimal) : List Char :=
  if d.magnitude < 0 then ['0'] else d.digits.take (d.magnitude.toNat + 1)

def fractionPart (d : Decimal) : List Char :=
  if d.magnitude < 0 then List.replicate (-d.magnitude - 1).toNat '0' ++ d.digits
  else d.digits.drop (d.magnitude.toNat + 1)

variable {d : Decimal}

theorem isDigit_of_mem_digits {c : Char} (h : c ∈ d.digits) : c.isDigit :=
  Nat.isDigit_of_mem_toDigits (by decide) (by decide) h

theorem length_digits_pos : 0 < d.digits.length := by
  rw [digits]
  exact Nat.length_toDigits_pos

theorem positional_of_neg (h : d.exponent < 0) (layout : Layout) :
    layout.positional d.digits d.magnitude = d.wholePart ++ '.' :: d.fractionPart := by
  by_cases hsmall : d.magnitude < 0
  · simp [Layout.positional, wholePart, fractionPart, hsmall]
  · have hlength : ¬ d.digits.length ≤ d.magnitude.toNat + 1 := by
      rw [magnitude] at hsmall ⊢
      omega
    simp [Layout.positional, wholePart, fractionPart, hsmall, hlength]

theorem length_fractionPart (h : d.exponent < 0) :
    (d.fractionPart.length : Int) = -d.exponent := by
  unfold fractionPart
  split_ifs with hsmall
  · rw [List.length_append, List.length_replicate]
    rw [magnitude] at hsmall ⊢
    omega
  · rw [List.length_drop]
    rw [magnitude] at hsmall ⊢
    omega

theorem isDigit_of_mem_replicate {n : Nat} {c : Char} (h : c ∈ List.replicate n '0') :
    c.isDigit := by
  rw [List.eq_of_mem_replicate h]
  rfl

theorem isDigit_of_mem_parts {c : Char} (h : c ∈ d.wholePart ++ d.fractionPart) : c.isDigit := by
  unfold wholePart fractionPart at h
  split_ifs at h
  · simp only [List.mem_append, List.mem_singleton] at h
    rcases h with rfl | h | h
    · rfl
    · exact isDigit_of_mem_replicate h
    · exact isDigit_of_mem_digits h
  · rw [List.take_append_drop] at h
    exact isDigit_of_mem_digits h

theorem point_notMem_wholePart : '.' ∉ d.wholePart := fun hmem =>
  absurd (isDigit_of_mem_parts (List.mem_append_left _ hmem)) (by decide)

theorem point_notMem_fractionPart : '.' ∉ d.fractionPart := fun hmem =>
  absurd (isDigit_of_mem_parts (List.mem_append_right _ hmem)) (by decide)

theorem ofDigitChars_digits : Nat.ofDigitChars 10 d.digits 0 = d.coefficient :=
  Nat.ofDigitChars_ten_toDigits

theorem ofDigitChars_parts : Nat.ofDigitChars 10 (d.wholePart ++ d.fractionPart) 0 =
    d.coefficient := by
  unfold wholePart fractionPart
  split_ifs
  · rw [← List.append_assoc, List.singleton_append, ← List.replicate_succ, Nat.ofDigitChars_append,
      Nat.ofDigitChars_replicate_zero, Nat.mul_zero, ofDigitChars_digits]
  · rw [List.take_append_drop, ofDigitChars_digits]

theorem positional_of_nonneg (h : 0 ≤ d.exponent) (layout : Layout) :
    layout.positional d.digits d.magnitude =
      d.digits ++ List.replicate d.exponent.toNat '0' ++
        (if layout.pointed then ['.', '0'] else []) := by
  have hpos := length_digits_pos (d := d)
  have hlarge : ¬ d.magnitude < 0 := by
    rw [magnitude]
    omega
  have hwhole : d.magnitude.toNat + 1 = d.exponent.toNat + d.digits.length := by
    rw [magnitude]
    omega
  simp [Layout.positional, hlarge, hwhole]

/-- The digits of a whole number, with the zeros that its exponent stands for. -/
theorem ofDigitChars_whole (n : Nat) :
    Nat.ofDigitChars 10 (d.digits ++ List.replicate n '0') 0 = d.coefficient * 10 ^ n := by
  rw [Nat.ofDigitChars_append, Nat.ofDigitChars_replicate_zero, ofDigitChars_digits, Nat.mul_comm]

theorem isDigit_of_mem_whole {n : Nat} {c : Char} (h : c ∈ d.digits ++ List.replicate n '0') :
    c.isDigit :=
  (List.mem_append.mp h).elim isDigit_of_mem_digits isDigit_of_mem_replicate

theorem point_notMem_whole (n : Nat) : '.' ∉ d.digits ++ List.replicate n '0' := fun hmem =>
  absurd (isDigit_of_mem_whole hmem) (by decide)

theorem isDigit_or_eq_point_of_mem_positional {layout : Layout} {c : Char}
    (h : c ∈ layout.positional d.digits d.magnitude) : c.isDigit ∨ c = '.' := by
  rcases lt_or_ge d.exponent 0 with hd | hd
  · rw [positional_of_neg hd, List.mem_append, List.mem_cons] at h
    rcases h with h | rfl | h
    · exact .inl (isDigit_of_mem_parts (List.mem_append_left _ h))
    · exact .inr rfl
    · exact .inl (isDigit_of_mem_parts (List.mem_append_right _ h))
  · rw [positional_of_nonneg hd, List.mem_append] at h
    rcases h with h | h
    · exact .inl (isDigit_of_mem_whole h)
    · split_ifs at h
      · simp only [List.mem_cons, List.not_mem_nil, or_false] at h
        rcases h with rfl | rfl
        · exact .inr rfl
        · exact .inl rfl
      · cases h

/-- With different points the two layouts show the same text only of one decimal, and only if it is
no whole number. -/
theorem positional_plain_eq_marked_iff {e : Decimal} (hvalue : d.value = e.value → d = e) :
    Layout.plain.positional d.digits d.magnitude =
      Layout.marked.positional e.digits e.magnitude ↔ d = e ∧ e.exponent < 0 := by
  constructor
  · intro heq
    rcases lt_or_ge d.exponent 0 with hd | hd
    · rw [positional_of_neg hd] at heq
      rcases lt_or_ge e.exponent 0 with he | he
      · rw [positional_of_neg he] at heq
        obtain ⟨hwhole, -, hfraction⟩ := (List.append_cons_inj_of_notMem
          point_notMem_wholePart point_notMem_fractionPart).mp heq
        have hcoefficient : d.coefficient = e.coefficient := by
          rw [← ofDigitChars_parts, hwhole, hfraction, ofDigitChars_parts]
        have hexponent : d.exponent = e.exponent := by
          have hlength := length_fractionPart hd
          rw [hfraction, length_fractionPart he] at hlength
          omega
        refine ⟨hvalue ?_, he⟩
        rw [value, value, hcoefficient, hexponent]
      · -- A whole number ends in a zero behind the point, which is a place of the other one.
        rw [positional_of_nonneg he] at heq
        obtain ⟨hwhole, -, hfraction⟩ :
            d.wholePart = e.digits ++ List.replicate e.exponent.toNat '0' ∧ '.' = '.' ∧
              d.fractionPart = ['0'] :=
          (List.append_cons_inj_of_notMem point_notMem_wholePart point_notMem_fractionPart).mp heq
        have hcoefficient : d.coefficient = 10 * (e.coefficient * 10 ^ e.exponent.toNat) := by
          rw [← ofDigitChars_parts, hwhole, hfraction, Nat.ofDigitChars_append, ofDigitChars_whole]
          rfl
        have hexponent : d.exponent = -1 := by
          have hlength := length_fractionPart hd
          rw [hfraction, List.length_singleton] at hlength
          omega
        have hsame : d.value = e.value := by
          obtain ⟨n, hn⟩ := Int.eq_ofNat_of_zero_le he
          rw [value, value, hcoefficient, hexponent, hn]
          push_cast
          rw [Int.toNat_natCast, zpow_neg_one, zpow_natCast]
          ring
        rw [hvalue hsame] at hd
        omega
    · exfalso
      have hpoint : '.' ∉ Layout.plain.positional d.digits d.magnitude := by
        rw [positional_of_nonneg hd]
        simpa [Layout.plain] using point_notMem_whole (d := d) d.exponent.toNat
      rw [heq] at hpoint
      rcases lt_or_ge e.exponent 0 with he | he
      · simp [positional_of_neg he] at hpoint
      · simp [positional_of_nonneg he, Layout.marked] at hpoint
  · rintro ⟨rfl, hd⟩
    rw [positional_of_neg hd, positional_of_neg hd]

theorem value_strip (fuel c : Nat) (e : Int) : (strip fuel c e).value = c * 10 ^ e := by
  fun_induction strip fuel c e with
  | case1 c e | case3 fuel c e h => rfl
  | case2 fuel c e h ih =>
    obtain ⟨m, hm⟩ := Nat.dvd_of_mod_eq_zero h.1
    rw [ih, hm, Nat.mul_div_cancel_left m (by decide), zpow_add_one₀ (by norm_num)]
    push_cast
    ring

/-- A tie is decided between two neighbours on one grid, and changes nothing else. -/
theorem onGrid?_ties (b : Binary) (k : Int) :
    onGrid? .greater b k = onGrid? .even b k ∨
      ∃ c, onGrid? .greater b k = some (c + 1) ∧ onGrid? .even b k = some c := by
  simp only [onGrid?]
  split
  · unfold nearer
    split_ifs
    · exact .inl rfl
    · exact .inl rfl
    · by_cases heven : floorAt b k % 2 = 0
      · exact .inr ⟨_, rfl, by simp [Tie.choose, heven]⟩
      · exact .inl (by simp [Tie.choose, heven])
  all_goals exact .inl rfl

theorem search_ties (b : Binary) (fuel : Nat) (k : Int) :
    search .greater b fuel k = search .even b fuel k ∨
      ∃ c e, search .greater b fuel k = strip 20 (c + 1) e ∧ search .even b fuel k = strip 20 c e := by
  induction fuel generalizing k with
  | zero => exact .inl rfl
  | succ fuel ih =>
    rw [search, search]
    rcases onGrid?_ties b k with hsame | ⟨c, hgreater, heven⟩
    · rw [hsame]
      split
      · exact .inl rfl
      · exact ih (k - 1)
    · exact .inr ⟨c, k, by rw [hgreater], by rw [heven]⟩

/-- Shortest decimals with different ties are the same if they are the same number. -/
theorem ofFloat_ties (x : Float) (h : (ofFloat .greater x).value = (ofFloat .even x).value) :
    ofFloat .greater x = ofFloat .even x := by
  simp only [ofFloat] at h ⊢
  split_ifs with hzero
  · rfl
  · simp only [hzero, if_false] at h
    rcases search_ties (.ofFloat x) 17 (leading (.ofFloat x) 640 309) with hsame | ⟨c, e, hg, he⟩
    · exact hsame
    · rw [hg, he, value_strip, value_strip] at h
      have hpow : (10 : ℚ) ^ e ≠ 0 := zpow_ne_zero e (by norm_num)
      have hc := mul_right_cancel₀ hpow h
      norm_num at hc

end Decimal

namespace Layout

/-- A finite double on which both ways of deciding ties agree, that is no whole number, and that JSON
writes without an exponent. -/
structure OneText (x : Float) : Prop where
  finite : x.isFinite = true
  tie : Decimal.ofFloat .greater x = Decimal.ofFloat .even x
  fraction : (Decimal.ofFloat .even x).exponent < 0
  moderate : marked.isPositional (Decimal.ofFloat .even x).magnitude = true

theorem not_special_of_isFinite {x : Float} (h : x.isFinite = true) :
    x.isNaN = false ∧ x.isInf = false := by
  simp only [Float.isFinite, Float.isNaN, Float.isInf, Float.Model.isFinite, Float.Model.isNaN,
    Float.Model.isInf] at h ⊢
  generalize x.toModel.unpack = number at h ⊢
  cases number with
  | zero | finite => exact ⟨rfl, rfl⟩
  | infinity | notANumber => simp [Float.Model.UnpackedFloat.isFinite] at h

/-- The two texts of a finite double are the same just for fractions of a moderate size on which no
tie is decided. -/
theorem float_eq_iff {x : Float} (h : x.isFinite = true) :
    plain.float x = marked.float x ↔ OneText x := by
  obtain ⟨hnan, hinf⟩ := not_special_of_isFinite h
  have hplain : ∀ d, plain.decimal d = plain.positional d.digits d.magnitude := fun d => rfl
  have htexts : plain.float x = marked.float x ↔
      plain.positional (Decimal.ofFloat .greater x).digits (Decimal.ofFloat .greater x).magnitude =
        marked.decimal (Decimal.ofFloat .even x) := by
    simp only [float, hnan, hinf, hplain, Bool.false_eq_true, if_false]
    exact List.append_right_inj _
  have hsame := Decimal.positional_plain_eq_marked_iff (Decimal.ofFloat_ties x)
  rw [htexts, decimal]
  split_ifs with hmoderate
  · rw [hsame]
    exact ⟨fun ⟨htie, hfraction⟩ => ⟨h, htie, hfraction, hmoderate⟩,
      fun hone => ⟨hone.tie, hone.fraction⟩⟩
  · refine ⟨fun htext => ?_, fun hone => absurd hone.moderate hmoderate⟩
    -- Only a text with an exponent holds an `e`.
    have hexponent : 'e' ∈ scientific (Decimal.ofFloat .even x).digits
        (Decimal.ofFloat .even x).magnitude := by
      simp [scientific]
    rw [← htext] at hexponent
    exact absurd (Decimal.isDigit_or_eq_point_of_mem_positional hexponent) (by decide)

end Layout

end WikiRows
