import WikiRows.Proofs.Traversal
import WikiRows.Query.Selection

/-!
# Members and the properties they name

The characters of a legal member name are ASCII, so that it goes by an identifier in lower case or
by `*`. A name resolves exactly if it is legal and names a declared property.
-/

namespace WikiRows

namespace Text

theorem lowerAfter_of_ascii {s : List Char} (h : ∀ c ∈ s, c.toNat < 0x80) (before : List Char) :
    lowerAfter before s = s.map Char.toLower := by
  induction s generalizing before with
  | nil => rfl
  | cons c s ih =>
    have hc : c.toNat < 0x80 := h c (by simp)
    have hs : c ≠ 'Σ' := by
      rintro rfl
      exact absurd hc (by decide)
    have hi := ih (fun d hd => h d (by simp [hd])) (c :: before)
    simp [lowerAfter, hs, lowerChar, hc, hi]

/-- The full lower case of an ASCII text is that of its ASCII letters. -/
theorem lower_of_ascii {s : String} (h : ∀ c ∈ s.toList, c.toNat < 0x80) :
    lower s = asciiLower s := by
  rw [lower, lowerAfter_of_ascii h, asciiLower]

end Text

namespace MemberName

/-- A name as requests and rows have it: `*`, or an identifier in lower case. -/
def IsWireName (name : String) : Prop :=
  name = "*" ∨ ∃ c rest, name.toList = c :: rest ∧ (c.isLower ∨ c = '_') ∧
    ∀ d ∈ rest, d.isLower ∨ d.isDigit ∨ d = '_'

/-- A sign that is no letter, digit or underscore, nor `*`, occurs in no such name. -/
theorem notMem_of_isWireName {name : String} (h : IsWireName name) {c : Char}
    (hc : (c.isLower || c.isDigit || c = '_' || c = '*') = false) : c ∉ name.toList := by
  simp only [Bool.or_eq_false_iff, decide_eq_false_iff_not] at hc
  obtain ⟨⟨⟨hlower, hdigit⟩, hunderscore⟩, hstar⟩ := hc
  rcases h with rfl | ⟨d, rest, hn, hd, hrest⟩
  · intro hmem
    exact hstar (List.mem_singleton.mp hmem)
  · rw [hn]
    intro hmem
    rcases List.mem_cons.mp hmem with rfl | hmem
    · simp [hlower, hunderscore] at hd
    · simpa [hlower, hdigit, hunderscore] using hrest c hmem

theorem bar_notMem_of_isWireName {name : String} (h : IsWireName name) : '|' ∉ name.toList :=
  notMem_of_isWireName h (by decide)

theorem exists_cons_of_isLegal {name : String} (h : isLegal name) :
    ∃ c rest, name.toList = c :: rest ∧ isStart c ∧ ∀ d ∈ rest, isPart d := by
  unfold isLegal at h
  cases hn : name.toList with
  | nil => simp [hn] at h
  | cons c rest =>
    simp only [hn, Bool.and_eq_true, List.all_eq_true] at h
    exact ⟨c, rest, rfl, h.1.1, h.1.2⟩

theorem toNat_lt_of_isPart {c : Char} (h : isPart c) : c.toNat < 0x80 := by
  have hbound : ∀ last : Char, last.toNat < 0x80 → c.val ≤ last.val → c.toNat < 0x80 :=
    fun _ hlast hc => (UInt32.le_iff_toNat_le.mp hc).trans_lt hlast
  simp only [isPart, Char.isAlphanum, Char.isAlpha, Bool.or_eq_true, decide_eq_true_eq] at h
  rcases h with ((h | h) | h) | rfl
  · have hc : 'A'.val ≤ c.val ∧ c.val ≤ 'Z'.val := by simpa [Char.isUpper] using h
    exact hbound 'Z' (by decide) hc.2
  · have hc : 'a'.val ≤ c.val ∧ c.val ≤ 'z'.val := by simpa [Char.isLower] using h
    exact hbound 'z' (by decide) hc.2
  · have hc : '0'.val ≤ c.val ∧ c.val ≤ '9'.val := by simpa [Char.isDigit] using h
    exact hbound '9' (by decide) hc.2
  · decide

theorem isPart_of_isStart {c : Char} (h : isStart c) : isPart c := by
  simp only [isStart, isPart, Char.isAlphanum, Bool.or_eq_true] at h ⊢
  tauto

theorem isLower_or_toLower_of_isStart {c : Char} (h : isStart c) :
    c.toLower.isLower ∨ c.toLower = '_' := by
  simp only [isStart, Bool.or_eq_true, decide_eq_true_eq] at h
  rcases h with h | rfl
  · left
    simpa using h
  · right
    rfl

theorem isLower_or_toLower_of_isPart {c : Char} (h : isPart c) :
    c.toLower.isLower ∨ c.toLower.isDigit ∨ c.toLower = '_' := by
  simp only [isPart, Char.isAlphanum, Bool.or_eq_true, decide_eq_true_eq] at h
  rcases h with (h | h) | rfl
  · left
    simpa using h
  · right; left
    have hu : ¬ c.isUpper := by
      simp only [Char.isDigit, Char.isUpper, Bool.and_eq_true, decide_eq_true_eq,
        UInt32.le_iff_toNat_le, ge_iff_le] at h ⊢
      have h9 : '9'.val.toNat = 57 := rfl
      have hA : 'A'.val.toNat = 65 := rfl
      omega
    rwa [Char.toLower_eq_of_not_isUpper hu]
  · right; right
    rfl

theorem lower_of_isLegal {name : String} (h : isLegal name) :
    Text.lower name = Text.asciiLower name := by
  obtain ⟨c, rest, hn, hc, hrest⟩ := exists_cons_of_isLegal h
  apply Text.lower_of_ascii
  rw [hn]
  intro d hd
  rcases List.mem_cons.mp hd with rfl | hd
  · exact toNat_lt_of_isPart (isPart_of_isStart hc)
  · exact toNat_lt_of_isPart (hrest d hd)

theorem isWireName_wire {name : String} (h : isLegal name) : IsWireName (wire name) := by
  obtain ⟨c, rest, hn, hc, hrest⟩ := exists_cons_of_isLegal h
  simp only [wire, lower_of_isLegal h]
  split_ifs
  · left
    rfl
  · right
    exact ⟨'d', ['e', 'f', 'a', 'u', 'l', 't'], rfl, by decide, by simp⟩
  · right
    refine ⟨c.toLower, rest.map Char.toLower, ?_, isLower_or_toLower_of_isStart hc, ?_⟩
    · simp [Text.asciiLower, hn]
    · intro d hd
      obtain ⟨e, he, rfl⟩ := List.mem_map.mp hd
      exact isLower_or_toLower_of_isPart (hrest e he)

end MemberName

namespace ApiModule

variable {m : ApiModule}

def Declares (m : ApiModule) (name : String) (p : Property) : Prop :=
  MemberName.isLegal name ∧ m.property? (MemberName.wire name) = some p

theorem resolve_eq_ok_iff {name wire : String} {p : Property} :
    m.resolve name = .ok (wire, p) ↔ wire = MemberName.wire name ∧ m.Declares name p := by
  unfold resolve Declares
  by_cases hl : MemberName.isLegal name
  · cases hp : m.property? (MemberName.wire name) with
    | none => simp [hl, hp]
    | some q => simp [hl, hp, eq_comm]
  · simp [hl]

theorem resolve_eq_error_iff {name : String} {failure : Failure} :
    m.resolve name = .error failure ↔
      MemberName.isLegal name = false ∧ failure = .illegalMember name ∨
      MemberName.isLegal name ∧ m.property? (MemberName.wire name) = none ∧
        failure = .unknownProperty m.name name := by
  unfold resolve
  by_cases hl : MemberName.isLegal name
  · cases hp : m.property? (MemberName.wire name) with
    | none => simp [hl, hp, eq_comm]
    | some q => simp [hl, hp]
  · simp [hl, eq_comm]

theorem resolveAll_eq_mapM (names : List String) :
    m.resolveAll names = names.mapM fun name => (m.resolve name).map Prod.fst := by
  induction names with
  | nil => rfl
  | cons name names ih =>
    rw [resolveAll, List.mapM_cons, ih]
    cases m.resolve name <;> rfl

theorem resolveAll_eq_ok_iff {names wires : List String} :
    m.resolveAll names = .ok wires ↔
      (∀ name ∈ names, ∃ p, m.Declares name p) ∧ wires = names.map MemberName.wire := by
  have hname : ∀ name wire, (m.resolve name).map Prod.fst = .ok wire ↔
      (∃ p, m.Declares name p) ∧ wire = MemberName.wire name := by
    intro name wire
    cases h : m.resolve name with
    | error failure =>
      have hn : ∀ p, ¬ m.Declares name p := by
        intro p hp
        simp [resolve_eq_ok_iff.mpr ⟨rfl, hp⟩] at h
      simp [Except.map, hn]
    | ok found =>
      obtain ⟨hw, hp⟩ := resolve_eq_ok_iff.mp h
      simp only [Except.map, Except.ok.injEq, hw]
      exact ⟨fun hwire => ⟨⟨_, hp⟩, hwire.symm⟩, fun hwire => hwire.2.symm⟩
  rw [resolveAll_eq_mapM, Traversal.mapM_eq_ok_iff]
  simp only [hname]
  induction names generalizing wires with
  | nil => simp
  | cons name names ih =>
    simp only [List.forall₂_cons_left_iff, List.forall_mem_cons, List.map_cons, ih]
    constructor
    · rintro ⟨_, _, ⟨hp, rfl⟩, ⟨hps, rfl⟩, rfl⟩
      exact ⟨⟨hp, hps⟩, rfl⟩
    · rintro ⟨⟨hp, hps⟩, rfl⟩
      exact ⟨_, _, ⟨hp, rfl⟩, ⟨hps, rfl⟩, rfl⟩

end ApiModule

end WikiRows
