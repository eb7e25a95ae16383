import WikiRows.Json.Printer
import WikiRows.Json.Raw
import Mathlib.Data.List.TakeWhile

/-!
# Reading back compact JSON

A JSON value whose numbers are whole and fit 64 bits with sign is read back from its compact text.
The scanner gives the tokens of the value, whatever stands behind it, as long as that cannot go on
with a word or a number. The machine puts the tokens together again, whatever is open around them.
-/

namespace WikiRows

namespace Json

mutual

/-- Every number is whole and fits 64 bits with sign. -/
def IsExact : Json → Prop
  | int i => -0x8000000000000000 ≤ i ∧ i < 0x8000000000000000
  | float _ => False
  | arr items => ItemsExact items
  | obj members => MembersExact members
  | _ => True

def ItemsExact : List Json → Prop
  | [] => True
  | item :: items => IsExact item ∧ ItemsExact items

def MembersExact : List (String × Json) → Prop
  | [] => True
  | (_, value) :: members => IsExact value ∧ MembersExact members

end

theorem itemsExact_map {α : Type} {store : α → Json} {xs : List α}
    (h : ∀ x ∈ xs, (store x).IsExact) : ItemsExact (xs.map store) := by
  induction xs with
  | nil => trivial
  | cons x xs ih =>
    obtain ⟨hx, hxs⟩ := List.forall_mem_cons.mp h
    exact ⟨hx, ih hxs⟩

mutual

def raw : Json → Raw
  | null => .null
  | bool b => .bool b
  | int i => .number (some (.int i))
  | float x => .number (some (.float x))
  | str s => .string (some s)
  | arr items => .array (itemsRaw items)
  | obj members => .object (membersRaw members)

def itemsRaw : List Json → List Raw
  | [] => []
  | item :: items => raw item :: itemsRaw items

def membersRaw : List (String × Json) → List (Option String × Raw)
  | [] => []
  | (name, value) :: members => (some name, raw value) :: membersRaw members

end

def nameToken (name : String) : Token := .scalar (.string (some name))

mutual

def tokens : Json → List Token
  | arr [] => [.openArray, .closeArray]
  | arr (item :: items) => .openArray :: (tokens item ++ itemsTokens items)
  | obj [] => [.openObject, .closeObject]
  | obj ((name, value) :: members) =>
    .openObject :: nameToken name :: .colon :: (tokens value ++ membersTokens members)
  | scalar => [.scalar scalar.raw]

def itemsTokens : List Json → List Token
  | [] => [.closeArray]
  | item :: items => .comma :: (tokens item ++ itemsTokens items)

def membersTokens : List (String × Json) → List Token
  | [] => [.closeObject]
  | (name, value) :: members =>
    .comma :: nameToken name :: .colon :: (tokens value ++ membersTokens members)

end

/-! ## Numbers -/

namespace Number

theorem digitsValue_toDigits (n : Nat) : digitsValue (Nat.toDigits 10 n) = n := by
  rw [digitsValue, ← Nat.ofDigitChars_eq_foldl, Nat.ofDigitChars_ten_toDigits]

/-- Only zero is written with a zero in front. -/
theorem toDigits_eq_cons {n : Nat} (hn : 0 < n) :
    ∃ c rest, Nat.toDigits 10 n = c :: rest ∧ c ≠ '0' := by
  induction n using Nat.strongRecOn with
  | ind n ih =>
    by_cases hlt : n < 10
    · refine ⟨n.digitChar, [], Nat.toDigits_of_lt_base hlt, ?_⟩
      have hdigits : ∀ k < 10, 0 < k → k.digitChar ≠ '0' := by decide
      exact hdigits n hlt hn
    · obtain ⟨c, rest, hc, hne⟩ := ih (n / 10) (by omega) (by omega)
      refine ⟨c, rest ++ [(n % 10).digitChar], ?_, hne⟩
      rw [Nat.toDigits_of_base_le (by decide) (by omega), hc, List.cons_append]

theorem scanWhole_toDigits (n : Nat) :
    scanWhole (Nat.toDigits 10 n) = some (Nat.toDigits 10 n, []) := by
  have hdigits : ∀ c ∈ Nat.toDigits 10 n, c.isDigit := fun c hc =>
    Nat.isDigit_of_mem_toDigits (by decide) (by decide) hc
  rw [scanWhole, List.takeWhile_eq_self_iff.mpr hdigits, List.dropWhile_eq_nil_iff.mpr hdigits]
  rcases Nat.eq_zero_or_pos n with rfl | hn
  · rfl
  · obtain ⟨c, rest, hc, hne⟩ := toDigits_eq_cons hn
    rw [hc]
    split <;> simp_all

theorem ofChars?_intChars (i : Int) :
    Parts.ofChars? (intChars i) = some ⟨i < 0, Nat.toDigits 10 i.natAbs, none, none⟩ := by
  have hwhole : ∀ n : Nat, Parts.ofChars? (Nat.toDigits 10 n) =
      some ⟨false, Nat.toDigits 10 n, none, none⟩ := by
    intro n
    have hminus : '-' ∉ Nat.toDigits 10 n := fun h =>
      absurd (Nat.isDigit_of_mem_toDigits (by decide) (by decide) h) (by decide)
    rw [Parts.ofChars?]
    · simp [scanWhole_toDigits, scanFraction, scanExponent]
    · rintro rest hrest
      simp [hrest] at hminus
  by_cases hi : i < 0
  · simp [intChars, hi, Parts.ofChars?, scanWhole_toDigits, scanFraction, scanExponent]
  · simp [intChars, hi, hwhole]

theorem ofParts?_whole {i : Int} (hlow : -0x8000000000000000 ≤ i) (hhigh : i < 0x8000000000000000) :
    ofParts? ⟨i < 0, Nat.toDigits 10 i.natAbs, none, none⟩ = some (.int i) := by
  simp only [ofParts?, digitsValue_toDigits, wordSize]
  by_cases hi : i < 0
  · have hpos : 0 < i.natAbs := by omega
    have hle : i.natAbs ≤ 0x8000000000000000 := by omega
    have hneg : -(i.natAbs : Int) = i := by omega
    simp only [hi, hpos, hle, hneg, Option.isSome_none, Bool.or_self, Bool.false_eq_true,
      ↓reduceIte, decide_true, Bool.not_true, Bool.false_and, Bool.and_self]
  · have hlt : i.natAbs < 0x10000000000000000 := by omega
    have habs : (i.natAbs : Int) = i := by omega
    simp [hi, hlt, habs]

end Number

theorem numberToken?_intChars {i : Int} (h : (int i).IsExact) :
    numberToken? (intChars i) = some (.scalar (int i).raw) := by
  simp [numberToken?, Number.ofChars?_intChars, Number.ofParts?_whole h.1 h.2, raw]

/-! ## Strings -/

theorem join_chars (s : List Char) : Piece.join (s.map .char) = some s := by
  have houtputs : Piece.joiner.outputs none (s.map .char) = s.map some := by
    induction s with
    | nil => rfl
    | cons c s ih => simp [Transducer.outputs, Piece.joiner] at ih ⊢; exact ih
  have hall : (s.map some).mapM id = some s := by
    clear houtputs
    induction s with
    | nil => rfl
    | cons c s ih => simp_all
  rw [Piece.join, Transducer.run_eq, houtputs, hall]

theorem hexValue?_hexDigit : ∀ n < 16, hexValue? (hexDigit n) = some n := by decide

theorem scan?_escapeChar (read : List Piece) (c : Char) (rest : List Char) :
    scan? (.string read) (escapeChar c ++ rest) = scan? (.string (.char c :: read)) rest := by
  unfold escapeChar
  split
  case h_8 hquote hbackslash _ _ _ _ _ =>
    split
    case isTrue hcontrol =>
      have hhigh := hexValue?_hexDigit (c.toNat / 16) (by omega)
      have hlow := hexValue?_hexDigit (c.toNat % 16) (by omega)
      have hzero : hexValue? '0' = some 0 := by decide
      have hvalue : 16 * (c.toNat / 16) + c.toNat % 16 = c.toNat := by omega
      have hunit : Piece.ofUnit c.toNat = .char c := by
        have hhigh : ¬0xd800 ≤ c.toNat := by omega
        have hlow : ¬0xdc00 ≤ c.toNat := by omega
        simp [Piece.ofUnit, hhigh, hlow]
      simp [scan?_cons, scanChar?, escaped?, hhigh, hlow, hzero, hvalue, hunit, Function.comp_def]
    case isFalse hplain =>
      have hnext : scanChar? (.string read) c = some ([], .string (.char c :: read)) := by
        rw [scanChar?, if_neg hquote, if_neg hbackslash, if_neg hplain]
      simp [scan?_cons, hnext]
  all_goals simp [scan?_cons, scanChar?, escaped?, Function.comp_def]

theorem scan?_stringChars (s : String) (rest : List Char) :
    scan? .between (stringChars s ++ rest) = (scan? .between rest).map (nameToken s :: ·) := by
  have hbody : ∀ (s : List Char) (read : List Piece),
      scan? (.string read) (s.flatMap escapeChar ++ '"' :: rest) =
        scan? (.string ((s.map .char).reverse ++ read)) ('"' :: rest) := by
    intro s
    induction s with
    | nil => simp
    | cons c s ih => simp [scan?_escapeChar, ih]
  have hquote : ∀ read, scan? (.string read) ('"' :: rest) =
      (scan? .between rest).map (stringToken read.reverse :: ·) := by
    intro read
    simp [scan?_cons, scanChar?]
  have hbegin : scan? .between ('"' :: (s.toList.flatMap escapeChar ++ '"' :: rest)) =
      scan? (.string []) (s.toList.flatMap escapeChar ++ '"' :: rest) := by
    simp [scan?_cons, scanChar?, begin?, isSpace]
  simp [stringChars, hbegin, hbody, hquote, stringToken, join_chars, nameToken]

/-! ## Scanner -/

/-- What may stand behind a word or a number. -/
def Closes : List Char → Prop
  | [] => True
  | c :: _ => c = ',' ∨ c = ']' ∨ c = '}'

theorem closes_itemsChars (items : List Json) (rest : List Char) :
    Closes (itemsChars items ++ rest) := by
  cases items <;> simp [itemsChars, Closes]

theorem closes_membersChars (members : List (String × Json)) (rest : List Char) :
    Closes (membersChars members ++ rest) := by
  rcases members with _ | ⟨⟨name, value⟩, members⟩ <;> simp [membersChars, Closes]

/-- What the scanner has begun is one token more where something closes. -/
theorem scan?_pending {scan : Scan} {token : Token} {rest : List Char} (h : Closes rest)
    (hend : endTokens? scan = some [token])
    (hstep : ∀ c, c = ',' ∨ c = ']' ∨ c = '}' →
      scanChar? scan c = (begin? c).map fun next => (token :: next.1, next.2)) :
    scan? scan rest = (scan? .between rest).map (token :: ·) := by
  cases rest with
  | nil =>
    have hnone : endTokens? .between = some [] := rfl
    simp only [scan?, scanOnto?, hend, hnone]
    rfl
  | cons c rest =>
    have hbetween : scanChar? .between c = begin? c := rfl
    rw [scan?_cons, scan?_cons, hstep c h, hbetween]
    cases begin? c <;> simp [Function.comp_def]

theorem scan?_word (word : List Char) {token : Token} {rest : List Char}
    (htoken : wordToken? word = some token) (h : Closes rest) :
    scan? .between (word ++ rest) = (scan? .between rest).map (token :: ·) := by
  have hpending : scan? (.word word.reverse) rest = (scan? .between rest).map (token :: ·) := by
    refine scan?_pending h (by simp [endTokens?, htoken]) ?_
    rintro c (rfl | rfl | rfl) <;> simp [scanChar?, htoken, begin?, isSpace]
  unfold wordToken? at htoken
  split_ifs at htoken with hword hword hword
  all_goals
    subst hword
    simpa [scan?_cons, scanChar?, begin?, isSpace, Function.comp_def] using hpending

theorem scan?_number (read : List Char) {token : Token} {rest : List Char}
    (htoken : numberToken? read.reverse = some token) (h : Closes rest) :
    scan? (.number read) rest = (scan? .between rest).map (token :: ·) := by
  refine scan?_pending h (by simp [endTokens?, htoken]) ?_
  rintro c (rfl | rfl | rfl) <;> simp [scanChar?, htoken, begin?, isSpace, isNumberChar]

theorem begin?_digit {c : Char} (h : c.isDigit) : begin? c = some ([], .number [c]) := by
  have hne : ∀ d : Char, d.isDigit = false → c ≠ d := by
    rintro d hd rfl
    simp [hd] at h
  simp [begin?, isSpace, h, hne]

theorem scan?_intChars {i : Int} (h : (int i).IsExact) {rest : List Char} (hrest : Closes rest) :
    scan? .between (intChars i ++ rest) =
      (scan? .between rest).map (.scalar (int i).raw :: ·) := by
  have hdigits : ∀ c ∈ Nat.toDigits 10 i.natAbs, c.isDigit := fun c hc =>
    Nat.isDigit_of_mem_toDigits (by decide) (by decide) hc
  have hrun : ∀ (s read : List Char), (∀ c ∈ s, c.isDigit) →
      scan? (.number read) (s ++ rest) = scan? (.number (s.reverse ++ read)) rest := by
    intro s
    induction s with
    | nil => simp
    | cons c s ih =>
      intro read hs
      have hc : isNumberChar c := by simp [isNumberChar, hs c]
      simp [scan?_cons, scanChar?, hc, ih _ fun d hd => hs d (List.mem_cons_of_mem c hd)]
  have htoken := numberToken?_intChars h
  by_cases hi : i < 0
  · rw [intChars, if_pos hi] at htoken ⊢
    have hnumber := scan?_number ((Nat.toDigits 10 i.natAbs).reverse ++ ['-'])
      (by simpa using htoken) hrest
    simp [scan?_cons, scanChar?, begin?, isSpace, hrun _ _ hdigits, hnumber, Function.comp_def]
  · rw [intChars, if_neg hi] at htoken ⊢
    obtain ⟨c, s, hcs⟩ := List.exists_cons_of_ne_nil (Nat.toDigits_ne_nil (n := i.natAbs) (b := 10))
    rw [hcs] at htoken hdigits ⊢
    have hbegin := begin?_digit (hdigits c List.mem_cons_self)
    have hs := hrun s [c] fun d hd => hdigits d (List.mem_cons_of_mem c hd)
    have hnumber := scan?_number (s.reverse ++ [c]) (by simpa using htoken) hrest
    simp [scan?_cons, scanChar?, hbegin, hs, hnumber, Function.comp_def]

theorem scan?_mark (c : Char) (token : Token) (h : begin? c = some ([token], .between))
    (rest : List Char) : scan? .between (c :: rest) = (scan? .between rest).map (token :: ·) := by
  simp [scan?_cons, scanChar?, h]

mutual

/-- The scanner gives the tokens of a value in front of those of what follows. -/
theorem scan?_chars (j : Json) (h : j.IsExact) (rest : List Char) (hrest : Closes rest) :
    scan? .between (j.chars ++ rest) = (scan? .between rest).map (j.tokens ++ ·) := by
  match j with
  | null => exact scan?_word ['n', 'u', 'l', 'l'] rfl hrest
  | bool true => exact scan?_word ['t', 'r', 'u', 'e'] rfl hrest
  | bool false => exact scan?_word ['f', 'a', 'l', 's', 'e'] rfl hrest
  | int i => simp [chars, scalarChars, tokens, scan?_intChars h hrest]
  | str s => simp [chars, scalarChars, tokens, raw, scan?_stringChars, nameToken]
  | arr [] =>
    simp [chars, tokens, scan?_mark '[' .openArray rfl,
      scan?_mark ']' .closeArray rfl, Function.comp_def]
  | arr (item :: items) =>
    have hitem := scan?_chars item h.1 _ (closes_itemsChars items rest)
    have hitems := scan?_itemsChars items h.2 rest
    simp [chars, tokens, scan?_mark '[' .openArray rfl, hitem, hitems, Function.comp_def]
  | obj [] =>
    simp [chars, tokens, scan?_mark '{' .openObject rfl,
      scan?_mark '}' .closeObject rfl, Function.comp_def]
  | obj ((name, value) :: members) =>
    have hvalue := scan?_chars value h.1 _ (closes_membersChars members rest)
    have hmembers := scan?_membersChars members h.2 rest
    simp [chars, tokens, scan?_mark '{' .openObject rfl, scan?_stringChars,
      scan?_mark ':' .colon rfl, hvalue, hmembers, Function.comp_def]

theorem scan?_itemsChars (items : List Json) (h : ItemsExact items) (rest : List Char) :
    scan? .between (itemsChars items ++ rest) =
      (scan? .between rest).map (itemsTokens items ++ ·) := by
  match items with
  | [] => simp [itemsChars, itemsTokens, scan?_mark ']' .closeArray rfl]
  | item :: items =>
    have hitem := scan?_chars item h.1 _ (closes_itemsChars items rest)
    have hitems := scan?_itemsChars items h.2 rest
    simp [itemsChars, itemsTokens, scan?_mark ',' .comma rfl, hitem, hitems,
      Function.comp_def]

theorem scan?_membersChars (members : List (String × Json)) (h : MembersExact members)
    (rest : List Char) :
    scan? .between (membersChars members ++ rest) =
      (scan? .between rest).map (membersTokens members ++ ·) := by
  match members with
  | [] => simp [membersChars, membersTokens, scan?_mark '}' .closeObject rfl]
  | (name, value) :: members =>
    have hvalue := scan?_chars value h.1 _ (closes_membersChars members rest)
    have hmembers := scan?_membersChars members h.2 rest
    simp [membersChars, membersTokens, scan?_mark ',' .comma rfl, scan?_stringChars,
      scan?_mark ':' .colon rfl, hvalue, hmembers, Function.comp_def]

end

/-! ## Machine -/

namespace Machine

theorem run?_cons (m : Machine) (token : Token) (rest : List Token) :
    m.run? (token :: rest) = (m.step? token).bind (·.run? rest) := rfl

theorem run?_append (m : Machine) (tokens rest : List Token) :
    m.run? (tokens ++ rest) = (m.run? tokens).bind (·.run? rest) := by
  simp [run?, List.foldlM_append]

mutual

/-- Where a value may stand, its tokens lead to the value, whatever is open around it. -/
theorem run?_tokens (j : Json) (frames : List Frame) :
    run? ⟨frames, .value⟩ j.tokens = some ⟨frames, .after j.raw⟩ := by
  match j with
  | null | bool _ | int _ | float _ | str _ => rfl
  | arr [] => rfl
  | arr (item :: items) =>
    have hitem := run?_firstItem item (.items [] :: frames)
    have hitems := run?_itemsTokens items frames [] item.raw
    simp [tokens, run?_cons, step?, openValue?, run?_append, hitem, hitems, raw, itemsRaw]
  | obj [] => rfl
  | obj ((name, value) :: members) =>
    have hvalue := run?_tokens value (.value [] (some name) :: frames)
    have hmembers := run?_membersTokens members frames [] name value.raw
    simp [tokens, run?_cons, step?, openValue?, key?, nameToken, run?_append, hvalue, hmembers,
      raw, membersRaw]

/-- A value may stand first in an array: its first token does not close one. -/
theorem run?_firstItem (j : Json) (frames : List Frame) :
    run? ⟨frames, .firstItem⟩ j.tokens = some ⟨frames, .after j.raw⟩ := by
  have hsame : run? ⟨frames, .firstItem⟩ j.tokens = run? ⟨frames, .value⟩ j.tokens := by
    cases j with
    | arr items => cases items <;> rfl
    | obj members => cases members <;> rfl
    | _ => rfl
  rw [hsame, run?_tokens j frames]

theorem run?_itemsTokens (items : List Json) (frames : List Frame) (done : List Raw)
    (value : Raw) :
    run? ⟨.items done :: frames, .after value⟩ (itemsTokens items) =
      some ⟨frames, .after (.array (done.reverse ++ value :: itemsRaw items))⟩ := by
  match items with
  | [] => simp [itemsTokens, run?, step?, itemsRaw]
  | item :: items =>
    have hitem := run?_tokens item (.items (value :: done) :: frames)
    have hitems := run?_itemsTokens items frames (value :: done) item.raw
    simp [itemsTokens, run?_cons, step?, run?_append, hitem, hitems, itemsRaw]

theorem run?_membersTokens (members : List (String × Json)) (frames : List Frame)
    (done : List (Option String × Raw)) (name : String) (value : Raw) :
    run? ⟨.value done (some name) :: frames, .after value⟩ (membersTokens members) =
      some ⟨frames, .after
        (.object (done.reverse ++ (some name, value) :: membersRaw members))⟩ := by
  match members with
  | [] => simp [membersTokens, run?, step?, membersRaw]
  | (next, item) :: members =>
    have hitem := run?_tokens item (.value ((some name, value) :: done) (some next) :: frames)
    have hmembers := run?_membersTokens members frames ((some name, value) :: done) next item.raw
    simp [membersTokens, run?_cons, step?, key?, nameToken, run?_append, hitem, hmembers,
      membersRaw]

end

end Machine

/-- The compact text of a value is read back as the value. -/
theorem Raw.ofText?_compact (j : Json) (h : j.IsExact) : Raw.ofText? j.compact = some j.raw := by
  have hscan : scan? .between j.chars = some j.tokens := by
    have := scan?_chars j h [] trivial
    simpa [scan?, scanOnto?, endTokens?] using this
  have hrun : Machine.initial.run? j.tokens = some ⟨[], .after j.raw⟩ :=
    Machine.run?_tokens j []
  simp [Raw.ofText?, toList_compact, Raw.ofChars?, hscan, hrun, Machine.result?]

end Json

end WikiRows
