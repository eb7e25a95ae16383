import Mathlib
import WikiRows.Literal.Printer

/-!
# Texts that say where they end

Texts that are written one behind the other can be told apart if each says where it ends. A run of
characters of one class ends at the first other one, an escaped character is known by its first
signs, a quoted text ends at its second quote, and items between commas end at a comma or where the
list does.
-/

namespace WikiRows

namespace Text

variable {α β : Type}

/-- Where such an end follows, two items have the same text only if they have the same key, and then
the same stands behind them. -/
def Apart (text : α → List Char) (key : α → β) (Ends : List Char → Prop) (a b : α) : Prop :=
  ∀ s t, Ends s → Ends t → text a ++ s = text b ++ t → key a = key b ∧ s = t

/-- Items one behind the other, each of which can be told where the next one or the end follows. -/
theorem map_eq_of_flatMap_append {text : α → List Char} {key : α → β} {Ends : List Char → Prop}
    {l l' : List α} {s t : List Char} (hitems : ∀ a ∈ l, ∀ b ∈ l', Apart text key Ends a b)
    (hnext : ∀ a u, Ends (text a ++ u)) (hs : Ends s) (ht : Ends t)
    (hnes : ∀ a u, text a ++ u ≠ s) (hnet : ∀ a u, text a ++ u ≠ t)
    (h : l.flatMap text ++ s = l'.flatMap text ++ t) : l.map key = l'.map key ∧ s = t := by
  induction l generalizing l' with
  | nil =>
    cases l' with
    | nil => exact ⟨rfl, h⟩
    | cons b l' =>
      rw [List.flatMap_cons, List.append_assoc] at h
      exact absurd h.symm (hnes b _)
  | cons a l ih =>
    cases l' with
    | nil =>
      rw [List.flatMap_cons, List.append_assoc] at h
      exact absurd h (hnet a _)
    | cons b l' =>
      have hends : ∀ (l : List α) {u}, Ends u → Ends (l.flatMap text ++ u) := by
        intro l u hu
        cases l with
        | nil => exact hu
        | cons c l =>
          rw [List.flatMap_cons, List.append_assoc]
          exact hnext c _
      simp only [List.flatMap_cons, List.append_assoc] at h
      obtain ⟨hkey, hrest⟩ := hitems a List.mem_cons_self b List.mem_cons_self _ _ (hends l hs)
        (hends l' ht) h
      obtain ⟨hkeys, hend⟩ := ih (fun a ha b hb => hitems a (List.mem_cons_of_mem _ ha) b
        (List.mem_cons_of_mem _ hb)) hrest
      exact ⟨by rw [List.map_cons, List.map_cons, hkey, hkeys], hend⟩

/-- A run of characters of a class ends where none of them follows. -/
theorem run_append_inj {p : Char → Bool} {s t u v : List Char} (hs : ∀ c ∈ s, p c)
    (ht : ∀ c ∈ t, p c) (hu : ∀ c ∈ u.head?, p c = false) (hv : ∀ c ∈ v.head?, p c = false)
    (h : s ++ u = t ++ v) : s = t ∧ u = v := by
  have hrun : ∀ s u : List Char, (∀ c ∈ s, p c) → (∀ c ∈ u.head?, p c = false) →
      (s ++ u).takeWhile p = s := by
    intro s u hs hu
    rw [List.takeWhile_append_of_pos hs]
    cases u with
    | nil => simp
    | cons c u => rw [List.takeWhile_cons_of_neg (by simp [hu c rfl]), List.append_nil]
  obtain rfl : s = t := by rw [← hrun s u hs hu, h, hrun t v ht hv]
  exact ⟨rfl, List.append_cancel_left h⟩

/-! ## Quoted texts -/

/-- A hexadecimal text ends in the last digit, behind the text of what is left without it. -/
theorem toDigits_sixteen_eq (n : Nat) :
    Nat.toDigits 16 n =
      (if n < 16 then [] else Nat.toDigits 16 (n / 16)) ++ [(n % 16).digitChar] := by
  by_cases hn : n < 16
  · rw [Nat.toDigits_of_lt_base hn, if_pos hn, Nat.mod_eq_of_lt hn, List.nil_append]
  · rw [Nat.toDigits_of_base_le (by decide) (by omega), if_neg hn]

theorem toDigits_sixteen_inj {m n : Nat} (h : Nat.toDigits 16 m = Nat.toDigits 16 n) : m = n := by
  have hdigit : ∀ a < 16, ∀ b < 16, a.digitChar = b.digitChar → a = b := by decide
  induction m using Nat.strongRecOn generalizing n with
  | ind m ih =>
    rw [toDigits_sixteen_eq m, toDigits_sixteen_eq n, List.append_singleton_inj] at h
    obtain ⟨hfront, hlast⟩ := h
    have hmod := hdigit _ (by omega) _ (by omega) hlast
    split_ifs at hfront with hm hn hn
    · omega
    · exact absurd hfront.symm Nat.toDigits_ne_nil
    · exact absurd hfront Nat.toDigits_ne_nil
    · have hdiv := ih (m / 16) (by omega) hfront
      omega

theorem ne_brace_of_mem_toDigits_sixteen {n : Nat} {c : Char} (h : c ∈ Nat.toDigits 16 n) :
    c ≠ '}' := by
  have hdigit : ∀ a < 16, a.digitChar ≠ '}' := by decide
  induction n using Nat.strongRecOn with
  | ind n ih =>
    rw [toDigits_sixteen_eq, List.mem_append, List.mem_singleton] at h
    rcases h with h | rfl
    · split_ifs at h with hn
      · cases h
      · exact ih (n / 16) (by omega) h
    · exact hdigit _ (by omega)

def escapeSigns : List (Char × Char) :=
  [('"', '"'), ('\\', '\\'), ('\n', 'n'), ('\r', 'r'), ('\t', 't'), ('\x00', '0')]

theorem escapeChar_cases (c : Char) :
    (c ≠ '"' ∧ c ≠ '\\' ∧ escapeChar c = [c]) ∨
      (∃ sign, (c, sign) ∈ escapeSigns ∧ escapeChar c = ['\\', sign]) ∨
      escapeChar c = '\\' :: 'u' :: '{' :: (Nat.toDigits 16 c.toNat ++ ['}']) := by
  unfold escapeChar
  split
  case h_7 hquote hbackslash _ _ _ _ =>
    split
    · exact .inr (.inr (by simp))
    · exact .inl ⟨hquote, hbackslash, rfl⟩
  all_goals exact .inr (.inl ⟨_, by decide, rfl⟩)

/-- The escaped form of a character says where it ends. -/
theorem escapeChar_append_inj {c d : Char} {u v : List Char}
    (h : escapeChar c ++ u = escapeChar d ++ v) : c = d ∧ u = v := by
  have hsigns : ∀ p ∈ escapeSigns, ∀ q ∈ escapeSigns, p.2 = q.2 → p = q := by decide
  have hcode : ∀ p ∈ escapeSigns, p.2 ≠ 'u' := by decide
  rcases escapeChar_cases c with ⟨-, hc, hcs⟩ | ⟨sign, hc, hcs⟩ | hcs <;>
    rcases escapeChar_cases d with ⟨-, hd, hds⟩ | ⟨sign', hd, hds⟩ | hds <;>
    rw [hcs, hds] at h
  case inl.inl => simpa using h
  case inr.inl.inr.inl =>
    obtain ⟨rfl, rfl⟩ : sign = sign' ∧ u = v := by simpa using h
    exact ⟨congrArg Prod.fst (hsigns _ hc _ hd rfl), rfl⟩
  case inr.inr.inr.inr =>
    have hdigits : Nat.toDigits 16 c.toNat ++ '}' :: u = Nat.toDigits 16 d.toNat ++ '}' :: v := by
      simpa using h
    obtain ⟨heq, hend⟩ := run_append_inj (p := (· ≠ '}'))
      (fun _ hc => decide_eq_true (ne_brace_of_mem_toDigits_sixteen hc))
      (fun _ hc => decide_eq_true (ne_brace_of_mem_toDigits_sixteen hc)) (by simp) (by simp) hdigits
    exact ⟨Char.toNat_inj.mp (toDigits_sixteen_inj heq), (List.cons.inj hend).2⟩
  case inl.inr.inl | inl.inr.inr => exact absurd (List.cons.inj h).1 hc
  case inr.inl.inl | inr.inr.inl => exact absurd (List.cons.inj h).1.symm hd
  case inr.inl.inr.inr => exact absurd (List.cons.inj (List.cons.inj h).2).1 (hcode _ hc)
  case inr.inr.inr.inl => exact absurd (List.cons.inj (List.cons.inj h).2).1.symm (hcode _ hd)

theorem quoteChars_append_inj {s t u v : List Char}
    (h : quoteChars s ++ u = quoteChars t ++ v) : s = t ∧ u = v := by
  have hquote : ∀ c u v, escapeChar c ++ u ≠ '"' :: v := by
    intro c u v
    rcases escapeChar_cases c with ⟨hc, -, hcs⟩ | ⟨sign, -, hcs⟩ | hcs
    · simp [hcs, hc]
    · simp [hcs]
    · simp [hcs]
  have hbody : s.flatMap escapeChar ++ '"' :: u = t.flatMap escapeChar ++ '"' :: v := by
    simpa [quoteChars] using h
  have hitems : ∀ c ∈ s, ∀ d ∈ t, Apart escapeChar id (fun _ => True) c d :=
    fun c _ d _ u v _ _ h => escapeChar_append_inj h
  obtain ⟨hs, hend⟩ := map_eq_of_flatMap_append hitems (fun _ _ => trivial) trivial trivial
    (fun c w => hquote c w u) (fun c w => hquote c w v) hbody
  exact ⟨by simpa using hs, (List.cons.inj hend).2⟩

end Text

namespace Literal

open Text (Apart)

theorem joinChars_cons (separator text : List Char) (texts : List (List Char)) :
    joinChars separator (text :: texts) = text ++ texts.flatMap (separator ++ ·) := by
  induction texts generalizing text with
  | nil => simp [joinChars]
  | cons next texts ih => simp [joinChars, ih]

/-- Items between commas, each of which can be told where a comma or the end follows. -/
theorem map_eq_of_joinChars_append {α β : Type} {text : α → List Char} {key : α → β}
    {Ends : List Char → Prop} {l l' : List α} {s t : List Char}
    (hitems : ∀ a ∈ l, ∀ b ∈ l', Apart text key Ends a b) (hcomma : ∀ u, Ends (',' :: u))
    (hs : Ends s) (ht : Ends t) (hnes : ∀ b ∈ l', ∀ u, text b ++ u ≠ s)
    (hnet : ∀ a ∈ l, ∀ u, text a ++ u ≠ t) (hcommas : s.head? ≠ some ',')
    (hcommat : t.head? ≠ some ',')
    (h : joinChars [',', ' '] (l.map text) ++ s = joinChars [',', ' '] (l'.map text) ++ t) :
    l.map key = l'.map key ∧ s = t := by
  cases l with
  | nil =>
    cases l' with
    | nil => exact ⟨rfl, h⟩
    | cons b l' =>
      rw [List.map_cons, joinChars_cons, List.append_assoc] at h
      exact absurd h.symm (hnes b List.mem_cons_self _)
  | cons a l =>
    cases l' with
    | nil =>
      rw [List.map_cons, joinChars_cons, List.append_assoc] at h
      exact absurd h (hnet a List.mem_cons_self _)
    | cons b l' =>
      have hends : ∀ (l : List α) {u}, Ends u →
          Ends ((l.map text).flatMap ([',', ' '] ++ ·) ++ u) := by
        intro l u hu
        cases l with
        | nil => exact hu
        | cons c l => exact hcomma _
      simp only [List.map_cons, joinChars_cons, List.append_assoc] at h
      obtain ⟨hkey, hrest⟩ := hitems a List.mem_cons_self b List.mem_cons_self _ _ (hends l hs)
        (hends l' ht) h
      -- What is left is one text for each item, which begins with its comma.
      rw [List.flatMap_map, List.flatMap_map] at hrest
      have hbehind : ∀ a ∈ l, ∀ b ∈ l', Apart (fun a => [',', ' '] ++ text a) key Ends a b := by
        intro a ha b hb u v hu hv h
        exact hitems a (List.mem_cons_of_mem _ ha) b (List.mem_cons_of_mem _ hb) u v hu hv
          (List.cons.inj (List.cons.inj h).2).2
      obtain ⟨hkeys, hend⟩ := Text.map_eq_of_flatMap_append hbehind (fun a u => hcomma _) hs ht
        (fun a u hu => hcommas (by rw [← hu]; rfl)) (fun a u hu => hcommat (by rw [← hu]; rfl))
        hrest
      exact ⟨by rw [List.map_cons, List.map_cons, hkey, hkeys], hend⟩

end Literal

end WikiRows
