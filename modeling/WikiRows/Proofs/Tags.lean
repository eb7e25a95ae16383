import WikiRows.Proofs.Grammar
import WikiRows.Xml.Printer

/-!
# Printed tags

An escaped text holds no character that begins or ends markup, and resolving its references gives
the text. So the content of a tag that is printed with an ordinary name and distinct ordinary keys
reads back as that name and these attributes, whatever their values are.
-/

namespace WikiRows

namespace Xml

def isNameChar (c : Char) : Bool :=
  !(isSpace c || ['<', '>', '&', '"', '\'', '=', '/', '!', '?'].contains c)

/-- A name that needs no care in a tag. -/
def IsName (s : String) : Prop := s ≠ "" ∧ ∀ c ∈ s.toList, isNameChar c = true

instance : DecidablePred IsName := fun _ => inferInstanceAs (Decidable (_ ∧ _))

def tagChars (name : String) (attributes : List (String × String)) : List Char :=
  name.toList ++ attributes.flatMap attributeChars

theorem IsName.exists_cons {s : String} (h : IsName s) :
    ∃ c cs, s.toList = c :: cs ∧ isNameChar c = true ∧ ∀ d ∈ cs, isNameChar d = true := by
  cases hs : s.toList with
  | nil => exact absurd (String.toList_eq_nil_iff.mp hs) h.1
  | cons c cs =>
    have hall := h.2
    rw [hs] at hall
    obtain ⟨hc, hcs⟩ := List.forall_mem_cons.mp hall
    exact ⟨c, cs, rfl, hc, hcs⟩

theorem isSpace_of_isNameChar {c : Char} (h : isNameChar c = true) : isSpace c = false := by
  simp [isNameChar] at h
  exact h.1

theorem ne_of_isNameChar {c d : Char} (h : isNameChar c = true) (hd : isNameChar d = false) :
    c ≠ d := by
  rintro rfl
  simp [h] at hd

theorem escapeChar_of_notMem {c : Char} (h : c ∉ ['<', '>', '&', '\'', '"']) :
    escapeChar c = [c] := by
  unfold escapeChar
  split <;> simp_all

theorem notMem_escape {c : Char} (hc : c ∈ ['<', '>', '\'', '"']) (s : List Char) :
    c ∉ escape s := by
  intro hmem
  obtain ⟨d, -, hd⟩ := List.mem_flatMap.mp hmem
  by_cases hspecial : d ∈ ['<', '>', '&', '\'', '"']
  · simp only [List.mem_cons, List.not_mem_nil, or_false] at hspecial hc
    rcases hspecial with rfl | rfl | rfl | rfl | rfl <;> rcases hc with rfl | rfl | rfl | rfl <;>
      simp [escapeChar] at hd
  · rw [escapeChar_of_notMem hspecial, List.mem_singleton] at hd
    subst hd
    simp at hc hspecial
    tauto

theorem outputs_escape (s : List Char) : resolver.outputs none (escape s) = s.map some := by
  induction s with
  | nil => rfl
  | cons c s ih =>
    rw [List.map_cons, ← ih]
    by_cases hspecial : c ∈ ['<', '>', '&', '\'', '"']
    · simp only [List.mem_cons, List.not_mem_nil, or_false] at hspecial
      rcases hspecial with rfl | rfl | rfl | rfl | rfl <;> rfl
    · have hamp : c ≠ '&' := by
        rintro rfl
        simp at hspecial
      rw [escape, List.flatMap_cons, escapeChar_of_notMem hspecial]
      simp [Transducer.outputs, resolver, hamp, escape]

theorem unescape?_escape (s : List Char) : unescape? (escape s) = some s := by
  rw [unescape?, Transducer.run_eq, outputs_escape]
  induction s with
  | nil => rfl
  | cons c s ih => simp [ih]

namespace Tag

variable {name : String} {attributes : List (String × String)}

theorem name_tagChars (h : IsName name) : Tag.name (tagChars name attributes) = name.toList := by
  have hname : ∀ c ∈ name.toList, (!isSpace c) = true :=
    fun c hc => by simp [isSpace_of_isNameChar (h.2 c hc)]
  have hattributes : (attributes.flatMap attributeChars).takeWhile (fun c => !isSpace c) = [] := by
    cases attributes with
    | nil => rfl
    | cons pair attributes => simp [attributeChars, isSpace]
  rw [Tag.name, tagChars, List.takeWhile_append_of_pos hname, hattributes, List.append_nil]

variable {done : List (String × String)} {rest : List Char}

theorem attributesFrom_key {cs : List Char} (h : ∀ c ∈ cs, isNameChar c = true)
    (read : List Char) :
    attributesFrom done (.key read) (cs ++ rest) =
      attributesFrom done (.key (cs.reverse ++ read)) rest := by
  induction cs generalizing read with
  | nil => rfl
  | cons c cs ih =>
    obtain ⟨hc, hcs⟩ := List.forall_mem_cons.mp h
    rw [List.cons_append, attributesFrom]
    simp [ne_of_isNameChar hc (d := '=') rfl, isSpace_of_isNameChar hc, ih hcs]

theorem attributesFrom_value {quote : Char} {s : List Char} (h : quote ∉ s)
    (key read : List Char) :
    attributesFrom done (.value key quote read) (s ++ rest) =
      attributesFrom done (.value key quote (s.reverse ++ read)) rest := by
  induction s generalizing read with
  | nil => rfl
  | cons c s ih =>
    obtain ⟨hc, hs⟩ := not_or.mp (mt List.mem_cons.mpr h)
    rw [List.cons_append, attributesFrom]
    simp [Ne.symm hc, ih hs]

theorem attributesFrom_attributeChars {pair : String × String} (hname : IsName pair.1)
    (hnew : pair.1 ∉ done.map Prod.fst) :
    attributesFrom done .between (attributeChars pair ++ rest) =
      attributesFrom (done ++ [pair]) .between rest := by
  obtain ⟨key, value⟩ := pair
  obtain ⟨c, cs, hkey, hc, hcs⟩ := hname.exists_cons
  have hend : endKey done key.toList = .ok (.afterEquals key.toList) := by
    have hany : (done.any fun pair => pair.1 = key) = false := by
      rw [List.any_eq_false]
      rintro pair hpair heq
      exact hnew (List.mem_map.mpr ⟨pair, hpair, by simpa using heq⟩)
    simp [endKey, hany]
  have hspace : isSpace ' ' = true := rfl
  calc attributesFrom done .between (attributeChars (key, value) ++ rest)
      = attributesFrom done (.key [c])
          (cs ++ '=' :: '"' :: (escape value.toList ++ '"' :: rest)) := by
        simp [attributeChars, hkey, attributesFrom, isSpace_of_isNameChar hc, hspace]
    _ = attributesFrom done (.afterEquals key.toList)
          ('"' :: (escape value.toList ++ '"' :: rest)) := by
        rw [attributesFrom_key hcs, attributesFrom]
        simp [← hkey, hend]
    _ = attributesFrom done (.value key.toList '"' []) (escape value.toList ++ '"' :: rest) := by
        simp [attributesFrom, isSpace]
    _ = attributesFrom (done ++ [(key, value)]) .between rest := by
        rw [attributesFrom_value (notMem_escape (by simp) _), attributesFrom]
        simp [unescape?_escape]

theorem attributesFrom_flatMap (hnames : ∀ pair ∈ attributes, IsName pair.1)
    (hnodup : ((done ++ attributes).map Prod.fst).Nodup) :
    attributesFrom done .between (attributes.flatMap attributeChars) =
      .ok (done ++ attributes) := by
  induction attributes generalizing done with
  | nil => simp [attributesFrom]
  | cons pair attributes ih =>
    obtain ⟨hpair, hattributes⟩ := List.forall_mem_cons.mp hnames
    have hnew : pair.1 ∉ done.map Prod.fst := by
      rw [List.map_append, List.nodup_append'] at hnodup
      exact fun hmem => hnodup.2.2 hmem (by simp)
    rw [List.append_cons] at hnodup ⊢
    rw [List.flatMap_cons, attributesFrom_attributeChars hpair hnew, ih hattributes hnodup]

theorem element_tagChars (hname : IsName name) (hnames : ∀ pair ∈ attributes, IsName pair.1)
    (hnodup : (attributes.map Prod.fst).Nodup) :
    element (tagChars name attributes) = .ok ⟨name, attributes, "", []⟩ := by
  have hread : Tag.attributes (tagChars name attributes) = .ok attributes := by
    rw [Tag.attributes, name_tagChars hname, tagChars, List.drop_left]
    exact attributesFrom_flatMap hnames hnodup
  rw [element, hread, name_tagChars hname, String.ofList_toList]
  rfl

end Tag

end Xml

end WikiRows
