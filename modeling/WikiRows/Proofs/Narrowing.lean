import WikiRows.Proofs.Member
import WikiRows.Proofs.Parameters

/-!
# Selections that fetch less

A selector that uses the row only to read members of it is evaluated alike on rows that hold the
same under the wire names of these members. A selection fetches just these names, so that what it
leaves out cannot matter; `Clauses.select_eq_ok_iff` says what a selection comes to.
-/

namespace WikiRows

namespace Keyed

variable {α : Type}

theorem lookup_cons (pair : String × α) (l : List (String × α)) (key : String) :
    (pair :: l).lookup key = if pair.1 = key then some pair.2 else l.lookup key := by
  obtain ⟨k, v⟩ := pair
  rw [List.lookup_cons]
  by_cases hk : k = key
  · simp [hk]
  · simp [hk, beq_false_of_ne (Ne.symm hk)]

theorem lookup_map {β : Type} (f : α → β) (l : List (String × α)) (key : String) :
    (l.map fun pair => (pair.1, f pair.2)).lookup key = (l.lookup key).map f := by
  induction l with
  | nil => rfl
  | cons pair l ih =>
    rw [List.map_cons, lookup_cons, lookup_cons, ih]
    split_ifs <;> rfl

end Keyed

namespace NameSet

theorem mem_insert {name n : String} {names : List String} :
    n ∈ insert name names ↔ n = name ∨ n ∈ names := by
  induction names with
  | nil => simp [insert]
  | cons first rest ih =>
    unfold insert
    split_ifs with hlt heq
    · simp
    · simp [heq]
    · simp only [List.mem_cons, ih]
      tauto

theorem mem_ofList {n : String} {names : List String} : n ∈ ofList names ↔ n ∈ names := by
  have h : ∀ sorted, n ∈ names.foldl (fun sorted name => insert name sorted) sorted ↔
      n ∈ sorted ∨ n ∈ names := by
    induction names with
    | nil => simp
    | cons first rest ih =>
      intro sorted
      rw [List.foldl_cons, ih, mem_insert, List.mem_cons]
      tauto
  simpa [ofList] using h []

theorem pairwise_insert {name : String} {names : List String} (h : names.Pairwise (· < ·)) :
    (insert name names).Pairwise (· < ·) := by
  fun_induction insert name names with
  | case1 => simp
  | case2 n rest hlt =>
    refine List.pairwise_cons.mpr ⟨fun other hother => ?_, h⟩
    rcases List.mem_cons.mp hother with rfl | hother
    · exact hlt
    · exact hlt.trans (List.rel_of_pairwise_cons h hother)
  | case3 => exact h
  | case4 n rest hlt hne ih =>
    obtain ⟨hfirst, hrest⟩ := List.pairwise_cons.mp h
    refine List.pairwise_cons.mpr ⟨fun other hother => ?_, ih hrest⟩
    rcases mem_insert.mp hother with rfl | hother
    · exact lt_of_le_of_ne (not_lt.mp hlt) (Ne.symm hne)
    · exact hfirst other hother

theorem pairwise_ofList (names : List String) : (ofList names).Pairwise (· < ·) := by
  induction names using List.reverseRecOn with
  | nil => exact .nil
  | append_singleton names name ih =>
    rw [ofList, List.foldl_append]
    exact pairwise_insert ih

end NameSet

namespace Row

/-- Rows that hold the same, or both nothing, under each of some names. -/
def Agree (names : List String) (r s : Row) : Prop :=
  ∀ name ∈ names, r.lookup name = s.lookup name

theorem get?_toJson (r : Row) (name : String) :
    r.toJson.get? name = (r.lookup name).map .str := Keyed.lookup_map Json.str r name

end Row

namespace Expr

theorem eval_rowMember (r : Row) (name : String) :
    (member row name).eval r = ((r.lookup (MemberName.wire name)).map .str).getD .null := by
  simp only [eval, Row.get?_toJson]

variable {r s : Row}

mutual

/-- An expression that does not use the row as a whole looks at the members it reads, and at
nothing else of the row. -/
theorem eval_eq_of_agree (e : Expr) (hw : e.usesWholeRow = false)
    (h : Row.Agree (e.rowMembers.map MemberName.wire) r s) : e.eval r = e.eval s := by
  match e with
  | row => simp [usesWholeRow] at hw
  | member target name =>
    by_cases ht : target = row
    · subst ht
      rw [eval_rowMember, eval_rowMember, h (MemberName.wire name) (by simp [rowMembers])]
    · have htarget : target.eval r = target.eval s := by
        apply eval_eq_of_agree target
        · simpa [usesWholeRow, ht] using hw
        · simpa [rowMembers, ht] using h
      simp only [eval, htarget]
  | const value => simp only [eval]
  | not operand =>
    have ho := eval_eq_of_agree operand (by simpa [usesWholeRow] using hw)
      (by simpa [rowMembers] using h)
    simp only [eval, ho]
  | binary op left right =>
    simp only [usesWholeRow, Bool.or_eq_false_iff] at hw
    simp only [rowMembers, List.map_append, Row.Agree, List.mem_append] at h
    have hl := eval_eq_of_agree left hw.1 fun name hn => h name (.inl hn)
    have hr := eval_eq_of_agree right hw.2 fun name hn => h name (.inr hn)
    simp only [eval, hl, hr]
  | call f args =>
    have ha := evalArgs_eq_of_agree args (by simpa [usesWholeRow] using hw)
      (by simpa [rowMembers] using h)
    simp only [eval, ha]
  | record fields =>
    have hf := evalFields_eq_of_agree fields (by simpa [usesWholeRow] using hw)
      (by simpa [rowMembers] using h)
    simp only [eval, hf]

theorem evalArgs_eq_of_agree (args : List Expr) (hw : argsUseWholeRow args = false)
    (h : Row.Agree ((argsRowMembers args).map MemberName.wire) r s) :
    evalArgs r args = evalArgs s args := by
  match args with
  | [] => rfl
  | arg :: args =>
    simp only [argsUseWholeRow, Bool.or_eq_false_iff] at hw
    simp only [argsRowMembers, List.map_append, Row.Agree, List.mem_append] at h
    rw [evalArgs, evalArgs, eval_eq_of_agree arg hw.1 fun name hn => h name (.inl hn),
      evalArgs_eq_of_agree args hw.2 fun name hn => h name (.inr hn)]

theorem evalFields_eq_of_agree (fields : List (String × Expr))
    (hw : fieldsUseWholeRow fields = false)
    (h : Row.Agree ((fieldsRowMembers fields).map MemberName.wire) r s) :
    evalFields r fields = evalFields s fields := by
  match fields with
  | [] => rfl
  | (name, value) :: fields =>
    simp only [fieldsUseWholeRow, Bool.or_eq_false_iff] at hw
    simp only [fieldsRowMembers, List.map_append, Row.Agree, List.mem_append] at h
    rw [evalFields, evalFields, eval_eq_of_agree value hw.1 fun name hn => h name (.inl hn),
      evalFields_eq_of_agree fields hw.2 fun name hn => h name (.inr hn)]

end

def selected? (e : Expr) : Option (List String) :=
  if e.usesWholeRow then none
  else some (NameSet.ofList ((NameSet.ofList e.rowMembers).map MemberName.wire))

theorem mem_of_selected? {e : Expr} {names : List String} (h : e.selected? = some names)
    {n : String} : n ∈ names ↔ n ∈ e.rowMembers.map MemberName.wire := by
  unfold selected? at h
  split_ifs at h
  obtain rfl := Option.some.inj h
  simp [NameSet.mem_ofList]

theorem usesWholeRow_of_selected? {e : Expr} {names : List String} (h : e.selected? = some names) :
    e.usesWholeRow = false := by
  unfold selected? at h
  split_ifs at h with hw
  simpa using hw

end Expr

namespace Clauses

/-- A selection looks up the members it reads, and sets the properties to fetch and the projection
whatever they were. -/
theorem select_eq (m : ApiModule) (c : Clauses) (e : Expr) :
    select m c e = (m.resolveAll (NameSet.ofList e.rowMembers)).map fun _ =>
      c.withSelection e.selected? (.ofSelector e) := by
  unfold select
  cases hr : m.resolveAll (NameSet.ofList e.rowMembers) with
  | error failure => rfl
  | ok wires =>
    obtain ⟨-, rfl⟩ := ApiModule.resolveAll_eq_ok_iff.mp hr
    rfl

theorem select_eq_ok_iff {m : ApiModule} {c c' : Clauses} {e : Expr} :
    select m c e = .ok c' ↔
      (∀ name ∈ e.rowMembers, ∃ p, m.Declares name p) ∧
        c' = c.withSelection e.selected? (.ofSelector e) := by
  simp only [select_eq, Traversal.map_eq_ok_iff, ApiModule.resolveAll_eq_ok_iff,
    NameSet.mem_ofList]
  constructor
  · rintro ⟨_, ⟨hd, -⟩, rfl⟩
    exact ⟨hd, rfl⟩
  · rintro ⟨hd, rfl⟩
    exact ⟨_, ⟨hd, rfl⟩, rfl⟩

/-- The names that a narrowed selection fetches are names of requests. -/
theorem isWireName_of_select {m : ApiModule} {c c' : Clauses} {e : Expr} {names : List String}
    (h : select m c e = .ok c') (hn : c'.properties = some names) :
    ∀ n ∈ names, MemberName.IsWireName n := by
  obtain ⟨hd, rfl⟩ := select_eq_ok_iff.mp h
  intro n hmem
  obtain ⟨name, hname, rfl⟩ := List.mem_map.mp ((Expr.mem_of_selected? hn).mp hmem)
  obtain ⟨p, hp⟩ := hd name hname
  exact MemberName.isWireName_wire hp.1

end Clauses

namespace Projection

theorem ofSelector_of_selected? {e : Expr} {names : List String} (h : e.selected? = some names) :
    ofSelector e = .of e := by
  unfold ofSelector
  split
  · simp [Expr.selected?, Expr.usesWholeRow] at h
  · rfl

end Projection

namespace Query

theorem propertyParameter_of_some {m : ApiModule} {c : Clauses} {names : List String}
    (h : c.properties = some names) :
    propertyParameter m c =
      [.text (m.stem ++ "prop") ("|".intercalate (names.filter (· ≠ "*")))] := by
  simp [propertyParameter, fetched, h]

/-- Names without bars can be told apart when bars are put between them. -/
theorem split_intercalate {names : List String} (h : ∀ n ∈ names, MemberName.IsWireName n) :
    if names = [] then "|".intercalate names = ""
    else (("|".intercalate names).split '|').toList.map (·.copy) = names := by
  have hbar : ∀ n ∈ names, '|' ∉ n.toList :=
    fun n hn => MemberName.bar_notMem_of_isWireName (h n hn)
  split_ifs with hnil
  · rw [hnil]
    rfl
  · have hs := String.toList_split_intercalate hbar
    rw [if_neg hnil] at hs
    exact hs

/-- A selection that is narrowed to some names projects rows alike that agree on these names, and
its request asks for exactly these names, apart from the text of the row, which has none. -/
theorem narrowing_sound {m : ApiModule} {c c' : Clauses} {selector : Expr} {names : List String}
    (hs : Clauses.select m c selector = .ok c') (hn : c'.properties = some names) :
    (∃ p, c'.projection = some p ∧ ∀ r s : Row, Row.Agree names r s → p.apply r = p.apply s) ∧
    ∃ value rest,
      requestOf m c' = .text "action" "query" ::
        .text (if m.answersList then "list" else "meta") m.name ::
        .text (m.stem ++ "prop") value :: rest ∧
      (∀ p ∈ rest, p.name = m.stem ++ "prop" → "prop" ∈ c.values.map Prod.fst) ∧
      (if names.filter (· ≠ "*") = [] then value = ""
        else (value.split '|').toList.map (·.copy) = names.filter (· ≠ "*")) := by
  have hwire := Clauses.isWireName_of_select hs hn
  obtain ⟨-, rfl⟩ := Clauses.select_eq_ok_iff.mp hs
  have hsel : selector.selected? = some names := hn
  refine ⟨⟨.ofSelector selector, rfl, ?_⟩, "|".intercalate (names.filter (· ≠ "*")), ?_⟩
  · intro r s h
    rw [Projection.ofSelector_of_selected? hsel]
    apply Expr.eval_eq_of_agree selector (Expr.usesWholeRow_of_selected? hsel)
    exact fun n hmem => h n ((Expr.mem_of_selected? hsel).mpr hmem)
  · refine ⟨laterParameters m (c.withSelection selector.selected? (.ofSelector selector)), ?_, ?_,
      split_intercalate fun n hmem => hwire n (List.mem_filter.mp hmem).1⟩
    · rw [requestOf_eq, propertyParameter_of_some hn]
      rfl
    · intro p hp hname
      have hmem := List.mem_map_of_mem (f := Parameter.name) hp
      rw [names_laterParameters, hname, List.mem_map] at hmem
      obtain ⟨name, hlater, hstem⟩ := hmem
      obtain rfl := (String.append_right_inj m.stem).mp hstem
      simpa [Clauses.withSelection] using mem_laterStemless.mp hlater

/-- A record of the title in capitals and of the text of the row looks at these two only, and asks
for the title alone. -/
theorem narrowing_sound_record :
    let m : ApiModule := ⟨"items", "it", [⟨"Title", .named "string", false⟩,
      ⟨"*", .named "string", false⟩, ⟨"ns", .named "integer", false⟩], true⟩
    let selector : Expr := .record [("label", .call .upper [.member .row "title"]),
      ("body", .member .row "Value")]
    let c : Clauses := Clauses.empty.withSelection (some ["*", "title"]) (.of selector)
    Clauses.select m .empty selector = .ok c ∧ c.properties = some ["*", "title"] ∧
    Row.Agree ["*", "title"] [("*", "b"), ("title", "a")] [("*", "b"), ("ns", "0"), ("title", "a")] ∧
    selector.eval [("*", "b"), ("title", "a")] =
      selector.eval [("*", "b"), ("ns", "0"), ("title", "a")] ∧
    ∃ value rest, requestOf m c = .text "action" "query" :: .text "list" "items" ::
      .text "itprop" value :: rest ∧ (value.split '|').toList.map (·.copy) = ["title"] := by
  intro m selector c
  have hs : Clauses.select m .empty selector = .ok c := by rfl
  have ha : Row.Agree ["*", "title"] [("*", "b"), ("title", "a")]
      [("*", "b"), ("ns", "0"), ("title", "a")] := by
    unfold Row.Agree
    decide
  obtain ⟨⟨p, hp, happly⟩, value, rest, hreq, -, hsplit⟩ := narrowing_sound hs rfl
  obtain rfl := Option.some.inj hp
  exact ⟨hs, rfl, ha, happly _ _ ha, value, rest, hreq, hsplit⟩

end Query

end WikiRows
