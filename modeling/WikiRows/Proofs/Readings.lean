import WikiRows.Proofs.Delimited
import WikiRows.Proofs.Layers

/-!
# What the text of an expression says

Every text of an expression says where it ends, if it is known what may stand behind it: a space, a
comma or a parenthesis behind an operand, and behind any other expression the same but no operator.
Up to its end the text says what the expression reads as, and no more, so that `display_eq_iff_asRead`
follows. The induction goes over the parts of cores, since a text shows the core between its layers.
-/

namespace WikiRows

namespace MemberName

/-- A legal name ends where nothing follows that might belong to it. -/
theorem toList_append_inj {name other : String} {u v : List Char} (hname : isLegal name)
    (hother : isLegal other) (hu : ∀ c ∈ u.head?, isPart c = false)
    (hv : ∀ c ∈ v.head?, isPart c = false) (h : name.toList ++ u = other.toList ++ v) :
    name = other ∧ u = v := by
  have hparts : ∀ name : String, isLegal name → ∀ c ∈ name.toList, isPart c := by
    intro name hname c hc
    obtain ⟨first, rest, heq, hfirst, hrest⟩ := exists_cons_of_isLegal hname
    rw [heq, List.mem_cons] at hc
    rcases hc with rfl | hc
    · exact isPart_of_isStart hfirst
    · exact hrest c hc
  obtain ⟨hlist, hend⟩ := Text.run_append_inj (hparts name hname) (hparts other hother) hu hv h
  exact ⟨String.toList_inj.mp hlist, hend⟩

end MemberName

theorem Function.name_append_inj {f g : Function} {u v : List Char}
    (h : f.name.toList ++ '(' :: u = g.name.toList ++ '(' :: v) : f = g ∧ u = v := by
  have hletters : ∀ f : Function, ∀ c ∈ f.name.toList, decide (c ≠ '(') := by
    intro f
    cases f <;> simp [name]
  have hname : f.name = g.name → f = g := by cases f <;> cases g <;> simp [name]
  obtain ⟨hlist, hend⟩ := Text.run_append_inj (hletters f) (hletters g) (by simp) (by simp) h
  exact ⟨hname (String.toList_inj.mp hlist), (List.cons.inj hend).2⟩

theorem BinaryOp.chars_append_inj {op op' : BinaryOp} {u v : List Char}
    (h : op.chars ++ ' ' :: u = op'.chars ++ ' ' :: v) : op = op' ∧ u = v := by
  have hsigns : ∀ op : BinaryOp, ∀ c ∈ op.chars, decide (c ≠ ' ') := by
    intro op
    cases op <;> simp [chars]
  have hchars : op.chars = op'.chars → op = op' := by cases op <;> cases op' <;> simp [chars]
  obtain ⟨hlist, hend⟩ := Text.run_append_inj (hsigns op) (hsigns op') (by simp) (by simp) h
  exact ⟨hchars hlist, (List.cons.inj hend).2⟩

namespace Expr

open Text (Apart)

/-! ## Where texts begin and end -/

def EndsOperand (s : List Char) : Prop := ∀ c ∈ s.head?, c = ' ' ∨ c = ',' ∨ c = ')'

/-- What may stand behind an expression that is no operand. -/
inductive EndsWhole : List Char → Prop
  | nothing : EndsWhole []
  | comma (rest : List Char) : EndsWhole (',' :: rest)
  | parenthesis (rest : List Char) : EndsWhole (')' :: rest)
  | brace (rest : List Char) : EndsWhole (' ' :: '}' :: rest)

theorem EndsWhole.endsOperand {s : List Char} (h : EndsWhole s) : EndsOperand s := by
  cases h <;> simp [EndsOperand]

theorem not_endsWhole_op (op : BinaryOp) (rest s : List Char) :
    ¬ EndsWhole (' ' :: (op.chars ++ rest) ++ s) := by
  intro h
  cases op <;> cases h

theorem EndsOperand.isPart_head {s : List Char} (h : EndsOperand s) :
    ∀ c ∈ s.head?, MemberName.isPart c = false := by
  intro c hc
  rcases h c hc with rfl | rfl | rfl <;> decide

theorem EndsOperand.memberText_ne {s : List Char} (h : EndsOperand s) (name : String)
    (u : List Char) : memberText name ++ u ≠ s := by
  rintro rfl
  simp [EndsOperand, memberText] at h

def marks : Expr → List Char
  | row => ['x']
  | const _ => ['"']
  | binary _ _ _ => ['(']
  | call _ _ => ['l', 'u', 'c']
  | record _ => ['{']
  | member _ _ | not _ => []

theorem exists_mem_marks {e : Expr} (he : Plain e) (hcore : e.isLayer = false) :
    ∃ c rest, e.operandText = c :: rest ∧ c ∈ e.marks := by
  cases he with
  | row => exact ⟨'x', [], rfl, List.mem_singleton_self _⟩
  | text s => exact ⟨'"', _, rfl, List.mem_singleton_self _⟩
  | binary op before behind => exact ⟨'(', _, rfl, List.mem_singleton_self _⟩
  | call f within =>
    have hname : ∃ c rest, f.name.toList = c :: rest ∧ c ∈ ['l', 'u', 'c'] := by
      cases f <;> simp [Function.name]
    obtain ⟨c, rest, heq, hc⟩ := hname
    exact ⟨c, _, by rw [operandText, operandChars, chars, heq]; rfl, hc⟩
  | record legal within => exact ⟨'{', _, rfl, List.mem_singleton_self _⟩
  | member | not => cases hcore

theorem ne_of_mem_marks {e : Expr} {c : Char} (h : c ∈ e.marks) : c ≠ '!' ∧ c ≠ ')' := by
  cases e with
  | row | const | binary | record => rw [List.mem_singleton.mp h]; decide
  | call f args =>
    have hletters : ∀ c ∈ ['l', 'u', 'c'], c ≠ '!' ∧ c ≠ ')' := by simp
    exact hletters c h
  | member | not => cases h

theorem exists_cons_operandText {e : Expr} (he : Plain e) :
    ∃ c rest, e.operandText = c :: rest ∧ c ≠ ')' := by
  obtain ⟨c, rest, heq, hc⟩ := exists_mem_marks he.core (isLayer_core e)
  rw [operandText_eq_layers, heq]
  cases e.negations with
  | zero => exact ⟨c, _, rfl, (ne_of_mem_marks hc).2⟩
  | succ count => exact ⟨'!', _, rfl, by decide⟩

theorem exists_cons_chars {e : Expr} (he : Plain e) :
    ∃ c rest, e.chars = c :: rest ∧ c ≠ ')' := by
  cases hb : e.isBinary with
  | false =>
    rw [chars_of_not_isBinary hb]
    exact exists_cons_operandText he
  | true =>
    obtain ⟨op, left, right, rfl⟩ := exists_eq_binary hb
    have hleft : Plain left := he.part (by simp [parts])
    obtain ⟨c, rest, heq, hc⟩ := exists_cons_operandText hleft
    exact ⟨c, _, by rw [chars_binary, heq]; rfl, hc⟩

/-! ## One step of the induction -/

/-- The texts of an expression, as an operand and on its own, say what it reads as and where they
end. -/
structure Told (e : Expr) : Prop where
  operand : ∀ f, Plain f → Apart operandText asRead EndsOperand e f
  whole : ∀ f, Plain f → Apart chars asRead EndsWhole e f

theorem path_append_inj {l l' : List String} (hl : ∀ name ∈ l, MemberName.isLegal name)
    (hl' : ∀ name ∈ l', MemberName.isLegal name) {s t : List Char} (hs : EndsOperand s)
    (ht : EndsOperand t) (h : l.flatMap memberText ++ s = l'.flatMap memberText ++ t) :
    l = l' ∧ s = t := by
  have hdot : MemberName.isPart '.' = false := by decide
  have hitems : ∀ a ∈ l, ∀ b ∈ l',
      Apart memberText id (fun u => ∀ c ∈ u.head?, MemberName.isPart c = false) a b :=
    fun a ha b hb u v hu hv h =>
      MemberName.toList_append_inj (hl a ha) (hl' b hb) hu hv (List.cons.inj h).2
  have hnext : ∀ a u, ∀ c ∈ (memberText a ++ u).head?, MemberName.isPart c = false := by
    intro a u c hc
    obtain rfl := Option.some.inj hc
    exact hdot
  obtain ⟨hpath, hend⟩ := Text.map_eq_of_flatMap_append hitems hnext hs.isPart_head ht.isPart_head
    hs.memberText_ne ht.memberText_ne h
  exact ⟨by simpa using hpath, hend⟩

theorem binary_append_inj {op op' : BinaryOp} {left right left' right' : Expr}
    (hleft' : Plain left') (hright' : Plain right') (hleft : Told left) (hright : Told right)
    {s t : List Char} (hs : EndsOperand s) (ht : EndsOperand t)
    (h : (binary op left right).chars ++ s = (binary op' left' right').chars ++ t) :
    (binary op left right).asRead = (binary op' left' right').asRead ∧ s = t := by
  simp only [chars_binary, List.append_assoc, List.cons_append] at h
  obtain ⟨hl, hrest⟩ := hleft.operand left' hleft' _ _ (by simp [EndsOperand])
    (by simp [EndsOperand]) h
  obtain ⟨rfl, hr⟩ := BinaryOp.chars_append_inj (List.cons.inj hrest).2
  obtain ⟨hr, hend⟩ := hright.operand right' hright' _ _ hs ht hr
  exact ⟨by rw [asRead, asRead, hl, hr], hend⟩

theorem call_append_inj {f g : Function} {args others : List Expr}
    (hargs : ∀ arg ∈ args, Plain arg) (hothers : ∀ arg ∈ others, Plain arg)
    (htold : ∀ arg ∈ args, Told arg) {s t : List Char}
    (h : (call f args).chars ++ s = (call g others).chars ++ t) :
    (call f args).asRead = (call g others).asRead ∧ s = t := by
  simp only [chars, argsChars_eq_map, List.append_assoc, List.cons_append] at h
  obtain ⟨rfl, hlist⟩ := Function.name_append_inj h
  have hbegins : ∀ args : List Expr, (∀ arg ∈ args, Plain arg) → ∀ arg ∈ args, ∀ u s,
      arg.chars ++ u ≠ ')' :: s := by
    intro args hargs arg harg u s hu
    obtain ⟨c, rest, hc, hne⟩ := exists_cons_chars (hargs arg harg)
    rw [hc] at hu
    exact hne (List.cons.inj hu).1
  have hitems : ∀ a ∈ args, ∀ b ∈ others, Apart chars asRead EndsWhole a b :=
    fun a ha b hb => (htold a ha).whole b (hothers b hb)
  obtain ⟨hmap, hend⟩ := Literal.map_eq_of_joinChars_append hitems .comma (.parenthesis s)
    (.parenthesis t) (fun b hb u => hbegins others hothers b hb u s)
    (fun a ha u => hbegins args hargs a ha u t) (by simp) (by simp) hlist
  exact ⟨by rw [asRead, asRead, argsAsRead_eq_map, argsAsRead_eq_map, hmap],
    (List.cons.inj hend).2⟩

theorem fieldText_apart {field other : String × Expr} (hname : MemberName.isLegal field.1)
    (hother : MemberName.isLegal other.1) (hplain : Plain other.2) (htold : Told field.2) :
    Apart fieldText (fun field => (field.1, field.2.asRead)) EndsWhole field other := by
  intro s t hs ht h
  have hcolon : MemberName.isPart ':' = false := by decide
  simp only [fieldText, List.append_assoc, List.cons_append] at h
  obtain ⟨heq, hvalue⟩ := MemberName.toList_append_inj hname hother (by simp [hcolon])
    (by simp [hcolon]) h
  obtain ⟨hread, hend⟩ := htold.whole other.2 hplain s t hs ht
    (List.cons.inj (List.cons.inj hvalue).2).2
  exact ⟨Prod.ext heq hread, hend⟩

theorem record_append_inj {fields others : List (String × Expr)}
    (hlegal : ∀ field ∈ fields, MemberName.isLegal field.1)
    (hlegal' : ∀ field ∈ others, MemberName.isLegal field.1)
    (hothers : ∀ field ∈ others, Plain field.2) (htold : ∀ field ∈ fields, Told field.2)
    {s t : List Char} (h : (record fields).chars ++ s = (record others).chars ++ t) :
    (record fields).asRead = (record others).asRead ∧ s = t := by
  have hbegins : ∀ fields : List (String × Expr), (∀ field ∈ fields, MemberName.isLegal field.1) →
      ∀ field ∈ fields, ∀ u s, fieldText field ++ u ≠ ' ' :: s := by
    intro fields hlegal field hfield u s hu
    obtain ⟨c, rest, hc, hstart, -⟩ := MemberName.exists_cons_of_isLegal (hlegal field hfield)
    rw [fieldText, hc] at hu
    obtain rfl := (List.cons.inj hu).1
    exact absurd hstart (by decide)
  simp only [chars, fieldsChars_eq_map, List.append_assoc, List.cons_append, List.cons.injEq,
    true_and, List.nil_append] at h
  have hitems : ∀ a ∈ fields, ∀ b ∈ others,
      Apart fieldText (fun field => (field.1, field.2.asRead)) EndsWhole a b :=
    fun a ha b hb => fieldText_apart (hlegal a ha) (hlegal' b hb) (hothers b hb) (htold a ha)
  obtain ⟨hmap, hend⟩ := Literal.map_eq_of_joinChars_append hitems .comma (.brace s) (.brace t)
    (fun b hb u => hbegins others hlegal' b hb u _)
    (fun a ha u => hbegins fields hlegal a ha u _) (by simp) (by simp) h
  refine ⟨by rw [asRead, asRead, fieldsAsRead_eq_map, fieldsAsRead_eq_map, hmap], ?_⟩
  exact (List.cons.inj (List.cons.inj hend).2).2

/-- The text of a core says what it reads as and where it ends, whatever follows. -/
theorem core_append_inj {e f : Expr} (he : Plain e) (hf : Plain f) (hecore : e.isLayer = false)
    (hfcore : f.isLayer = false) (ih : ∀ part ∈ e.parts, Told part) {s t : List Char}
    (h : e.operandText ++ s = f.operandText ++ t) : e.asRead = f.asRead ∧ s = t := by
  have hmarks : ∃ c ∈ e.marks, c ∈ f.marks := by
    obtain ⟨c, rest, heq, hc⟩ := exists_mem_marks he hecore
    obtain ⟨d, rest', heq', hd⟩ := exists_mem_marks hf hfcore
    rw [heq, heq'] at h
    obtain rfl := (List.cons.inj h).1
    exact ⟨c, hc, hd⟩
  cases he <;> cases hf
  case row.row => exact ⟨rfl, (List.cons.inj h).2⟩
  case text.text a b =>
    obtain ⟨hab, hend⟩ := Text.quoteChars_append_inj h
    exact ⟨by rw [String.toList_inj.mp hab], hend⟩
  case binary.binary op left right hleft hright op' left' right' hleft' hright' =>
    have hchars : (binary op left right).chars ++ ')' :: s =
        (binary op' left' right').chars ++ ')' :: t := by
      simpa [operandText, operandChars, isBinary] using h
    obtain ⟨hread, hend⟩ := binary_append_inj hleft' hright' (ih left (by simp [parts]))
      (ih right (by simp [parts])) (by simp [EndsOperand]) (by simp [EndsOperand]) hchars
    exact ⟨hread, (List.cons.inj hend).2⟩
  case call.call f args hargs g others hothers => exact call_append_inj hargs hothers ih h
  case record.record fields hlegal hwithin others hlegal' hwithin' =>
    exact record_append_inj hlegal hlegal' hwithin'
      (fun field hfield => ih field.2 (List.mem_map_of_mem hfield)) h
  -- Cores of different kinds begin with different characters.
  all_goals simp [marks] at hmarks

theorem operandText_apart {e f : Expr} (he : Plain e) (hf : Plain f)
    (ih : ∀ part ∈ e.core.parts, Told part) : Apart operandText asRead EndsOperand e f := by
  intro s t hs ht h
  have hhead : ∀ e : Expr, Plain e → ∀ u : List Char,
      ∀ c ∈ (e.core.operandText ++ u).head?, decide (c = '!') = false := by
    intro e he u c hc
    obtain ⟨d, rest, heq, hd⟩ := exists_mem_marks he.core (isLayer_core e)
    rw [heq] at hc
    obtain rfl := Option.some.inj hc
    exact decide_eq_false (ne_of_mem_marks hd).1
  have hbangs : ∀ n, ∀ c ∈ List.replicate n '!', decide (c = '!') := fun n c hc =>
    decide_eq_true (List.eq_of_mem_replicate hc)
  rw [operandText_eq_layers e, operandText_eq_layers f] at h
  simp only [List.append_assoc] at h
  obtain ⟨hcount, hcores⟩ := Text.run_append_inj (hbangs _) (hbangs _) (hhead e he _)
    (hhead f hf _) h
  have hnegations : e.negations = f.negations := by simpa using congrArg List.length hcount
  obtain ⟨hcore, hpaths⟩ := core_append_inj he.core hf.core (isLayer_core e) (isLayer_core f) ih
    hcores
  obtain ⟨hpath, hend⟩ := path_append_inj he.isLegal_of_mem_path hf.isLegal_of_mem_path hs ht
    hpaths
  exact ⟨by rw [asRead_eq_ofLayers e, asRead_eq_ofLayers f, hnegations, hcore, hpath], hend⟩

theorem chars_apart {e f : Expr} (he : Plain e) (hf : Plain f)
    (ih : ∀ part ∈ e.core.parts, Told part) : Apart chars asRead EndsWhole e f := by
  intro s t hs ht h
  cases heb : e.isBinary <;> cases hfb : f.isBinary
  case false.false =>
    rw [chars_of_not_isBinary heb, chars_of_not_isBinary hfb] at h
    exact operandText_apart he hf ih s t hs.endsOperand ht.endsOperand h
  case false.true =>
    obtain ⟨op, left, right, rfl⟩ := exists_eq_binary hfb
    rw [chars_of_not_isBinary heb, chars_binary, List.append_assoc] at h
    have hleft : Plain left := hf.part (by simp [parts])
    obtain ⟨-, rfl⟩ := operandText_apart he hleft ih s _ hs.endsOperand (by simp [EndsOperand]) h
    exact absurd hs (not_endsWhole_op op _ _)
  case true.false =>
    obtain ⟨op, left, right, rfl⟩ := exists_eq_binary heb
    rw [chars_of_not_isBinary hfb, chars_binary, List.append_assoc] at h
    obtain ⟨-, rfl⟩ := (ih left (by simp [core, parts])).operand f hf _ t (by simp [EndsOperand])
      ht.endsOperand h
    exact absurd ht (not_endsWhole_op op _ _)
  case true.true =>
    obtain ⟨op, left, right, rfl⟩ := exists_eq_binary heb
    obtain ⟨op', left', right', rfl⟩ := exists_eq_binary hfb
    exact binary_append_inj (hf.part (by simp [parts])) (hf.part (by simp [parts]))
      (ih left (by simp [core, parts])) (ih right (by simp [core, parts])) hs.endsOperand
      ht.endsOperand h

theorem told {e : Expr} (he : Plain e) : Told e := by
  induction e using induction_core with
  | step e ih =>
    have hparts : ∀ part ∈ e.core.parts, Told part := fun part hpart =>
      ih part hpart (he.core.part hpart)
    exact ⟨fun f hf => operandText_apart he hf hparts, fun f hf => chars_apart he hf hparts⟩

/-! ## What is read has the same text -/

theorem isBinary_asRead (e : Expr) : e.asRead.isBinary = e.isBinary := by
  cases e with
  | member target name =>
    rw [asRead]
    cases target.asRead <;> rfl
  | row | const | not | binary | call | record => rfl

theorem operandText_memberWithin (e : Expr) (name : String) :
    (memberWithin e name).operandText = e.operandText ++ memberText name := by
  fun_induction memberWithin e name with
  | case1 operand name ih => rw [operandText_not, operandText_not, ih, List.cons_append]
  | case2 e name hnot => exact operandText_member e name

theorem operandText_asRead {e : Expr} (h : e.asRead.chars = e.chars) :
    e.asRead.operandText = e.operandText := by
  rw [operandText, operandText, operandChars, operandChars, isBinary_asRead, h]

theorem chars_asRead (e : Expr) : e.asRead.chars = e.chars := by
  induction e using induction_parts with
  | step e ih =>
    cases e with
    | row | const => rfl
    | member target name =>
      have htarget := operandText_asRead (ih target List.mem_cons_self)
      rw [chars_of_not_isBinary (isBinary_asRead _), chars_of_not_isBinary rfl, asRead,
        operandText_memberWithin, operandText_member, htarget]
    | not operand =>
      have hoperand := operandText_asRead (ih operand List.mem_cons_self)
      rw [asRead, chars_of_not_isBinary rfl, chars_of_not_isBinary rfl, operandText_not,
        operandText_not, hoperand]
    | binary op left right =>
      have hleft := operandText_asRead (ih left (by simp [parts]))
      have hright := operandText_asRead (ih right (by simp [parts]))
      rw [asRead, chars_binary, chars_binary, hleft, hright]
    | call f args =>
      have hargs : (args.map asRead).map chars = args.map chars := by
        rw [List.map_map]
        exact List.map_congr_left ih
      rw [asRead, chars, chars, argsAsRead_eq_map, argsChars_eq_map, argsChars_eq_map, hargs]
    | record fields =>
      have hfields : (fields.map fun field => (field.1, field.2.asRead)).map fieldText =
          fields.map fieldText := by
        rw [List.map_map]
        refine List.map_congr_left fun field hfield => ?_
        rw [Function.comp_apply, fieldText, fieldText, ih field.2 (List.mem_map_of_mem hfield)]
      rw [asRead, chars, chars, fieldsAsRead_eq_map, fieldsChars_eq_map, fieldsChars_eq_map,
        hfields]

/-- Two expressions have the same text just if they read the same. -/
theorem display_eq_iff_asRead {e f : Expr} (he : Plain e) (hf : Plain f) :
    e.display = f.display ↔ e.asRead = f.asRead := by
  rw [← String.toList_inj, toList_display, toList_display]
  constructor
  · intro h
    exact ((told he).whole f hf [] [] .nothing .nothing (by rw [h])).1
  · intro h
    rw [← chars_asRead e, h, chars_asRead]

end Expr

end WikiRows
