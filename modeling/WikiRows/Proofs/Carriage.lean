import WikiRows.Proofs.Delivery
import WikiRows.Proofs.FormText

/-!
# What a request carries

A request is prepared unless a payload cannot be read, and carries the fields of the protocol and
then all parameters in their order: as a form if there is no file among them, and otherwise as
parts. Reading payloads leaves parameters of which the same is sent (`Parameter.Leaves`), whether all
can be read or not, so that requests that are prepared again and again agree
(`Client.exists_prepare_eq`).
-/

namespace WikiRows

namespace Payload

/-- All bytes of a payload: those that it has kept, or else those of its source. -/
def whole : Payload → List UInt8
  | pending source => source.whole
  | buffered bytes => bytes

theorem kept_of_failures_nil {p : Payload} (h : p.failures = []) : p.kept = p.whole := by
  cases p with
  | buffered bytes => rfl
  | pending source =>
    have hlost : source.lost = [] := Source.lost_of_failures h
    rw [kept, whole, Source.whole_eq, hlost, List.nil_append]

end Payload

namespace Parameter

def ofField (field : Http.Form.Field) : Parameter := .text field.1 field.2

/-- Why the payload of a parameter cannot be read, unless it can. -/
def fault? : Parameter → Option String
  | text _ _ => none
  | file _ payload =>
    match payload.contents.1 with
    | .ok _ => none
    | .error reason => some reason

def wholePart : Parameter → Http.Part
  | text name value => ⟨name, none, Text.Utf8.encode value.toList⟩
  | file name payload => ⟨name, some "noname", payload.whole⟩

/-- The part that a parameter is sent as, once its payload can be read. -/
def sentPart : Parameter → Http.Part
  | text name value => ⟨name, none, Text.Utf8.encode value.toList⟩
  | file name payload => ⟨name, some Client.fileName, payload.kept⟩

/-- What is left of a parameter after its payload has been asked for. -/
structure Leaves (p left : Parameter) : Prop where
  sentPart : left.sentPart = p.sentPart
  field? : Client.field? left = Client.field? p
  fault? : p.fault? = none → left.fault? = none

theorem Leaves.refl (p : Parameter) : Leaves p p := ⟨rfl, rfl, id⟩

theorem fault?_file (name : String) (payload : Payload) :
    (file name payload).fault? = payload.failures.head? := by
  cases hf : payload.failures with
  | nil => simp [fault?, Payload.contents_of_failures_nil hf]
  | cons text texts =>
    obtain ⟨next, hc, -, -⟩ := Payload.contents_of_failures_cons hf
    simp [fault?, hc]

theorem sentPart_of_readable {p : Parameter} (h : p.fault? = none) : p.sentPart = p.wholePart := by
  cases p with
  | text name value => rfl
  | file name payload =>
    rw [fault?_file, List.head?_eq_none_iff] at h
    rw [Parameter.sentPart, wholePart, Payload.kept_of_failures_nil h, Client.fileName]

theorem isFile_eq (p : Parameter) : p.isFile = p.sentPart.fileName.isSome := by
  cases p <;> rfl

theorem isFile_of_fault? {p : Parameter} {reason : String} (h : p.fault? = some reason) :
    p.isFile = true := by
  cases p with
  | text name value => cases h
  | file name payload => rfl

end Parameter

namespace Client

open Parameter (ofField fault? sentPart wholePart Leaves)

variable {ps left : List Parameter}

/-! ## What comes of reading payloads -/

/-- What is made of payloads that can be read, or why one of them cannot. -/
def orFault {α : Type} (made : α) : Option String → Except Failure α
  | none => .ok made
  | some reason => .error (.io reason)

theorem exists_part_eq (p : Parameter) :
    ∃ left, part p = (orFault p.sentPart p.fault?, left) ∧ Leaves p left := by
  cases p with
  | text name value => exact ⟨_, rfl, .refl _⟩
  | file name payload =>
    rw [Parameter.fault?_file]
    cases hf : payload.failures with
    | nil =>
      have hc := Payload.contents_of_failures_nil hf
      exact ⟨.file name (.buffered payload.kept), by rw [part, hc]; rfl, rfl, rfl, fun _ => rfl⟩
    | cons text texts =>
      obtain ⟨next, hc, -, hkept⟩ := Payload.contents_of_failures_cons hf
      refine ⟨.file name next, by rw [part, hc]; rfl, ?_, rfl, fun h => ?_⟩
      · rw [Parameter.sentPart, Parameter.sentPart, hkept]
      · rw [Parameter.fault?_file, hf] at h
        cases h

/-- Nothing behind the first payload that cannot be read is looked at. -/
theorem exists_parts_eq (ps : List Parameter) :
    ∃ left, parts ps = (orFault (ps.map sentPart) (ps.findSome? fault?), left) ∧
      List.Forall₂ Leaves ps left := by
  induction ps with
  | nil => exact ⟨[], rfl, .nil⟩
  | cons p ps ih =>
    obtain ⟨q, hpart, hq⟩ := exists_part_eq p
    obtain ⟨left, hparts, hleft⟩ := ih
    rw [List.findSome?_cons]
    cases hp : p.fault? with
    | some reason =>
      rw [hp] at hpart
      refine ⟨q :: ps, by rw [parts, hpart]; rfl, .cons hq ?_⟩
      exact List.forall₂_same.mpr fun p _ => .refl p
    | none =>
      rw [hp] at hpart
      refine ⟨q :: left, ?_, .cons hq hleft⟩
      rw [parts, hpart, hparts]
      cases ps.findSome? fault? <;> rfl

/-- The body that parameters are sent in, once their payloads can be read. -/
def sentBody (ps : List Parameter) : Http.Body :=
  if ps.any Parameter.isFile then .multipart (ps.map sentPart)
  else .form (ps.filterMap field?)

theorem exists_body_eq (ps : List Parameter) :
    ∃ left, body ps = (orFault (sentBody ps) (ps.findSome? fault?), left) ∧
      List.Forall₂ Leaves ps left := by
  unfold body sentBody
  split_ifs with hfile
  · obtain ⟨left, hparts, hleft⟩ := exists_parts_eq ps
    refine ⟨left, ?_, hleft⟩
    rw [hparts]
    cases ps.findSome? fault? <;> rfl
  · have hnone : ps.findSome? fault? = none := by
      rw [List.findSome?_eq_none_iff]
      intro p hp
      by_contra hfault
      obtain ⟨reason, hreason⟩ := Option.ne_none_iff_exists'.mp hfault
      exact hfile (List.any_eq_true.mpr ⟨p, hp, Parameter.isFile_of_fault? hreason⟩)
    rw [hnone]
    exact ⟨ps, rfl, List.forall₂_same.mpr fun p _ => .refl p⟩

theorem sentBody_of_leaves (h : List.Forall₂ Leaves ps left) : sentBody left = sentBody ps := by
  have hsame : left.any Parameter.isFile = ps.any Parameter.isFile ∧
      left.map sentPart = ps.map sentPart ∧ left.filterMap field? = ps.filterMap field? := by
    induction h with
    | nil => exact ⟨rfl, rfl, rfl⟩
    | cons hp _ ih =>
      obtain ⟨hfiles, hparts, hfields⟩ := ih
      refine ⟨?_, ?_, ?_⟩
      · rw [List.any_cons, List.any_cons, hfiles, Parameter.isFile_eq, Parameter.isFile_eq,
          hp.sentPart]
      · rw [List.map_cons, List.map_cons, hp.sentPart, hparts]
      · rw [List.filterMap_cons, List.filterMap_cons, hp.field?, hfields]
  obtain ⟨hfiles, hparts, hfields⟩ := hsame
  rw [sentBody, sentBody, hfiles, hparts, hfields]

theorem findSome?_of_leaves (h : List.Forall₂ Leaves ps left)
    (hnone : ps.findSome? fault? = none) : left.findSome? fault? = none := by
  induction h with
  | nil => rfl
  | cons hp _ ih =>
    rw [List.findSome?_eq_none_iff, List.forall_mem_cons] at hnone ⊢
    exact ⟨hp.fault? hnone.1,
      List.findSome?_eq_none_iff.mp (ih (List.findSome?_eq_none_iff.mpr hnone.2))⟩

/-! ## Requests -/

def ownFields (s : Settings) : List Http.Form.Field :=
  ("format", "xml") :: if s.usesMaxLag then [("maxlag", "5")] else []

theorem assemble_eq (c : Client) (ps : List Parameter) :
    c.assemble ps = (ownFields c.settings).map ofField ++ ps := by
  have hown : protocolFields c.settings = (ownFields c.settings).map ofField := by
    unfold protocolFields ownFields
    split_ifs <;> rfl
  rw [assemble, hown]

theorem findSome?_assemble (c : Client) (ps : List Parameter) :
    (c.assemble ps).findSome? fault? = ps.findSome? fault? := by
  have hown : ((ownFields c.settings).map ofField).findSome? fault? = none := by
    rw [List.findSome?_eq_none_iff]
    intro p hp
    obtain ⟨field, -, rfl⟩ := List.mem_map.mp hp
    rfl
  rw [assemble_eq, List.findSome?_append, hown, Option.none_or]

theorem any_isFile_assemble (c : Client) (ps : List Parameter) :
    (c.assemble ps).any Parameter.isFile = ps.any Parameter.isFile := by
  have hown : ((ownFields c.settings).map ofField).any Parameter.isFile = false := by
    simp [List.any_eq_false, Parameter.isFile, ofField]
  rw [assemble_eq, List.any_append, hown, Bool.false_or]

/-- Parameters without files are sent as a form. -/
theorem sentBody_assemble_ofField (c : Client) (given : List Http.Form.Field) :
    sentBody (c.assemble (given.map ofField)) = .form (ownFields c.settings ++ given) := by
  have htexts : (given.map ofField).any Parameter.isFile = false := by
    simp [List.any_eq_false, Parameter.isFile, ofField]
  have hfields : ∀ fields : List Http.Form.Field,
      (fields.map ofField).filterMap field? = fields := by
    intro fields
    rw [List.filterMap_map]
    exact List.filterMap_some
  rw [sentBody, any_isFile_assemble, htexts, assemble_eq, ← List.map_append, hfields]
  rfl

/-- What is left of the parameters is behind the fields of the protocol. -/
theorem exists_prepare_eq (c : Client) (ps : List Parameter) :
    ∃ left, c.prepare ps = (orFault ⟨c.site.endpoint, c.userAgent, sentBody (c.assemble ps)⟩
      (ps.findSome? fault?), left) ∧ List.Forall₂ Leaves ps left := by
  obtain ⟨left, hbody, hleft⟩ := exists_body_eq (c.assemble ps)
  refine ⟨left.drop (protocolFields c.settings).length, ?_, ?_⟩
  · rw [prepare, hbody, findSome?_assemble]
    cases ps.findSome? fault? <;> rfl
  · have hdrop := List.forall₂_drop (protocolFields c.settings).length hleft
    rwa [assemble, List.drop_left] at hdrop

theorem sentBody_assemble_of_leaves (c : Client) (h : List.Forall₂ Leaves ps left) :
    sentBody (c.assemble left) = sentBody (c.assemble ps) :=
  sentBody_of_leaves (List.rel_append (List.forall₂_same.mpr fun p _ => .refl p) h)

/-- What comes of preparing a request again and again, each time from the parameters that the last
time left. -/
def attempts (c : Client) (ps : List Parameter) : Nat → List (Except Failure Http.Request)
  | 0 => []
  | n + 1 => (c.prepare ps).1 :: attempts c (c.prepare ps).2 n

/-- Requests that are prepared from the same parameters, by repeated or retried downloads, agree,
whatever could not be read between them. -/
theorem ok_mem_attempts {c : Client} {n : Nat} {r : Http.Request} (h : .ok r ∈ c.attempts ps n) :
    r = ⟨c.site.endpoint, c.userAgent, sentBody (c.assemble ps)⟩ := by
  induction n generalizing ps with
  | zero => cases h
  | succ n ih =>
    obtain ⟨left, hprepare, hleft⟩ := exists_prepare_eq c ps
    rw [attempts, hprepare] at h
    rcases List.mem_cons.mp h with hfirst | hmem
    · cases hfault : ps.findSome? fault? with
      | none =>
        rw [hfault] at hfirst
        exact Except.ok.inj hfirst
      | some reason =>
        rw [hfault] at hfirst
        cases hfirst
    · rw [ih hmem, sentBody_assemble_of_leaves c hleft]

/-- A request carries the fields of the protocol and all parameters, in their order and unaltered.
It has parts exactly if one of the parameters is a file, and each file is sent with all its bytes.
The same request is prepared from what is left of the parameters. If a payload cannot be read there
is no request. -/
theorem prepare_carries_all (c : Client) (ps : List Parameter) :
    (∀ reason, ps.findSome? fault? = some reason → (c.prepare ps).1 = .error (.io reason)) ∧
    (ps.findSome? fault? = none → ∃ r : Http.Request,
      (c.prepare ps).1 = .ok r ∧ (c.prepare (c.prepare ps).2).1 = .ok r ∧
      r.url = c.site.endpoint ∧
      ((∃ sent, r.body = .multipart sent) ↔ ∃ p ∈ ps, p.isFile) ∧
      (∀ given : List Http.Form.Field, ps = given.map ofField → ∀ boundary,
        Http.Form.decodeBytes (r.body.bytes boundary) = ownFields c.settings ++ given) ∧
      ((∃ p ∈ ps, p.isFile) →
        r.body = .multipart (((ownFields c.settings).map ofField ++ ps).map wholePart))) := by
  obtain ⟨left, hprepare, hleft⟩ := exists_prepare_eq c ps
  rw [hprepare]
  refine ⟨?_, ?_⟩
  · intro reason h
    rw [h]
    rfl
  · intro h
    have hagain : (c.prepare left).1 =
        .ok ⟨c.site.endpoint, c.userAgent, sentBody (c.assemble ps)⟩ := by
      obtain ⟨rest, hrest, -⟩ := exists_prepare_eq c left
      rw [hrest, findSome?_of_leaves hleft h, sentBody_assemble_of_leaves c hleft]
      rfl
    have hfiles : ps.any Parameter.isFile = true ↔ ∃ p ∈ ps, p.isFile := List.any_eq_true
    rw [h]
    refine ⟨_, rfl, hagain, rfl, ?_, ?_, ?_⟩
    · rw [← hfiles, ← any_isFile_assemble c, sentBody]
      split_ifs with hfile
      · simp [hfile]
      · simp [hfile]
    · rintro given rfl boundary
      rw [sentBody_assemble_ofField]
      exact Http.Form.decodeBytes_encode _
    · intro hfile
      have hwhole : (c.assemble ps).map sentPart = (c.assemble ps).map wholePart := by
        have hreadable := List.findSome?_eq_none_iff.mp ((findSome?_assemble c ps).trans h)
        exact List.map_congr_left fun p hp => Parameter.sentPart_of_readable (hreadable p hp)
      rw [← assemble_eq, ← hwhole, sentBody, any_isFile_assemble, hfiles.mpr hfile]
      rfl

/-- Names and values full of signs in a form, and a file whose source is read in three steps behind
a text. -/
theorem prepare_carries_all_signs :
    let c : Client := ⟨⟨"agent", "https://wiki.example", "/w/api.php"⟩, .default⟩
    let given : List Http.Form.Field := [("a&b=", "1 + 2 = 100%"), ("", ""), ("ü", "format=json")]
    let upload : List Parameter := [.text "action" "upload",
      .file "file" (.pending [.bytes [80, 78], .interrupted, .bytes [71]])]
    (∃ r : Http.Request, (c.prepare (given.map ofField)).1 = .ok r ∧ ∀ boundary,
      Http.Form.decodeBytes (r.body.bytes boundary) =
        [("format", "xml"), ("maxlag", "5"), ("a&b=", "1 + 2 = 100%"), ("", ""),
          ("ü", "format=json")]) ∧
    (∃ r : Http.Request, (c.prepare upload).1 = .ok r ∧
      r.body = .multipart [⟨"format", none, [120, 109, 108]⟩, ⟨"maxlag", none, [53]⟩,
        ⟨"action", none, [117, 112, 108, 111, 97, 100]⟩, ⟨"file", some "noname", [80, 78, 71]⟩]) := by
  intro c given upload
  refine ⟨?_, ?_⟩
  · obtain ⟨r, hr, -, -, -, hform, -⟩ := (prepare_carries_all c (given.map ofField)).2 rfl
    exact ⟨r, hr, hform given rfl⟩
  · obtain ⟨r, hr, -, -, -, -, hparts⟩ := (prepare_carries_all c upload).2 rfl
    exact ⟨r, hr, hparts ⟨_, List.mem_cons_of_mem _ (List.mem_singleton_self _), rfl⟩⟩

end Client

end WikiRows
