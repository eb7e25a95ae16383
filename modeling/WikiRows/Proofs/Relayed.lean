import WikiRows.Command.Run
import WikiRows.Proofs.Carriage
import WikiRows.Proofs.Declared
import WikiRows.Proofs.Stored

/-!
# Requests that are printed and sent by hand

The parameters of a query can be printed and given back to the program one by one, in place of the
query. Each of them is read back as it was: its name is not empty and holds no equals sign, unless the
stem of the module does (`Query.isField_of_mem_requestOf`), and all that stands behind the first equals
sign is its value. So what is sent is what is sent for the query.
-/

namespace WikiRows

open Parameter (ofField)

namespace Parameter

/-- A parameter that can be told from its text: a value under a name that is not empty and holds no
equals sign. -/
def IsField (p : Parameter) : Prop :=
  ∃ field : Http.Form.Field, p = ofField field ∧ field.1 ≠ "" ∧ '=' ∉ field.1.toList

end Parameter

namespace Command

/-- A name ends at the first equals sign, whatever signs the value holds. -/
theorem field?_display {field : Http.Form.Field} (hne : field.1 ≠ "") (h : '=' ∉ field.1.toList) :
    field? (ofField field).display = some field := by
  have hchars : (ofField field).display.toList = field.1.toList ++ '=' :: field.2.toList := by
    simp [ofField, Parameter.display]
  obtain ⟨c, rest, hcons⟩ : ∃ c rest, field.1.toList = c :: rest :=
    List.exists_cons_of_ne_nil (by simpa using hne)
  rw [field?, hchars, Http.Form.span_append_of_notMem h, hcons]
  change some (String.ofList (c :: rest), String.ofList field.2.toList) = some field
  rw [← hcons, String.ofList_toList, String.ofList_toList]

end Command

namespace Surroundings

variable {s : Surroundings} {path : String}

theorem text?_of_encoded {text : String}
    (h : s.file? path = some (Text.Utf8.encode text.toList)) : s.text? path = some text := by
  rw [text?, h, Option.bind_some, Text.Utf8.decode?_encode, Option.map_some, String.ofList_toList]

theorem loadModule_of_stored {m : ApiModule} (hname : m.name ≠ "")
    (h : s.file? path = some (Text.Utf8.encode m.toJson.compact.toList)) :
    s.loadModule path = .ok m := by
  have hnesting : m.toJson.nesting ≤ 127 := Nat.le_trans m.nesting_toJson_le (by omega)
  have hread : ApiModule.ofText? m.toJson.compact = some m := by
    rw [ApiModule.ofText?, Json.Raw.ofText?_compact _ m.isExact_toJson]
    exact m.ofRaw?_raw hnesting
  simp [loadModule, text?_of_encoded h, hread, hname]

theorem loadSpec_of_stored {spec : QuerySpec} (hfree : ∀ c ∈ spec.constants, c.isFloatFree)
    (hnesting : spec.toJson.nesting ≤ 127)
    (h : s.file? path = some (Text.Utf8.encode spec.toJson.compact.toList)) :
    s.loadSpec (some path) = .ok spec := by
  have hread : QuerySpec.ofText? spec.toJson.compact = some spec := by
    rw [QuerySpec.ofText?, Json.Raw.ofText?_compact _ (spec.isExact_toJson hfree)]
    exact spec.ofRaw?_raw hfree hnesting
  simp [loadSpec, text?_of_encoded h, hread]

end Surroundings

theorem MemberName.ne_empty_of_isWireName {name : String} (h : IsWireName name) : name ≠ "" := by
  rintro rfl
  rcases h with h | ⟨c, rest, h, -⟩
  · exact absurd h (by decide)
  · cases h

namespace Query

variable {m : ApiModule} {c : Clauses}

theorem isField_stem {name : String} (hstem : '=' ∉ m.stem.toList) (hne : name ≠ "")
    (h : '=' ∉ name.toList) (value : String) : (Parameter.text (m.stem ++ name) value).IsField := by
  refine ⟨(m.stem ++ name, value), rfl, fun hempty => ?_, ?_⟩
  · exact hne (String.append_eq_empty_iff.mp hempty).2
  · rw [String.toList_append, List.mem_append, not_or]
    exact ⟨hstem, h⟩

/-- All parameters of a request can be told from their texts, unless the stem of the module is in the
way. -/
theorem isField_of_mem_requestOf (hstem : '=' ∉ m.stem.toList)
    (hnames : ∀ name ∈ c.valueNames, MemberName.IsWireName name) {p : Parameter}
    (hp : p ∈ requestOf m c) : p.IsField := by
  rw [requestOf_eq, List.mem_cons, List.mem_cons, List.mem_append] at hp
  rcases hp with rfl | rfl | hp | hp
  · exact ⟨("action", "query"), rfl, by decide, by decide⟩
  · have hkind : kindName m ≠ "" ∧ '=' ∉ (kindName m).toList := by
      unfold kindName
      split_ifs <;> decide
    exact ⟨(kindName m, m.name), rfl, hkind⟩
  · unfold propertyParameter at hp
    dsimp only at hp
    split_ifs at hp
    · obtain rfl := List.mem_singleton.mp hp
      exact isField_stem hstem (by decide) (by decide) _
    · cases hp
  · unfold laterParameters at hp
    simp only [List.mem_append, List.mem_map] at hp
    rcases hp with ((hp | ⟨w, hw, rfl⟩) | ⟨key, -, rfl⟩) | ⟨ascending, -, rfl⟩
    · split_ifs at hp
      · obtain rfl := List.mem_singleton.mp hp
        exact isField_stem hstem (by decide) (by decide) _
      · cases hp
    · have hw : MemberName.IsWireName w.1 := hnames w.1 (List.mem_map_of_mem hw)
      exact isField_stem hstem (MemberName.ne_empty_of_isWireName hw)
        (MemberName.notMem_of_isWireName hw (by decide)) _
    · exact isField_stem hstem (by decide) (by decide) _
    · exact isField_stem hstem (by decide) (by decide) _

end Query

namespace Command

/-- Parameters that can be told from their texts are read back from them. -/
theorem exists_fields {ps : List Parameter} (h : ∀ p ∈ ps, p.IsField) :
    ∃ fields : List Http.Form.Field, ps = fields.map ofField ∧
      (ps.map Parameter.display).map field? = fields.map some := by
  induction ps with
  | nil => exact ⟨[], rfl, rfl⟩
  | cons p ps ih =>
    obtain ⟨⟨field, rfl, hne, hequals⟩, hps⟩ := List.forall_mem_cons.mp h
    obtain ⟨fields, rfl, hread⟩ := ih hps
    refine ⟨field :: fields, rfl, ?_⟩
    rw [List.map_cons, List.map_cons, hread, field?_display hne hequals, List.map_cons]

/-- Parameters without files are sent as a form, whatever is made of the reply. -/
theorem post_fields (client : Client) (fields : List Http.Form.Field)
    (print : Option (List UInt8) → Except Failure Outcome) :
    ∃ errand, post client (fields.map ofField) print = .ok (.send errand) ∧
      errand.log = (client.logLine (fields.map ofField)).toList ∧
      errand.request = ⟨client.site.endpoint, client.userAgent,
        .form (Client.ownFields client.settings ++ fields)⟩ := by
  have hreadable : (fields.map ofField).findSome? Parameter.fault? = none := by
    rw [List.findSome?_eq_none_iff]
    intro p hp
    obtain ⟨field, -, rfl⟩ := List.mem_map.mp hp
    rfl
  obtain ⟨left, hprepare, -⟩ := Client.exists_prepare_eq client (fields.map ofField)
  rw [post, hprepare, hreadable, Client.sentBody_assemble_ofField]
  exact ⟨_, rfl, rfl, rfl⟩

end Command

namespace Query

/-- The parameters of a specification that compiles are read back from what is printed of them, each
with its name and its whole value, unless the stem of the module holds an equals sign. Where the
specification and its module are loaded from files, these are the lines that are printed, and sending
what is read back from them is sending the query: both fail for the same complaint about the site, or
both send the same request, with all fields in its body. -/
theorem printed_request_resent {m : ApiModule} {spec : QuerySpec} {q : Query}
    (hq : ofSpec m spec = .ok q) (hstem : '=' ∉ m.stem.toList) :
    ∃ fields : List Http.Form.Field,
      q.request = fields.map ofField ∧
      (q.request.map Parameter.display).map Command.field? = fields.map some ∧
      ∀ (s : Surroundings) (files : QueryFiles),
        s.loadModule files.moduleFile = .ok m → s.loadSpec files.queryFile = .ok spec →
        (Command.compile files).plan s = .ok (.print (.printed
          (String.join ((q.request.map Parameter.display).map (· ++ "\n"))))) ∧
        ∀ site : SiteOptions,
          (∀ complaint, site.client s = .error complaint →
            (Command.run files site).plan s = .error complaint ∧
            (Command.raw fields site).plan s = .error complaint) ∧
          (∀ client, site.client s = .ok client → ∃ sent resent,
            (Command.run files site).plan s = .ok (.send sent) ∧
            (Command.raw fields site).plan s = .ok (.send resent) ∧
            resent.request = sent.request ∧ resent.log = sent.log ∧
            sent.request.body = .form (Client.ownFields client.settings ++ fields)) := by
  obtain rfl := eq_run_of_ofSpec hq
  have htarget : (run m spec.steps).target = m := run_target m spec.steps
  have hdeclared := declared_run m spec.steps
  have hnames : ∀ name ∈ (run m spec.steps).clauses.valueNames, MemberName.IsWireName name := by
    intro name hname
    obtain ⟨w, hw, rfl⟩ := List.mem_map.mp hname
    obtain ⟨p, hp, -⟩ := hdeclared.values w hw
    exact hp.wire
  have hfields : ∀ p ∈ (run m spec.steps).request, p.IsField := by
    intro p hp
    rw [request, htarget] at hp
    exact isField_of_mem_requestOf hstem hnames hp
  obtain ⟨fields, hrequest, hread⟩ := Command.exists_fields hfields
  refine ⟨fields, hrequest, hread, ?_⟩
  intro s files hmodule hspec
  have hquery : files.query s = .ok (run m spec.steps) := by
    rw [QueryFiles.query, hmodule, hspec]
    change (ofSpec m spec).mapError Complaint.failed = _
    rw [hq]
    rfl
  refine ⟨?_, fun site => ⟨?_, ?_⟩⟩
  · rw [Command.plan, hquery, List.map_map]
    rfl
  · intro complaint hclient
    rw [Command.plan, Command.plan, hquery, hclient]
    exact ⟨rfl, rfl⟩
  · intro client hclient
    have hrun : ∃ print, (Command.run files site).plan s =
        Command.post client (fields.map ofField) print := by
      rw [Command.plan, hquery, hclient, ← hrequest]
      exact ⟨_, rfl⟩
    have hraw : ∃ print, (Command.raw fields site).plan s =
        Command.post client (fields.map ofField) print := by
      rw [Command.plan, hclient]
      exact ⟨_, rfl⟩
    obtain ⟨printRows, hrun⟩ := hrun
    obtain ⟨printDocument, hraw⟩ := hraw
    obtain ⟨sent, hsent, hlog, hbody⟩ := Command.post_fields client fields printRows
    obtain ⟨resent, hresent, hlog', hbody'⟩ := Command.post_fields client fields printDocument
    exact ⟨sent, resent, hrun.trans hsent, hraw.trans hresent, hbody'.trans hbody.symm,
      hlog'.trans hlog.symm, by rw [hbody]⟩

/-- A title full of signs, a sort clause and a selection, loaded from the files that the module and the
specification are stored in. -/
theorem printed_request_resent_signs :
    let m : ApiModule := ⟨"items", "it", [⟨"Title", .named "string", false⟩,
      ⟨"*", .named "string", false⟩], true⟩
    let spec : QuerySpec := {
      filter := some (.binary .equal (.member .row "title") (.const (.str "=a=b&c\n")))
      orderBy := some ⟨.row, false⟩
      select := some (.member .row "value") }
    let q : Query := ⟨m, ⟨[("title", "=a=b&c\n")], none, some false, some ["*"],
      some (.of (.member .row "value"))⟩⟩
    let fields : List Http.Form.Field := [("action", "query"), ("list", "items"), ("itprop", ""),
      ("itlimit", "max"), ("ittitle", "=a=b&c\n"), ("itdir", "descending")]
    let s : Surroundings := ⟨fun path =>
      if path = "m" then some (Text.Utf8.encode m.toJson.compact.toList)
      else if path = "q" then some (Text.Utf8.encode spec.toJson.compact.toList) else none,
      fun _ => none⟩
    let site : SiteOptions := ⟨"https://wiki.example/", none, "agent", true, false⟩
    ofSpec m spec = .ok q ∧ '=' ∉ m.stem.toList ∧
    (q.request.map Parameter.display).map Command.field? = fields.map some ∧
    ∃ sent resent, (Command.run ⟨"m", some "q"⟩ site).plan s = .ok (.send sent) ∧
      (Command.raw fields site).plan s = .ok (.send resent) ∧ resent.request = sent.request ∧
      sent.request.body = .form (("format", "xml") :: fields) := by
  intro m spec q fields s site
  have hq : ofSpec m spec = .ok q := by rfl
  have hstem : '=' ∉ m.stem.toList := by decide
  have hmodule : s.loadModule "m" = .ok m := Surroundings.loadModule_of_stored (by decide) rfl
  have hfree : ∀ c ∈ spec.constants, c.isFloatFree := by decide
  have hnesting : spec.toJson.nesting ≤ 127 := by decide
  have hspec : s.loadSpec (some "q") = .ok spec :=
    Surroundings.loadSpec_of_stored hfree hnesting rfl
  have hslashes : Site.dropSlashes "https://wiki.example/" = "https://wiki.example" := by rfl
  have hurl : Url.check "https://wiki.example" = .ok () := by rfl
  have hsite : Site.ofBaseUrl "agent" "https://wiki.example/" none =
      .ok ⟨"agent", "https://wiki.example", "/w/api.php"⟩ := by
    rw [Site.ofBaseUrl, hslashes, hurl]
    rfl
  obtain ⟨client, hclient, hlag⟩ :
      ∃ client, site.client s = .ok client ∧ client.settings.usesMaxLag = false := by
    rw [SiteOptions.client, hsite]
    exact ⟨_, rfl, rfl⟩
  obtain ⟨fields', hrequest, hread, hsend⟩ := printed_request_resent hq hstem
  obtain rfl : fields' = fields := by
    have hinjective : Function.Injective ofField := by
      rintro ⟨name, value⟩ ⟨name', value'⟩ h
      cases h
      rfl
    have hexplicit : q.request = fields.map ofField := by rfl
    exact hinjective.list_map (hrequest.symm.trans hexplicit)
  obtain ⟨sent, resent, hsent, hresent, hsame, -, hbody⟩ :=
    ((hsend s ⟨"m", some "q"⟩ hmodule hspec).2 site).2 client hclient
  rw [Client.ownFields, hlag] at hbody
  exact ⟨hq, hstem, hread, sent, resent, hsent, hresent, hsame, hbody⟩

end Query

end WikiRows
