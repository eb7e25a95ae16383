import WikiRows.Proofs.Collisions
import WikiRows.Proofs.Spelling

/-!
# What a query sends is declared

Filters, sort clauses and selections all look members up in the schema of the module, each in its own
way. So whatever a chain of steps leaves behind under a name has the name of a declared property, and
a value of a filter is one that the property takes. Each step makes only such changes
(`Step.declared_effect`), which keep the clauses so (`Effect.Declared.apply`).
-/

namespace WikiRows

/-- A name as requests have it, and the declared property that it is the name of. -/
structure ApiModule.Sends (m : ApiModule) (name : String) (p : Property) : Prop where
  wire : MemberName.IsWireName name
  found : m.property? name = some p
  declared : p ∈ m.properties
  spelled : Text.asciiCaseEq p.name name

/-- A text that a filter may ask for: that of a flag, or of a constant that has passed the check. -/
def Property.Takes (p : Property) (text : String) : Prop :=
  text = "" ∨ ∃ value, p.check value = .ok () ∧ value.wire? = some text

/-- Every name that clauses send is declared, and every value fits its property. -/
structure Clauses.Declared (m : ApiModule) (c : Clauses) : Prop where
  distinct : c.valueNames.Nodup
  values : ∀ w ∈ c.values, ∃ p, m.Sends w.1 p ∧ p.Takes w.2
  sort : ∀ name ∈ c.sort, ∃ p, m.Sends name p
  properties : ∀ names ∈ c.properties, ∀ name ∈ names, ∃ p, m.Sends name p

def Effect.Declared (m : ApiModule) : Effect → Prop
  | values written => ∀ w ∈ written, ∃ p, m.Sends w.1 p ∧ p.Takes w.2
  | sort key _ => ∀ name ∈ key, ∃ p, m.Sends name p
  | selection properties _ => ∀ names ∈ properties, ∀ name ∈ names, ∃ p, m.Sends name p
  | nothing => True

variable {m : ApiModule}

theorem ApiModule.Declares.sends {name : String} {p : Property} (h : m.Declares name p) :
    m.Sends (MemberName.wire name) p where
  wire := MemberName.isWireName_wire h.1
  found := h.2
  declared := h.mem
  spelled := List.find?_some (p := fun q : Property => Text.asciiCaseEq q.name _) h.2

/-- A condition that the schema allows asks for a declared name and a fitting value. -/
theorem Condition.Fits.takes {d : Condition} (h : d.Fits m) {w : String × String}
    (hw : d.written? = some w) : ∃ p, m.Sends w.1 p ∧ p.Takes w.2 := by
  cases h with
  | flag declared =>
    obtain rfl := Option.some.inj hw
    exact ⟨_, declared.sends, .inl rfl⟩
  | noFlag declared => cases hw
  | equal declared checked =>
    obtain ⟨text, htext, rfl⟩ := Option.map_eq_some_iff.mp hw
    exact ⟨_, declared.sends, .inr ⟨_, checked, htext⟩⟩

theorem Expr.declared_written {e : Expr} {written : List (String × String)}
    (h : e.written m = .ok written) : (Effect.values written).Declared m := by
  obtain ⟨ds, hds, rfl⟩ := Traversal.map_eq_ok_iff.mp h
  intro w hw
  obtain ⟨d, hd, hwritten⟩ := List.mem_filterMap.mp hw
  obtain ⟨t, -, ht⟩ := Traversal.exists_of_mem_mapM hds hd
  exact (Expr.condition_eq_ok_iff.mp ht).2.takes hwritten

theorem Clauses.declared_sort {key : Expr} {ascending : Bool} {c c' : Clauses}
    (h : c.orderBy m key ascending = .ok c') : ∀ name ∈ c'.sort, ∃ p, m.Sends name p := by
  unfold orderBy at h
  split at h
  · obtain rfl := Except.ok.inj h
    simp [withSort]
  · next name =>
    obtain ⟨⟨wire, p⟩, hfound, hc⟩ := Traversal.bind_eq_ok_iff.mp h
    obtain rfl := Except.ok.inj hc
    obtain ⟨rfl, hp⟩ := ApiModule.resolve_eq_ok_iff.mp hfound
    intro n hn
    obtain rfl := Option.some.inj hn
    exact ⟨p, hp.sends⟩
  · cases h
  · cases h

/-- A step that succeeds brings in declared names and fitting values only. -/
theorem Step.declared_effect {s : Step} {e : Effect} (h : s.effect m = .ok e) : e.Declared m := by
  cases s with
  | filter predicate =>
    obtain ⟨written, hwritten, rfl⟩ := Traversal.map_eq_ok_iff.mp h
    exact Expr.declared_written hwritten
  | orderBy key ascending =>
    obtain ⟨c, hc, rfl⟩ := Traversal.map_eq_ok_iff.mp h
    exact Clauses.declared_sort hc
  | select selector =>
    obtain ⟨wires, hwires, rfl⟩ := Traversal.map_eq_ok_iff.mp h
    intro names hnames n hn
    obtain ⟨name, hname, rfl⟩ := List.mem_map.mp ((Expr.mem_of_selected? hnames).mp hn)
    obtain ⟨p, hp⟩ := (ApiModule.resolveAll_eq_ok_iff.mp hwires).1 name (NameSet.mem_ofList.mpr hname)
    exact ⟨p, hp.sends⟩
  | selectIdentity declared =>
    obtain ⟨c, -, rfl⟩ := Traversal.map_eq_ok_iff.mp h
    trivial

theorem Clauses.mem_setValue {name text : String} {values : List (String × String)}
    {w : String × String} (h : w ∈ setValue name text values) : w = (name, text) ∨ w ∈ values := by
  induction values with
  | nil => exact .inl (List.mem_singleton.mp h)
  | cons v values ih =>
    rw [setValue] at h
    split_ifs at h with hv
    · rcases List.mem_cons.mp h with rfl | h
      · exact .inl (by rw [hv])
      · exact .inr (List.mem_cons_of_mem _ h)
    · rcases List.mem_cons.mp h with rfl | h
      · exact .inr List.mem_cons_self
      · exact (ih h).imp_right (List.mem_cons_of_mem _)

theorem Clauses.mem_values_withValues {c : Clauses} {written : List (String × String)}
    {w : String × String} (h : w ∈ (c.withValues written).values) : w ∈ written ∨ w ∈ c.values := by
  induction written generalizing c with
  | nil => exact .inr h
  | cons v written ih =>
    rcases ih h with hw | hw
    · exact .inl (List.mem_cons_of_mem _ hw)
    · rcases mem_setValue hw with rfl | hw
      · exact .inl List.mem_cons_self
      · exact .inr hw

theorem Effect.Declared.apply {e : Effect} (he : e.Declared m) {c : Clauses} (hc : c.Declared m) :
    (e.apply c).Declared m := by
  have hdistinct := Effect.nodup_valueNames_apply hc.distinct e
  cases e with
  | values written =>
    have hsort : (c.withValues written).sort = c.sort := by rw [Clauses.withValues_eq]
    have hproperties : (c.withValues written).properties = c.properties := by
      rw [Clauses.withValues_eq]
    refine ⟨hdistinct, fun w hw => ?_, fun name hname => ?_, fun names hnames => ?_⟩
    · exact (Clauses.mem_values_withValues hw).elim (he w) (hc.values w)
    · exact hc.sort name (hsort ▸ hname)
    · exact hc.properties names (hproperties ▸ hnames)
  | sort key ascending => exact ⟨hdistinct, hc.values, he, hc.properties⟩
  | selection properties projection => exact ⟨hdistinct, hc.values, hc.sort, he⟩
  | nothing => exact hc

theorem Clauses.declared_empty (m : ApiModule) : Clauses.empty.Declared m := by
  refine ⟨List.nodup_nil, ?_, ?_, ?_⟩ <;> intro _ h <;> cases h

namespace Query

/-- Whatever the steps of a chain are, its clauses are declared. -/
theorem declared_run (m : ApiModule) (steps : List Step) : (run m steps).clauses.Declared m := by
  induction steps using List.reverseRecOn with
  | nil => exact Clauses.declared_empty m
  | append_singleton steps s ih =>
    cases h : s.effect m with
    | error failure => rwa [(run_append_of_error steps h).1]
    | ok e =>
      rw [(run_append_of_ok steps h).1]
      exact (Step.declared_effect h).apply ih

/-- At the end of every chain the values have distinct names. Each name of a value, of the sort key or
of a property to fetch is `*` or an identifier in lower case, and is the name of a declared property
but for the case of its letters. Each value is that of a flag, or the wire text of a constant that
has passed the check of the property. -/
theorem run_sends_declared (m : ApiModule) (steps : List Step) :
    let c := (run m steps).clauses
    c.valueNames.Nodup ∧
    (∀ name, (name ∈ c.valueNames ∨ c.sort = some name ∨
        ∃ names, c.properties = some names ∧ name ∈ names) →
      MemberName.IsWireName name ∧ ∃ p ∈ m.properties, Text.asciiCaseEq p.name name) ∧
    (∀ name text, (name, text) ∈ c.values → ∃ p, m.property? name = some p ∧
      (text = "" ∨ ∃ value, p.check value = .ok () ∧ value.wire? = some text)) := by
  intro c
  have hc : c.Declared m := declared_run m steps
  have hsends : ∀ name, (∃ p, m.Sends name p) →
      MemberName.IsWireName name ∧ ∃ p ∈ m.properties, Text.asciiCaseEq p.name name := by
    rintro name ⟨p, hp⟩
    exact ⟨hp.wire, p, hp.declared, hp.spelled⟩
  refine ⟨hc.distinct, ?_, ?_⟩
  · rintro name (hname | hname | ⟨names, hnames, hname⟩)
    · obtain ⟨w, hw, rfl⟩ := List.mem_map.mp hname
      obtain ⟨p, hp, -⟩ := hc.values w hw
      exact hsends _ ⟨p, hp⟩
    · exact hsends name (hc.sort name hname)
    · exact hsends name (hc.properties names hnames name hname)
  · intro name text hw
    obtain ⟨p, hp, htakes⟩ := hc.values _ hw
    exact ⟨p, hp.found, htakes⟩

/-- A chain with a step that fails, whose filter, sort clause and selection each name a property in
another case than it is declared in. -/
theorem run_sends_declared_items :
    let m : ApiModule := ⟨"items", "it", [⟨"Enabled", .named "boolean", false⟩,
      ⟨"ns", .named "integer", false⟩, ⟨"*", .named "string", false⟩,
      ⟨"DEFAULT", .named "string", false⟩], true⟩
    let steps : List Step := [
      .filter (.binary .and (.member .row "enabled")
        (.binary .equal (.const (.int 14)) (.member .row "NS"))),
      .filter (.member .row "missing"),
      .orderBy (.member .row "Ns") false,
      .select (.record [("a", .member .row "Value"), ("b", .call .upper [.member .row "defaultValue"])])]
    let c := (run m steps).clauses
    c.values = [("enabled", ""), ("ns", "14")] ∧ c.sort = some "ns" ∧
    c.properties = some ["*", "default"] ∧
    (∀ name ∈ ["enabled", "ns", "*", "default"],
      MemberName.IsWireName name ∧ ∃ p ∈ m.properties, Text.asciiCaseEq p.name name) ∧
    ∃ p, m.property? "ns" = some p ∧
      ("14" = "" ∨ ∃ value, p.check value = .ok () ∧ value.wire? = some "14") := by
  intro m steps c
  have hvalues : c.values = [("enabled", ""), ("ns", "14")] := by rfl
  have hsort : c.sort = some "ns" := by rfl
  have hproperties : c.properties = some ["*", "default"] := by rfl
  obtain ⟨-, hnames, htexts⟩ := run_sends_declared m steps
  refine ⟨hvalues, hsort, hproperties, fun name hname => hnames name ?_, ?_⟩
  · change name ∈ c.values.map Prod.fst ∨ c.sort = some name ∨
      ∃ names, c.properties = some names ∧ name ∈ names
    rw [hvalues, hsort, hproperties]
    simp only [List.mem_cons, List.not_mem_nil, or_false] at hname
    rcases hname with rfl | rfl | rfl | rfl <;> simp
  · exact htexts "ns" "14" (by
      change _ ∈ c.values
      simp [hvalues])

end Query

end WikiRows
