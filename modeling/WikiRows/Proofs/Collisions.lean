import WikiRows.Client
import WikiRows.Proofs.Chain
import WikiRows.Proofs.Parameters

/-!
# Parameters of the same name

The values of a query have different names, and so have the other parameters of a request. A value
is sent under the stem of the module and its own name, and nothing keeps this name from being that
of another parameter. `Query.nodup_names_assemble_iff` says which names have to be avoided.
-/

namespace WikiRows

namespace Clauses

/-- A name that has no value yet is put behind those that have one. -/
theorem names_setValue {name value : String} {values : List (String × String)} :
    (setValue name value values).map Prod.fst =
      if name ∈ values.map Prod.fst then values.map Prod.fst else values.map Prod.fst ++ [name] := by
  induction values with
  | nil => simp [setValue]
  | cons w values ih =>
    rw [setValue]
    by_cases hw : w.1 = name
    · simp [hw]
    · have hmem : name ∈ (w :: values).map Prod.fst ↔ name ∈ values.map Prod.fst := by
        simp [Ne.symm hw]
      rw [if_neg hw, List.map_cons, ih]
      simp only [hmem]
      split_ifs <;> simp

theorem mem_names_setValue {name value n : String} {values : List (String × String)} :
    n ∈ (setValue name value values).map Prod.fst ↔ n = name ∨ n ∈ values.map Prod.fst := by
  rw [names_setValue]
  split_ifs with hmem
  · exact (or_iff_right_of_imp fun hn => hn ▸ hmem).symm
  · rw [List.mem_append, List.mem_singleton, or_comm]

theorem nodup_setValue {name value : String} {values : List (String × String)}
    (h : (values.map Prod.fst).Nodup) : ((setValue name value values).map Prod.fst).Nodup := by
  rw [names_setValue]
  split_ifs with hmem
  · exact h
  · rw [← List.concat_eq_append]
    exact h.concat hmem

def valueNames (c : Clauses) : List String := c.values.map Prod.fst

theorem mem_valueNames_withValues {c : Clauses} {written : List (String × String)} {n : String} :
    n ∈ (c.withValues written).valueNames ↔ n ∈ c.valueNames ∨ n ∈ written.map Prod.fst := by
  induction written generalizing c with
  | nil => simp [withValues]
  | cons w written ih =>
    have hw : n ∈ (c.withValue w.1 w.2).valueNames ↔ n = w.1 ∨ n ∈ c.valueNames :=
      mem_names_setValue
    rw [withValues, List.foldl_cons, List.map_cons, List.mem_cons]
    refine ih.trans ?_
    rw [hw]
    tauto

theorem nodup_valueNames_withValues {c : Clauses} (h : c.valueNames.Nodup)
    (written : List (String × String)) : (c.withValues written).valueNames.Nodup := by
  induction written generalizing c with
  | nil => exact h
  | cons w written ih => exact ih (nodup_setValue h)

end Clauses

def Step.names (m : ApiModule) (s : Step) : List String :=
  match s.effect m with
  | .ok (.values written) => written.map Prod.fst
  | _ => []

namespace Effect

theorem mem_valueNames_apply {m : ApiModule} {s : Step} {e : Effect} (h : s.effect m = .ok e)
    {c : Clauses} {n : String} :
    n ∈ (e.apply c).valueNames ↔ n ∈ c.valueNames ∨ n ∈ s.names m := by
  cases e with
  | values written =>
    simp only [Step.names, h]
    exact Clauses.mem_valueNames_withValues
  | sort | selection | nothing =>
    simp only [Step.names, h, List.not_mem_nil, or_false]
    rfl

theorem nodup_valueNames_apply {c : Clauses} (h : c.valueNames.Nodup) (e : Effect) :
    (e.apply c).valueNames.Nodup := by
  cases e with
  | values written => exact Clauses.nodup_valueNames_withValues h written
  | sort | selection | nothing => exact h

end Effect

namespace Query

variable {m : ApiModule}

theorem nodup_valueNames_run (steps : List Step) : (run m steps).clauses.valueNames.Nodup := by
  induction steps using List.reverseRecOn with
  | nil => exact List.nodup_nil
  | append_singleton steps s ih =>
    cases h : s.effect m with
    | error failure => rwa [(run_append_of_error steps h).1]
    | ok e =>
      rw [(run_append_of_ok steps h).1]
      exact Effect.nodup_valueNames_apply ih e

theorem mem_valueNames_run {steps : List Step} {n : String} :
    n ∈ (run m steps).clauses.valueNames ↔ ∃ s ∈ steps, n ∈ s.names m := by
  induction steps using List.reverseRecOn with
  | nil => simp [run, Query.new, Clauses.empty, Clauses.valueNames]
  | append_singleton steps s ih =>
    have hlast : (∃ t ∈ steps ++ [s], n ∈ t.names m) ↔
        (∃ t ∈ steps, n ∈ t.names m) ∨ n ∈ s.names m := by
      simp [or_and_right, exists_or]
    rw [hlast, ← ih]
    cases h : s.effect m with
    | error failure =>
      rw [(run_append_of_error steps h).1]
      simp [Step.names, h]
    | ok e =>
      rw [(run_append_of_ok steps h).1]
      exact Effect.mem_valueNames_apply h

/-- What follows the stem in the names of the parameters that are no values. -/
def ownNames (m : ApiModule) (c : Clauses) : List String :=
  (if listsProperties m c then ["prop"] else []) ++ (if m.answersList then ["limit"] else []) ++
    c.sort.toList.map (fun _ => "sort") ++ c.ascending.toList.map (fun _ => "dir")

/-- The names of the parameters that do not begin with the stem. -/
def protocolNames (s : Settings) (m : ApiModule) : List String :=
  (Client.protocolFields s).map Parameter.name ++ ["action", kindName m]

theorem names_assemble (client : Client) (m : ApiModule) (c : Clauses) :
    (client.assemble (requestOf m c)).map Parameter.name =
      protocolNames client.settings m ++ (stemless m c).map (m.stem ++ ·) := by
  rw [Client.assemble, List.map_append, names_requestOf, protocolNames, List.append_assoc]
  rfl

theorem stemless_perm (m : ApiModule) (c : Clauses) :
    (stemless m c).Perm (ownNames m c ++ c.valueNames) := by
  unfold stemless laterStemless ownNames Clauses.valueNames
  simp only [List.append_assoc]
  refine List.Perm.append_left _ (List.Perm.append_left _ ?_)
  rw [← List.append_assoc (c.sort.toList.map _)]
  exact List.perm_append_comm

theorem mem_ownNames {c : Clauses} {name : String} (h : name ∈ ownNames m c) :
    name ∈ ["prop", "limit", "sort", "dir"] := by
  unfold ownNames at h
  simp only [List.mem_append, List.mem_map] at h
  rcases h with ((h | h) | ⟨_, -, rfl⟩) | ⟨_, -, rfl⟩
  · split_ifs at h <;> simp_all
  · split_ifs at h <;> simp_all
  · simp
  · simp

theorem nodup_ownNames (m : ApiModule) (c : Clauses) : (ownNames m c).Nodup := by
  unfold ownNames
  cases listsProperties m c <;> cases m.answersList <;> cases c.sort <;> cases c.ascending <;> simp

theorem mem_protocolNames {s : Settings} {name : String} (h : name ∈ protocolNames s m) :
    name ∈ ["format", "maxlag", "action", "list", "meta"] := by
  unfold protocolNames Client.protocolFields kindName at h
  simp only [List.mem_cons, List.not_mem_nil, or_false]
  split_ifs at h <;> simp [Parameter.name] at h <;> tauto

theorem nodup_protocolNames (s : Settings) (m : ApiModule) : (protocolNames s m).Nodup := by
  unfold protocolNames Client.protocolFields kindName
  cases s.usesMaxLag <;> cases m.answersList <;> simp [Parameter.name]

/-- No name of the protocol ends like the name of a parameter that is no value. -/
theorem stem_append_ne {stem own name : String} (hown : own ∈ ["prop", "limit", "sort", "dir"])
    (hname : name ∈ ["format", "maxlag", "action", "list", "meta"]) : stem ++ own ≠ name := by
  intro h
  have hsuffix : own.toList <:+ name.toList := ⟨stem.toList, by rw [← h, String.toList_append]⟩
  simp only [List.mem_cons, List.not_mem_nil, or_false] at hown hname
  rcases hown with rfl | rfl | rfl | rfl <;>
    rcases hname with rfl | rfl | rfl | rfl | rfl <;> revert hsuffix <;> decide

/-- The names in a request differ if no value is called like another parameter. -/
theorem nodup_names_assemble_iff (client : Client) {c : Clauses} (hc : c.valueNames.Nodup) :
    ((client.assemble (requestOf m c)).map Parameter.name).Nodup ↔
      ∀ name ∈ c.valueNames,
        name ∉ ownNames m c ∧ m.stem ++ name ∉ protocolNames client.settings m := by
  have hstem : Function.Injective (m.stem ++ ·) := fun _ _ h => (String.append_right_inj m.stem).mp h
  have hperm := (stemless_perm m c).nodup_iff
  rw [names_assemble, List.nodup_append, List.nodup_map_iff hstem, hperm, List.nodup_append]
  constructor
  · rintro ⟨-, ⟨-, -, hown⟩, hprotocol⟩ name hname
    refine ⟨fun h => hown name h name hname rfl, fun h => ?_⟩
    have hmem : name ∈ stemless m c :=
      (stemless_perm m c).mem_iff.mpr (List.mem_append_right _ hname)
    exact hprotocol _ h _ (List.mem_map_of_mem hmem) rfl
  · intro h
    refine ⟨nodup_protocolNames _ m, ⟨nodup_ownNames m c, hc, ?_⟩, ?_⟩
    · rintro own hown name hname rfl
      exact (h own hname).1 hown
    · rintro name hname _ hmem rfl
      obtain ⟨own, hown, hsame⟩ := List.mem_map.mp hmem
      rcases List.mem_append.mp ((stemless_perm m c).mem_iff.mp hown) with hown | hvalue
      · exact stem_append_ne (mem_ownNames hown) (mem_protocolNames hname) hsame
      · exact (h own hvalue).2 (by rwa [← hsame] at hname)

/-- The names in what is sent for a chain of clauses differ if and only if no filter asks for a value
whose name is that of another parameter, either without the stem or with it. -/
theorem names_nodup_iff (client : Client) (m : ApiModule) (steps : List Step) :
    ((client.assemble (run m steps).request).map Parameter.name).Nodup ↔
      ∀ s ∈ steps, ∀ name ∈ s.names m,
        name ∉ ownNames m (run m steps).clauses ∧
          m.stem ++ name ∉ protocolNames client.settings m := by
  have hrequest : (run m steps).request = requestOf m (run m steps).clauses := by
    rw [request, run_target]
  rw [hrequest, nodup_names_assemble_iff client (nodup_valueNames_run steps)]
  simp only [mem_valueNames_run]
  constructor
  · intro h s hs name hname
    exact h name ⟨s, hs, hname⟩
  · rintro h name ⟨s, hs, hname⟩
    exact h s hs name hname

/-- A list of rows with a property called `limit` is sent two limits when it is filtered by it. -/
theorem limit_sent_twice :
    let client : Client := ⟨⟨"agent", "https://wiki.example", "/w/api.php"⟩, .default⟩
    let m : ApiModule := ⟨"items", "it", [⟨"limit", .named "integer", false⟩], true⟩
    let steps : List Step := [.filter (.binary .equal (.member .row "limit") (.const (.int 5)))]
    (∀ s ∈ steps, s.succeeds m) ∧
    (client.assemble (run m steps).request).map Parameter.name =
      ["format", "maxlag", "action", "list", "itprop", "itlimit", "itlimit"] ∧
    ¬ ((client.assemble (run m steps).request).map Parameter.name).Nodup := by
  intro client m steps
  have hnames : (client.assemble (run m steps).request).map Parameter.name =
      ["format", "maxlag", "action", "list", "itprop", "itlimit", "itlimit"] := by rfl
  refine ⟨?_, hnames, ?_⟩
  · intro s hs
    obtain rfl := List.mem_singleton.mp hs
    rfl
  · rw [hnames]
    simp

end Query

end WikiRows
