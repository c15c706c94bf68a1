import TypedClient.Generation
import TypedClient.Proofs.Draft.Finishing
import TypedClient.Proofs.Draft.Pointers

/-!
# From documents to clients

The client of a document is its draft, resolved, named and finished. `WellNamed` says what that
makes of the names in a client, at whatever pointers the models stand: the names that the
generated code exports are distinct and look like names of types, references and imports give
the names of models of the client, and each model and each service imports what it refers to.
-/

namespace TypedClient

/-- A failure stays a failure under another name. -/
theorem mapError_eq_ok_iff {ε ε' α : Type} {f : ε → ε'} {x : Except ε α} {a : α} :
    x.mapError f = .ok a ↔ x = .ok a := by
  cases x with
  | error e => simp [Except.mapError]
  | ok b => simp [Except.mapError]

/-- A client is made in four steps. -/
theorem Client.ofDocument_eq_ok_iff {filter : TagFilter} {doc : Value} {c : Client} :
    Client.ofDocument filter doc = .ok c ↔
      ∃ d out named, Draft.ofDocument filter doc = .ok d ∧ d.resolve = .ok out ∧
        out.named = .ok named ∧ named.finish = c := by
  simp only [Client.ofDocument, bind_eq_ok_iff, mapError_eq_ok_iff]
  constructor
  · rintro ⟨d, hd, out, hout, named, hnamed, hc⟩
    exact ⟨d, out, named, hd, hout, hnamed, Except.ok.inj hc⟩
  · rintro ⟨d, out, named, hd, hout, hnamed, rfl⟩
    exact ⟨d, hd, out, hout, named, hnamed, rfl⟩

namespace Draft

variable {version : Version} {filter : TagFilter} {doc : Value} {ops : List Operation}
  {digest : String → UInt64} {d out named : Draft}

/-- The schemas of a draft stand at distinct pointers. -/
theorem Assembled.nodup_schemas (h : Assembled version filter doc ops d) :
    (d.schemas.map RawSchema.pointer).Nodup := by
  have hpointers : d.schemas.map RawSchema.pointer =
      (Dict.withoutExtensions (version.schemas doc)).keys.map version.schemaPointer := by
    rw [h.schemas_eq, namedOf, List.map_map, List.map_map, Dict.keys, List.map_map]
    rfl
  rw [hpointers]
  exact (version.nodup_schemaKeys doc).map (fun _ _ heq => Version.schemaPointer_injective heq)

/-- The models of a resolved draft are models. -/
theorem Assembled.present_resolved (h : Assembled version filter doc ops d)
    (hout : d.resolveBy digest = .ok out) : ∀ m ∈ out.models, m.isAbsent = false :=
  present_of_kept hout
    (fun m hm => h.present m ((Merge.keeps_ofModels digest d.models).subset m hm))

/-- Resolution leaves the schemas alone. -/
theorem schemas_resolveBy (hout : d.resolveBy digest = .ok out) : out.schemas = d.schemas := by
  obtain ⟨visits, -, -, rfl⟩ := resolveBy_eq_ok_iff.1 hout
  rfl

/-- A schema stands where a model does when the draft is resolved, since the model of its
definition is not merged. -/
theorem Assembled.mem_pointers_resolved (h : Assembled version filter doc ops d)
    (hout : d.resolveBy digest = .ok out) :
    ∀ s ∈ out.schemas, s.pointer ∈ out.models.map Model.pointer := by
  intro s hs
  rw [schemas_resolveBy hout] at hs
  obtain ⟨m, hm, hanonymous, hpointer⟩ := h.exists_named hs
  have hkept := (Merge.keeps_ofModels digest d.models).named m hm hanonymous
  obtain ⟨visits, -, -, rfl⟩ := resolveBy_eq_ok_iff.1 hout
  rw [pointers_marked, pointers_merged, ← hpointer]
  exact List.mem_map_of_mem (List.mem_reverse.2 hkept)

/-- Every reference of a named draft targets the name of a model, at whatever pointers the models
stand. -/
theorem exists_name_of_mem_referenceNodes (h : d.named = .ok named)
    (hpresent : ∀ m ∈ d.models, m.isAbsent = false) {t : Traits}
    (ht : t ∈ named.referenceNodes) : ∃ m ∈ named.models, m.name = t.target := by
  have hmem := List.mem_map_of_mem (f := Traits.target) ht
  rw [targets_named h] at hmem
  obtain ⟨u, hu, htarget⟩ := List.mem_map.1 hmem
  have hpointer := (named_eq_ok_iff.1 h).1 u hu
  rw [← pointers_nameTable, ← NameTable.get?_isSome_iff] at hpointer
  obtain ⟨name, hname⟩ := Option.isSome_iff_exists.1 hpointer
  have hentry := NameTable.mem_of_get?_eq_some hname
  rw [← entries_named h hpresent] at hentry
  obtain ⟨m, hm, heq⟩ := List.mem_map.1 hentry
  refine ⟨m, hm, ?_⟩
  rw [← htarget, hname, Option.getD_some]
  exact (Prod.mk.inj heq).2

/-- Marking changes no model that refers to nothing. -/
theorem marked_of_unreferenced {visits : Visits} {seen : List String} {models : List Model}
    (h : ∀ m ∈ models, m.referenceNodes = []) : marked visits seen models = models := by
  have hmark : ∀ opened, ∀ m ∈ models, m.mapTraits (markNode opened) = m := by
    intro opened m hm
    refine Model.mapTraits_eq_self (fun t ht => ?_)
    have hplain : ¬ t.isReference = true := by
      intro href
      have hmem : t ∈ m.referenceNodes := List.mem_filter.2 ⟨ht, href⟩
      rw [h m hm] at hmem
      exact absurd hmem List.not_mem_nil
    simp [markNode, hplain]
  clear h
  induction models generalizing seen with
  | nil => rfl
  | cons m models ih =>
      rw [marked, ih (fun opened n hn => hmark opened n (List.mem_cons_of_mem m hn)),
        ih (fun opened n hn => hmark opened n (List.mem_cons_of_mem m hn)),
        hmark _ m List.mem_cons_self, ite_self]

/-- Where no model refers to another there is nothing to mark, and resolution is merging. -/
theorem resolveBy_of_unreferenced
    (hmodels : ∀ m ∈ (d.merged digest).models, m.referenceNodes = [])
    (hoperations : (d.merged digest).danglingOperation? = none) :
    d.resolveBy digest = .ok (d.merged digest) := by
  cases hout : d.resolveBy digest with
  | error e =>
      obtain ⟨t, ht, hnot, -⟩ := resolveBy_error hout
      rcases List.mem_append.1 ht with ht | ht
      · obtain ⟨m, hm, ht⟩ := List.mem_flatMap.1 ht
        rw [hmodels m hm] at ht
        exact absurd ht List.not_mem_nil
      · exact absurd (modelAt?_eq_none_iff.2 hnot) (by
          simpa using List.find?_eq_none.1 hoperations t ht)
  | ok out =>
      obtain ⟨visits, -, -, rfl⟩ := resolveBy_eq_ok_iff.1 hout
      rw [marked_of_unreferenced hmodels]

/-- The names of a named draft look like names of types. -/
theorem isTypeName_named (h : d.named = .ok named)
    (hpresent : ∀ m ∈ d.models, m.isAbsent = false)
    (hschemas : ∀ s ∈ d.schemas, s.pointer ∈ d.models.map Model.pointer) :
    (∀ m ∈ named.models, Naming.isTypeName m.name = true) ∧
      (∀ s ∈ named.services, Naming.isTypeName s.name = true) ∧
      ∀ s ∈ named.schemas, Naming.isTypeName s.name = true := by
  have hmodels : ∀ m ∈ named.models, Naming.isTypeName m.name = true := by
    intro m hm
    have hname := List.mem_map_of_mem (f := Model.name) hm
    rw [names_named h hpresent] at hname
    exact isTypeName_of_mem_modelNames hname
  refine ⟨hmodels, fun s hs => isTypeName_service h hs, fun s hs => ?_⟩
  obtain ⟨-, rfl⟩ := named_eq_ok_iff.1 h
  obtain ⟨before, hbefore, rfl⟩ := List.mem_map.1 hs
  have hpointer := hschemas before hbefore
  rw [← pointers_nameTable, ← NameTable.get?_isSome_iff] at hpointer
  obtain ⟨name, hname⟩ := Option.isSome_iff_exists.1 hpointer
  have hentry := List.mem_map_of_mem (f := Prod.snd) (NameTable.mem_of_get?_eq_some hname)
  rw [names_nameTable] at hentry
  dsimp only
  rw [hname, Option.getD_some]
  exact isTypeName_of_mem_modelNames hentry

end Draft

namespace Client

/-- The client of a document whose models refer to nothing, without a search for cycles. -/
def ofUnreferenced? (filter : TagFilter) (doc : Value) : Option Client :=
  (Draft.ofDocument filter doc).toOption.bind (fun d =>
    let merged := d.merged String.hash
    if merged.models.all (fun m => m.referenceNodes.isEmpty) &&
      merged.danglingOperation?.isNone then merged.named.toOption.map Draft.finish
    else none)

theorem ofDocument_of_unreferenced {filter : TagFilter} {doc : Value} {c : Client}
    (h : ofUnreferenced? filter doc = some c) : Client.ofDocument filter doc = .ok c := by
  obtain ⟨d, hd, h⟩ := Option.bind_eq_some_iff.1 h
  dsimp only at h
  split at h
  case isFalse => cases h
  case isTrue hplain =>
    simp only [Bool.and_eq_true, List.all_eq_true, List.isEmpty_iff,
      Option.isNone_iff_eq_none] at hplain
    obtain ⟨named, hnamed, rfl⟩ := Option.map_eq_some_iff.1 h
    exact ofDocument_eq_ok_iff.2 ⟨d, _, named, eq_ok_of_toOption hd,
      Draft.resolveBy_of_unreferenced hplain.1 hplain.2, eq_ok_of_toOption hnamed, rfl⟩

/-- The names that the generated code exports for a client. -/
def exports (c : Client) : List String :=
  c.models.map Model.name ++ c.services.map (fun s => s.name ++ "Service") ++
    c.schemas.map (fun s => "$" ++ s.name) ++ runtimeNames

/-- What holds of the names in a client. -/
structure WellNamed (c : Client) : Prop where
  exports_nodup : c.exports.Nodup
  model_name : ∀ m ∈ c.models, Naming.isTypeName m.name = true
  service_name : ∀ s ∈ c.services, Naming.isTypeName s.name = true
  schema_name : ∀ s ∈ c.schemas, Naming.isTypeName s.name = true
  model_target : ∀ m ∈ c.models, ∀ t ∈ m.referenceNodes, ∃ n ∈ c.models, n.name = t.target
  service_target : ∀ s ∈ c.services, ∀ t ∈ s.referenceNodes, ∃ n ∈ c.models, n.name = t.target
  mem_model_imports : ∀ m ∈ c.models, ∀ name, name ∈ m.traits.imports ↔
    name ≠ m.name ∧ name ∈ m.referenceNodes.map Traits.target
  mem_service_imports : ∀ s ∈ c.services, ∀ name, name ∈ s.imports ↔
    name ∈ s.referenceNodes.map Traits.target

open Draft

variable {d : Draft}

/-- The models of a client are models of the draft with their imports. -/
theorem exists_of_mem_models {m : Model} (hm : m ∈ d.finish.models) :
    ∃ k ∈ d.models, m = withImports k := by
  rw [models_finish, (sortBy_perm _ _).mem_iff, List.mem_map] at hm
  obtain ⟨k, hk, rfl⟩ := hm
  exact ⟨k, (mem_kept.1 hk).1, rfl⟩

/-- The services of a client are those of the draft with their imports. -/
theorem exists_of_mem_services {s : Service} (hs : s ∈ d.finish.services) :
    ∃ k ∈ d.services, s = { k with imports := importsOf "" k.referenceNodes } := by
  obtain ⟨k, hk, rfl⟩ := List.mem_map.1 ((sortBy_perm _ _).mem_iff.1 hs)
  exact ⟨k, hk, rfl⟩

/-- A client exports no more than its draft. -/
theorem exports_finish (d : Draft) : d.finish.exports.Subperm d.exports := by
  have hmodels : (d.finish.models.map Model.name).Subperm (d.models.map Model.name) := by
    have hperm := (sortBy_perm Model.name (d.kept.map withImports)).map Model.name
    have hsame : Model.name ∘ withImports = Model.name := funext name_withImports
    rw [List.map_map, hsame] at hperm
    rw [models_finish]
    exact hperm.subperm.trans (List.filter_sublist.map Model.name).subperm
  have hservices : (d.finish.services.map (fun s => s.name ++ "Service")).Perm
      (d.services.map (fun s => s.name ++ "Service")) := by
    have hperm := (sortBy_perm Service.name (d.services.map (fun s =>
      { s with imports := importsOf "" s.referenceNodes }))).map
        (fun s => s.name ++ "Service")
    rw [List.map_map] at hperm
    exact hperm
  have hschemas := (sortBy_perm RawSchema.name d.schemas).map (fun s => "$" ++ s.name)
  exact ((hmodels.append hservices.subperm).append hschemas.subperm).append
    (List.Subperm.refl runtimeNames)

/-- The imports of a model of a client are what it refers to, other than its own name. -/
theorem mem_imports_withImports (m : Model) (hpresent : m.isAbsent = false) (name : String) :
    name ∈ (withImports m).traits.imports ↔
      name ≠ (withImports m).name ∧
        name ∈ (withImports m).referenceNodes.map Traits.target := by
  have htargets := targets_imports (fun _ => importsOf m.name m.referenceNodes) m
  have himports : (withImports m).traits.imports =
      importsOf m.name m.referenceNodes := by
    cases m with
    | absent => cases hpresent
    | node => rfl
  rw [himports, (importsFrom_importsOf _ _).mem_iff, name_withImports,
    withImports, htargets, List.mem_map]

/-- The names in the client of a document are as they should be. -/
theorem wellNamed_ofDocument {filter : TagFilter} {doc : Value} {c : Client}
    (h : Client.ofDocument filter doc = .ok c) : c.WellNamed := by
  obtain ⟨d, out, named, hd, hout, hnamed, rfl⟩ := ofDocument_eq_ok_iff.1 h
  obtain ⟨version, ops, -, hassembled⟩ := exists_assembled hd
  have hpresent := hassembled.present_resolved hout
  have hschemas := hassembled.mem_pointers_resolved hout
  have hdistinct : (out.schemas.map RawSchema.pointer).Nodup := by
    rw [schemas_resolveBy hout]
    exact hassembled.nodup_schemas
  have hnames := nodup_names_named hnamed hpresent
  obtain ⟨hmodel, hservice, hschema⟩ := isTypeName_named hnamed hpresent hschemas
  have htargets : ∀ t ∈ named.referenceNodes, ∃ m ∈ named.models, m.name = t.target :=
    fun t ht => exists_name_of_mem_referenceNodes hnamed hpresent ht
  obtain ⟨hmodels, hservices⟩ := finish_references hnames htargets
  refine ⟨?_, ?_, ?_, ?_, hmodels, hservices, ?_, ?_⟩
  · obtain ⟨names, hperm, hsub⟩ := exports_finish named
    exact hperm.nodup_iff.1 ((nodup_exports hnamed hpresent hdistinct hschemas).sublist hsub)
  · intro m hm
    obtain ⟨k, hk, rfl⟩ := exists_of_mem_models hm
    rw [name_withImports]
    exact hmodel k hk
  · intro s hs
    obtain ⟨k, hk, rfl⟩ := exists_of_mem_services hs
    exact hservice k hk
  · exact fun s hs => hschema s ((sortBy_perm _ _).mem_iff.1 hs)
  · intro m hm
    obtain ⟨k, hk, rfl⟩ := exists_of_mem_models hm
    refine mem_imports_withImports k ?_
    -- an entry that is no model has no name
    cases k with
    | absent => exact absurd (hmodel _ hk) (by decide)
    | node => rfl
  · intro s hs name
    have htarget := hservices s hs
    obtain ⟨k, hk, rfl⟩ := exists_of_mem_services hs
    rw [(importsFrom_importsOf _ _).mem_iff, List.mem_map]
    refine and_iff_right_of_imp ?_
    rintro ⟨t, ht, rfl⟩ hempty
    obtain ⟨n, hn, hname⟩ := htarget t ht
    obtain ⟨m, hm, rfl⟩ := exists_of_mem_models hn
    have hlooks := hmodel m hm
    rw [← name_withImports, hname, hempty] at hlooks
    exact absurd hlooks (by decide)

end Client

end TypedClient
