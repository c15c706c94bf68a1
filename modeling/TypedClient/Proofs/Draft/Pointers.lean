import TypedClient.Proofs.Draft.Definitions
import TypedClient.Proofs.Draft.References

/-!
# Models at distinct pointers

References are resolved to the first model at a pointer, and names are given by the last.
`ofDocument_distinct` shows when this makes no difference: no two models of a draft stand at one
pointer, so both find the same model, and the schema of a definition has the name of its model.

In version 3 this holds of every document. In version 2 the model of a parameter without a schema
stands at the parameter itself, and a reference may lead to a parameter that stands among the
definitions. `shared_pointer` shows what happens then.
-/

namespace TypedClient

namespace Form

theorem admitsEntries_iff {rounded : Bool} {formOf : String → Option Form}
    {entries : Dict Value} : admitsEntries rounded formOf entries = true ↔
      ∀ e ∈ entries, ∀ form, formOf e.1 = some form → form.admits rounded e.2 = true := by
  induction entries with
  | nil => simp [admitsEntries]
  | cons e rest ih =>
      obtain ⟨key, v⟩ := e
      rw [admitsEntries, Bool.and_eq_true, ih, List.forall_mem_cons]
      refine and_congr_left (fun _ => ?_)
      cases hform : formOf key with
      | none => simp
      | some form => simp

/-- What stands under a known key of an object has the form of the field. -/
theorem admits_of_get? {rounded : Bool} {kind : ObjectKind} {v w : Value} {key : String}
    {form : Form} (h : (object kind).admits rounded v = true) (hw : v.get? key = some w)
    (hform : kind.field? key = some form) : form.admits rounded w = true := by
  cases v with
  | mapping entries =>
      obtain ⟨before, after, hsplit, -⟩ := List.lookup_eq_some_iff.1 hw
      refine admitsEntries_iff.1 h (key, w) ?_ form hform
      have hentries : entries = before ++ (key, w) :: after := hsplit
      rw [hentries]
      exact List.mem_append_right _ List.mem_cons_self
  | _ => cases hw

/-- No entry of a dictionary of objects is a text. -/
theorem text?_of_admits_dict {rounded : Bool} {kind : ObjectKind} {v : Value}
    (h : (dict (orReference kind)).admits rounded v = true) :
    ∀ e ∈ v.entries, e.2.text? = none := by
  cases v with
  | mapping entries =>
      intro e he
      have hentry := admitsEntries_iff.1 h e he _ rfl
      cases hvalue : e.2 with
      | text s =>
          rw [hvalue] at hentry
          cases hentry
      | _ => rfl
  | _ => exact fun e he => absurd he List.not_mem_nil

end Form

/-- A field of entries without texts has no text. -/
theorem Field.text_eq_empty {name : String} {entries : Dict Value}
    (h : ∀ e ∈ entries, e.2.text? = none) : Field.text name entries = "" := by
  have hnone : (Field.all name entries).filterMap Value.text? = [] := by
    refine List.filterMap_eq_nil_iff.2 (List.forall_mem_map.2 (fun e he => ?_))
    exact h e (List.mem_filter.1 he).1
  rw [Field.text, hnone]
  rfl

namespace Version

variable {version : Version} {doc : Value}

/-- The section that names schemas, taken as a parameter, says of no place that it travels
there. -/
theorem text_of_section (version : Version) {v : Value}
    (hform : doc.isA version.documentKind = true)
    (hv : Pointer.lookup? doc (Pointer.join version.schemaPath) = some v) (name : String) :
    Field.text name v.entries = "" := by
  have hadmits : (Form.object version.documentKind).admits false doc = true :=
    (Bool.and_eq_true _ _ ▸ hform).2
  have hdict : (Form.dict (.orReference .schema)).admits false v = true → _ :=
    Form.text?_of_admits_dict
  refine Field.text_eq_empty (hdict ?_)
  cases version with
  | v2 =>
      rw [Pointer.lookup?_join doc (by decide +kernel), schemaPath, Pointer.descend?_singleton,
        Pointer.step?_eq_get? (by decide)] at hv
      exact Form.admits_of_get? hadmits hv (by decide +kernel)
  | v3 =>
      rw [Pointer.lookup?_join doc (by decide +kernel), schemaPath, ← List.singleton_append,
        Pointer.descend?_concat, Pointer.descend?_singleton,
        Pointer.step?_eq_get? (by decide)] at hv
      obtain ⟨components, hcomponents, hv⟩ := Option.bind_eq_some_iff.1 hv
      rw [Pointer.step?_eq_get? (by decide)] at hv
      have hinner : (Form.object .components).admits false components = true :=
        Form.admits_of_get? hadmits hcomponents (by decide +kernel)
      exact Form.admits_of_get? hinner hv (by decide +kernel)

end Version

/-- The model of a response without a body or of a primitive type is not declared. -/
theorem Model.isDeclared_leaf {t : Traits} (h : t.kind = .generic ∨ t.kind = .reference) :
    (Model.leaf t).isDeclared = false := by
  rcases h with h | h <;> simp [isDeclared, leaf, kind, traits, h, Kind.isComposition]

/-- In version 2 what is lifted out of an operation stands at a definition only when the whole
section is taken for something with a schema, or the definition for a parameter that lists its
values. -/
theorem V2.Source.pointer_ne {doc : Value} {m : Model} (h : V2.Source doc m)
    (hform : doc.isA .document2 = true) (hdeclared : m.core.isDeclared = true) {name : String}
    (hname : name ≠ "schema")
    (hplain : ∀ v, Pointer.lookup? doc (Version.v2.schemaPointer name) = some v →
      ¬ (Parameter.ofEntries v.entries).IsEnum) :
    m.core.pointer ≠ Version.v2.schemaPointer name := by
  have hescaped := Pointer.slash_not_mem_escape name
  have hpointer : Version.v2.schemaPointer name =
      "#" ++ "/" ++ "definitions" ++ "/" ++ Pointer.escape name :=
    Pointer.join_concat ["definitions"] name
  intro hcore
  rw [hpointer] at hcore
  cases h with
  | absent => cases hdeclared
  | schema h =>
      rcases h.core_below (by decide) (by decide) (by decide) hescaped hcore with ⟨-, heq⟩ | heq
      · obtain ⟨-, hlast⟩ := Pointer.below_word (s := "schema") rfl (by decide) hescaped heq
        exact hname (Pointer.escape_injective (hlast.symm.trans (by decide)))
      · obtain ⟨-, hlast⟩ := Pointer.below_word (s := "schema") rfl (by decide) (by decide) heq
        exact absurd hlast (by decide)
  | inPlace hlast h =>
      rcases h.core_below (by decide) (by decide) (by decide) hescaped hcore with ⟨-, heq⟩ | heq
      · obtain ⟨hlist, -⟩ := Pointer.below_inj hlast hescaped heq
        obtain ⟨-, hword⟩ :=
          Pointer.below_word (s := "parameters") rfl (by decide) (by decide) hlist
        exact absurd hword (by decide)
      · obtain ⟨hlist, -⟩ := Pointer.below_inj hlast (by decide) heq
        have hslash : '/' ∈ ("#" : String).toList := by
          rw [← hlist, String.toList_append]
          exact List.mem_append_right _ (by decide)
        exact absurd hslash (by decide)
  | described hv hvalue h henum =>
      rcases h.core_below (by decide) (by decide) (by decide) hescaped hcore with
        ⟨hself, heq⟩ | heq
      · rw [hself] at hdeclared
        rw [heq, ← hpointer] at hv
        exact hplain _ hv (henum hdeclared)
      · rw [heq] at hv
        have hlocation := Version.text_of_section .v2 hform hv "in"
        have hvalue : Text.lower (Field.text "in" _) ∈ ["path", "query", "header"] := hvalue
        rw [hlocation] at hvalue
        exact absurd hvalue (by decide)

/-- In version 3 what is lifted out of an operation never stands at a named schema. -/
theorem V3.Source.pointer_ne {doc : Value} {m : Model} (h : V3.Source doc m)
    (hform : doc.isA .document = true) (hdeclared : m.core.isDeclared = true) (name : String) :
    m.core.pointer ≠ Version.v3.schemaPointer name := by
  have hescaped := Pointer.slash_not_mem_escape name
  have hpointer : Version.v3.schemaPointer name =
      "#/components" ++ "/" ++ "schemas" ++ "/" ++ Pointer.escape name :=
    Pointer.join_concat ["components", "schemas"] name
  intro hcore
  rw [hpointer] at hcore
  -- each of the other sources stands at a step `schema`, so what is around it is the section
  have hsection : ∀ {place : String}, Model.Layered (place ++ "/schema") m →
      place = "#/components" ++ "/" ++ "schemas" := by
    intro place h
    rcases h.core_below (by decide) (by decide) (by decide) hescaped hcore with ⟨-, heq⟩ | heq
    · exact (Pointer.below_word (s := "schema") rfl (by decide) hescaped heq).1
    · obtain ⟨-, hlast⟩ := Pointer.below_word (s := "schema") rfl (by decide) (by decide) heq
      exact absurd hlast (by decide)
  cases h with
  | absent => cases hdeclared
  | primitive h =>
      rw [Model.core_leaf (.inl h), Model.isDeclared_leaf (.inl h)] at hdeclared
      cases hdeclared
  | inPlace hlast h =>
      obtain ⟨hlist, -⟩ := Pointer.below_inj hlast (by decide) (hsection h)
      obtain ⟨-, hword⟩ := Pointer.below_word (s := "parameters") (b := "#") (t := "components") rfl
        (by decide) (by decide) hlist
      exact absurd hword (by decide)
  | described hv hlocation h =>
      rw [hsection h] at hv
      exact hlocation (Version.text_of_section .v3 hform hv "in")
  | @content place mediaType m h =>
      have hlist : place ++ "/content" ++ "/" ++ Pointer.escape mediaType =
          "#/components" ++ "/" ++ "schemas" := by
        have hstep : place ++ "/content" ++ "/" = place ++ "/content/" := by
          rw [String.append_assoc]
          rfl
        rw [hstep]
        exact hsection h
      obtain ⟨hlist, -⟩ := Pointer.below_inj (Pointer.slash_not_mem_escape _) (by decide) hlist
      obtain ⟨-, hword⟩ := Pointer.below_word (s := "content") (b := "#") (t := "components") rfl
        (by decide) (by decide) hlist
      exact absurd hword (by decide)

namespace Version

variable {version : Version} {doc : Value}

/-- No definition can be taken for a parameter that lists its values, and none is named like the
step from a parameter or a response to its schema. Version 3 does not need this. -/
def DefinitionsApart (version : Version) (doc : Value) : Prop :=
  match version with
  | v2 => ∀ name ∈ (Dict.withoutExtensions (v2.schemas doc)).keys, name ≠ "schema" ∧
      ∀ v ∈ Pointer.lookup? doc (v2.schemaPointer name),
        ¬ (V2.Parameter.ofEntries v.entries).IsEnum
  | v3 => True

instance (p : V2.Parameter) : Decidable p.IsEnum :=
  decidable_of_iff (Text.lower p.location ∈ ["path", "query", "header"] ∧
      p.schema.isMissing = true ∧ p.enum.isEmpty = false)
    ⟨fun h => ⟨h.1, h.2.1, fun hnil => by simp [hnil] at h⟩,
     fun h => ⟨h.isValue, h.isMissing, List.isEmpty_eq_false_iff.2 h.enum_ne_nil⟩⟩

instance : Decidable (version.DefinitionsApart doc) :=
  match version with
  | v2 => inferInstanceAs (Decidable (∀ name ∈ _, name ≠ "schema" ∧ ∀ v ∈ _, ¬ _))
  | v3 => isTrue trivial

/-- What is lifted out of an operation stands at no named schema. -/
theorem Source.pointer_ne {m : Model} (h : version.Source doc m)
    (hform : doc.isA version.documentKind = true) (hapart : version.DefinitionsApart doc)
    (hdeclared : m.core.isDeclared = true) {name : String}
    (hname : name ∈ (Dict.withoutExtensions (version.schemas doc)).keys) :
    m.core.pointer ≠ version.schemaPointer name := by
  cases version with
  | v2 =>
      obtain ⟨hschema, hplain⟩ := hapart name hname
      exact V2.Source.pointer_ne h hform hdeclared hschema hplain
  | v3 => exact V3.Source.pointer_ne h hform hdeclared name

theorem schemaPointer_injective {name other : String}
    (h : version.schemaPointer name = version.schemaPointer other) : name = other := by
  rw [schemaPointer, schemaPointer, Pointer.join_concat, Pointer.join_concat] at h
  exact Pointer.escape_injective (Pointer.below_inj (Pointer.slash_not_mem_escape _)
    (Pointer.slash_not_mem_escape _) h).2

theorem schemas_sorted (version : Version) (doc : Value) : (version.schemas doc).Sorted := by
  cases version with
  | v2 => exact (Field.dict_sorted _ _).mapValues _
  | v3 => exact (Field.dict_sorted _ _).mapValues _

/-- No two named schemas have one key. -/
theorem nodup_schemaKeys (version : Version) (doc : Value) :
    (Dict.withoutExtensions (version.schemas doc)).keys.Nodup :=
  (version.schemas_sorted doc).withoutExtensions.nodup_keys

end Version

namespace Draft

variable {version : Version} {filter : TagFilter} {doc : Value} {ops : List Operation} {d : Draft}

/-- The named models stand where their keys say. -/
theorem pointers_namedOf (version : Version) (doc : Value) :
    ((namedOf version doc).map Prod.fst).map Model.pointer =
      (Dict.withoutExtensions (version.schemas doc)).keys.map version.schemaPointer := by
  rw [models_namedOf, Dict.keys, List.map_map, List.map_map]
  exact List.map_congr_left (fun e _ => (namedModel_layered version doc e.1 e.2).pointer_eq)

namespace Assembled

/-- The models of a draft stand at distinct pointers. -/
theorem nodup (h : Assembled version filter doc ops d) (hapart : version.DefinitionsApart doc) :
    (d.models.map Model.pointer).Nodup := by
  rw [h.liftedFrom.models_eq, List.map_append, List.nodup_append]
  refine ⟨?_, h.liftedFrom.nodup, ?_⟩
  · rw [h.filter_named, pointers_namedOf]
    refine (List.Pairwise.map _ (fun a b (hne : a ≠ b) heq => hne ?_) ?_ : List.Nodup _)
    · exact Version.schemaPointer_injective heq
    · exact version.nodup_schemaKeys doc
  · intro p hp q hq heq
    rw [h.filter_named, pointers_namedOf] at hp
    obtain ⟨name, hname, rfl⟩ := List.mem_map.1 hp
    obtain ⟨a, ha, rfl⟩ := List.mem_map.1 hq
    rcases h.gathers.source a ha with ha | ⟨m, hm, hdeclared, _, rfl⟩
    · cases ha
    · obtain ⟨op, hop, hm⟩ := List.mem_flatMap.1 hm
      have hsource := Version.operations_source h.operations_eq op hop m hm
      rw [Model.pointer_madeAnonymous] at heq
      exact hsource.pointer_ne h.isA hapart hdeclared hname heq.symm

/-- A schema stands where a model that is not anonymous does. -/
theorem exists_named (h : Assembled version filter doc ops d) {s : RawSchema}
    (hs : s ∈ d.schemas) :
    ∃ m ∈ d.models, m.anonymous = false ∧ m.pointer = s.pointer := by
  rw [h.schemas_eq] at hs
  obtain ⟨e, he, rfl⟩ := List.mem_map.1 hs
  have hm : e.1 ∈ (namedOf version doc).map Prod.fst := List.mem_map_of_mem he
  refine ⟨e.1, h.models_eq ▸ List.mem_append_left _ hm, anonymous_of_mem_namedOf hm, ?_⟩
  obtain ⟨⟨name, schema⟩, -, rfl⟩ := List.mem_map.1 he
  exact (namedModel_layered version doc name schema).pointer_eq

/-- The models of a draft are models. -/
theorem present (h : Assembled version filter doc ops d) :
    ∀ m ∈ d.models, m.isAbsent = false := by
  intro m hm
  rw [h.liftedFrom.models_eq] at hm
  rcases List.mem_append.1 hm with hm | hm
  · rw [h.filter_named, models_namedOf] at hm
    obtain ⟨e, -, rfl⟩ := List.mem_map.1 hm
    exact (namedModel_layered version doc e.1 e.2).isAbsent_eq
  · rcases h.gathers.source m hm with hm | ⟨n, -, hdeclared, _, rfl⟩
    · cases hm
    · cases hcore : n.core with
      | absent =>
          rw [hcore] at hdeclared
          cases hdeclared
      | node => rfl

end Assembled

/-- In entries with distinct keys the first and the last with a key are one. -/
theorem lookup_reverse_of_nodup {α : Type} {entries : List (String × α)}
    (h : (entries.map Prod.fst).Nodup) (key : String) :
    entries.reverse.lookup key = entries.lookup key := by
  cases hfound : entries.lookup key with
  | none =>
      rw [List.lookup_eq_none_iff] at hfound ⊢
      exact fun e he => hfound e (List.mem_reverse.1 he)
  | some value =>
      obtain ⟨before, after, rfl, -⟩ := List.lookup_eq_some_iff.1 hfound
      refine lookup_eq_some_of_mem ?_ (List.mem_reverse.2 (by simp))
      rw [List.map_reverse]
      exact List.nodup_reverse.2 h

/-- What the names of a draft know of a pointer is the name of the first model there. -/
theorem name_modelAt? {out named : Draft} (h : out.named = .ok named)
    (hpresent : ∀ m ∈ out.models, m.isAbsent = false)
    (hptr : (out.models.map Model.pointer).Nodup) (pointer : String) :
    (named.modelAt? pointer).map Model.name = out.nameTable.get? pointer := by
  have hkeys : (out.nameTable.map Prod.fst).Nodup := by rwa [pointers_nameTable]
  have hfirst : ∀ models : List Model,
      (models.find? (fun m => m.pointer = pointer)).map Model.name =
        (models.map (fun m => (m.pointer, m.name))).lookup pointer := by
    intro models
    induction models with
    | nil => rfl
    | cons m rest ih =>
        by_cases heq : m.pointer = pointer
        · simp [heq]
        · have hne : (pointer == m.pointer) = false := beq_eq_false_iff_ne.2 (Ne.symm heq)
          simp [List.lookup_cons, heq, hne, ih]
  rw [NameTable.get?, lookup_reverse_of_nodup hkeys, ← entries_named h hpresent]
  exact hfirst named.models

/-- The models of a resolved and named draft stand where the models that stay stand, and those
that are anonymous are the same. -/
theorem marks_named {digest : String → UInt64} {out named : Draft}
    (hout : d.resolveBy digest = .ok out) (h : out.named = .ok named) :
    named.models.map (fun m => (m.pointer, m.anonymous)) =
      (Merge.ofModels digest d.models).kept.reverse.map (fun m => (m.pointer, m.anonymous)) := by
  have hpart : ∀ {f : Traits → Traits} (key : Traits → String → String → String),
      (∀ t, ((f t).pointer, (f t).anonymous) = (t.pointer, t.anonymous)) → ∀ m : Model,
      ((m.mapNodes f key).pointer, (m.mapNodes f key).anonymous) = (m.pointer, m.anonymous) :=
    fun key hf => Model.traits_mapNodes key (fun t => (t.pointer, t.anonymous)) hf
  rw [map_models_named h _ (fun m _ => by cases m <;> rfl)]
  obtain ⟨visits, -, -, rfl⟩ := resolveBy_eq_ok_iff.1 hout
  have hnamed : ∀ m : Model,
      ((nameModel (nameTable { d.merged digest with
        models := marked visits [] (d.merged digest).models }) m).pointer,
       (nameModel (nameTable { d.merged digest with
        models := marked visits [] (d.merged digest).models }) m).anonymous) =
      (m.pointer, m.anonymous) :=
    hpart _ (nameNode_part _ (fun t => (t.pointer, t.anonymous)) (fun _ _ => rfl) (fun _ _ => rfl))
  rw [List.map_congr_left (fun m _ => hnamed m),
    map_marked _ (fun _ m => hpart _ (fun t => by unfold markNode; split <;> rfl) m), merged_eq,
    models_mapModels, List.map_map]
  exact List.map_congr_left
    (fun m _ => hpart _ (fun t => by unfold retargetNode; split <;> rfl) m)

/-- The models of a draft stand at distinct pointers, so its resolved draft gets names, the first
model at a pointer has the name that the last gives to the pointer, each reference finds one, and
the schema of a definition has the name of its model. -/
structure Distinct (d : Draft) : Prop where
  nodup : (d.models.map Model.pointer).Nodup
  settles : ∀ digest out, d.resolveBy digest = .ok out → ∃ named, out.named = .ok named ∧
    (∀ pointer, (named.modelAt? pointer).map Model.name = out.nameTable.get? pointer) ∧
    (∀ t ∈ out.referenceNodes, ∃ m, named.modelAt? t.target = some m ∧
      out.nameTable.get? t.target = some m.name) ∧
    ∀ s ∈ named.schemas, ∃ m ∈ named.models, m.anonymous = false ∧ m.pointer = s.pointer ∧
      m.name = s.name

/-- A draft that is put together from a document whose definitions stand apart has its models at
distinct pointers. -/
theorem Assembled.distinct (h : Assembled version filter doc ops d)
    (hapart : version.DefinitionsApart doc) : Distinct d := by
  have hptr := h.nodup hapart
  refine ⟨hptr, fun digest out hout => ?_⟩
  obtain ⟨named, hnamed⟩ := named_of_resolveBy hptr hout
  have hpresent := present_resolveBy hptr h.present hout
  have hagree := name_modelAt? hnamed hpresent (nodup_pointers_resolveBy hptr hout)
  have hdistinct : (named.models.map Model.pointer).Nodup := by
    rw [pointers_named hnamed]
    exact nodup_pointers_resolveBy hptr hout
  refine ⟨named, hnamed, hagree, fun t ht => ?_, fun s hs => ?_⟩
  · have hmem := (named_eq_ok_iff.1 hnamed).1 t ht
    rw [← pointers_named hnamed] at hmem
    obtain ⟨m, hm, htarget⟩ := List.mem_map.1 hmem
    have hfound := htarget ▸ modelAt?_pointer hdistinct hm
    exact ⟨m, hfound, by rw [← hagree, hfound, Option.map_some]⟩
  · -- a schema stands where the model of its definition does, and that model is never merged
    obtain ⟨before, hbefore, rfl⟩ : ∃ before ∈ d.schemas, s = { before with
        name := (out.nameTable.get? before.pointer).getD ""
        raw := before.raw.nameTargets out.nameTable } := by
      obtain ⟨visits, -, -, rfl⟩ := resolveBy_eq_ok_iff.1 hout
      obtain ⟨-, rfl⟩ := named_eq_ok_iff.1 hnamed
      obtain ⟨before, hbefore, rfl⟩ := List.mem_map.1 hs
      exact ⟨before, hbefore, rfl⟩
    obtain ⟨m, hm, hanonymous, hpointer⟩ := h.exists_named hbefore
    have hkept : (m.pointer, m.anonymous) ∈
        named.models.map (fun m => (m.pointer, m.anonymous)) := by
      rw [marks_named hout hnamed]
      exact List.mem_map_of_mem (List.mem_reverse.2
        ((Merge.keeps_ofModels digest d.models).named m hm hanonymous))
    obtain ⟨n, hn, heq⟩ := List.mem_map.1 hkept
    obtain ⟨hp, ha⟩ := Prod.mk.inj heq
    have hname := hagree n.pointer
    rw [modelAt?_pointer hdistinct hn, Option.map_some, hp, hpointer] at hname
    exact ⟨n, hn, ha.trans hanonymous, hp.trans hpointer, by simp only [← hname, Option.getD_some]⟩

/-- The models of a document whose definitions stand apart from its parameters have distinct
pointers, and so first and last models agree. -/
theorem ofDocument_distinct (h : ofDocument filter doc = .ok d)
    (hversion : Version.detect doc = .ok version)
    (hapart : version.DefinitionsApart (version.prepared doc)) : Distinct d := by
  obtain ⟨version', ops, hversion', hassembled⟩ := exists_assembled h
  obtain rfl := Except.ok.inj (hversion.symm.trans hversion')
  exact hassembled.distinct hapart

/-- A document of version 2 with one definition and one call, whose parameter is described
elsewhere. -/
def sorting (target : String) (definition : Dict Value) : Value :=
  .mapping
    [("definitions", .mapping [("Sort", .mapping definition)]),
     ("info", .mapping [("title", .text "pets"), ("version", .text "1")]),
     ("parameters", .mapping [("Order", .mapping
       [("enum", .list [.text "up"]), ("in", .text "query"), ("name", .text "order"),
        ("type", .text "string")])]),
     ("paths", .mapping [("/pets", .mapping [("get", .mapping
       [("parameters", .list [.mapping [("$ref", .text target)]]),
        ("responses", .mapping [("200", .mapping [("description", .text "ok")])])])])]),
     ("swagger", .text "2.0")]

/-- A definition that is an enum, beside a parameter that is one. -/
def sortedApart : Value :=
  sorting "#/parameters/Order" [("enum", .list [.text "up"]), ("type", .text "string")]

/-- The models of `sortedApart` stand at distinct pointers, as `ofDocument_distinct` says. -/
theorem ofDocument_distinct_sortedApart :
    ∃ d, ofDocument {} sortedApart = .ok d ∧
      d.models.map Model.pointer = ["#/definitions/Sort", "#/parameters/Order"] ∧ Distinct d := by
  have hd : (ofDocument {} sortedApart).toOption.map (fun d => d.models.map Model.pointer) =
      some ["#/definitions/Sort", "#/parameters/Order"] := by decide +kernel
  have hversion : Version.detect sortedApart = .ok .v2 := eq_ok_of_toOption (by decide +kernel)
  have hapart : Version.v2.DefinitionsApart (Version.v2.prepared sortedApart) := by
    decide +kernel
  obtain ⟨d, hd, hpointers⟩ := Option.map_eq_some_iff.1 hd
  exact ⟨d, eq_ok_of_toOption hd, hpointers,
    ofDocument_distinct (eq_ok_of_toOption hd) hversion hapart⟩

/-- A definition that a call takes for its parameter. -/
def sortedTogether : Value :=
  sorting "#/definitions/Sort"
    [("enum", .list [.text "up"]), ("in", .text "query"), ("name", .text "sort"),
     ("type", .text "string")]

/-- The definition of `sortedTogether` and the model of its parameter stand at one pointer. After
merging, the first model there is that of the definition and the last name there is that of the
parameter, and so the schema of the definition gets the name of the anonymous model. -/
theorem shared_pointer :
    ∃ d named, ofDocument {} sortedTogether = .ok d ∧
      d.models.map (fun m => (m.pointer, m.anonymous)) =
        [("#/definitions/Sort", false), ("#/definitions/Sort", true)] ∧
      (d.merged (fun _ => 0)).named = .ok named ∧
      (named.modelAt? "#/definitions/Sort").map (fun m => (m.name, m.anonymous)) =
        some ("Sort", false) ∧
      (d.merged (fun _ => 0)).nameTable.get? "#/definitions/Sort" = some "GetPetsSort" ∧
      named.schemas.map RawSchema.name = ["GetPetsSort"] := by
  have hall : (ofDocument {} sortedTogether).toOption.bind (fun d =>
      (d.merged (fun _ => 0)).named.toOption.map (fun named =>
        (d.models.map (fun m => (m.pointer, m.anonymous)),
          (named.modelAt? "#/definitions/Sort").map (fun m => (m.name, m.anonymous)),
          (d.merged (fun _ => 0)).nameTable.get? "#/definitions/Sort",
          named.schemas.map RawSchema.name))) =
      some ([("#/definitions/Sort", false), ("#/definitions/Sort", true)],
        some ("Sort", false), some "GetPetsSort", ["GetPetsSort"]) := by decide +kernel
  obtain ⟨d, hd, hall⟩ := Option.bind_eq_some_iff.1 hall
  obtain ⟨named, hnamed, hfacts⟩ := Option.map_eq_some_iff.1 hall
  simp only [Prod.mk.injEq] at hfacts
  obtain ⟨hmodels, hfirst, htable, hschemas⟩ := hfacts
  exact ⟨d, named, eq_ok_of_toOption hd, hmodels, eq_ok_of_toOption hnamed, hfirst, htable,
    hschemas⟩

end Draft

end TypedClient
