import TypedClient.Proofs.Document.BodyMerge
import TypedClient.Proofs.Draft.Anonymous
import TypedClient.Proofs.Draft.Naming
import TypedClient.Proofs.Draft.Resolution

/-!
# Named schemas

The named schemas of a document stand under `definitions` or `components/schemas`.
`ofDocument_defines` says what a draft makes of them: in key order each becomes a model and a raw
schema, both at the pointer that the key gives, and no reference to one of them stays unresolved.

Two sorts of keys are not treated like the others. A key that starts with `x-` counts as an
extension and gives neither a model nor a schema. A key with percent signs that can be decoded gives
a pointer that leads elsewhere, so its raw schema is not found. `misread_definitions` shows both.
-/

namespace TypedClient

namespace Pointer

/-- A step that is no index takes a key of a mapping. -/
theorem step?_eq_get? {key : String} (h : index? key = none) (v : Value) :
    step? v key = v.get? key := by
  cases v with
  | list items => simp [step?, h, Value.get?, Value.entries, Value.mapping?]
  | _ => rfl

theorem descend?_singleton (v : Value) (key : String) : descend? v [key] = step? v key := by
  simp [descend?]

theorem descend?_concat (v : Value) (keys : List String) (key : String) :
    descend? v (keys ++ [key]) = (descend? v keys).bind (fun w => step? w key) := by
  simp [descend?, List.foldlM_append]

end Pointer

namespace Value

/-- An entry of a value is one step below it. -/
theorem step?_of_mem_entries {v w : Value} {key : String} (hsorted : v.entries.Sorted)
    (h : (key, w) ∈ v.entries) : Pointer.step? v key = some w := by
  cases v with
  | mapping entries => exact hsorted.get?_eq_some h
  | _ => cases h

end Value

namespace Version

variable {version : Version} {doc : Value}

/-- The entries of the section of a document that names schemas. -/
def stored (version : Version) (doc : Value) : Dict Value :=
  match version with
  | v2 => (doc.field "definitions").entries
  | v3 => ((doc.field "components").field "schemas").entries

/-- The section that names schemas is written exactly. -/
def SpellsSchemas (version : Version) (doc : Value) : Prop :=
  match version with
  | v2 => Field.Exact "definitions" doc.entries
  | v3 => Field.Exact "components" doc.entries ∧
      Field.Exact "schemas" (doc.field "components").entries

instance : Decidable (version.SpellsSchemas doc) :=
  match version with
  | v2 => inferInstanceAs (Decidable (Field.Exact _ _))
  | v3 => inferInstanceAs (Decidable (Field.Exact _ _ ∧ Field.Exact _ _))

theorem ordered_stored (h : doc.isOrdered = true) : (version.stored doc).Ordered := by
  cases version with
  | v2 => exact Value.ordered_entries (Value.isOrdered_field h _)
  | v3 => exact Value.ordered_entries (Value.isOrdered_field (Value.isOrdered_field h _) _)

/-- The named schemas are those of the section. -/
theorem schemas_eq (h : doc.isOrdered = true) (hspelled : version.SpellsSchemas doc) :
    version.schemas doc = Dict.mapValues Schema.read (version.stored doc) := by
  have hentries := Value.ordered_entries h
  cases version with
  | v2 => exact congrArg (Dict.mapValues Schema.read) (Field.dict_of_exact hentries hspelled)
  | v3 =>
      obtain ⟨hcomponents, hschemas⟩ := hspelled
      have hvalue : Field.value "components" doc.entries = doc.field "components" :=
        Field.value_of_exact hentries.sorted hcomponents
      have hsection := Value.ordered_entries (Value.isOrdered_field h "components")
      refine congrArg (Dict.mapValues Schema.read) ?_
      rw [hvalue]
      exact Field.dict_of_exact hsection hschemas

/-- The keys of the path and a key of the section lead to what is stored. -/
theorem descend?_stored (h : doc.isOrdered = true) {name : String} {v : Value}
    (hmem : (name, v) ∈ version.stored doc) :
    Pointer.descend? doc (version.schemaPath ++ [name]) = some v := by
  have hsorted : (version.stored doc).Sorted := (ordered_stored h).sorted
  rw [Pointer.descend?_concat]
  cases version with
  | v2 =>
      have hsection := Value.get?_of_entries_ne_nil (List.ne_nil_of_mem hmem)
      have hstep : Pointer.step? doc "definitions" = some (doc.field "definitions") :=
        (Pointer.step?_eq_get? (by decide) doc).trans hsection
      rw [schemaPath, Pointer.descend?_singleton, hstep]
      exact Value.step?_of_mem_entries hsorted hmem
  | v3 =>
      have hsection := Value.get?_of_entries_ne_nil (List.ne_nil_of_mem hmem)
      have hcomponents : doc.get? "components" = some (doc.field "components") := by
        refine Value.get?_of_entries_ne_nil (fun hnil => ?_)
        rw [Value.get?, hnil] at hsection
        cases hsection
      have hfirst : Pointer.step? doc "components" = some (doc.field "components") :=
        (Pointer.step?_eq_get? (by decide) doc).trans hcomponents
      have hstep : Pointer.descend? doc ["components", "schemas"] =
          some ((doc.field "components").field "schemas") := by
        rw [← List.singleton_append, Pointer.descend?_concat, Pointer.descend?_singleton, hfirst]
        exact (Pointer.step?_eq_get? (by decide) _).trans hsection
      rw [schemaPath, hstep]
      exact Value.step?_of_mem_entries hsorted hmem

/-- At a pointer that stands for itself is what is stored under its last key. -/
theorem lookup?_schemaPointer (h : doc.isOrdered = true) {name : String} {v : Value}
    (hmem : (name, v) ∈ version.stored doc)
    (hliteral : Pointer.Literal (version.schemaPointer name)) :
    Pointer.lookup? doc (version.schemaPointer name) = some v := by
  rw [schemaPointer, Pointer.lookup?_join doc hliteral, descend?_stored h hmem]

theorem isOrdered_prepared (h : doc.isOrdered = true) :
    (version.prepared doc).isOrdered = true := by
  cases version with
  | v2 => exact BodyMerge.isOrdered_mend (Value.isOrdered_normalize h)
  | v3 => exact Value.isOrdered_normalize h

end Version

namespace Draft

/-! ## Which references stay unresolved -/

/-- What a merge keeps, at any pointers: the models that are not anonymous, and a model at each
pointer that replaces another. -/
structure Merge.Keeps (models : List Model) (g : Merge) : Prop where
  subset : ∀ m ∈ g.kept, m ∈ models
  named : ∀ m ∈ models, m.anonymous = false → m ∈ g.kept
  replaced : ∀ e ∈ g.replaced, ∃ first ∈ g.kept, first.pointer = e.2

variable {digest : String → UInt64} {d : Draft}

theorem Merge.Keeps.add {models : List Model} {g : Merge} (h : g.Keeps models) (m : Model) :
    (g.add digest m).Keeps (models ++ [m]) := by
  have hkept : ({ g with kept := m :: g.kept } : Merge).Keeps (models ++ [m]) := by
    refine ⟨fun n hn => ?_, fun n hn ha => ?_, fun e he => ?_⟩
    · rcases List.mem_cons.1 hn with rfl | hn
      · exact List.mem_append_right _ (List.mem_singleton_self n)
      · exact List.mem_append_left _ (h.subset n hn)
    · rcases List.mem_append.1 hn with hn | hn
      · exact List.mem_cons_of_mem m (h.named n hn ha)
      · exact List.mem_singleton.1 hn ▸ List.mem_cons_self
    · obtain ⟨first, hfirst, hpointer⟩ := h.replaced e he
      exact ⟨first, List.mem_cons_of_mem m hfirst, hpointer⟩
  unfold Merge.add
  split
  case isTrue hanonymous =>
    split
    case h_1 first hfirst =>
      refine ⟨fun n hn => List.mem_append_left _ (h.subset n hn), fun n hn ha => ?_, ?_⟩
      · rcases List.mem_append.1 hn with hn | hn
        · exact h.named n hn ha
        · rw [List.mem_singleton.1 hn, hanonymous] at ha
          cases ha
      · exact List.forall_mem_cons.2
          ⟨⟨first, (Merge.representative?_eq_some hfirst).1, rfl⟩, h.replaced⟩
    case h_2 => exact hkept
  case isFalse => exact hkept

theorem Merge.keeps_ofModels (digest : String → UInt64) (models : List Model) :
    (Merge.ofModels digest models).Keeps models := by
  have hfold : ∀ (rest earlier : List Model) (g : Merge), g.Keeps earlier →
      (rest.foldl (Merge.add digest) g).Keeps (earlier ++ rest) := by
    intro rest
    induction rest with
    | nil => exact fun earlier g hg => (List.append_nil earlier).symm ▸ hg
    | cons m rest ih =>
        intro earlier g hg
        rw [List.append_cons]
        exact ih _ _ (hg.add m)
  exact hfold models [] {} ⟨by simp, by simp, by simp⟩

/-- The pointer of a model that is not anonymous has a model after merging. -/
theorem resolves_retarget {m : Model} (hm : m ∈ d.models) (ha : m.anonymous = false) :
    (d.merged digest).Resolves ((Merge.ofModels digest d.models).retarget m.pointer) := by
  have hkeeps := Merge.keeps_ofModels digest d.models
  have hmem : (Merge.ofModels digest d.models).retarget m.pointer ∈
      (d.merged digest).models.map Model.pointer := by
    rw [pointers_merged, List.map_reverse, List.mem_reverse, Merge.retarget]
    cases hfound : (Merge.ofModels digest d.models).replaced.lookup m.pointer with
    | none => exact List.mem_map_of_mem (hkeeps.named m hm ha)
    | some target =>
        obtain ⟨before, after, hsplit, -⟩ := List.lookup_eq_some_iff.1 hfound
        obtain ⟨first, hfirst, hpointer⟩ := hkeeps.replaced (m.pointer, target)
          (hsplit ▸ List.mem_append_right _ List.mem_cons_self)
        exact List.mem_map.2 ⟨first, hfirst, hpointer⟩
  exact List.mem_map.1 hmem

/-- Settling the references of a draft ends with an unresolved one. -/
def Fails (digest : String → UInt64) (d : Draft) (e : Unresolved) : Prop :=
  d.resolveBy digest = .error e ∨ ∃ out, d.resolveBy digest = .ok out ∧ out.named = .error e

/-- A failure reports what a reference of the draft became, and there is no model there. -/
theorem exists_of_fails {e : Unresolved} (h : d.Fails digest e) :
    ∃ t ∈ d.referenceNodes, e.pointer = (Merge.ofModels digest d.models).retarget t.target ∧
      ¬ (d.merged digest).Resolves e.pointer := by
  -- both stages report the target of a reference of the merged draft
  have hmerged : e.pointer ∈ (d.merged digest).referenceNodes.map Traits.target ∧
      ¬ (d.merged digest).Resolves e.pointer := by
    rcases h with h | ⟨out, hout, h⟩
    · obtain ⟨t, ht, hnot, rfl⟩ := resolveBy_error h
      exact ⟨List.mem_map_of_mem ht, hnot⟩
    · have hpointers : out.models.map Model.pointer =
          (d.merged digest).models.map Model.pointer := by
        obtain ⟨visits, -, -, rfl⟩ := resolveBy_eq_ok_iff.1 hout
        exact pointers_marked visits [] _
      unfold Draft.named at h
      dsimp only at h
      split at h
      case h_1 t ht =>
        cases h
        refine ⟨targets_resolveBy hout ▸
          List.mem_map_of_mem (List.mem_of_find?_eq_some ht), fun hresolves => ?_⟩
        have hnone := List.find?_some ht
        have hmem : t.target ∈ out.models.map Model.pointer :=
          hpointers ▸ List.mem_map.2 hresolves
        rw [← pointers_nameTable, ← NameTable.get?_isSome_iff] at hmem
        simp only [Option.isNone_iff_eq_none] at hnone
        rw [hnone] at hmem
        cases hmem
      case h_2 => cases h
  obtain ⟨hmem, hnot⟩ := hmerged
  obtain ⟨t, ht, htarget⟩ := List.mem_map.1 hmem
  rw [referenceNodes_merged] at ht
  obtain ⟨before, hbefore, rfl⟩ := List.mem_map.1 ht
  have hreference : before.isReference = true := by
    rw [referenceNodes_eq_filter] at hbefore
    exact (List.mem_filter.1 hbefore).2
  have hkept : before ∈ d.referenceNodes := by
    refine (List.mem_append.1 hbefore).elim (fun hmodels => List.mem_append_left _ ?_)
      (fun hservices => List.mem_append_right _ hservices)
    obtain ⟨m, hm, hnode⟩ := List.mem_flatMap.1 hmodels
    exact List.mem_flatMap.2 ⟨m, (Merge.keeps_ofModels digest d.models).subset m
      (List.mem_reverse.1 hm), hnode⟩
  refine ⟨before, hkept, ?_, hnot⟩
  rw [← htarget, retargetNode, if_pos hreference]

/-! ## What becomes of the named schemas -/

/-- A draft holds the named schemas `definitions` of a prepared document. -/
structure Defines (version : Version) (doc : Value) (definitions : Dict Value) (d : Draft) :
    Prop where
  /-- The models that are not anonymous are those of the named schemas. -/
  models_eq : d.models.filter (fun m => !m.anonymous) =
    definitions.map (fun e => namedModel version doc e.1 (Schema.read e.2))
  /-- A model has its key as its name in the description, and stands where the key says. -/
  keys_eq : (d.models.filter (fun m => !m.anonymous)).map
      (fun m => (m.traits.sourceName, m.pointer)) =
    definitions.map (fun e => (e.1, version.schemaPointer e.1))
  /-- The keys ascend. -/
  sorted : definitions.Sorted
  /-- Each model has one schema, at its pointer, which is what is stored under the key when the
  pointer stands for itself. -/
  schemas : List.Forall₂ (fun e s => s.pointer = version.schemaPointer e.1 ∧
    (Pointer.Literal (version.schemaPointer e.1) → s.raw = e.2)) definitions d.schemas
  /-- A reference that stays unresolved is not one to a named schema. -/
  unresolved : ∀ digest e, d.Fails digest e → ∃ t ∈ d.referenceNodes,
    e.pointer = (Merge.ofModels digest d.models).retarget t.target ∧
    ∀ key ∈ definitions.keys, ∀ ref, Text.startsWith "#" ref = true →
      Pointer.tokens? ref = some (version.schemaPath ++ [key]) → Pointer.canonical ref ≠ t.target

variable {version : Version} {filter : TagFilter} {doc : Value} {ops : List Operation}

/-- In an ordered document with an exact section the named models are those of its entries. -/
theorem namedOf_eq (h : doc.isOrdered = true) (hspelled : version.SpellsSchemas doc) :
    namedOf version doc = (Dict.withoutExtensions (version.stored doc)).map (fun e =>
      (namedModel version doc e.1 (Schema.read e.2),
        { pointer := version.schemaPointer e.1
          raw := (Pointer.lookup? doc (version.schemaPointer e.1)).getD .null })) := by
  rw [namedOf, Version.schemas_eq h hspelled, Dict.withoutExtensions, Dict.mapValues,
    List.filter_map, List.map_map]
  rfl

/-- A draft that is put together from an ordered document with an exact section holds its named
schemas, apart from extensions. -/
theorem Assembled.defines (h : Assembled version filter doc ops d) (hordered : doc.isOrdered = true)
    (hspelled : version.SpellsSchemas doc) :
    Defines version doc (Dict.withoutExtensions (version.stored doc)) d := by
  have hnamed := namedOf_eq hordered hspelled
  have hmodels : d.models.filter (fun m => !m.anonymous) =
      (Dict.withoutExtensions (version.stored doc)).map
        (fun e => namedModel version doc e.1 (Schema.read e.2)) := by
    rw [h.filter_named, hnamed, List.map_map]
    rfl
  refine ⟨hmodels, ?_, (Version.ordered_stored hordered).sorted.withoutExtensions, ?_, ?_⟩
  · rw [hmodels, List.map_map]
    refine List.map_congr_left (fun e _ => ?_)
    exact congrArg₂ Prod.mk (sourceName_namedModel ..) (namedModel_layered ..).pointer_eq
  · rw [h.schemas_eq, hnamed, List.map_map, List.forall₂_map_right_iff, List.forall₂_same]
    refine fun e he => ⟨rfl, fun hliteral => ?_⟩
    have hfound := Version.lookup?_schemaPointer hordered (List.mem_filter.1 he).1 hliteral
    simp only [Function.comp_apply, hfound, Option.getD_some]
  · intro digest e hfails
    obtain ⟨t, ht, hpointer, hnot⟩ := exists_of_fails hfails
    refine ⟨t, ht, hpointer, fun key hkey ref hstart hkeys heq => hnot ?_⟩
    obtain ⟨entry, hentry, rfl⟩ := List.mem_map.1 hkey
    have hm : namedModel version doc entry.1 (Schema.read entry.2) ∈
        d.models.filter (fun m => !m.anonymous) :=
      hmodels ▸ List.mem_map.2 ⟨entry, hentry, rfl⟩
    have htarget : t.target =
        (namedModel version doc entry.1 (Schema.read entry.2)).pointer := by
      rw [← heq, Pointer.canonical_eq_join hstart hkeys, (namedModel_layered ..).pointer_eq]
      rfl
    rw [hpointer, htarget]
    exact resolves_retarget (List.mem_filter.1 hm).1 (anonymous_namedModel ..)

/-- The draft of an ordered document whose section of named schemas is written exactly holds them,
apart from those whose keys belong to extensions. -/
theorem ofDocument_defines (h : ofDocument filter doc = .ok d) (hordered : doc.isOrdered = true)
    (hversion : Version.detect doc = .ok version)
    (hspelled : version.SpellsSchemas (version.prepared doc)) :
    Defines version (version.prepared doc)
      (Dict.withoutExtensions (version.stored (version.prepared doc))) d := by
  obtain ⟨version', ops, hversion', hassembled⟩ := exists_assembled h
  obtain rfl := Except.ok.inj (hversion.symm.trans hversion')
  exact hassembled.defines (Version.isOrdered_prepared hordered) hspelled

/-- A schema for texts. -/
def textSchema : Value :=
  .mapping [("type", .text "string")]

/-- A document of version 2 with named schemas and nothing else. -/
def defining (definitions : Dict Value) : Value :=
  .mapping
    [("definitions", .mapping definitions),
     ("info", .mapping [("title", .text "pets"), ("version", .text "1")]),
     ("paths", .mapping []), ("swagger", .text "2.0")]

/-- A named schema whose key has a slash, and one that refers to it. -/
def slashed : Value :=
  defining
    [("a/b", textSchema),
     ("list", .mapping [("items", .mapping [("$ref", .text "#/definitions/a~1b")])])]

/-- The draft of `slashed` holds both of its schemas, as `ofDocument_defines` says. -/
theorem ofDocument_defines_slashed :
    ∃ d, ofDocument {} slashed = .ok d ∧
      d.models.map (fun m => (m.traits.sourceName, m.pointer)) =
        [("a/b", "#/definitions/a~1b"), ("list", "#/definitions/list")] ∧
      Defines .v2 (Version.v2.prepared slashed)
        (Dict.withoutExtensions (Version.v2.stored (Version.v2.prepared slashed))) d := by
  have hd : (ofDocument {} slashed).toOption.map (fun d =>
      d.models.map (fun m => (m.traits.sourceName, m.pointer))) = some
        [("a/b", "#/definitions/a~1b"), ("list", "#/definitions/list")] := by decide +kernel
  obtain ⟨d, hd, hmodels⟩ := Option.map_eq_some_iff.1 hd
  exact ⟨d, eq_ok_of_toOption hd, hmodels, ofDocument_defines (eq_ok_of_toOption hd)
    (by decide +kernel) (eq_ok_of_toOption (by decide +kernel)) (by decide +kernel)⟩

/-- A named schema whose key reads like a percent-encoded text. -/
def percentKey : Value :=
  defining [("a%20b", textSchema)]

/-- A named schema whose key starts like that of an extension, and one that refers to it. -/
def extensionKey : Value :=
  defining
    [("list", .mapping [("items", .mapping [("$ref", .text "#/definitions/x-id")])]),
     ("x-id", textSchema)]

/-- The raw schema of `percentKey` is null though its schema is not, and of the two named schemas
of `extensionKey` only one becomes a model, so that the reference to the other stays unresolved. -/
theorem misread_definitions :
    (∃ d, ofDocument {} percentKey = .ok d ∧
      d.schemas.map (fun s => (s.pointer, s.raw.isNull)) = [("#/definitions/a%20b", true)] ∧
      (Version.v2.stored (Version.v2.prepared percentKey)).map (fun e => (e.1, e.2.isNull)) =
        [("a%20b", false)]) ∧
    ∃ d e, ofDocument {} extensionKey = .ok d ∧
      d.models.map (fun m => m.traits.sourceName) = ["list"] ∧
      (Version.v2.stored (Version.v2.prepared extensionKey)).map Prod.fst = ["list", "x-id"] ∧
      d.resolveBy (fun _ => 0) = .error e ∧ e.pointer = "#/definitions/x-id" := by
  have hpercent : (ofDocument {} percentKey).toOption.map (fun d =>
      d.schemas.map (fun s => (s.pointer, s.raw.isNull))) =
        some [("#/definitions/a%20b", true)] := by decide +kernel
  have hextension : (ofDocument {} extensionKey).toOption.map (fun d =>
      (d.models.map (fun m => m.traits.sourceName), d.models.map Model.pointer,
        (d.merged (fun _ => 0)).models.map Model.pointer,
        (d.merged (fun _ => 0)).referenceNodes.map Traits.target)) =
      some (["list"], ["#/definitions/list"], ["#/definitions/list"],
        ["#/definitions/x-id"]) := by decide +kernel
  obtain ⟨d, hd, hschemas⟩ := Option.map_eq_some_iff.1 hpercent
  refine ⟨⟨d, eq_ok_of_toOption hd, hschemas, by decide +kernel⟩, ?_⟩
  obtain ⟨d, hd, hfacts⟩ := Option.map_eq_some_iff.1 hextension
  simp only [Prod.mk.injEq] at hfacts
  obtain ⟨hmodels, hpointers, hmerged, htargets⟩ := hfacts
  obtain ⟨t, ht, htarget⟩ : ∃ t ∈ (d.merged (fun _ => 0)).referenceNodes,
      t.target = "#/definitions/x-id" := List.mem_map.1 (htargets ▸ List.mem_singleton_self _)
  have hnot : ¬ (d.merged (fun _ => 0)).Resolves t.target := by
    rw [Resolves, ← List.mem_map, hmerged, htarget]
    decide
  obtain ⟨e, he⟩ := (resolveBy_error_iff _ (by rw [hpointers]; decide)).2 ⟨t, ht, hnot⟩
  refine ⟨d, e, eq_ok_of_toOption hd, hmodels, by decide +kernel, he, ?_⟩
  obtain ⟨u, hu, -, rfl⟩ := resolveBy_error he
  exact List.mem_singleton.1 (htargets ▸ List.mem_map_of_mem (f := Traits.target) hu)

end Draft

end TypedClient
