import TypedClient.Proofs.Document.Normal
import TypedClient.Proofs.Draft.Pipeline
import TypedClient.Proofs.Naming.InTurn

/-!
# Names that stay

Names are given in turn, so what the first models of a draft are called depends on what they are
called in the description and on nothing that comes after them. The models of the named schemas come
first in the draft of a document, in key order, and they keep their place when anonymous models are
merged. `named_stable` shows what follows: the names of the named schemas depend on their keys only,
so they stay when operations are added, changed or left out.
-/

namespace TypedClient

namespace Naming.Namespace

/-- The first names depend on the first bases only. -/
theorem take_reserveAll (ns : Namespace) (bases : List String) (k : Nat) :
    (ns.reserveAll bases).1.take k = (ns.reserveAll (bases.take k)).1 := by
  induction bases generalizing ns k with
  | nil => rw [List.take_nil, reserveAll, List.take_nil]
  | cons base bases ih =>
      cases k with
      | zero => rfl
      | succ k => rw [reserveAll_cons, List.take_succ_cons, List.take_succ_cons, reserveAll_cons, ih]

end Naming.Namespace

namespace Model

/-- What a model is called in the description; where there is no model nothing is called. -/
def sourceName? (m : Model) : Option String :=
  if m.isAbsent then none else some m.traits.sourceName

/-- The key of the named schema that a model is of; an anonymous model is of none. -/
def definitionKey? (m : Model) : Option String :=
  if m.anonymous then none else m.sourceName?

variable {m : Model} {key : String}

theorem traits_sourceName (m : Model) : m.traits.sourceName = m.sourceName?.getD "" := by
  cases m with
  | absent => rfl
  | node t ps i ms => rfl

/-- A model of a named schema is not anonymous, and in the description it is called by its key. -/
theorem definitionKey?_eq_some_iff :
    m.definitionKey? = some key ↔ m.anonymous = false ∧ m.sourceName? = some key := by
  rw [definitionKey?, Option.ite_none_left_eq_some, Bool.not_eq_true]

/-- A change of traits that keeps what a model is called and whether it is anonymous keeps the key
of its schema. -/
theorem definitionKey?_mapNodes {f : Traits → Traits} (key : Traits → String → String → String)
    (hsource : ∀ t, (f t).sourceName = t.sourceName)
    (hanonymous : ∀ t, (f t).anonymous = t.anonymous) (m : Model) :
    (m.mapNodes f key).definitionKey? = m.definitionKey? := by
  rw [definitionKey?, definitionKey?, sourceName?, sourceName?, isAbsent_mapNodes,
    traits_mapNodes key Traits.sourceName hsource]
  exact congrArg (fun b => if b = true then none else _)
    (traits_mapNodes key Traits.anonymous hanonymous m)

end Model

namespace Draft

variable {d out named : Draft} {keys : List String} {models : List Model}
  {digest : String → UInt64}

/-! ## The first models -/

/-- The names that models get in turn, by what they are called in the description. -/
def namesFor (sources : List (Option String)) : List String :=
  List.zipWith (fun source name => source.elim "" (fun _ => name)) sources
    (Naming.Namespace.reserveAll ⟨runtimeNames⟩
      (sources.map (fun source => Naming.typeBase (source.getD "") "Model"))).1

/-- The first names depend on the first models only. -/
theorem take_namesFor (sources : List (Option String)) (k : Nat) :
    (namesFor sources).take k = namesFor (sources.take k) := by
  rw [namesFor, namesFor, List.take_zipWith, Naming.Namespace.take_reserveAll, List.map_take]

/-- The names of the models depend on what these are called in the description. -/
theorem names_named_eq (h : d.named = .ok named) :
    named.models.map Model.name = namesFor (d.models.map Model.sourceName?) := by
  obtain ⟨-, hnamed⟩ := named_eq_ok_iff.1 h
  have hmodels : named.models = List.zipWith (fun m name => m.modify (fun t => { t with name }))
      (d.models.map (nameModel d.nameTable)) d.modelNames.1 := congrArg models hnamed
  have hbases : d.models.map (fun m => Naming.typeBase m.traits.sourceName "Model") =
      (d.models.map Model.sourceName?).map
        (fun source => Naming.typeBase (source.getD "") "Model") := by
    rw [List.map_map]
    exact List.map_congr_left (fun m _ => by rw [Function.comp_apply, m.traits_sourceName])
  have hname : ∀ m name, ((nameModel d.nameTable m).modify (fun t => { t with name })).name =
      m.sourceName?.elim "" (fun _ => name) := by
    intro m name
    cases m with
    | absent => rfl
    | node t ps i ms => rfl
  rw [hmodels, List.map_zipWith, List.zipWith_map_left, namesFor, List.zipWith_map_left, ← hbases]
  simp only [hname]
  rfl

/-- The names of the first models depend only on what these are called in the description. -/
theorem names_take_named (h : d.named = .ok named) (k : Nat) :
    (named.models.take k).map Model.name = namesFor ((d.models.take k).map Model.sourceName?) := by
  rw [List.map_take, names_named_eq h, take_namesFor, List.map_take]

/-! ## The models of the named schemas come first -/

/-- The keys of the named schemas with the names of their models, in the order of the models. -/
def definitionNames (d : Draft) : List (String × String) :=
  d.models.filterMap (fun m => m.definitionKey?.map (fun key => (key, m.name)))

/-- The models of the named schemas with the given keys come first, and there are no others of named
schemas. -/
def ListsFirst (keys : List String) (models : List Model) : Prop :=
  ∃ n, models.map Model.definitionKey? = keys.map some ++ List.replicate n none

theorem ListsFirst.take (h : ListsFirst keys models) :
    (models.take keys.length).map Model.definitionKey? = keys.map some := by
  obtain ⟨n, h⟩ := h
  rw [List.map_take, h, List.take_left' (List.length_map some)]

theorem ListsFirst.drop (h : ListsFirst keys models) :
    ∀ m ∈ models.drop keys.length, m.definitionKey? = none := by
  obtain ⟨n, h⟩ := h
  intro m hm
  have hkey := List.mem_map_of_mem (f := Model.definitionKey?) hm
  rw [List.map_drop, h, List.drop_left' (List.length_map some)] at hkey
  exact List.eq_of_mem_replicate hkey

theorem listsFirst_append {definitions others : List Model}
    (hdefinitions : definitions.map Model.definitionKey? = keys.map some)
    (hothers : ∀ m ∈ others, m.definitionKey? = none) : ListsFirst keys (definitions ++ others) := by
  refine ⟨others.length, ?_⟩
  rw [List.map_append, hdefinitions, List.append_cancel_left_eq]
  exact List.map_eq_replicate_iff.2 hothers

/-- A change of the models that keeps the keys keeps the models of the named schemas first. -/
theorem ListsFirst.congr {changed : List Model} (h : ListsFirst keys models)
    (hkeys : changed.map Model.definitionKey? = models.map Model.definitionKey?) :
    ListsFirst keys changed := by
  obtain ⟨n, h⟩ := h
  exact ⟨n, hkeys.trans h⟩

/-- Models with the given keys are called by them. -/
theorem sourceNames_of_definitionKeys {definitions : List Model}
    (h : definitions.map Model.definitionKey? = keys.map some) :
    definitions.map Model.sourceName? = keys.map some := by
  induction definitions generalizing keys with
  | nil => exact h
  | cons m definitions ih =>
      cases keys with
      | nil => cases h
      | cons key keys =>
          obtain ⟨hm, h⟩ := List.cons.inj h
          rw [List.map_cons, List.map_cons, ih h, (Model.definitionKey?_eq_some_iff.1 hm).2]

/-- What is read off models with the given keys goes with their keys. -/
theorem filterMap_definitionKey? {α : Type} (value : Model → α) {definitions : List Model}
    (h : definitions.map Model.definitionKey? = keys.map some) :
    definitions.filterMap (fun m => m.definitionKey?.map (fun key => (key, value m))) =
      keys.zip (definitions.map value) := by
  induction definitions generalizing keys with
  | nil => rw [List.map_nil, List.zip_nil_right, List.filterMap_nil]
  | cons m definitions ih =>
      cases keys with
      | nil => cases h
      | cons key keys =>
          obtain ⟨hm, h⟩ := List.cons.inj h
          rw [List.filterMap_cons_some (b := (key, value m)) (by rw [hm]; rfl), ih h,
            List.map_cons, List.zip_cons_cons]

/-- Where the models of named schemas come first, their keys and names are found at the front. -/
theorem ListsFirst.definitionNames_eq (h : ListsFirst keys d.models) :
    d.definitionNames = keys.zip ((d.models.take keys.length).map Model.name) := by
  have hnone : (d.models.drop keys.length).filterMap
      (fun m => m.definitionKey?.map (fun key => (key, m.name))) = [] :=
    List.filterMap_eq_nil_iff.2 (fun m hm => by rw [h.drop m hm]; rfl)
  rw [definitionNames, ← List.take_append_drop keys.length d.models, List.filterMap_append, hnone,
    List.append_nil, filterMap_definitionKey? Model.name h.take, List.take_append_drop]

/-- Naming keeps the models of the named schemas first. -/
theorem listsFirst_named (hfirst : ListsFirst keys d.models) (h : d.named = .ok named) :
    ListsFirst keys named.models := by
  refine hfirst.congr ?_
  have hmodify : ∀ (m : Model) (name : String),
      (m.modify (fun t => { t with name })).definitionKey? = m.definitionKey? := by
    intro m name
    cases m with
    | absent => rfl
    | node t ps i ms => rfl
  rw [map_models_named h Model.definitionKey? hmodify]
  exact List.map_congr_left (fun m _ => Model.definitionKey?_mapNodes _
    (nameNode_part _ Traits.sourceName (fun _ _ => rfl) (fun _ _ => rfl))
    (nameNode_part _ Traits.anonymous (fun _ _ => rfl) (fun _ _ => rfl)) m)

/-- Where the models of named schemas come first, naming gives them names by their keys. -/
theorem definitionNames_named (hfirst : ListsFirst keys d.models)
    (h : d.named = .ok named) :
    named.definitionNames = keys.zip (namesFor (keys.map some)) := by
  rw [(listsFirst_named hfirst h).definitionNames_eq, names_take_named h,
    sourceNames_of_definitionKeys hfirst.take]

/-! ## Resolution keeps them first -/

/-- Models that are not anonymous are all kept, in their order. -/
theorem Merge.kept_foldl_named (g : Merge) {definitions : List Model}
    (h : ∀ m ∈ definitions, m.anonymous = false) :
    (definitions.foldl (Merge.add digest) g).kept = definitions.reverse ++ g.kept := by
  induction definitions generalizing g with
  | nil => rfl
  | cons m definitions ih =>
      have hadd : g.add digest m = { g with kept := m :: g.kept } := by
        rw [Merge.add, h m List.mem_cons_self]
        rfl
      rw [List.foldl_cons, ih _ (fun n hn => h n (List.mem_cons_of_mem m hn)), hadd,
        List.reverse_cons, List.append_assoc, List.singleton_append]

/-- One more model comes after those that are kept, or is left out. -/
theorem Merge.kept_add (digest : String → UInt64) (g : Merge) (m : Model) :
    (g.add digest m).kept = g.kept ∨ (g.add digest m).kept = m :: g.kept := by
  unfold Merge.add
  split
  · split
    · exact .inl rfl
    · exact .inr rfl
  · exact .inr rfl

/-- Further models come after those that are kept. -/
theorem Merge.kept_foldl (digest : String → UInt64) (g : Merge) (others : List Model) :
    ∃ rest, (others.foldl (Merge.add digest) g).kept = rest ++ g.kept ∧ rest ⊆ others := by
  induction others generalizing g with
  | nil => exact ⟨[], rfl, List.Subset.refl _⟩
  | cons m others ih =>
      obtain ⟨rest, hrest, hsubset⟩ := ih (g.add digest m)
      have hlater := List.subset_cons_of_subset m hsubset
      rw [List.foldl_cons, hrest]
      rcases kept_add digest g m with hkept | hkept
      · exact ⟨rest, by rw [hkept], hlater⟩
      · refine ⟨rest ++ [m], by rw [hkept, List.append_assoc, List.singleton_append], ?_⟩
        exact List.append_subset.2
          ⟨hlater, List.cons_subset.2 ⟨List.mem_cons_self, List.nil_subset _⟩⟩

/-- Merging keeps the models of the named schemas first. -/
theorem ListsFirst.kept (digest : String → UInt64) (h : ListsFirst keys models) :
    ListsFirst keys (Merge.ofModels digest models).kept.reverse := by
  have hanonymous : ∀ m ∈ models.take keys.length, m.anonymous = false := by
    intro m hm
    have hkey : m.definitionKey? ∈ keys.map some := h.take ▸ List.mem_map_of_mem hm
    obtain ⟨key, -, hkey⟩ := List.mem_map.1 hkey
    exact (Model.definitionKey?_eq_some_iff.1 hkey.symm).1
  obtain ⟨rest, hrest, hsubset⟩ := Merge.kept_foldl digest
    ((models.take keys.length).foldl (Merge.add digest) {}) (models.drop keys.length)
  have hkept : (Merge.ofModels digest models).kept = rest ++ (models.take keys.length).reverse := by
    rw [Merge.ofModels, ← List.take_append_drop keys.length models, List.foldl_append,
      List.take_append_drop, hrest, Merge.kept_foldl_named _ hanonymous, List.append_nil]
  rw [hkept, List.reverse_append, List.reverse_reverse]
  exact listsFirst_append h.take (fun m hm => h.drop m (hsubset (List.mem_reverse.1 hm)))

/-- Resolution keeps the models of the named schemas first. -/
theorem listsFirst_resolveBy (h : ListsFirst keys d.models) (hout : d.resolveBy digest = .ok out) :
    ListsFirst keys out.models := by
  obtain ⟨visits, -, -, rfl⟩ := resolveBy_eq_ok_iff.1 hout
  refine (h.kept digest).congr ?_
  have hmark : ∀ opened m, (Model.mapTraits (markNode opened) m).definitionKey? =
      m.definitionKey? :=
    fun opened => Model.definitionKey?_mapNodes _
      (fun t => by unfold markNode; split <;> rfl) (fun t => by unfold markNode; split <;> rfl)
  have hretarget : ∀ f m, (Model.mapTraits (retargetNode f) m).definitionKey? =
      m.definitionKey? :=
    fun f => Model.definitionKey?_mapNodes _
      (fun t => by unfold retargetNode; split <;> rfl)
      (fun t => by unfold retargetNode; split <;> rfl)
  rw [map_marked Model.definitionKey? hmark, merged_eq, models_mapModels, List.map_map]
  exact List.map_congr_left (fun m _ => hretarget _ m)

/-! ## The draft of a document -/

/-- The keys of the named schemas of a document, ascending, without those of extensions. -/
def definitionKeys (doc : Value) : List String :=
  match Version.detect doc with
  | .ok version => (Dict.withoutExtensions (version.schemas (version.prepared doc))).keys
  | .error _ => []

theorem nodup_definitionKeys (doc : Value) : (definitionKeys doc).Nodup := by
  unfold definitionKeys
  split
  · exact Version.nodup_schemaKeys _ _
  · exact List.nodup_nil

theorem definitionKey?_namedModel (version : Version) (doc : Value) (name : String) (s : Schema) :
    (namedModel version doc name s).definitionKey? = some name := by
  refine Model.definitionKey?_eq_some_iff.2 ⟨anonymous_namedModel version doc name s, ?_⟩
  rw [Model.sourceName?, (namedModel_layered version doc name s).isAbsent_eq,
    sourceName_namedModel]
  rfl

/-- The models of the named schemas come first in the draft of a document, whatever operations are
kept. -/
theorem listsFirst_ofDocument {filter : TagFilter} {doc : Value}
    (h : ofDocument filter doc = .ok d) : ListsFirst (definitionKeys doc) d.models := by
  obtain ⟨version, ops, hversion, hassembled⟩ := exists_assembled h
  have hlifted := Operation.liftAll_anonymous version.early
    (fun _ hm => absurd hm List.not_mem_nil) ops
  rw [definitionKeys, hversion, hassembled.models_eq, models_namedOf]
  refine listsFirst_append ?_ (fun m hm => ?_)
  · dsimp only
    rw [List.map_map, Dict.keys, List.map_map]
    exact List.map_congr_left (fun e _ => definitionKey?_namedModel version _ e.1 e.2)
  · rw [Model.definitionKey?, if_pos (hlifted m hm)]

/-- A draft that is read from a document, with or without resolution. -/
inductive ReadFrom (filter : TagFilter) (doc : Value) : Draft → Prop
  | parsed {d : Draft} (h : ofDocument filter doc = .ok d) : ReadFrom filter doc d
  | resolved {d out : Draft} (h : ofDocument filter doc = .ok d) (hout : d.resolve = .ok out) :
      ReadFrom filter doc out

theorem ReadFrom.listsFirst {filter : TagFilter} {doc : Value} (h : ReadFrom filter doc d) :
    ListsFirst (definitionKeys doc) d.models := by
  cases h with
  | parsed h => exact listsFirst_ofDocument h
  | resolved h hout => exact listsFirst_resolveBy (listsFirst_ofDocument h) hout

/-! ## Documents that differ in their paths -/

/-- The entries of a document other than its paths. -/
def besidePaths (doc : Value) : Dict Value :=
  doc.entries.filter (fun e => !Field.isFor "paths" e.1)

section BesidePaths

variable {doc other : Value}

theorem field_of_besidePaths_eq (h : besidePaths doc = besidePaths other) {key : String}
    (hkey : Field.isFor "paths" key = false) : doc.field key = other.field key := by
  have hget := congrArg (fun d => (Dict.get? d key).getD .null) h
  simp only [besidePaths, Dict.get?_filter (fun key => !Field.isFor "paths" key), hkey] at hget
  exact hget

/-- Documents that differ in their paths only declare one version. -/
theorem detect_of_besidePaths_eq (h : besidePaths doc = besidePaths other) :
    Version.detect doc = Version.detect other := by
  rw [Version.detect, Version.detect, field_of_besidePaths_eq h (by decide),
    field_of_besidePaths_eq h (by decide)]

/-- A field that no path is written under is read from the entries other than the paths. -/
theorem filter_besidePaths {name : String} (hname : Field.isFor name "paths" = false) (doc : Value) :
    (besidePaths doc).filter (fun e => Field.isFor name e.1) =
      doc.entries.filter (fun e => Field.isFor name e.1) := by
  rw [besidePaths, List.filter_filter]
  refine List.filter_congr (fun e _ => ?_)
  cases hkey : Field.isFor name e.1 with
  | false => rfl
  | true =>
      have hpaths : Field.isFor "paths" e.1 = false := by
        rw [Field.isFor, eq_of_beq hkey]
        rw [Field.isFor] at hname
        rw [← hname]
        exact Bool.beq_comm
      rw [hpaths]
      rfl

/-- A field that is neither a keyword nor the paths is the same in documents that differ in their
paths only, also once they are prepared. -/
theorem all_prepared_of_besidePaths_eq (h : besidePaths doc = besidePaths other)
    (version : Version) (name : String) (hpaths : Field.isFor name "paths" = false)
    (hname : ∀ key ∈ ["type", "nullable", "exclusiveMinimum", "exclusiveMaximum"],
      Field.isFor name key = false) :
    Field.all name (version.prepared doc).entries =
      Field.all name (version.prepared other).entries := by
  have hprepared : ∀ v : Value,
      (version.prepared v).entries.filter (fun e => Field.isFor name e.1) =
        Dict.mapValues Value.fold ((besidePaths v).filter (fun e => Field.isFor name e.1)) := by
    intro v
    rw [filter_besidePaths hpaths, ← Value.filter_normalize hpaths hname]
    cases version with
    | v2 => exact BodyMerge.filter_mend hpaths _
    | v3 => rfl
  rw [Field.all, Field.all, hprepared, hprepared, h]

/-- Documents that differ in their paths only have the same named schemas. -/
theorem schemas_of_besidePaths_eq (h : besidePaths doc = besidePaths other) (version : Version) :
    version.schemas (version.prepared doc) = version.schemas (version.prepared other) := by
  cases version with
  | v2 =>
      have hall := all_prepared_of_besidePaths_eq h .v2 "definitions" (by decide) (by decide)
      show (Field.dict _ _).mapValues Schema.read = (Field.dict _ _).mapValues Schema.read
      rw [Field.dict, Field.dict, hall]
  | v3 =>
      have hall := all_prepared_of_besidePaths_eq h .v3 "components" (by decide) (by decide)
      have hvalue : Field.value "components" (Version.v3.prepared doc).entries =
          Field.value "components" (Version.v3.prepared other).entries := by
        rw [Field.value, Field.value, hall]
      exact congrArg (fun v : Value => (Field.dict "schemas" v.entries).mapValues Schema.read)
        hvalue

theorem definitionKeys_of_besidePaths_eq (h : besidePaths doc = besidePaths other) :
    definitionKeys doc = definitionKeys other := by
  rw [definitionKeys, definitionKeys, ← detect_of_besidePaths_eq h]
  cases Version.detect doc with
  | ok version =>
      dsimp only
      rw [schemas_of_besidePaths_eq h version]
  | error _ => rfl

end BesidePaths

/-! ## Names that stay -/

/-- What the models of the named schemas are called is listed by the keys, in their order. -/
theorem ListsFirst.keys_definitionNames (h : ListsFirst keys d.models) :
    d.definitionNames.map Prod.fst = keys := by
  obtain ⟨n, h⟩ := h
  have hkeys : d.definitionNames.map Prod.fst = d.models.filterMap Model.definitionKey? := by
    rw [definitionNames, List.map_filterMap]
    refine List.filterMap_congr (fun m _ => ?_)
    rw [Option.map_map]
    exact Option.map_id'
  have hnone : (List.replicate n (none : Option String)).filterMap id = [] :=
    List.filterMap_replicate_of_none rfl
  rw [hkeys, ← Function.id_comp Model.definitionKey?, ← List.filterMap_map, h,
    List.filterMap_append, hnone, List.append_nil, List.filterMap_map]
  exact List.filterMap_some

theorem mem_definitionNames {m : Model} {key : String} (hm : m ∈ d.models)
    (hkey : m.definitionKey? = some key) : (key, m.name) ∈ d.definitionNames :=
  List.mem_filterMap.2 ⟨m, hm, by rw [hkey]; rfl⟩

/-- A model of a finished draft that is of a named schema has the name that the draft lists. -/
theorem mem_definitionNames_of_finish {m : Model} {key : String} (hm : m ∈ d.finish.models)
    (hkey : m.definitionKey? = some key) : (key, m.name) ∈ d.definitionNames := by
  obtain ⟨k, hk, rfl⟩ := Client.exists_of_mem_models hm
  rw [name_withImports]
  refine mem_definitionNames hk (Eq.trans ?_ hkey)
  cases k with
  | absent => rfl
  | node t ps i ms => rfl

/-- Two named drafts give the models of named schemas the same names, also once they are
finished. -/
structure AgreeOnNames (named other : Draft) : Prop where
  /-- The drafts list the same names by the same keys. -/
  definitionNames_eq : named.definitionNames = other.definitionNames
  /-- Models of one named schema have one name in the finished drafts. -/
  name_eq : ∀ m ∈ named.finish.models, ∀ n ∈ other.finish.models, ∀ key,
    m.definitionKey? = some key → n.definitionKey? = some key → m.name = n.name

/-- Drafts of documents whose named schemas have the same keys agree on names. -/
theorem ReadFrom.agreeOnNames {filter filter' : TagFilter} {doc doc' : Value} {e other : Draft}
    (hd : ReadFrom filter doc d) (he : ReadFrom filter' doc' e) (hnamed : d.named = .ok named)
    (hother : e.named = .ok other) (hkeys : definitionKeys doc = definitionKeys doc') :
    named.AgreeOnNames other := by
  have hsame : named.definitionNames = other.definitionNames := by
    rw [definitionNames_named hd.listsFirst hnamed, definitionNames_named he.listsFirst hother,
      hkeys]
  refine ⟨hsame, fun m hm n hn key hmkey hnkey => ?_⟩
  have hnodup : (named.definitionNames.map Prod.fst).Nodup := by
    rw [(listsFirst_named hd.listsFirst hnamed).keys_definitionNames]
    exact nodup_definitionKeys doc
  have hfound := lookup_eq_some_of_mem hnodup (mem_definitionNames_of_finish hm hmkey)
  have hagain := lookup_eq_some_of_mem hnodup (hsame ▸ mem_definitionNames_of_finish hn hnkey)
  exact Option.some.inj (hfound.symm.trans hagain)

/-- Drafts whose first models are called the same in the description give these the same names,
whatever else is in the drafts. In the draft of a document the models of the named schemas come
first, whatever operations are kept, so their names depend on the keys of the named schemas only.
They are the same in documents that differ in their paths. -/
theorem named_stable {d e named other : Draft} (hnamed : d.named = .ok named)
    (hother : e.named = .ok other) :
    (∀ k, (d.models.take k).map Model.sourceName? = (e.models.take k).map Model.sourceName? →
      (named.models.take k).map Model.name = (other.models.take k).map Model.name) ∧
    ∀ filter filter' doc doc', ReadFrom filter doc d → ReadFrom filter' doc' e →
      ListsFirst (definitionKeys doc) named.models ∧
      (definitionKeys doc = definitionKeys doc' → named.AgreeOnNames other) ∧
      (besidePaths doc = besidePaths doc' → named.AgreeOnNames other) := by
  refine ⟨fun k hsources => ?_, fun filter filter' doc doc' hd he => ?_⟩
  · rw [names_take_named hnamed, names_take_named hother, hsources]
  · refine ⟨listsFirst_named hd.listsFirst hnamed, hd.agreeOnNames he hnamed hother, fun h => ?_⟩
    exact hd.agreeOnNames he hnamed hother (definitionKeys_of_besidePaths_eq h)

/-- A document with two named schemas that ask for one name. -/
def responses (paths : Dict Value) : Value :=
  .mapping
    [("definitions", .mapping
      [("PetResponse", textSchema), ("petResponse", textSchema)]),
     ("info", .mapping [("title", .text "pets"), ("version", .text "1")]),
     ("paths", .mapping paths), ("swagger", .text "2.0")]

/-- Paths with an operation that answers with an object and asks for the same name. -/
def answering : Dict Value :=
  [("/pet", .mapping
    [("get", .mapping
      [("operationId", .text "pet"),
       ("responses", .mapping
         [("200", .mapping
           [("description", .text "a pet"),
            ("schema", .mapping
              [("properties", .mapping [("name", textSchema)]),
               ("type", .text "object")])])])])])]

/-- An operation that is added to `responses` takes no name from the named schemas, as
`named_stable` says. -/
theorem named_stable_answering :
    ∃ d e named other, ofDocument {} (responses []) = .ok d ∧
      ofDocument {} (responses answering) = .ok e ∧ d.named = .ok named ∧ e.named = .ok other ∧
      named.models.map Model.name = ["PetResponse", "PetResponse1"] ∧
      other.models.map Model.name = ["PetResponse", "PetResponse1", "PetResponse2"] ∧
      (named.models.take 2).map Model.name = (other.models.take 2).map Model.name ∧
      ListsFirst (definitionKeys (responses [])) named.models ∧ named.AgreeOnNames other := by
  have hquiet : (ofDocument {} (responses [])).toOption.bind (fun d =>
      d.named.toOption.map (fun named =>
        (d.models.map Model.sourceName?, named.models.map Model.name))) =
      some ([some "PetResponse", some "petResponse"], ["PetResponse", "PetResponse1"]) := by
    decide +kernel
  have hbusy : (ofDocument {} (responses answering)).toOption.bind (fun d =>
      d.named.toOption.map (fun named =>
        (d.models.map Model.sourceName?, named.models.map Model.name))) =
      some ([some "PetResponse", some "petResponse", some "pet Response"],
        ["PetResponse", "PetResponse1", "PetResponse2"]) := by
    decide +kernel
  obtain ⟨d, hd, hquiet⟩ := Option.bind_eq_some_iff.1 hquiet
  obtain ⟨e, he, hbusy⟩ := Option.bind_eq_some_iff.1 hbusy
  obtain ⟨named, hnamed, hquiet⟩ := Option.map_eq_some_iff.1 hquiet
  obtain ⟨other, hother, hbusy⟩ := Option.map_eq_some_iff.1 hbusy
  obtain ⟨hsources, hnames⟩ := Prod.mk.inj hquiet
  obtain ⟨hsources', hnames'⟩ := Prod.mk.inj hbusy
  have hstable := named_stable (eq_ok_of_toOption hnamed) (eq_ok_of_toOption hother)
  have hfirst := hstable.1 2 (by rw [List.map_take, List.map_take, hsources, hsources']; rfl)
  obtain ⟨hlists, -, hagree⟩ := hstable.2 _ _ _ _ (.parsed (eq_ok_of_toOption hd))
    (.parsed (eq_ok_of_toOption he))
  exact ⟨d, e, named, other, eq_ok_of_toOption hd, eq_ok_of_toOption he,
    eq_ok_of_toOption hnamed, eq_ok_of_toOption hother, hnames, hnames', hfirst, hlists,
    hagree rfl⟩

end Draft

end TypedClient
