import TypedClient.Draft.FromDocument
import TypedClient.Proofs.Document.Dict
import TypedClient.Proofs.Draft.Lift
import TypedClient.Proofs.Draft.Services
import TypedClient.Proofs.Draft.Traversal

/-!
# Drafts of filtered documents

`ofDocument_narrows` compares the draft of a document with the draft that a tag filter leaves of
it. A document that gives the one gives the other, and the operations that the filter keeps are
the same operations in both, each once, in the service of its first tag, ordered by path and
method. The models that are not anonymous and the schemas do not depend on the filter.

The tags of a filter are compared without the blanks around them. `padded` is a filter for which
this matters.
-/

namespace TypedClient

/-- One method comes before another in the order in which a path lists its operations. -/
def Method.Before (a b : Method) : Prop :=
  Method.known.idxOf a < Method.known.idxOf b

/-- One operation comes before another: paths ascend, and at one path methods follow their fixed
order. -/
def Operation.Before (a b : Operation) : Prop :=
  a.path < b.path ∨ (a.path = b.path ∧ a.method.Before b.method)

section Declared

variable {I O : Type}

/-- The item of a path, read where it is described, with its pointer. -/
def settledItem (doc : Value) (kind : ObjectKind) (read : Dict Value → I) (ref : I → String)
    (path : String) (item : I) : Except DraftFailure (I × String) :=
  if ref item = "" then pure (item, Pointer.join ["paths", path])
  else doc.readTarget kind read (Pointer.join ["paths", path]) (ref item)

/-- The tags that a settled item declares for the call under a method. -/
def tagsUnder (calls : I → List (Method × O)) (tags : O → List String)
    (settled : Except DraftFailure (I × String)) (method : Method) : List String :=
  match settled with
  | .ok (item, _) => (((calls item).lookup method).map tags).getD []
  | .error _ => []

/-- The tags that stand at a path and a method, when each item of the paths has its own. -/
def tagsAt (tags : String → I → Method → List String) (paths : Dict (Option I))
    (path : String) (method : Method) : List String :=
  match paths.get? path with
  | some (some item) => tags path item method
  | _ => []

/-- The tags that the item of a path declares for a method. -/
def V2.PathItem.declared (doc : Value) (path : String) (item : PathItem) :
    Method → List String :=
  tagsUnder PathItem.operations Operation.tags
    (settledItem doc .pathItem2 PathItem.ofEntries PathItem.ref path item)

/-- The tags that the item of a path declares for a method. -/
def V3.PathItem.declared (doc : Value) (path : String) (item : PathItem) :
    Method → List String :=
  tagsUnder PathItem.operations Operation.tags
    (settledItem doc .pathItem PathItem.ofEntries PathItem.ref path item)

/-- The tags that the paths of a version 2 document declare. -/
def V2.declaredTags (doc : Value) : String → Method → List String :=
  tagsAt (PathItem.declared doc) (Document.ofEntries doc.entries).paths

/-- The tags that the paths of a version 3 document declare. -/
def V3.declaredTags (doc : Value) : String → Method → List String :=
  tagsAt (PathItem.declared doc) (Document.ofEntries doc.entries).paths

/-- The tags that a document declares for the call at a path and a method. -/
def declaredTags (doc : Value) : String → Method → List String :=
  match Version.detect doc with
  | .error _ => fun _ _ => []
  | .ok .v2 => V2.declaredTags (BodyMerge.mend doc.normalize)
  | .ok .v3 => V3.declaredTags doc.normalize

end Declared

/-- A run that drafts operations gives `ops` without a filter, and with a filter those of them that
it allows by their tags. -/
structure Sifted (run : TagFilter → Except DraftFailure (List Operation))
    (tags : String → Method → List String) (ops : List Operation) : Prop where
  /-- A filter leaves out operations and does nothing else. -/
  run_eq : ∀ f, run f = .ok (ops.filter (fun op => f.allows (tags op.path op.method)))
  /-- The operations are in order. -/
  before : ops.Pairwise Operation.Before
  /-- An operation has the first of its tags. -/
  tag_eq : ∀ op ∈ ops, op.tag = (tags op.path op.method).headD ""

section Items

variable {I O : Type} {calls : I → List (Method × O)} {tags : O → List String}

/-- Methods in order are distinct. -/
theorem nodup_of_before {methods : List Method} (h : methods.Pairwise Method.Before) :
    methods.Nodup := by
  refine h.imp (fun {a b} hlt heq => ?_)
  subst heq
  exact Nat.lt_irrefl _ hlt

/-- The calls of one item are sifted when each is drafted on its own. -/
theorem sifted_item {settled : Except DraftFailure (I × String)} {item : I} {pointer : String}
    (hsettled : settled = .ok (item, pointer))
    {run : TagFilter → Except DraftFailure (List Operation)}
    {draft : Method × O → Except DraftFailure Operation}
    (hrun : ∀ f, run f = ((calls item).filter (fun c => f.allows (tags c.2))).mapM draft)
    (hmethods : ((calls item).map Prod.fst).Pairwise Method.Before) {path : String}
    (hdraft : ∀ c op, draft c = .ok op →
      op.path = path ∧ op.method = c.1 ∧ op.tag = (tags c.2).headD "")
    {ops : List Operation} (h : run {} = .ok ops) :
    Sifted run (fun _ => tagsUnder calls tags settled) ops ∧ ∀ op ∈ ops, op.path = path := by
  have hall : (calls item).mapM draft = .ok ops := by simpa [hrun] using h
  have hrel := forall₂_of_mapM hall
  -- the method of an operation leads back to the call that it was drafted from
  have htags : ∀ c op, c ∈ calls item ∧ draft c = .ok op →
      tagsUnder calls tags settled op.method = tags c.2 := by
    rintro ⟨method, o⟩ op ⟨hc, hop⟩
    simp only [tagsUnder, hsettled, (hdraft _ op hop).2.1,
      lookup_eq_some_of_mem (nodup_of_before hmethods) hc, Option.map_some, Option.getD_some]
  refine ⟨⟨fun f => ?_, ?_, fun op hop => ?_⟩, fun op hop => ?_⟩
  · rw [hrun, mapM_eq_ok_iff]
    have hfilter : List.Forall₂ _ ((calls item).filter (fun c => f.allows (tags c.2)))
        (ops.filter (fun op => f.allows (tagsUnder calls tags settled op.method))) :=
      List.rel_filter (fun c op hc => by simp only [htags c op hc]) hrel
    exact hfilter.imp (fun _ _ hc => hc.2)
  · refine pairwise_of_forall₂ hrel (List.pairwise_map.1 hmethods) ?_
    intro c c' op op' hc hc' hlt
    obtain ⟨hp, hm, -⟩ := hdraft c op hc.2
    obtain ⟨hp', hm', -⟩ := hdraft c' op' hc'.2
    exact .inr ⟨hp.trans hp'.symm, by rwa [hm, hm']⟩
  · obtain ⟨c, _, hc⟩ := exists_left_of_forall₂ hrel hop
    rw [htags c op hc]
    exact (hdraft c op hc.2).2.2
  · obtain ⟨c, _, hc⟩ := exists_left_of_forall₂ hrel hop
    exact (hdraft c op hc.2).1

/-- What a reference leads to has been read from entries. -/
theorem exists_of_readTarget {doc : Value} {kind : ObjectKind} {read : Dict Value → I}
    {referrer target pointer : String} {item : I}
    (h : doc.readTarget kind read referrer target = .ok (item, pointer)) :
    ∃ es, item = read es := by
  unfold Value.readTarget at h
  split at h
  · cases h
  · split at h
    · cases h
      exact ⟨_, rfl⟩
    · cases h

/-- A settled item has been read from entries. -/
theorem exists_of_settledItem {doc : Value} {kind : ObjectKind} {read : Dict Value → I}
    {ref : I → String} {path pointer : String} {es : Dict Value} {item : I}
    (h : settledItem doc kind read ref path (read es) = .ok (item, pointer)) :
    ∃ es, item = read es := by
  unfold settledItem at h
  split at h
  · cases h
    exact ⟨es, rfl⟩
  · exact exists_of_readTarget h

/-- A value of a field that is not null has been read from entries. -/
theorem exists_of_mem_optional {read : Dict Value → I} {d : Dict Value} {key : String}
    {item : I} (h : (key, some item) ∈ Dict.mapValues (Field.optional read) d) :
    ∃ es, item = read es := by
  obtain ⟨⟨_, v⟩, -, he⟩ := List.mem_map.1 h
  obtain ⟨-, hv⟩ := Prod.mk.inj he
  unfold Field.optional at hv
  split at hv
  · cases hv
    exact ⟨_, rfl⟩
  · cases hv

/-- Calls that are read for methods in order are in order. -/
theorem before_of_filterMap {methods : List Method} (h : methods.Pairwise Method.Before)
    (read : Method → Option O) :
    ((methods.filterMap (fun m => (read m).map (fun o => (m, o)))).map Prod.fst).Pairwise
      Method.Before := by
  refine List.pairwise_map.2 (List.pairwise_filterMap.2 (h.imp ?_))
  intro m m' hlt c hc c' hc'
  obtain ⟨o, -, rfl⟩ := Option.map_eq_some_iff.1 hc
  obtain ⟨o', -, rfl⟩ := Option.map_eq_some_iff.1 hc'
  exact hlt

end Items

section Paths

variable {I : Type}

/-- The operations under an entry of the paths. -/
def draftedEntry (draft : String → I → Except DraftFailure (List Operation)) :
    String × Option I → Except DraftFailure (List Operation)
  | (_, none) => .ok []
  | (path, some item) => draft path item

/-- The operations of all paths, each entry drafted on its own. -/
def draftedPaths (paths : Dict (Option I))
    (draft : String → I → Except DraftFailure (List Operation)) :
    Except DraftFailure (List Operation) := do
  let byPath ← (Dict.withoutExtensions paths).mapM (draftedEntry draft)
  return byPath.flatten

/-- A traversal that drafts the item of each entry, if there is one, drafts all paths. -/
theorem draftedPaths_eq {paths : Dict (Option I)}
    {draft : String → I → Except DraftFailure (List Operation)}
    {run : String × Option I → Except DraftFailure (List Operation)}
    (hnone : ∀ path, run (path, none) = .ok [])
    (hsome : ∀ path item, run (path, some item) = draft path item) :
    ((Dict.withoutExtensions paths).mapM run >>= fun byPath => pure byPath.flatten) =
      draftedPaths paths draft := by
  have hentry : run = draftedEntry draft := by
    funext ⟨path, item⟩
    cases item with
    | none => exact hnone path
    | some item => exact hsome path item
  rw [hentry, draftedPaths]

variable {paths : Dict (Option I)} {ops : List Operation}
  {draft : TagFilter → String → I → Except DraftFailure (List Operation)}
  {tags : String → I → Method → List String}

/-- An entry of the paths is sifted by the tags of the whole description when its item is sifted by
the tags of the item. -/
theorem sifted_entry (hsorted : paths.Sorted)
    (hdraft : ∀ path item ops, (path, some item) ∈ paths → draft {} path item = .ok ops →
      Sifted (fun f => draft f path item) (fun _ => tags path item) ops ∧
        ∀ op ∈ ops, op.path = path)
    {e : String × Option I} (he : e ∈ paths) (h : draftedEntry (draft {}) e = .ok ops) :
    Sifted (fun f => draftedEntry (draft f) e) (tagsAt tags paths) ops ∧
      ∀ op ∈ ops, op.path = e.1 := by
  obtain ⟨path, item⟩ := e
  cases item with
  | none =>
      cases h
      exact ⟨⟨fun f => rfl, .nil, by simp⟩, by simp⟩
  | some item =>
      obtain ⟨hsift, hpath⟩ := hdraft path item ops he h
      have htags : ∀ op ∈ ops, tagsAt tags paths op.path op.method = tags path item op.method := by
        intro op hop
        rw [tagsAt, hpath op hop, hsorted.get?_eq_some he]
      refine ⟨⟨fun f => ?_, hsift.before, fun op hop => ?_⟩, hpath⟩
      · dsimp only [draftedEntry]
        rw [hsift.run_eq]
        exact congrArg Except.ok (List.filter_congr (fun op hop => by rw [htags op hop]))
      · rw [htags op hop]
        exact hsift.tag_eq op hop

/-- The paths of a description are sifted when their items are. -/
theorem sifted_paths (hsorted : paths.Sorted)
    (hdraft : ∀ path item ops, (path, some item) ∈ paths → draft {} path item = .ok ops →
      Sifted (fun f => draft f path item) (fun _ => tags path item) ops ∧
        ∀ op ∈ ops, op.path = path)
    (h : draftedPaths paths (draft {}) = .ok ops) :
    Sifted (fun f => draftedPaths paths (draft f)) (tagsAt tags paths) ops := by
  obtain ⟨byPath, hpaths, hflat⟩ := bind_eq_ok_iff.1 h
  cases hflat
  have hrel : List.Forall₂ (fun e ops =>
      Sifted (fun f => draftedEntry (draft f) e) (tagsAt tags paths) ops ∧
        ∀ op ∈ ops, op.path = e.1) (Dict.withoutExtensions paths) byPath :=
    (forall₂_of_mapM hpaths).imp
      (fun _ _ he => sifted_entry hsorted hdraft (List.mem_of_mem_filter he.1) he.2)
  refine ⟨fun f => bind_eq_ok_iff.2 ?_, ?_, fun op hop => ?_⟩
  · -- the operations that stay are those that stay at each path
    refine ⟨byPath.map (List.filter (fun op => f.allows (tagsAt tags paths op.path op.method))),
      mapM_eq_ok_iff.2 (List.forall₂_map_right_iff.2 ?_), ?_⟩
    · exact hrel.imp (fun _ _ he => he.1.run_eq f)
    · rw [List.filter_flatten]
      rfl
  · refine List.pairwise_flatten.2 ⟨fun ops hops => ?_, ?_⟩
    · obtain ⟨e, _, he⟩ := exists_left_of_forall₂ hrel hops
      exact he.1.before
    · refine pairwise_of_forall₂ hrel hsorted.withoutExtensions ?_
      intro e e' ops ops' he he' hlt op hop op' hop'
      rw [Operation.Before, he.2 op hop, he'.2 op' hop']
      exact .inl hlt
  · obtain ⟨ops, hops, hop⟩ := List.mem_flatten.1 hop
    obtain ⟨e, _, he⟩ := exists_left_of_forall₂ hrel hops
    exact he.1.tag_eq op hop

end Paths

namespace V2

/-- An operation has the path, the method and the first tag of its call. -/
theorem Operation.drafted_call {doc : Value} {t : Document} {path pointer : String}
    {item : PathItem} {method : Method} {o : Operation} {op : TypedClient.Operation}
    (h : o.drafted doc t path item pointer method = .ok op) :
    op.path = path ∧ op.method = method ∧ op.tag = o.tags.headD "" := by
  obtain ⟨parameters, -, h⟩ := bind_eq_ok_iff.1 h
  obtain ⟨responses, -, h⟩ := bind_eq_ok_iff.1 h
  obtain rfl := Except.ok.inj h
  exact ⟨rfl, rfl, rfl⟩

/-- The item of a path is settled, and then its calls are drafted. -/
theorem PathItem.drafted_eq (doc : Value) (f : TagFilter) (t : Document) (path : String)
    (item : PathItem) :
    item.drafted doc f t path = (do
      let (item, pointer) ← settledItem doc .pathItem2 PathItem.ofEntries PathItem.ref path item
      (item.operations.filter (fun c => f.allows c.2.tags)).mapM
        (fun c => c.2.drafted doc t path item pointer c.1)) := by
  unfold drafted settledItem
  split <;> rfl

/-- The calls of a path are sifted by their tags. -/
theorem PathItem.drafted_sifted {doc : Value} {t : Document} {path : String} {es : Dict Value}
    {ops : List TypedClient.Operation}
    (h : (PathItem.ofEntries es).drafted doc {} t path = .ok ops) :
    Sifted (fun f => (PathItem.ofEntries es).drafted doc f t path)
      (fun _ => (PathItem.ofEntries es).declared doc path) ops ∧ ∀ op ∈ ops, op.path = path := by
  obtain ⟨⟨item, pointer⟩, hsettled, -⟩ := bind_eq_ok_iff.1 (drafted_eq .. ▸ h)
  obtain ⟨es', rfl⟩ := exists_of_settledItem hsettled
  have hrun : ∀ f, (PathItem.ofEntries es).drafted doc f t path =
      ((PathItem.ofEntries es').operations.filter (fun c => f.allows c.2.tags)).mapM
        (fun c => c.2.drafted doc t path (PathItem.ofEntries es') pointer c.1) := by
    intro f
    rw [drafted_eq, hsettled]
    rfl
  exact sifted_item hsettled hrun (before_of_filterMap (by unfold Method.Before; decide) _)
    (fun _ _ hop => Operation.drafted_call hop) h

/-- The operations of a description are those of its paths, each drafted on its own. -/
theorem Document.operations_eq (doc : Value) (f : TagFilter) (t : Document) :
    t.operations doc f = draftedPaths t.paths (fun path item => item.drafted doc f t path) :=
  draftedPaths_eq (fun _ => rfl) (fun _ _ => rfl)

/-- The operations of a description are sifted by their tags. -/
theorem Document.operations_sifted {doc : Value} {es : Dict Value}
    {ops : List TypedClient.Operation}
    (h : (Document.ofEntries es).operations doc {} = .ok ops) :
    Sifted (fun f => (Document.ofEntries es).operations doc f)
      (tagsAt (PathItem.declared doc) (Document.ofEntries es).paths) ops := by
  simp only [Document.operations_eq] at h ⊢
  refine sifted_paths ((Field.dict_sorted "paths" es).mapValues _) ?_ h
  intro path item ops hmem hops
  obtain ⟨es', rfl⟩ := exists_of_mem_optional hmem
  exact PathItem.drafted_sifted hops

end V2

namespace V3

/-- An operation has the path, the method and the first tag of its call. -/
theorem Operation.drafted_call {doc : Value} {path pointer : String}
    {shared : List TypedClient.Parameter} {method : Method} {o : Operation}
    {op : TypedClient.Operation} (h : o.drafted doc path pointer shared method = .ok op) :
    op.path = path ∧ op.method = method ∧ op.tag = o.tags.headD "" := by
  obtain ⟨parameters, -, h⟩ := bind_eq_ok_iff.1 h
  obtain ⟨responses, -, h⟩ := bind_eq_ok_iff.1 h
  obtain rfl := Except.ok.inj h
  exact ⟨rfl, rfl, rfl⟩

/-- The item of a path is settled, its own parameters are drafted, and then its calls. -/
theorem PathItem.drafted_eq (doc : Value) (f : TagFilter) (path : String) (item : PathItem) :
    item.drafted doc f path = (do
      let (item, pointer) ← settledItem doc .pathItem PathItem.ofEntries PathItem.ref path item
      let shared ← Parameter.draftedAll doc (pointer ++ "/parameters") 0 item.parameters
      (item.operations.filter (fun c => f.allows c.2.tags)).mapM
        (fun c => c.2.drafted doc path (pointer ++ "/" ++ c.1.label) shared c.1)) := by
  unfold drafted settledItem
  split <;> rfl

/-- The calls of a path are sifted by their tags. -/
theorem PathItem.drafted_sifted {doc : Value} {path : String} {es : Dict Value}
    {ops : List TypedClient.Operation}
    (h : (PathItem.ofEntries es).drafted doc {} path = .ok ops) :
    Sifted (fun f => (PathItem.ofEntries es).drafted doc f path)
      (fun _ => (PathItem.ofEntries es).declared doc path) ops ∧ ∀ op ∈ ops, op.path = path := by
  obtain ⟨⟨item, pointer⟩, hsettled, hitem⟩ := bind_eq_ok_iff.1 (drafted_eq .. ▸ h)
  obtain ⟨shared, hshared, -⟩ := bind_eq_ok_iff.1 hitem
  obtain ⟨es', rfl⟩ := exists_of_settledItem hsettled
  have hrun : ∀ f, (PathItem.ofEntries es).drafted doc f path =
      ((PathItem.ofEntries es').operations.filter (fun c => f.allows c.2.tags)).mapM
        (fun c => c.2.drafted doc path (pointer ++ "/" ++ c.1.label) shared c.1) := by
    intro f
    rw [drafted_eq, hsettled]
    simp only [bind, Except.bind, hshared]
  exact sifted_item hsettled hrun (before_of_filterMap (by unfold Method.Before; decide) _)
    (fun _ _ hop => Operation.drafted_call hop) h

/-- The operations of a description are those of its paths, each drafted on its own. -/
theorem Document.operations_eq (doc : Value) (f : TagFilter) (t : Document) :
    t.operations doc f = draftedPaths t.paths (fun path item => item.drafted doc f path) :=
  draftedPaths_eq (fun _ => rfl) (fun _ _ => rfl)

/-- The operations of a description are sifted by their tags. -/
theorem Document.operations_sifted {doc : Value} {es : Dict Value}
    {ops : List TypedClient.Operation}
    (h : (Document.ofEntries es).operations doc {} = .ok ops) :
    Sifted (fun f => (Document.ofEntries es).operations doc f)
      (tagsAt (PathItem.declared doc) (Document.ofEntries es).paths) ops := by
  simp only [Document.operations_eq] at h ⊢
  refine sifted_paths ((Field.dict_sorted "paths" es).mapValues _) ?_ h
  intro path item ops hmem hops
  obtain ⟨es', rfl⟩ := exists_of_mem_optional hmem
  exact PathItem.drafted_sifted hops

end V3

namespace Draft

/-- The operations of a draft are `ops`, and those of another draft are the ones among them that a
filter keeps by their tags. Apart from operations and anonymous models the drafts agree. -/
structure Narrows (filter : TagFilter) (tags : String → Method → List String)
    (ops : List Operation) (full part : Draft) : Prop where
  /-- The services of the one draft hold all operations. -/
  full_filed : Filed full.services ops
  /-- The services of the other draft hold the kept operations. -/
  part_filed : Filed part.services
    (ops.filter (fun op => filter.Keeps (tags op.path op.method)))
  /-- The operations are in order. -/
  before : ops.Pairwise Operation.Before
  /-- An operation has the first of its tags. -/
  tag_eq : ∀ op ∈ ops, op.tag = (tags op.path op.method).headD ""
  /-- The models that are not anonymous are the same. -/
  models_eq : part.models.filter (fun m => !m.anonymous) =
    full.models.filter (fun m => !m.anonymous)
  /-- The schemas are the same. -/
  schemas_eq : part.schemas = full.schemas

section Assemble

variable (version server : String) (named : List (Model × RawSchema)) (early : Parameter → Bool)
  (ops : List Operation)

/-- The services of a draft hold its operations, each lifted on its own. -/
theorem filed_assemble : Filed (assemble version server named early ops).services
    (ops.map (fun op => (op.lift early []).1)) := by
  rw [← Operation.liftAll_fst early []]
  exact filed_ofOperations _

/-- Operations add no models that are not anonymous. -/
theorem named_assemble :
    (assemble version server named early ops).models.filter (fun m => !m.anonymous) =
      (named.map Prod.fst).filter (fun m => !m.anonymous) := by
  have hnone : (Operation.liftAll early [] ops).2.filter (fun m => !m.anonymous) = [] := by
    refine List.filter_eq_nil_iff.2 (fun m hm => ?_)
    rw [Operation.liftAll_anonymous early (fun _ h => absurd h List.not_mem_nil) ops m hm]
    decide
  calc (assemble version server named early ops).models.filter (fun m => !m.anonymous)
      _ = (named.map Prod.fst).filter (fun m => !m.anonymous) ++
            (Operation.liftAll early [] ops).2.filter (fun m => !m.anonymous) :=
          List.filter_append ..
      _ = (named.map Prod.fst).filter (fun m => !m.anonymous) := by rw [hnone, List.append_nil]

variable {ops} {run : TagFilter → Except DraftFailure (List Operation)}
  {tags : String → Method → List String}

/-- Sifted operations make up drafts of which one narrows the other. -/
theorem assemble_narrows (h : Sifted run tags ops) (filter : TagFilter) :
    Narrows filter tags (ops.map (fun op => (op.lift early []).1))
      (assemble version server named early ops)
      (assemble version server named early
        (ops.filter (fun op => filter.allows (tags op.path op.method)))) where
  full_filed := filed_assemble version server named early ops
  part_filed := by
    -- lifting keeps the path and the method, so the filter sees the same tags afterwards
    have hfilter : (ops.map (fun op => (op.lift early []).1)).filter
          (fun op => filter.Keeps (tags op.path op.method)) =
        (ops.filter (fun op => filter.allows (tags op.path op.method))).map
          (fun op => (op.lift early []).1) := by
      simp only [List.filter_map, Function.comp_def, TagFilter.decide_keeps, Operation.path_lift,
        Operation.method_lift]
    rw [hfilter]
    exact filed_assemble version server named early _
  before := by
    simp only [List.pairwise_map, Operation.Before, Operation.path_lift, Operation.method_lift]
    exact h.before
  tag_eq := by
    simpa only [List.forall_mem_map, Operation.path_lift, Operation.method_lift,
      Operation.tag_lift] using h.tag_eq
  models_eq := (named_assemble ..).trans (named_assemble ..).symm
  schemas_eq := rfl

end Assemble

/-- A filter narrows the draft of a version 2 document. -/
theorem ofV2_narrows {doc : Value} {full : Draft} (h : ofV2 {} doc = .ok full)
    (filter : TagFilter) :
    ∃ part ops, ofV2 filter doc = .ok part ∧
      Narrows filter (V2.declaredTags (BodyMerge.mend doc)) ops full part := by
  dsimp only [ofV2] at h ⊢
  split at h
  case isTrue =>
    obtain ⟨_, hthrow, -⟩ := bind_eq_ok_iff.1 h
    cases hthrow
  case isFalse hform =>
    obtain ⟨named, hnamed, h⟩ := bind_eq_ok_iff.1 h
    obtain ⟨ops, hops, hfull⟩ := bind_eq_ok_iff.1 h
    obtain rfl := Except.ok.inj hfull
    have hsifted := V2.Document.operations_sifted hops
    rw [if_neg hform]
    exact ⟨_, _, bind_eq_ok_iff.2 ⟨_, hnamed, bind_eq_ok_iff.2 ⟨_, hsifted.run_eq filter, rfl⟩⟩,
      assemble_narrows _ _ _ _ hsifted filter⟩

/-- A filter narrows the draft of a version 3 document. -/
theorem ofV3_narrows {doc : Value} {full : Draft} (h : ofV3 {} doc = .ok full)
    (filter : TagFilter) :
    ∃ part ops, ofV3 filter doc = .ok part ∧
      Narrows filter (V3.declaredTags doc) ops full part := by
  dsimp only [ofV3] at h ⊢
  split at h
  case isTrue =>
    obtain ⟨_, hthrow, -⟩ := bind_eq_ok_iff.1 h
    cases hthrow
  case isFalse hform =>
    obtain ⟨named, hnamed, h⟩ := bind_eq_ok_iff.1 h
    obtain ⟨ops, hops, hfull⟩ := bind_eq_ok_iff.1 h
    obtain rfl := Except.ok.inj hfull
    have hsifted := V3.Document.operations_sifted hops
    rw [if_neg hform]
    exact ⟨_, _, bind_eq_ok_iff.2 ⟨_, hnamed, bind_eq_ok_iff.2 ⟨_, hsifted.run_eq filter, rfl⟩⟩,
      assemble_narrows _ _ _ _ hsifted filter⟩

/-- A document that gives a draft gives one under every filter, and that draft holds the operations
that the filter keeps by their declared tags, unchanged. -/
theorem ofDocument_narrows {doc : Value} {full : Draft} (filter : TagFilter)
    (h : ofDocument {} doc = .ok full) :
    ∃ part ops, ofDocument filter doc = .ok part ∧
      Narrows filter (declaredTags doc) ops full part := by
  unfold ofDocument at h ⊢
  unfold declaredTags
  cases hversion : Version.detect doc with
  | error u =>
      rw [hversion] at h
      cases h
  | ok version =>
      rw [hversion] at h
      cases version with
      | v2 => exact ofV2_narrows h filter
      | v3 => exact ofV3_narrows h filter

/-- A call with one tag. -/
def callTagged (tag : String) : Value :=
  .mapping
    [("responses", .mapping [("200", .mapping [("description", .text "ok")])]),
     ("tags", .list [.text tag])]

/-- A document with two calls at one path, which share a parameter of an enum type. -/
def sharing : Value :=
  .mapping
    [("info", .mapping [("title", .text "pets"), ("version", .text "1")]),
     ("openapi", .text "3.0.0"),
     ("paths", .mapping [("/pets", .mapping
       [("get", callTagged "pets"),
        ("parameters", .list [.mapping
          [("in", .text "query"), ("name", .text "sort"),
           ("schema", .mapping [("enum", .list [.text "up"]), ("type", .text "string")])]]),
        ("put", callTagged "admin")])])]

/-- Without a filter each call of `sharing` has its service. -/
theorem sharing_drafted : ∃ full, ofDocument {} sharing = .ok full ∧
    full.services.map Service.tag = ["pets", "admin"] := by
  have hfull : (ofDocument {} sharing).toOption.map (fun d => d.services.map Service.tag) =
      some ["pets", "admin"] := by decide +kernel
  obtain ⟨full, hfull, htags⟩ := Option.map_eq_some_iff.1 hfull
  exact ⟨full, eq_ok_of_toOption hfull, htags⟩

/-- Leaving out the first call of `sharing` does not change the second one, though their parameter
is lifted out of whichever comes first, as `ofDocument_narrows` says. -/
theorem ofDocument_narrows_sharing :
    ∃ full part ops, ofDocument {} sharing = .ok full ∧
      full.services.map Service.tag = ["pets", "admin"] ∧
      ofDocument { excluded := ["pets"] } sharing = .ok part ∧
      Narrows { excluded := ["pets"] } (declaredTags sharing) ops full part := by
  obtain ⟨full, hfull, htags⟩ := sharing_drafted
  obtain ⟨part, ops, hpart, hnarrows⟩ := ofDocument_narrows { excluded := ["pets"] } hfull
  exact ⟨full, part, ops, hfull, htags, hpart, hnarrows⟩

/-- A filter for a tag with a blank before it. -/
def padded : TagFilter := { included := [" pets"] }

/-- A filter keeps an operation that has none of its tags as they are written. -/
theorem padded_tag_kept :
    ∃ full part op, ofDocument {} sharing = .ok full ∧ ofDocument padded sharing = .ok part ∧
      op ∈ part.operations ∧ (∃ t ∈ padded.included, Text.trim t ≠ "") ∧
      ∀ t ∈ padded.included, t ∉ declaredTags sharing op.path op.method := by
  obtain ⟨full, hfull, -⟩ := sharing_drafted
  have hpart : (ofDocument padded sharing).toOption.map (fun d =>
      d.operations.map (fun op => (op.path, op.method))) = some [("/pets", .get)] := by
    decide +kernel
  have hdeclared : declaredTags sharing "/pets" .get = ["pets"] := by decide +kernel
  obtain ⟨part, hpart, hops⟩ := Option.map_eq_some_iff.1 hpart
  obtain ⟨op, hop, hcall⟩ := List.mem_map.1 (hops ▸ List.mem_singleton_self ("/pets", Method.get))
  obtain ⟨hpath, hmethod⟩ := Prod.mk.inj hcall
  refine ⟨full, part, op, hfull, eq_ok_of_toOption hpart, hop, ?_, ?_⟩
  · exact ⟨" pets", List.mem_singleton_self _, by decide⟩
  · rw [hpath, hmethod, hdeclared]
    decide

end Draft

end TypedClient
