import TypedClient.Proofs.Draft.Extensions

/-!
# Nulls in descriptions

A null can stand at almost any place of a description. Most of the places are tested before they
are read. The others are the models of schemas, parameters and parts of forms, and the media types
of parameters, bodies and responses: a draft reads them by `Model.present` and
`V3.Content.schemaAt`, which break off the run when nothing is there. `Version.Untested` lists these
reads with their outcomes. All succeed, except at a `V3.Parameter.IsHollow` parameter: one without a
schema whose content is not empty and holds only nulls.

`Draft.ofDocument_safe` says what follows for a whole document. It gives a draft or an error that is
reported, unless the operations come by a hollow parameter; a model that is not there is never read.
-/

namespace TypedClient

namespace DraftFailure

/-- A failure that breaks off the run instead of being reported. -/
def Aborts (e : DraftFailure) : Prop :=
  ∃ reason, e.toFault = .abort reason

end DraftFailure

/-- A reference that cannot be read is reported. -/
theorem Value.not_aborts_of_readTarget {α : Type} {doc : Value} {kind : ObjectKind}
    {read : Dict Value → α} {referrer target : String} {e : DraftFailure}
    (h : doc.readTarget kind read referrer target = .error e) : ¬ e.Aborts := by
  unfold readTarget at h
  split at h
  · cases h
    rintro ⟨reason, h⟩
    cases h
  · split at h
    · cases h
    · cases h
      rintro ⟨reason, h⟩
      cases h

/-- An item of a path that cannot be read is reported. -/
theorem not_aborts_of_settledItem {I : Type} {doc : Value} {kind : ObjectKind}
    {read : Dict Value → I} {ref : I → String} {path : String} {item : I} {e : DraftFailure}
    (h : settledItem doc kind read ref path item = .error e) : ¬ e.Aborts := by
  unfold settledItem at h
  split at h
  · cases h
  · exact Value.not_aborts_of_readTarget h

/-- When the operations of all paths are not drafted, those of one path are not. -/
theorem exists_of_draftedPaths_eq_error {I : Type} {paths : Dict (Option I)}
    {draft : String → I → Except DraftFailure (List Operation)} {e : DraftFailure}
    (h : draftedPaths paths draft = .error e) :
    ∃ path item, (path, some item) ∈ Dict.withoutExtensions paths ∧ draft path item = .error e := by
  rcases bind_eq_error_iff.1 h with h | ⟨byPath, -, h⟩
  · obtain ⟨⟨path, item⟩, hmem, he⟩ := exists_of_mapM_eq_error h
    cases item with
    | none => cases he
    | some item => exact ⟨path, item, hmem, he⟩
  · cases h

/-- When the operations of all paths are drafted, those of each path are. -/
theorem exists_of_draftedPaths_eq_ok {I : Type} {paths : Dict (Option I)}
    {draft : String → I → Except DraftFailure (List Operation)} {ops : List Operation}
    (h : draftedPaths paths draft = .ok ops) {path : String} {item : I}
    (hmem : (path, some item) ∈ Dict.withoutExtensions paths) :
    ∃ ops, draft path item = .ok ops := by
  obtain ⟨byPath, hpaths, -⟩ := bind_eq_ok_iff.1 h
  exact exists_of_mapM_eq_ok hpaths hmem

/-- A list whose `i`-th item stands below a pointer, under its number, has an item that is not null
and is read at a place. -/
inductive IsListed {α β : Type} (settle : String → α → Except DraftFailure (β × String))
    (pointer : String) : Nat → List (Option α) → β → String → Prop where
  /-- The first item. -/
  | head {i : Nat} {a : α} {rest : List (Option α)} {b : β} {place : String}
      (hb : settle (pointer ++ "/" ++ toString i) a = .ok (b, place)) :
      IsListed settle pointer i (some a :: rest) b place
  /-- A later item. -/
  | tail {i : Nat} {first : Option α} {rest : List (Option α)} {b : β} {place : String}
      (h : IsListed settle pointer (i + 1) rest b place) :
      IsListed settle pointer i (first :: rest) b place

namespace V2

variable {filter : TagFilter} {doc : Value} {consumes : List String} {place pointer : String}

/-- The calls that a filter allows, with the item of their path and its pointer. -/
inductive HasCall (filter : TagFilter) (doc : Value) (item : PathItem) (pointer : String)
    (method : Method) (o : Operation) : Prop where
  /-- The item of a path that is not null, where it is described, has an allowed call. -/
  | intro {path : String} {raw : PathItem}
      (hraw : (path, some raw) ∈ Dict.withoutExtensions (Document.ofEntries doc.entries).paths)
      (hitem : settledItem doc .pathItem2 PathItem.ofEntries PathItem.ref path raw =
        .ok (item, pointer))
      (hcall : (method, o) ∈ item.operations) (hallows : filter.allows o.tags = true)

/-- The lists of parameters that calls take, with their pointers. -/
inductive HasParameters (filter : TagFilter) (doc : Value) :
    List (Option Parameter) → String → Prop where
  /-- The list of the path. -/
  | ofPath {item pointer method o} (h : HasCall filter doc item pointer method o) :
      HasParameters filter doc item.parameters (pointer ++ "/parameters")
  /-- The list of the call. -/
  | ofCall {item pointer method o} (h : HasCall filter doc item pointer method o) :
      HasParameters filter doc o.parameters (pointer ++ "/" ++ method.label ++ "/parameters")

/-- The parameters of calls that are not null, read where they are described. -/
inductive Reaches (filter : TagFilter) (doc : Value) (p : Parameter) (place : String) : Prop where
  /-- A parameter in a list. -/
  | intro {ps : List (Option Parameter)} {pointer : String}
      (hps : HasParameters filter doc ps pointer)
      (hp : IsListed (Parameter.settle doc) pointer 0 ps p place)

/-- The model of a parameter outside of the body is there. -/
theorem Parameter.exists_valueModel (p : Parameter) (doc : Value) (place : String) :
    ∃ m, p.valueModel doc place = .ok m ∧ m.isAbsent = false := by
  refine ⟨_, p.valueModel_eq, ?_⟩
  split
  · rw [Model.isAbsent_modify]
    exact (Model.ofSchema_layered ..).isAbsent_eq
  · exact (Model.ofSchema_layered ..).isAbsent_eq

theorem Parameter.exists_valueRole (p : Parameter) (doc : Value) (place : String)
    (start : TypedClient.Parameter) : ∃ r, p.valueRole doc place start = .ok r := by
  obtain ⟨m, hm, hpresent⟩ := p.exists_valueModel doc place
  exact ⟨_, bind_eq_ok_iff.2 ⟨m, hm, bind_eq_ok_iff.2
    ⟨_, TypedClient.Parameter.withModel_eq_ok_iff.2 ⟨hpresent, rfl⟩, rfl⟩⟩⟩

/-- Every parameter has a role. -/
theorem Parameter.exists_role (p : Parameter) (doc : Value) (consumes : List String)
    (place : String) : ∃ r, p.role doc consumes place = .ok r := by
  unfold role
  dsimp only
  split
  case h_1 =>
    have hbody := (Model.ofSchema_layered doc (place ++ "/schema") p.schema).isAbsent_eq
    exact ⟨_, bind_eq_ok_iff.2 ⟨_, TypedClient.Parameter.withModel_eq_ok_iff.2 ⟨hbody, rfl⟩, rfl⟩⟩
  case h_2 =>
    obtain ⟨m, hm, -⟩ := p.exists_valueModel doc place
    exact ⟨_, bind_eq_ok_iff.2 ⟨m, hm, rfl⟩⟩
  case h_6 => exact ⟨_, rfl⟩
  all_goals exact p.exists_valueRole doc place _

/-- The model of a part of a form is there. -/
theorem isAbsent_of_mem_formOf {ps : List (Option Parameter)} {i : Nat} {rs : List Parameter.Role}
    (h : Parameter.roles doc consumes (pointer ++ "/parameters") i ps = .ok rs) :
    ∀ q ∈ formOf rs, q.model.isAbsent = false := by
  intro q hq
  obtain ⟨r, hr, hform⟩ := List.mem_filterMap.1 hq
  obtain ⟨p, place, -, hrole⟩ := Parameter.exists_of_mem_roles h r hr
  split at hform
  case h_1 =>
    cases hform
    obtain ⟨m, hm, hpresent⟩ := p.exists_valueModel doc place
    obtain rfl := Except.ok.inj (hm.symm.trans (Parameter.role_eq_form hrole).2)
    exact hpresent
  case h_2 => cases hform

/-- A part of a form whose model is there makes a property. -/
theorem exists_formProperty {q : TypedClient.Parameter} (h : q.model.isAbsent = false)
    (pointer : String) : ∃ property, formProperty pointer q = .ok property :=
  ⟨_, bind_eq_ok_iff.2 ⟨_, Model.present_eq_ok_iff.2 ⟨h, rfl⟩, rfl⟩⟩

theorem Parameter.not_aborts_of_roles {i : Nat} {ps : List (Option Parameter)} {e : DraftFailure}
    (h : roles doc consumes pointer i ps = .error e) : ¬ e.Aborts := by
  induction ps generalizing i with
  | nil => cases h
  | cons first rest ih =>
      cases first with
      | none => exact ih h
      | some p =>
          rcases bind_eq_error_iff.1 h with h | ⟨⟨q, place⟩, -, h⟩
          · unfold settle at h
            split at h
            · cases h
            · exact Value.not_aborts_of_readTarget h
          rcases bind_eq_error_iff.1 h with h | ⟨r, -, h⟩
          · obtain ⟨r, hr⟩ := q.exists_role doc consumes place
            exact nomatch hr.symm.trans h
          rcases bind_eq_error_iff.1 h with h | ⟨rs, -, h⟩
          · exact ih h
          · cases h

theorem not_aborts_of_parametersFrom {itemPointer : String} {shared own : List (Option Parameter)}
    {e : DraftFailure}
    (h : parametersFrom doc consumes itemPointer pointer shared own = .error e) : ¬ e.Aborts := by
  rcases bind_eq_error_iff.1 h with h | ⟨sharedRoles, hshared, h⟩
  · exact Parameter.not_aborts_of_roles h
  rcases bind_eq_error_iff.1 h with h | ⟨ownRoles, hown, h⟩
  · exact Parameter.not_aborts_of_roles h
  split at h
  · cases h
  rcases bind_eq_error_iff.1 h with h | ⟨body, -, h⟩
  · -- the parts of the form have models, so the form has a body
    rcases bind_eq_error_iff.1 h with h | ⟨properties, -, h⟩
    · obtain ⟨q, hq, h⟩ := exists_of_mapM_eq_error h
      obtain ⟨property, hproperty⟩ := exists_formProperty
        (TypedClient.Parameter.forall_model_merge (P := fun m => m.isAbsent = false)
          (isAbsent_of_mem_formOf hshared) (isAbsent_of_mem_formOf hown) q hq) pointer
      exact nomatch hproperty.symm.trans h
    · cases h
  · cases h

theorem Response.not_aborts_of_declared {status : String} {r : Option Response} {e : DraftFailure}
    (h : Response.declared doc pointer status r = .error e) : ¬ e.Aborts := by
  cases r with
  | none => cases h
  | some r =>
      -- nothing can fail once the response is read
      have hread : ∀ {q : Response} {place : String}, (if q.schema.isMissing then
          Except.ok { status, description := Text.trim q.description }
        else Except.ok { status, description := Text.trim q.description
                         mediaType := MediaType.json
                         model := Model.ofSchema doc (place ++ "/schema") q.schema }) ≠
          (.error e : Except DraftFailure TypedClient.Response) := by
        intro q place
        split
        · exact nofun
        · exact nofun
      unfold Response.declared at h
      dsimp only at h
      split at h
      · exact absurd h hread
      · rcases bind_eq_error_iff.1 h with h | ⟨⟨q, place⟩, -, h⟩
        · exact Value.not_aborts_of_readTarget h
        · exact absurd h hread

theorem not_aborts_of_responsesFrom {produces : List String}
    {responses : Dict (Option Response)} {e : DraftFailure}
    (h : responsesFrom doc produces pointer responses = .error e) : ¬ e.Aborts := by
  rcases bind_eq_error_iff.1 h with h | ⟨declared, -, h⟩
  · obtain ⟨⟨status, r⟩, -, he⟩ := exists_of_mapM_eq_error h
    exact Response.not_aborts_of_declared he
  · split at h
    · cases h
    · cases h

/-- Whatever keeps a version 2 description from being drafted is reported. -/
theorem Document.not_aborts_of_operations {t : Document} {e : DraftFailure}
    (h : t.operations doc filter = .error e) : ¬ e.Aborts := by
  rw [Document.operations_eq] at h
  obtain ⟨path, raw, -, hitem⟩ := exists_of_draftedPaths_eq_error h
  rw [PathItem.drafted_eq] at hitem
  rcases bind_eq_error_iff.1 hitem with hitem | ⟨⟨item, pointer⟩, -, hcalls⟩
  · exact not_aborts_of_settledItem hitem
  obtain ⟨⟨method, o⟩, -, hcall⟩ := exists_of_mapM_eq_error hcalls
  rcases bind_eq_error_iff.1 hcall with hcall | ⟨parameters, -, hcall⟩
  · exact not_aborts_of_parametersFrom hcall
  rcases bind_eq_error_iff.1 hcall with hcall | ⟨responses, -, hcall⟩
  · exact not_aborts_of_responsesFrom hcall
  · cases hcall

end V2

namespace V3

variable {filter : TagFilter} {doc : Value} {place pointer : String} {e : DraftFailure}

/-- The items of the paths that are not null, read where they are described, with their pointers. -/
inductive HasItem (doc : Value) (item : PathItem) (pointer : String) : Prop where
  /-- The item of a path. -/
  | intro {path : String} {raw : PathItem}
      (hraw : (path, some raw) ∈ Dict.withoutExtensions (Document.ofEntries doc.entries).paths)
      (hitem : settledItem doc .pathItem PathItem.ofEntries PathItem.ref path raw =
        .ok (item, pointer))

/-- The calls that a filter allows, with their pointers. -/
inductive HasCall (filter : TagFilter) (doc : Value) (o : Operation) : String → Prop where
  /-- A call of a path. -/
  | intro {item : PathItem} {pointer : String} {method : Method} (hitem : HasItem doc item pointer)
      (hcall : (method, o) ∈ item.operations) (hallows : filter.allows o.tags = true) :
      HasCall filter doc o (pointer ++ "/" ++ method.label)

/-- The lists of parameters of paths and calls, with their pointers. -/
inductive HasParameters (filter : TagFilter) (doc : Value) :
    List (Option (OrReference Parameter)) → String → Prop where
  /-- The list of a path. -/
  | ofPath {item pointer} (h : HasItem doc item pointer) :
      HasParameters filter doc item.parameters (pointer ++ "/parameters")
  /-- The list of a call. -/
  | ofCall {o pointer} (h : HasCall filter doc o pointer) :
      HasParameters filter doc o.parameters (pointer ++ "/parameters")

/-- The parameters that are not null, read where they are described, with their pointers. -/
inductive Reaches (filter : TagFilter) (doc : Value) (p : Parameter) (place : String) : Prop where
  /-- A parameter in a list. -/
  | intro {ps : List (Option (OrReference Parameter))} {pointer : String}
      (hps : HasParameters filter doc ps pointer)
      (hp : IsListed (OrReference.settle doc .parameter Parameter.ofEntries) pointer 0 ps p place)

/-- The bodies of calls, read where they are described, with their pointers. -/
inductive ReachesBody (filter : TagFilter) (doc : Value) (b : RequestBody) (place : String) :
    Prop where
  /-- The body of a call. -/
  | intro {o : Operation} {pointer : String} {r : OrReference RequestBody}
      (ho : HasCall filter doc o pointer) (hr : o.requestBody = some r)
      (hb : r.settle doc .requestBody RequestBody.ofEntries (pointer ++ "/requestBody") =
        .ok (b, place))

/-- The responses to calls that are not null, read where they are described, with their pointers. -/
inductive ReachesResponse (filter : TagFilter) (doc : Value) (q : Response) (place : String) :
    Prop where
  /-- The response to a call under a status. -/
  | intro {o : Operation} {pointer status : String} {r : OrReference Response}
      (ho : HasCall filter doc o pointer)
      (hr : (status, some r) ∈ Dict.withoutExtensions o.responses)
      (hq : r.settle doc .response Response.ofEntries
        (pointer ++ "/responses/" ++ Pointer.escape status) = .ok (q, place))

namespace Parameter

/-- A parameter that travels outside of the body. -/
def IsSent (p : Parameter) : Prop :=
  Location.ofLabel (Text.lower p.location) ∈ [.path, .query, .header, .cookie]

/-- A parameter that says how it travels, and describes its values by nulls. -/
structure IsHollow (p : Parameter) : Prop where
  isSent : p.IsSent
  isMissing : p.schema.isMissing = true
  content_ne_nil : p.content ≠ []
  isNull : ∀ c ∈ p.content, c.2 = none

end Parameter

/-! ### What is reached has been read -/

theorem HasItem.stands {item : PathItem} (h : HasItem doc item pointer) :
    ∃ v, Stands .document doc (.object .pathItem) pointer v ∧
      item = PathItem.ofEntries v.entries := by
  obtain ⟨hraw, hitem⟩ := h
  obtain ⟨v, hv, hread⟩ := Dict.exists_of_mem_mapValues (List.mem_of_mem_filter hraw)
  obtain rfl := Field.eq_of_optional hread
  exact stands_settledItem (stands_path (by decide) hv) rfl hitem

theorem HasCall.stands {o : Operation} (h : HasCall filter doc o pointer) :
    ∃ v, Stands .document doc (.object .operation) pointer v ∧
      o = Operation.ofEntries v.entries := by
  obtain ⟨hitem, hcall, -⟩ := h
  obtain ⟨v, hv, rfl⟩ := hitem.stands
  exact stands_call hv PathItem.forall_label hcall

theorem HasParameters.stands {ps : List (Option (OrReference Parameter))}
    (h : HasParameters filter doc ps pointer) :
    ∃ vs, StandFrom .document doc (.orReference .parameter) pointer 0 vs ∧
      ps = vs.map (OrReference.read Parameter.ofEntries) := by
  cases h with
  | ofPath h =>
      obtain ⟨v, hv, rfl⟩ := h.stands
      exact ⟨_, .of_listed hv (by decide) (by decide), rfl⟩
  | ofCall h =>
      obtain ⟨v, hv, rfl⟩ := h.stands
      exact ⟨_, .of_listed hv (by decide) (by decide), rfl⟩

theorem Parameter.exists_of_isListed {vs : List Value} {i : Nat} {p : Parameter}
    (hvs : StandFrom .document doc (.orReference .parameter) pointer i vs)
    (h : IsListed (OrReference.settle doc .parameter ofEntries) pointer i
      (vs.map (OrReference.read ofEntries)) p place) : ∃ es, p = ofEntries es := by
  induction vs generalizing i with
  | nil => cases h
  | cons v rest ih =>
      rw [List.map_cons] at h
      generalize hread : OrReference.read ofEntries v = first at h
      cases h with
      | head hp =>
          obtain rfl := Field.eq_of_optional hread
          obtain ⟨w, -, rfl⟩ := OrReference.stands_settle hvs.head hp
          exact ⟨_, rfl⟩
      | tail h => exact ih hvs.tail h

theorem Reaches.exists_eq {p : Parameter} (h : Reaches filter doc p place) :
    ∃ es, p = Parameter.ofEntries es := by
  obtain ⟨hps, hp⟩ := h
  obtain ⟨vs, hvs, rfl⟩ := hps.stands
  exact Parameter.exists_of_isListed hvs hp

theorem ReachesBody.exists_eq {b : RequestBody} (h : ReachesBody filter doc b place) :
    ∃ es, b = RequestBody.ofEntries es := by
  obtain ⟨ho, hr, hb⟩ := h
  obtain ⟨v, hv, rfl⟩ := ho.stands
  obtain ⟨w, hw, rfl⟩ := OrReference.exists_of_ofField hr
  obtain ⟨w, -, rfl⟩ := OrReference.stands_settle (hv.field (by decide) (by decide) hw) hb
  exact ⟨_, rfl⟩

theorem ReachesResponse.exists_eq {q : Response} (h : ReachesResponse filter doc q place) :
    ∃ es, q = Response.ofEntries es := by
  obtain ⟨ho, hr, hq⟩ := h
  obtain ⟨v, hv, rfl⟩ := ho.stands
  obtain ⟨w, hw, hread⟩ := Dict.exists_of_mem_mapValues (List.mem_of_mem_filter hr)
  obtain rfl := Field.eq_of_optional hread
  have hform : ("responses", Form.dict (.orReference .response)) ∈ ObjectKind.operation.fields := by
    decide
  obtain ⟨w, -, rfl⟩ := OrReference.stands_settle (hv.entered hform (by decide) hw) hq
  exact ⟨_, rfl⟩

/-! ### Parameters without a media type -/

/-- The preferred media type of a content is there unless all are null. -/
theorem Content.exists_schemaAt_iff {c : Content} (hsorted : Dict.Sorted c) (place : String) :
    (∃ s, c.schemaAt place (MediaType.preferred c.types) = .ok s) ↔ ∃ e ∈ c, e.2 ≠ none := by
  constructor
  · rintro ⟨s, hs⟩
    have hget := schemaAt_eq_ok_iff.1 hs
    generalize MediaType.preferred c.types = mediaType at hget
    obtain ⟨before, after, rfl, -⟩ := List.lookup_eq_some_iff.1 hget
    exact ⟨(mediaType, some s), List.mem_append_right _ List.mem_cons_self, nofun⟩
  · rintro ⟨⟨mediaType, s⟩, he, hne⟩
    have htypes : c.types ≠ [] := by
      have hmem : mediaType ∈ c.types :=
        List.mem_map_of_mem (List.mem_filter.2 ⟨he, Option.isSome_iff_ne_none.2 hne⟩)
      exact List.ne_nil_of_mem hmem
    obtain ⟨s, hs⟩ := exists_of_mem_types hsorted (MediaType.preferred_mem_of_ne_nil htypes)
    exact ⟨s, schemaAt_eq_ok_iff.2 hs⟩

/-- A media type that is preferred has a schema to read. -/
theorem Content.exists_schemaAt {es : Dict Value}
    (h : MediaType.preferred (ofField es).types ≠ "") (place : String) :
    ∃ s, (ofField es).schemaAt place (MediaType.preferred (ofField es).types) = .ok s := by
  obtain ⟨s, hs⟩ := exists_of_preferred h
  exact ⟨s, schemaAt_eq_ok_iff.2 hs⟩

theorem Content.eq_of_schemaAt_eq_error {c : Content} {mediaType : String}
    (h : c.schemaAt place mediaType = .error e) : e = .emptyContent place := by
  unfold schemaAt at h
  split at h
  · cases h
  · exact (Except.error.inj h).symm

/-- There is nothing to read for the values of a hollow parameter. -/
theorem Parameter.IsHollow.schemaAt_eq {es : Dict Value} (h : (ofEntries es).IsHollow)
    (place : String) : (ofEntries es).content.schemaAt place
      (MediaType.preferred (ofEntries es).content.types) = .error (.emptyContent place) := by
  have hsorted : Dict.Sorted (ofEntries es).content := Content.sorted_ofField es
  cases hread : (ofEntries es).content.schemaAt place
    (MediaType.preferred (ofEntries es).content.types) with
  | error e => rw [Content.eq_of_schemaAt_eq_error hread]
  | ok s =>
      obtain ⟨c, hc, hne⟩ := (Content.exists_schemaAt_iff hsorted place).1 ⟨s, hread⟩
      exact absurd (h.isNull c hc) hne

/-- A parameter that is sent has a model unless it is hollow. -/
theorem Parameter.model_cases (doc : Value) (place : String) {es : Dict Value}
    (hsent : (ofEntries es).IsSent) :
    ((ofEntries es).IsHollow ∧ (ofEntries es).model doc place = .error (.emptyContent place)) ∨
      (¬ (ofEntries es).IsHollow ∧
        ∃ m, (ofEntries es).model doc place = .ok m ∧ m.isAbsent = false) := by
  unfold model
  split
  case isTrue hschema =>
    refine .inr ⟨fun h => ?_, _, rfl, (Model.ofSchema_layered ..).isAbsent_eq⟩
    rw [h.isMissing] at hschema
    cases hschema
  case isFalse hschema =>
    split
    case isTrue hempty =>
      exact .inr ⟨fun h => h.content_ne_nil (List.isEmpty_iff.1 hempty), _, rfl, rfl⟩
    case isFalse hempty =>
      have hsorted : Dict.Sorted (ofEntries es).content := Content.sorted_ofField es
      have hiff := Content.exists_schemaAt_iff hsorted place
      unfold Content.model
      cases hread : (ofEntries es).content.schemaAt place
        (MediaType.preferred (ofEntries es).content.types) with
      | ok s =>
          obtain ⟨c, hc, hne⟩ := hiff.1 ⟨s, hread⟩
          exact .inr ⟨fun h => hne (h.isNull c hc), _, rfl, (Model.ofSchema_layered ..).isAbsent_eq⟩
      | error e =>
          obtain rfl := Content.eq_of_schemaAt_eq_error hread
          refine .inl ⟨⟨hsent, by simpa using hschema, by simpa using hempty, fun c hc => ?_⟩, rfl⟩
          by_contra hne
          obtain ⟨s, hs⟩ := hiff.2 ⟨c, hc, hne⟩
          rw [hs] at hread
          cases hread

/-- A body is always drafted. -/
theorem RequestBody.exists_drafted (es : Dict Value) (doc : Value) (place : String) :
    ∃ q, (ofEntries es).drafted doc place = .ok q := by
  have hmodel : ∃ m, (ofEntries es).model doc place = .ok m := by
    unfold model
    dsimp only
    split
    case isTrue => exact ⟨_, rfl⟩
    case isFalse hmedia =>
      obtain ⟨s, hs⟩ := Content.exists_schemaAt hmedia place
      exact ⟨_, bind_eq_ok_iff.2 ⟨s, hs, rfl⟩⟩
  obtain ⟨m, hm⟩ := hmodel
  exact ⟨_, bind_eq_ok_iff.2 ⟨m, hm, rfl⟩⟩

/-- The model of a response is always read. -/
theorem Response.exists_model (es : Dict Value) (doc : Value) (place : String) :
    ∃ m, (ofEntries es).model doc place = .ok m := by
  unfold model
  dsimp only
  split
  case isTrue => exact ⟨_, rfl⟩
  case isFalse hmedia =>
    obtain ⟨s, hs⟩ := Content.exists_schemaAt hmedia place
    exact ⟨_, bind_eq_ok_iff.2 ⟨s, hs, rfl⟩⟩

/-- Drafting a parameter fails when it is hollow. -/
theorem Parameter.drafted_eq_error_iff {es : Dict Value} :
    (ofEntries es).drafted doc place = .error e ↔
      (ofEntries es).IsHollow ∧ e = .emptyContent place := by
  unfold drafted
  split
  case h_1 hlocation =>
    exact ⟨nofun, fun h => absurd h.1.isSent (by simp [IsSent, hlocation])⟩
  case h_2 label hlocation =>
    exact ⟨nofun, fun h => absurd h.1.isSent (by simp [IsSent, hlocation])⟩
  case h_3 hbody hother =>
    have hsent : (ofEntries es).IsSent := by
      unfold IsSent
      cases hlocation : Location.ofLabel (Text.lower (ofEntries es).location) with
      | body => exact absurd hlocation hbody
      | other label => exact absurd hlocation (hother label)
      | _ => simp
    rw [bind_eq_error_iff]
    obtain ⟨hhollow, hmodel⟩ | ⟨hhollow, m, hmodel, hpresent⟩ := model_cases doc place hsent
    · rw [hmodel]
      constructor
      · rintro (h | ⟨m, hm, -⟩)
        · exact ⟨hhollow, (Except.error.inj h).symm⟩
        · cases hm
      · rintro ⟨-, rfl⟩
        exact .inl rfl
    · rw [hmodel]
      constructor
      · rintro (h | ⟨m', hm', h⟩)
        · cases h
        obtain rfl := Except.ok.inj hm'
        rcases bind_eq_error_iff.1 h with h | ⟨q, -, h⟩
        · rw [TypedClient.Parameter.withModel_eq_ok_iff.2 ⟨hpresent, rfl⟩] at h
          cases h
        · cases h
      · rintro ⟨h, -⟩
        exact absurd h hhollow

theorem OrReference.not_aborts_of_settle {α : Type} {kind : ObjectKind} {read : Dict Value → α}
    {r : OrReference α} (h : r.settle doc kind read pointer = .error e) : ¬ e.Aborts := by
  cases r with
  | inline it => cases h
  | reference target => exact Value.not_aborts_of_readTarget h

/-! ### From the parameters to the whole description -/

/-- When a run over listed parameters breaks off, it does so at one of them. -/
theorem Parameter.exists_of_draftedAll_eq_error {i : Nat}
    {ps : List (Option (OrReference Parameter))} (h : draftedAll doc pointer i ps = .error e)
    (haborts : e.Aborts) :
    ∃ p place, IsListed (OrReference.settle doc .parameter ofEntries) pointer i ps p place ∧
      p.drafted doc place = .error e := by
  induction ps generalizing i with
  | nil => cases h
  | cons first rest ih =>
      cases first with
      | none =>
          obtain ⟨p, place, hp, hdrafted⟩ := ih h
          exact ⟨p, place, .tail hp, hdrafted⟩
      | some r =>
          rcases bind_eq_error_iff.1 h with h | ⟨⟨p, place⟩, hp, h⟩
          · exact absurd haborts (OrReference.not_aborts_of_settle h)
          rcases bind_eq_error_iff.1 h with h | ⟨q, -, h⟩
          · exact ⟨p, place, .head hp, h⟩
          rcases bind_eq_error_iff.1 h with h | ⟨qs, -, h⟩
          · obtain ⟨p, place, hp, hdrafted⟩ := ih h
            exact ⟨p, place, .tail hp, hdrafted⟩
          · cases h

/-- When listed parameters are drafted, each of them is. -/
theorem Parameter.exists_of_draftedAll_eq_ok {i : Nat} {ps : List (Option (OrReference Parameter))}
    {qs : List TypedClient.Parameter} (h : draftedAll doc pointer i ps = .ok qs) {p : Parameter}
    (hp : IsListed (OrReference.settle doc .parameter ofEntries) pointer i ps p place) :
    ∃ q, p.drafted doc place = .ok q := by
  induction hp generalizing qs with
  | head hp =>
      obtain ⟨⟨p', place'⟩, hp', h⟩ := bind_eq_ok_iff.1 h
      obtain ⟨q, hq, -⟩ := bind_eq_ok_iff.1 h
      rw [hp] at hp'
      cases hp'
      exact ⟨q, hq⟩
  | @tail i first rest p place _ ih =>
      cases first with
      | none => exact ih h
      | some r =>
          obtain ⟨_, -, h⟩ := bind_eq_ok_iff.1 h
          obtain ⟨_, -, h⟩ := bind_eq_ok_iff.1 h
          obtain ⟨qs, hqs, -⟩ := bind_eq_ok_iff.1 h
          exact ih hqs

/-- When a run over the parameters of a path or a call breaks off, one of them is hollow. -/
theorem HasParameters.exists_isHollow {ps : List (Option (OrReference Parameter))}
    (hps : HasParameters filter doc ps pointer)
    (h : Parameter.draftedAll doc pointer 0 ps = .error e) (haborts : e.Aborts) :
    ∃ p place, Reaches filter doc p place ∧ p.IsHollow ∧ e = .emptyContent place := by
  obtain ⟨p, place, hp, hdrafted⟩ := Parameter.exists_of_draftedAll_eq_error h haborts
  have hreaches : Reaches filter doc p place := ⟨hps, hp⟩
  obtain ⟨es, rfl⟩ := hreaches.exists_eq
  obtain ⟨hhollow, he⟩ := Parameter.drafted_eq_error_iff.1 hdrafted
  exact ⟨_, place, hreaches, hhollow, he⟩

/-- When a run over a call breaks off, one of its own parameters is hollow. -/
theorem HasCall.exists_isHollow {o : Operation} (ho : HasCall filter doc o pointer)
    {path : String} {shared : List TypedClient.Parameter} {method : Method}
    (h : o.drafted doc path pointer shared method = .error e) (haborts : e.Aborts) :
    ∃ p place, Reaches filter doc p place ∧ p.IsHollow ∧ e = .emptyContent place := by
  rcases bind_eq_error_iff.1 h with h | ⟨parameters, -, h⟩
  · rcases bind_eq_error_iff.1 h with h | ⟨own, -, h⟩
    · exact (HasParameters.ofCall ho).exists_isHollow h haborts
    · split at h
      · cases h
      case h_2 r hr =>
        rcases bind_eq_error_iff.1 h with h | ⟨⟨b, place⟩, hb, h⟩
        · exact absurd haborts (OrReference.not_aborts_of_settle h)
        have hreaches : ReachesBody filter doc b place := ⟨ho, hr, hb⟩
        obtain ⟨es, rfl⟩ := hreaches.exists_eq
        obtain ⟨q, hq⟩ := RequestBody.exists_drafted es doc place
        rcases bind_eq_error_iff.1 h with h | ⟨body, -, h⟩
        · exact nomatch hq.symm.trans h
        · cases h
  rcases bind_eq_error_iff.1 h with h | ⟨responses, -, h⟩
  · obtain ⟨⟨status, r⟩, hr, h⟩ := exists_of_mapM_eq_error h
    cases r with
    | none => cases h
    | some r =>
        rcases bind_eq_error_iff.1 h with h | ⟨⟨q, place⟩, hq, h⟩
        · exact absurd haborts (OrReference.not_aborts_of_settle h)
        have hreaches : ReachesResponse filter doc q place := ⟨ho, hr, hq⟩
        obtain ⟨es, rfl⟩ := hreaches.exists_eq
        obtain ⟨m, hm⟩ := Response.exists_model es doc place
        rcases bind_eq_error_iff.1 h with h | ⟨model, -, h⟩
        · exact nomatch hm.symm.trans h
        · cases h
  · cases h

/-- When a run over a description breaks off, it does so at a hollow parameter. -/
theorem Document.exists_isHollow
    (h : (Document.ofEntries doc.entries).operations doc filter = .error e) (haborts : e.Aborts) :
    ∃ p place, Reaches filter doc p place ∧ p.IsHollow ∧ e = .emptyContent place := by
  rw [Document.operations_eq] at h
  obtain ⟨path, raw, hraw, h⟩ := exists_of_draftedPaths_eq_error h
  rw [PathItem.drafted_eq] at h
  rcases bind_eq_error_iff.1 h with h | ⟨⟨item, pointer⟩, hitem, h⟩
  · exact absurd haborts (not_aborts_of_settledItem h)
  have hitem : HasItem doc item pointer := ⟨hraw, hitem⟩
  rcases bind_eq_error_iff.1 h with h | ⟨shared, -, h⟩
  · exact (HasParameters.ofPath hitem).exists_isHollow h haborts
  · obtain ⟨⟨method, o⟩, hmem, h⟩ := exists_of_mapM_eq_error h
    obtain ⟨hcall, hallows⟩ := List.mem_filter.1 hmem
    exact (HasCall.intro hitem hcall hallows).exists_isHollow h haborts

/-- When the operations are drafted, so are the parameters of each path, and with them its calls. -/
theorem Document.exists_of_operations_eq_ok {ops : List TypedClient.Operation}
    (h : (Document.ofEntries doc.entries).operations doc filter = .ok ops) {item : PathItem}
    (hitem : HasItem doc item pointer) :
    ∃ path shared,
      Parameter.draftedAll doc (pointer ++ "/parameters") 0 item.parameters = .ok shared ∧
      ∀ method o, (method, o) ∈ item.operations → filter.allows o.tags = true →
        ∃ op, o.drafted doc path (pointer ++ "/" ++ method.label) shared method = .ok op := by
  rw [Document.operations_eq] at h
  obtain @⟨path, raw, hraw, hsettled⟩ := hitem
  obtain ⟨ops, hops⟩ := exists_of_draftedPaths_eq_ok h hraw
  obtain ⟨_, hsettled', hops⟩ := bind_eq_ok_iff.1 (PathItem.drafted_eq .. ▸ hops)
  rw [hsettled] at hsettled'
  cases hsettled'
  obtain ⟨shared, hshared, hcalls⟩ := bind_eq_ok_iff.1 hops
  refine ⟨path, shared, hshared, fun method o hcall hallows => ?_⟩
  have hkept : (method, o) ∈ item.operations.filter (fun c => filter.allows c.2.tags) :=
    List.mem_filter.2 ⟨hcall, hallows⟩
  obtain ⟨op, hop⟩ := exists_of_mapM_eq_ok hcalls hkept
  exact ⟨op, hop⟩

/-- When the operations are drafted, so is each list of parameters. -/
theorem HasParameters.exists_eq_ok {ops : List TypedClient.Operation}
    (h : (Document.ofEntries doc.entries).operations doc filter = .ok ops)
    {ps : List (Option (OrReference Parameter))} (hps : HasParameters filter doc ps pointer) :
    ∃ qs, Parameter.draftedAll doc pointer 0 ps = .ok qs := by
  cases hps with
  | ofPath hitem =>
      obtain ⟨path, shared, hshared, -⟩ := Document.exists_of_operations_eq_ok h hitem
      exact ⟨shared, hshared⟩
  | ofCall ho =>
      obtain ⟨hitem, hcall, hallows⟩ := ho
      obtain ⟨path, shared, -, hcalls⟩ := Document.exists_of_operations_eq_ok h hitem
      obtain ⟨op, hop⟩ := hcalls _ _ hcall hallows
      obtain ⟨parameters, hparameters, -⟩ := bind_eq_ok_iff.1 hop
      obtain ⟨own, hown, -⟩ := bind_eq_ok_iff.1 hparameters
      exact ⟨own, hown⟩

/-- No parameter that is reached is hollow when the operations are drafted. -/
theorem Document.not_isHollow {ops : List TypedClient.Operation}
    (h : (Document.ofEntries doc.entries).operations doc filter = .ok ops) {p : Parameter}
    (hp : Reaches filter doc p place) : ¬ p.IsHollow := by
  intro hhollow
  obtain ⟨es, rfl⟩ := hp.exists_eq
  obtain ⟨hps, hlisted⟩ := hp
  obtain ⟨qs, hqs⟩ := hps.exists_eq_ok h
  obtain ⟨q, hq⟩ := Parameter.exists_of_draftedAll_eq_ok hqs hlisted
  rw [Parameter.drafted_eq_error_iff.2 ⟨hhollow, rfl⟩] at hq
  cases hq

end V3

namespace Version

variable {filter : TagFilter} {doc : Value} {version : Version}

/-- What a draft of a prepared document reads without a test for null, with whether the read finds
something. -/
inductive Untested (filter : TagFilter) (doc : Value) : Version → Bool → Prop where
  /-- The model of a named schema, which takes the name. -/
  | named {version name s} (hs : (name, s) ∈ Dict.withoutExtensions (version.schemas doc)) :
      Untested filter doc version (Draft.ofSchema doc version.schemaPath name s).isOk
  /-- The model of a parameter without a schema, which loses its description. -/
  | value {p place} (hp : V2.Reaches filter doc p place) (hschema : p.schema.isMissing = true) :
      Untested filter doc .v2 (p.valueModel doc place).isOk
  /-- The model of a plain parameter, which gives the default value. -/
  | plain {consumes p place} (hp : V2.Reaches filter doc p place) :
      Untested filter doc .v2 (p.role doc consumes place).isOk
  /-- The model of a merged part of a form, which takes the description of the part. -/
  | form {consumes item pointer method o shared own q}
      (ho : V2.HasCall filter doc item pointer method o)
      (hshared : V2.Parameter.roles doc consumes (pointer ++ "/parameters") 0 item.parameters =
        .ok shared)
      (hown : V2.Parameter.roles doc consumes (pointer ++ "/" ++ method.label ++ "/parameters") 0
        o.parameters = .ok own)
      (hq : q ∈ TypedClient.Parameter.merge (V2.formOf shared) (V2.formOf own)) :
      Untested filter doc .v2 (V2.formProperty (pointer ++ "/" ++ method.label) q).isOk
  /-- The preferred media type of a parameter with content, which has the schema. -/
  | parameterContent {p place} (hp : V3.Reaches filter doc p place) (hsent : p.IsSent)
      (hschema : p.schema.isMissing = true) (hcontent : p.content ≠ []) :
      Untested filter doc .v3
        (p.content.schemaAt place (MediaType.preferred p.content.types)).isOk
  /-- The model of a parameter, which gives the default value and takes up whether use of the
  parameter is discouraged. -/
  | parameterModel {p place m start} (hp : V3.Reaches filter doc p place) (hsent : p.IsSent)
      (hm : p.model doc place = .ok m) :
      Untested filter doc .v3 (TypedClient.Parameter.withModel place start m).isOk
  /-- The preferred media type of a body, which has the schema. -/
  | bodyContent {b place} (hb : V3.ReachesBody filter doc b place)
      (hmedia : MediaType.preferred b.content.types ≠ "") :
      Untested filter doc .v3
        (b.content.schemaAt place (MediaType.preferred b.content.types)).isOk
  /-- The preferred media type of a response, which has the schema. -/
  | responseContent {q place} (hq : V3.ReachesResponse filter doc q place)
      (hmedia : MediaType.preferred q.content.types ≠ "") :
      Untested filter doc .v3
        (q.content.schemaAt place (MediaType.preferred q.content.types)).isOk

/-- Nothing that is read without a test is null, unless a hollow parameter is reached. -/
theorem Untested.eq_true {there : Bool} (h : Untested filter doc version there)
    (hnone : version = .v3 → ∀ p place, V3.Reaches filter doc p place → ¬ p.IsHollow) :
    there = true := by
  cases h with
  | named hs => exact congrArg Except.isOk (Draft.ofSchema_eq ..)
  | @value p place hp hschema =>
      obtain ⟨m, hm, -⟩ := p.exists_valueModel doc place
      exact congrArg Except.isOk hm
  | @plain consumes p place hp =>
      obtain ⟨r, hr⟩ := p.exists_role doc consumes place
      exact congrArg Except.isOk hr
  | @form consumes item pointer method o shared own q ho hshared hown hq =>
      have hparts := TypedClient.Parameter.forall_model_merge (P := fun m => m.isAbsent = false)
        (V2.isAbsent_of_mem_formOf hshared) (V2.isAbsent_of_mem_formOf hown)
      obtain ⟨property, hproperty⟩ :=
        V2.exists_formProperty (hparts q hq) (pointer ++ "/" ++ method.label)
      exact congrArg Except.isOk hproperty
  | @parameterContent p place hp hsent hschema hcontent =>
      obtain ⟨es, rfl⟩ := hp.exists_eq
      have hiff := V3.Content.exists_schemaAt_iff (V3.Content.sorted_ofField es) place
      have hthere : ∃ c ∈ V3.Content.ofField es, c.2 ≠ none := by
        by_contra hnull
        refine hnone rfl _ _ hp ⟨hsent, hschema, hcontent, fun c hc => ?_⟩
        by_contra hne
        exact hnull ⟨c, hc, hne⟩
      obtain ⟨s, hs⟩ := hiff.2 hthere
      exact congrArg Except.isOk hs
  | @parameterModel p place m start hp hsent hm =>
      obtain ⟨es, rfl⟩ := hp.exists_eq
      obtain ⟨-, hmodel⟩ | ⟨-, m', hmodel, hm'⟩ := V3.Parameter.model_cases doc place hsent
      · rw [hmodel] at hm
        cases hm
      · obtain rfl := Except.ok.inj (hmodel.symm.trans hm)
        exact congrArg Except.isOk (TypedClient.Parameter.withModel_eq_ok_iff.2 ⟨hm', rfl⟩)
  | @bodyContent b place hb hmedia =>
      obtain ⟨es, rfl⟩ := hb.exists_eq
      obtain ⟨s, hs⟩ := V3.Content.exists_schemaAt hmedia place
      exact congrArg Except.isOk hs
  | @responseContent q place hq hmedia =>
      obtain ⟨es, rfl⟩ := hq.exists_eq
      obtain ⟨s, hs⟩ := V3.Content.exists_schemaAt hmedia place
      exact congrArg Except.isOk hs

/-- The only thing that is read without a test and can be null is the media type of a hollow
parameter. -/
theorem untested_false_iff : Untested filter doc version false ↔
    version = .v3 ∧ ∃ p place, V3.Reaches filter doc p place ∧ p.IsHollow := by
  constructor
  · intro h
    by_contra hnone
    have htrue := h.eq_true (fun hversion p place hp hhollow =>
      hnone ⟨hversion, p, place, hp, hhollow⟩)
    cases htrue
  · rintro ⟨rfl, p, place, hp, hhollow⟩
    have hread := Untested.parameterContent hp hhollow.isSent hhollow.isMissing
      hhollow.content_ne_nil
    obtain ⟨es, rfl⟩ := hp.exists_eq
    rwa [hhollow.schemaAt_eq] at hread

end Version

namespace Draft

variable {filter : TagFilter} {doc : Value} {e : DraftFailure}

/-- A version 3 description comes by a hollow parameter at a place. -/
structure HollowAt (filter : TagFilter) (doc : Value) (p : V3.Parameter) (place : String) :
    Prop where
  detect_eq : Version.detect doc = .ok .v3
  isA : doc.normalize.isA .document = true
  reaches : V3.Reaches filter doc.normalize p place
  isHollow : p.IsHollow

/-- A description gives no draft because of its version, its form or its operations. -/
theorem cases_of_ofDocument_eq_error (h : ofDocument filter doc = .error e) :
    (∃ u, e = .version u) ∨ (∃ version, e = .malformed version) ∨
      ∃ version, Version.detect doc = .ok version ∧
        (version.prepared doc).isA version.documentKind = true ∧
        version.operations filter (version.prepared doc) = .error e := by
  unfold ofDocument at h
  split at h
  case h_1 u hdetect => exact .inl ⟨u, (Except.error.inj h).symm⟩
  case h_2 hdetect =>
    dsimp only [ofV2] at h
    split at h
    case isTrue => exact .inr (.inl ⟨.v2, (Except.error.inj h).symm⟩)
    case isFalse hform =>
      rcases bind_eq_error_iff.1 h with h | ⟨named, -, h⟩
      · have hnamed := (ofSchemas_eq .v2 (Version.prepared .v2 doc)).symm.trans h
        cases hnamed
      rcases bind_eq_error_iff.1 h with h | ⟨ops, -, h⟩
      · have hisA : (Version.v2.prepared doc).isA .document2 = true := by
          simpa [Version.prepared] using hform
        exact .inr (.inr ⟨.v2, hdetect, hisA, h⟩)
      · cases h
  case h_3 hdetect =>
    dsimp only [ofV3] at h
    split at h
    case isTrue => exact .inr (.inl ⟨.v3, (Except.error.inj h).symm⟩)
    case isFalse hform =>
      rcases bind_eq_error_iff.1 h with h | ⟨named, -, h⟩
      · have hnamed := (ofSchemas_eq .v3 (Version.prepared .v3 doc)).symm.trans h
        cases hnamed
      rcases bind_eq_error_iff.1 h with h | ⟨ops, -, h⟩
      · have hisA : (Version.v3.prepared doc).isA .document = true := by
          simpa [Version.prepared] using hform
        exact .inr (.inr ⟨.v3, hdetect, hisA, h⟩)
      · cases h

/-- A run that breaks off does so at a hollow parameter. -/
theorem exists_hollowAt (h : ofDocument filter doc = .error e) (haborts : e.Aborts) :
    ∃ p place, HollowAt filter doc p place ∧ e = .emptyContent place := by
  rcases cases_of_ofDocument_eq_error h with ⟨u, rfl⟩ | ⟨version, rfl⟩ | ⟨version, hdetect, hisA, h⟩
  · obtain ⟨reason, hreason⟩ := haborts
    cases hreason
  · obtain ⟨reason, hreason⟩ := haborts
    cases version <;> cases hreason
  · cases version with
    | v2 => exact absurd haborts (V2.Document.not_aborts_of_operations h)
    | v3 =>
        obtain ⟨p, place, hp, hhollow, he⟩ := V3.Document.exists_isHollow h haborts
        exact ⟨p, place, ⟨hdetect, hisA, hp, hhollow⟩, he⟩

/-- A description that comes by a hollow parameter gives no draft. -/
theorem HollowAt.exists_eq_error {p : V3.Parameter} {place : String}
    (h : HollowAt filter doc p place) : ∃ e, ofDocument filter doc = .error e := by
  cases hd : ofDocument filter doc with
  | error e => exact ⟨e, rfl⟩
  | ok d =>
      obtain ⟨version, ops, hdetect, hassembled⟩ := exists_assembled hd
      obtain rfl := Except.ok.inj (hdetect.symm.trans h.detect_eq)
      exact absurd h.isHollow (V3.Document.not_isHollow hassembled.operations_eq h.reaches)

/-- Every document gives a draft or an error that is reported, or the run breaks off at a hollow
parameter, and a description that comes by such a parameter gives no draft. Of all that the draft of
a description reads without a test for null something is missing exactly when it comes by one. -/
theorem ofDocument_safe (filter : TagFilter) (doc : Value) :
    ((∃ d, ofDocument filter doc = .ok d) ∨
      (∃ e, ofDocument filter doc = .error e ∧ ¬ e.Aborts) ∨
      ∃ p place, HollowAt filter doc p place ∧
        ofDocument filter doc = .error (.emptyContent place)) ∧
    ((∃ p place, HollowAt filter doc p place) → ∃ e, ofDocument filter doc = .error e) ∧
    ∀ version, Version.detect doc = .ok version →
      (version.prepared doc).isA version.documentKind = true →
      (version.Untested filter (version.prepared doc) false ↔
        ∃ p place, HollowAt filter doc p place) := by
  refine ⟨?_, fun ⟨p, place, h⟩ => h.exists_eq_error, fun version hdetect hisA => ?_⟩
  · cases h : ofDocument filter doc with
    | ok d => exact .inl ⟨d, rfl⟩
    | error e =>
        by_cases haborts : e.Aborts
        · obtain ⟨p, place, hhollow, rfl⟩ := exists_hollowAt h haborts
          exact .inr (.inr ⟨p, place, hhollow, rfl⟩)
        · exact .inr (.inl ⟨e, rfl, haborts⟩)
  · rw [Version.untested_false_iff]
    constructor
    · rintro ⟨rfl, p, place, hp, hhollow⟩
      exact ⟨p, place, hdetect, hisA, hp, hhollow⟩
    · rintro ⟨p, place, h⟩
      obtain rfl := Except.ok.inj (hdetect.symm.trans h.detect_eq)
      exact ⟨rfl, p, place, h.reaches, h.isHollow⟩

/-- A document with a parameter, described elsewhere, whose only media type is null. -/
def hollowed : Value :=
  .mapping
    [("components", .mapping [("parameters", .mapping [("filter", .mapping
       [("content", .mapping [("application/json", .null)]),
        ("in", .text "query"), ("name", .text "filter")])])]),
     ("openapi", .text "3.0.0"),
     ("paths", .mapping [("/pets", .mapping [("get", .mapping
       [("parameters", .list [.mapping [("$ref", .text "#/components/parameters/filter")]])])])])]

/-- The run over `hollowed` breaks off at the parameter, for which nothing is there to read. -/
theorem ofDocument_safe_hollowed :
    ∃ p place, HollowAt {} hollowed p place ∧
      ofDocument {} hollowed = .error (.emptyContent place) ∧
      place = "#/components/parameters/filter" ∧
      Version.v3.Untested {} (Version.v3.prepared hollowed) false ∧
      ∃ e, ofDocument {} hollowed = .error e := by
  have hrun : (match ofDocument {} hollowed with
      | .ok _ => none
      | .error e => some e) = some (.emptyContent "#/components/parameters/filter") := by
    decide +kernel
  obtain ⟨hcases, hfails, hreads⟩ := ofDocument_safe {} hollowed
  rcases hcases with ⟨d, h⟩ | ⟨e, h, hreported⟩ | ⟨p, place, hhollow, h⟩
  · rw [h] at hrun
    cases hrun
  · rw [h] at hrun
    exact absurd ⟨_, by rw [Option.some.inj hrun]; rfl⟩ hreported
  · rw [h] at hrun
    cases hrun
    exact ⟨p, _, hhollow, h, rfl,
      (hreads .v3 (by decide +kernel) (by decide +kernel)).2 ⟨p, _, hhollow⟩,
      hfails ⟨p, _, hhollow⟩⟩

end Draft

end TypedClient
