import TypedClient.Proofs.Draft.Anonymous
import TypedClient.Proofs.Draft.Nodes
import TypedClient.Proofs.Model.Extensions
import TypedClient.Proofs.Operation.MediaType

/-!
# Extension keys in a draft

`Made` lists what a node of a draft can be made from. A node of an object honours the extension keys
at its pointer, and these are the keys of that very object whenever the pointer leads along the path
to it. `ofDocument_made` shows that every node of every draft is one of these, and that a pointer
without percent signs names the path up to the letter case of fields. `nullable_lost` is a schema
whose pointer leads elsewhere.
-/

namespace TypedClient

/-- A node without a schema behind it. -/
structure Traits.IsPlain (t : Traits) : Prop where
  kind_eq : t.kind = .generic
  nullable_eq : t.nullable = false

/-- What a node of a draft was made from. -/
inductive Made (root : ObjectKind) (doc : Value) (t : Traits) : Prop where
  /-- A reference to another model. -/
  | reference (h : t.isReference = true)
  /-- A schema that is written in place. -/
  | schema {path : List String} {es : Dict Value}
      (h : Located root doc (.object .schema) t.pointer path (.mapping es))
      (hhonours : t.Honours (Field.flag "nullable" es) ((Field.list "enum" es).map Value.doubled)
        (Model.extensionsAt doc t.pointer))
      (hown : Pointer.Leads doc t.pointer path → Model.extensionsAt doc t.pointer = es)
  /-- A parameter of version 2 without a schema, which describes its values itself. -/
  | parameter {path : List String} {v : Value}
      (h : Located root doc (.object .parameter2) t.pointer path v)
      (hschema : (Schema.ofField "schema" v.entries).isMissing = true)
      (hhonours : t.Honours false ((Field.list "enum" v.entries).map Value.doubled)
        (Model.extensionsAt doc t.pointer))
      (hown : Pointer.Leads doc t.pointer path → Model.extensionsAt doc t.pointer = v.entries)
  /-- The properties beside the members of a schema. -/
  | beside {v : Value} (h : Stands root doc (.object .schema) t.pointer v)
      (henum : Field.list "enum" v.entries = []) (hallOf : Field.list "allOf" v.entries ≠ [])
      (hkind : t.kind = .interface) (hnullable : t.nullable = false)
  /-- A schema could be there and is not. -/
  | missing (h : Placed root doc t.pointer .missing) (hplain : t.IsPlain)
  /-- The values of a parameter of version 2 that is an object without a schema. -/
  | anything {base : String} {v : Value} (h : Stands root doc (.object .parameter2) base v)
      (hpointer : t.pointer = base ++ "/additionalProperties") (hplain : t.IsPlain)
  /-- The form of an operation of version 2. -/
  | form {base : String} {v : Value} (h : Stands root doc (.object .operation2) base v)
      (hpointer : t.pointer = base ++ "/parameters/formData") (hkind : t.kind = .interface)
      (hnullable : t.nullable = false)
  /-- A parameter or a body of version 3 without a media type. -/
  | untyped {kind : ObjectKind} {v : Value} (hobject : kind = .parameter ∨ kind = .requestBody)
      (h : Stands root doc (.object kind) t.pointer v)
      (hcontent : MediaType.preferred (V3.Content.ofField v.entries).types = "")
      (hplain : t.IsPlain)

/-- Two nodes agree on where they stand and on what the extension keys decide. -/
structure Traits.Alike (t u : Traits) : Prop where
  pointer_eq : u.pointer = t.pointer
  kind_eq : u.kind = t.kind
  nullable_eq : u.nullable = t.nullable
  enum_eq : u.enum = t.enum

variable {root : ObjectKind} {doc : Value}

/-- What is known of where a node was made from is known of every node like it. -/
theorem Made.alike {t u : Traits} (h : Made root doc t) (hu : t.Alike u) : Made root doc u := by
  obtain ⟨hpointer, hkind, hnullable, henum⟩ := hu
  have hplain : t.IsPlain → u.IsPlain :=
    fun h => ⟨hkind.trans h.kind_eq, hnullable.trans h.nullable_eq⟩
  have hhonours : ∀ {nullable : Bool} {values : List Value} {es : Dict Value},
      t.Honours nullable values es → u.Honours nullable values es :=
    fun h => ⟨hnullable ▸ h.nullable_iff, hkind ▸ h.isEnum_iff, henum ▸ h.values_eq,
      henum ▸ h.listed⟩
  cases h with
  | reference h => exact .reference (by rw [Traits.isReference, hkind]; exact h)
  | schema h hh hown => exact .schema (hpointer ▸ h) (hpointer ▸ hhonours hh) (hpointer ▸ hown)
  | parameter h hschema hh hown =>
      exact .parameter (hpointer ▸ h) hschema (hpointer ▸ hhonours hh) (hpointer ▸ hown)
  | beside h hvalues hallOf hsort hnot =>
      exact .beside (hpointer ▸ h) hvalues hallOf (hkind.trans hsort) (hnullable.trans hnot)
  | missing h hp => exact .missing (hpointer ▸ h) (hplain hp)
  | anything h hstep hp => exact .anything h (hpointer.trans hstep) (hplain hp)
  | form h hstep hsort hnot =>
      exact .form h (hpointer.trans hstep) (hkind.trans hsort) (hnullable.trans hnot)
  | untyped hobject h hcontent hp => exact .untyped hobject (hpointer ▸ h) hcontent (hplain hp)

namespace Model

/-- Every node of a model was made from the document. -/
def IsMade (root : ObjectKind) (doc : Value) (m : Model) : Prop :=
  ∀ t ∈ m.nodes, Made root doc t

theorem isMade_absent : IsMade root doc .absent :=
  fun _ ht => absurd ht List.not_mem_nil

theorem isMade_leaf {t : Traits} (h : Made root doc t) : IsMade root doc (.leaf t) :=
  List.forall_mem_singleton.2 h

/-- A change at the top that keeps what the extension keys decide. -/
theorem IsMade.modify {m : Model} (h : m.IsMade root doc) {f : Traits → Traits}
    (hf : ∀ t : Traits, t.Alike (f t)) : (m.modify f).IsMade root doc := by
  cases m with
  | absent => exact isMade_absent
  | node t ps i ms =>
      obtain ⟨htop, hrest⟩ := List.forall_mem_cons.1 h
      exact List.forall_mem_cons.2 ⟨htop.alike (hf t), hrest⟩

/-- Every node of the model of a schema that is read in a document was made from it. -/
theorem isMade_ofSchema (hdoc : doc.isOrdered = true) {pointer : String} {s : Schema}
    (h : Placed root doc pointer s) : (ofSchema doc pointer s).IsMade root doc := by
  induction s using Schema.induction_on_parts generalizing pointer with
  | missing =>
      rw [ofSchema]
      exact isMade_leaf (.missing h ⟨rfl, rfl⟩)
  | reference target =>
      rw [ofSchema]
      exact isMade_leaf (.reference rfl)
  | inline facts p ih =>
      obtain ⟨es, hstands, rfl, rfl⟩ := h.exists_mapping
      intro t ht
      cases nodeOf_ofParts ht with
      | top hpointer hhonours =>
          subst hpointer
          obtain ⟨path, hlocated⟩ := hstands
          exact .schema hlocated hhonours (hlocated.extensionsAt_eq hdoc)
      | beside hpointer henum hallOf hkind hnullable =>
          subst hpointer
          refine .beside hstands (List.map_eq_nil_iff.1 henum) (fun hnone => hallOf ?_) hkind
            hnullable
          rw [Schema.allOf_readParts]
          exact List.map_eq_nil_iff.2 hnone
      | inside hs ht => exact ih _ _ _ hs (.of_holds hstands hs) t ht

end Model

theorem stands_path {kind : ObjectKind} {path : String} {v : Value}
    (hform : ("paths", Form.dict (.object kind)) ∈ root.fields)
    (hv : (path, v) ∈ Field.dict "paths" doc.entries) :
    Stands root doc (.object kind) (Pointer.join ["paths", path]) v := by
  have hentered : Stands root doc (.object kind) ("#" ++ "/paths/" ++ Pointer.escape path) v :=
    Stands.whole.entered hform (by decide) hv
  have hjoined : Stands root doc (.object kind) (Pointer.join (["paths"] ++ [path])) v :=
    hentered.joined (by decide)
  exact hjoined

/-- A path item with a reference stands where it leads. -/
theorem stands_settledItem {I : Type} {kind : ObjectKind} {read : Dict Value → I} {ref : I → String}
    {path place : String} {v : Value} {item : I}
    (h : Stands root doc (.object kind) (Pointer.join ["paths", path]) v)
    (href : ref (read v.entries) = Field.text "$ref" v.entries)
    (hsettled : settledItem doc kind read ref path (read v.entries) = .ok (item, place)) :
    ∃ w, Stands root doc (.object kind) place w ∧ item = read w.entries := by
  unfold settledItem at hsettled
  split at hsettled
  · cases hsettled
    exact ⟨v, h, rfl⟩
  · exact h.target (.inl rfl) (.inl href.symm) hsettled

/-- The call of a path under a method stands at the method. -/
theorem stands_call {O : Type} {item call : ObjectKind} {read : Dict Value → O}
    {methods : List Method} {pointer : String} {v : Value}
    (h : Stands root doc (.object item) pointer v)
    (hlabels : ∀ m ∈ methods, (m.label, Form.object call) ∈ item.fields ∧
      "/" ++ Pointer.escape m.label = "/" ++ m.label) {c : Method × O}
    (hc : c ∈ methods.filterMap (fun m =>
      (Field.optional read (Field.value m.label v.entries)).map (fun o => (m, o)))) :
    ∃ w, Stands root doc (.object call) (pointer ++ "/" ++ c.1.label) w ∧ c.2 = read w.entries := by
  obtain ⟨m, hm, hc⟩ := List.mem_filterMap.1 hc
  obtain ⟨o, ho, rfl⟩ := Option.map_eq_some_iff.1 hc
  obtain ⟨hform, hstep⟩ := hlabels m hm
  have hvalue : Field.value m.label v.entries ≠ .null := by
    intro hnull
    rw [hnull] at ho
    cases ho
  rw [String.append_assoc]
  exact ⟨_, h.field hform hstep (Field.value_mem_all hvalue), Field.eq_of_optional ho⟩

namespace V2

variable {consumes : List String} {place pointer : String} {v : Value}

/-- The model of the type of a parameter was made from the parameter. -/
theorem Parameter.isMade_typeSchema (hdoc : doc.isOrdered = true)
    (h : Stands root doc (.object .parameter2) place v)
    (hmissing : (ofEntries v.entries).schema.isMissing = true) :
    (Model.ofSchema doc place (ofEntries v.entries).typeSchema).IsMade root doc := by
  intro t ht
  cases Model.nodeOf_ofParts ht with
  | top hpointer hhonours =>
      subst hpointer
      obtain ⟨path, hlocated⟩ := h
      exact .parameter hlocated hmissing hhonours (hlocated.extensionsAt_eq hdoc)
  | beside _ _ hallOf => exact absurd rfl hallOf
  | inside hs ht =>
      -- of the schemas inside, only that of the items is read
      cases hs with
      | allOf hs => cases hs
      | oneOf hs => cases hs
      | anyOf hs => cases hs
      | items => exact Model.isMade_ofSchema hdoc (.ofField h (by decide) (by decide)) t ht
      | property hs => cases hs
      | additional =>
          rw [Model.ofSchema] at ht
          obtain rfl := List.mem_singleton.1 ht
          exact .anything h rfl ⟨rfl, rfl⟩

/-- The model of a parameter outside of the body was made from its schema or from itself. -/
theorem Parameter.isMade_valueModel (hdoc : doc.isOrdered = true)
    (h : Stands root doc (.object .parameter2) place v) {m : Model}
    (hm : (ofEntries v.entries).valueModel doc place = .ok m) : m.IsMade root doc := by
  obtain rfl := Except.ok.inj ((valueModel_eq _).symm.trans hm)
  split
  case isTrue hmissing =>
    exact (isMade_typeSchema hdoc h hmissing).modify (fun _ => ⟨rfl, rfl, rfl, rfl⟩)
  case isFalse => exact Model.isMade_ofSchema hdoc (.ofField h (by decide) (by decide))

/-- A parameter with a reference stands where it leads. -/
theorem Parameter.stands_settle {p : Parameter}
    (h : Stands root doc (.object .parameter2) pointer v)
    (hsettle : (ofEntries v.entries).settle doc pointer = .ok (p, place)) :
    ∃ w, Stands root doc (.object .parameter2) place w ∧ p = ofEntries w.entries := by
  unfold settle at hsettle
  split at hsettle
  · cases hsettle
    exact ⟨v, h, rfl⟩
  · exact h.target (.inl rfl) (.inl rfl) hsettle

/-- The models of listed parameters were made from the document. -/
theorem Parameter.isMade_roles (hdoc : doc.isOrdered = true) {vs : List Value} {i : Nat}
    {rs : List Role}
    (hvs : StandFrom root doc (.object .parameter2) pointer i vs)
    (h : roles doc consumes pointer i (vs.map (Field.optional ofEntries)) = .ok rs) :
    ∀ r ∈ rs, ∀ q, r = .plain q ∨ r = .form q → q.model.IsMade root doc := by
  induction vs generalizing i rs with
  | nil =>
      cases h
      exact fun _ hr => absurd hr List.not_mem_nil
  | cons first rest ih =>
      rw [List.map_cons] at h
      cases hfirst : Field.optional ofEntries first with
      | none =>
          rw [hfirst] at h
          exact ih hvs.tail h
      | some p =>
          rw [hfirst] at h
          obtain rfl := Field.eq_of_optional hfirst
          obtain ⟨⟨q, place⟩, hsettle, h⟩ := bind_eq_ok_iff.1 h
          obtain ⟨r, hr, h⟩ := bind_eq_ok_iff.1 h
          obtain ⟨rs', hroles, h⟩ := bind_eq_ok_iff.1 h
          cases h
          obtain ⟨w, hw, rfl⟩ := stands_settle (hvs.head) hsettle
          refine List.forall_mem_cons.2 ⟨fun q hq => ?_, ih hvs.tail hroles⟩
          rcases hq with rfl | rfl
          · obtain ⟨-, -, hmodel⟩ | ⟨-, -, hmodel⟩ := role_eq_plain hr
            · exact hmodel ▸ Model.isMade_ofSchema hdoc (.ofField hw (by decide) (by decide))
            · exact isMade_valueModel hdoc hw hmodel
          · exact isMade_valueModel hdoc hw (role_eq_form hr).2

theorem Parameter.isMade_rolesAt {kind : ObjectKind} (hdoc : doc.isOrdered = true)
    (h : Stands root doc (.object kind) pointer v)
    (hform : ("parameters", Form.list (.object .parameter2)) ∈ kind.fields) {rs : List Role}
    (hroles : roles doc consumes (pointer ++ "/parameters") 0 (parametersOf v.entries) = .ok rs) :
    (∀ p ∈ plainOf rs, p.model.IsMade root doc) ∧ ∀ p ∈ formOf rs, p.model.IsMade root doc := by
  have hall := isMade_roles hdoc (.of_listed h hform (by decide)) hroles
  constructor
  · intro p hp
    obtain ⟨r, hr, hplain⟩ := List.mem_filterMap.1 hp
    split at hplain
    · exact Option.some.inj hplain ▸ hall _ hr _ (.inl rfl)
    · cases hplain
  · intro p hp
    obtain ⟨r, hr, hpart⟩ := List.mem_filterMap.1 hp
    split at hpart
    · exact Option.some.inj hpart ▸ hall _ hr _ (.inr rfl)
    · cases hpart

/-- The model of a property of a form was made as that of the part. -/
theorem isMade_formProperty {p : TypedClient.Parameter} {property : Property Model}
    (h : formProperty pointer p = .ok property) (hp : p.model.IsMade root doc) :
    property.model.IsMade root doc := by
  obtain ⟨m, hm, h⟩ := bind_eq_ok_iff.1 h
  obtain ⟨-, rfl⟩ := Model.present_eq_ok_iff.1 hm
  obtain rfl := Except.ok.inj h
  exact hp.modify (f := fun t => { t with description := p.description })
    (fun _ => ⟨rfl, rfl, rfl, rfl⟩)

/-- The model of a form was made from the parts of the form. -/
theorem isMade_formBody {parts : List TypedClient.Parameter}
    (h : Stands root doc (.object .operation2) pointer v)
    (hparts : ∀ p ∈ parts, p.model.IsMade root doc) {body : TypedClient.Parameter}
    (hbody : formBody consumes pointer parts = .ok body) : body.model.IsMade root doc := by
  obtain ⟨properties, hproperties, hbody⟩ := bind_eq_ok_iff.1 hbody
  obtain rfl := Except.ok.inj hbody
  intro t ht
  rw [Model.nodes_node] at ht
  rcases List.mem_cons.1 ht with rfl | ht
  · exact .form h rfl rfl rfl
  · have hproperty : t ∈ (properties.mergeSort (fun a b => Text.le a.name b.name)).flatMap
        (fun p => p.model.nodes) := by simpa [Model.nodes] using ht
    obtain ⟨q, hq, ht⟩ := List.mem_flatMap.1 hproperty
    obtain ⟨p, hp, hdrafted⟩ := exists_left_of_forall₂ (mapM_eq_ok_iff.1 hproperties)
      (List.mem_mergeSort.1 hq)
    exact isMade_formProperty hdrafted (hparts p hp) t ht

/-- The models of the parameters of an operation were made from the document. -/
theorem isMade_parametersFrom (hdoc : doc.isOrdered = true) {item : Value} {itemPointer : String}
    (hitem : Stands root doc (.object .pathItem2) itemPointer item)
    (h : Stands root doc (.object .operation2) pointer v) {ps : List TypedClient.Parameter}
    (hps : parametersFrom doc consumes itemPointer pointer (parametersOf item.entries)
      (parametersOf v.entries) = .ok ps) : ∀ p ∈ ps, p.model.IsMade root doc := by
  obtain ⟨shared, hshared, hps⟩ := bind_eq_ok_iff.1 hps
  obtain ⟨own, hown, hps⟩ := bind_eq_ok_iff.1 hps
  obtain ⟨hplainShared, hformShared⟩ := Parameter.isMade_rolesAt hdoc hitem (by decide) hshared
  obtain ⟨hplainOwn, hformOwn⟩ := Parameter.isMade_rolesAt hdoc h (by decide) hown
  have hplain := TypedClient.Parameter.forall_model_merge hplainShared hplainOwn
  have hform := TypedClient.Parameter.forall_model_merge hformShared hformOwn
  split at hps
  · cases hps
    exact hplain
  · obtain ⟨body, hbody, hps⟩ := bind_eq_ok_iff.1 hps
    cases hps
    refine TypedClient.Parameter.forall_model_merge hplain (List.forall_mem_singleton.2 ?_)
    exact isMade_formBody h hform hbody

/-- The model of a response was made from its schema. -/
theorem Response.isMade_declared (hdoc : doc.isOrdered = true)
    (h : Stands root doc (.object .response2) pointer v) {status : String}
    {response : TypedClient.Response}
    (hresponse : declared doc pointer status (Field.optional ofEntries v) = .ok response) :
    response.model.IsMade root doc := by
  have hread : ∀ {w : Value} {place : String}, Stands root doc (.object .response2) place w →
      (if (ofEntries w.entries).schema.isMissing then
        Except.ok { status, description := Text.trim (ofEntries w.entries).description }
      else Except.ok
        { status, description := Text.trim (ofEntries w.entries).description
          mediaType := MediaType.json
          model := Model.ofSchema doc (place ++ "/schema") (ofEntries w.entries).schema }) =
        (.ok response : Except DraftFailure TypedClient.Response) →
      response.model.IsMade root doc := by
    intro w place hw hresponse
    split at hresponse
    · cases hresponse
      exact Model.isMade_absent
    · cases hresponse
      exact Model.isMade_ofSchema hdoc (.ofField hw (by decide) (by decide))
  cases hv : Field.optional ofEntries v with
  | none =>
      rw [hv] at hresponse
      cases hresponse
      exact Model.isMade_absent
  | some r =>
      rw [hv] at hresponse
      obtain rfl := Field.eq_of_optional hv
      unfold declared at hresponse
      dsimp only at hresponse
      split at hresponse
      · exact hread h hresponse
      · obtain ⟨⟨q, place⟩, hsettle, hresponse⟩ := bind_eq_ok_iff.1 hresponse
        obtain ⟨w, hw, rfl⟩ := h.target (.inl rfl) (.inl rfl) hsettle
        exact hread hw hresponse

theorem isMade_responsesFrom (hdoc : doc.isOrdered = true) {produces : List String}
    (h : Stands root doc (.object .operation2) pointer v) {rs : List TypedClient.Response}
    (hrs : responsesFrom doc produces pointer (Operation.ofEntries v.entries).responses = .ok rs) :
    ∀ r ∈ rs, r.model.IsMade root doc := by
  obtain ⟨declared, hdeclared, hrs⟩ := bind_eq_ok_iff.1 hrs
  have hall : ∀ r ∈ declared, r.model.IsMade root doc := by
    intro r hr
    obtain ⟨⟨status, e⟩, -, hmem, he⟩ := exists_left_of_forall₂ (forall₂_of_mapM hdeclared) hr
    obtain ⟨w, hw, rfl⟩ := Dict.exists_of_mem_mapValues (List.mem_of_mem_filter hmem)
    have hform : ("responses", Form.dict (.object .response2)) ∈ ObjectKind.operation2.fields := by
      decide
    exact Response.isMade_declared hdoc (h.entered hform (by decide) hw) he
  split at hrs
  · cases hrs
    exact hall
  · cases hrs
    refine List.forall_mem_map.2 (fun r hr => ?_)
    split
    · exact hall r hr
    · exact hall r hr

/-- The methods of a path are fields. -/
theorem PathItem.forall_label : ∀ m ∈ methods,
    (m.label, Form.object .operation2) ∈ ObjectKind.pathItem2.fields ∧
      "/" ++ Pointer.escape m.label = "/" ++ m.label := by decide

/-- The models of an operation were made from the document. -/
theorem Operation.isMade_drafted (hdoc : doc.isOrdered = true) {item : Value}
    {path itemPointer : String} {t : Document} {method : Method}
    (hitem : Stands root doc (.object .pathItem2) itemPointer item)
    (h : Stands root doc (.object .operation2) (itemPointer ++ "/" ++ method.label) v)
    {op : TypedClient.Operation}
    (hop : (ofEntries v.entries).drafted doc t path (PathItem.ofEntries item.entries) itemPointer
      method = .ok op) : ∀ m ∈ op.models, m.IsMade root doc := by
  obtain ⟨parameters, hparameters, hop⟩ := bind_eq_ok_iff.1 hop
  obtain ⟨responses, hresponses, hop⟩ := bind_eq_ok_iff.1 hop
  obtain rfl := Except.ok.inj hop
  exact TypedClient.Operation.forall_models (isMade_parametersFrom hdoc hitem h hparameters)
    (TypedClient.Response.forall_model_results (isMade_responsesFrom hdoc h hresponses))

/-- The models of all operations of a description were made from the document. -/
theorem Document.isMade_operations (hdoc : doc.isOrdered = true) {filter : TagFilter}
    {ops : List TypedClient.Operation}
    (h : (ofEntries doc.entries).operations doc filter = .ok ops) :
    ∀ op ∈ ops, ∀ m ∈ op.models, m.IsMade .document2 doc := by
  rw [Document.operations_eq] at h
  refine forall_mem_draftedPaths (fun path item ops hmem hitem op hop => ?_) h
  obtain ⟨v, hv, hread⟩ := Dict.exists_of_mem_mapValues hmem
  obtain rfl := Field.eq_of_optional hread
  obtain ⟨⟨settled, pointer⟩, hsettled, hcalls⟩ := bind_eq_ok_iff.1 (PathItem.drafted_eq .. ▸ hitem)
  have hplace : Stands .document2 doc (.object .pathItem2) (Pointer.join ["paths", path]) v :=
    stands_path (by decide) hv
  obtain ⟨w, hw, rfl⟩ := stands_settledItem hplace rfl hsettled
  obtain ⟨c, -, hc, hdrafted⟩ := exists_left_of_forall₂ (forall₂_of_mapM hcalls) hop
  obtain ⟨o, ho, hread⟩ := stands_call hw PathItem.forall_label (List.mem_filter.1 hc).1
  exact Operation.isMade_drafted hdoc hw ho (hread ▸ hdrafted)

end V2

namespace V3

variable {place pointer : String} {v : Value}

/-- Something that may be a reference stands where it is described. -/
theorem OrReference.stands_settle {α : Type} {kind : ObjectKind} {read : Dict Value → α} {it : α}
    (h : Stands root doc (.orReference kind) pointer v)
    (hsettle : (ofEntries read v.entries).settle doc kind read pointer = .ok (it, place)) :
    ∃ w, Stands root doc (.object kind) place w ∧ it = read w.entries := by
  unfold ofEntries at hsettle
  cases htarget : Field.target? v.entries with
  | none =>
      rw [htarget] at hsettle
      cases hsettle
      exact ⟨v, h.inline htarget, rfl⟩
  | some ref =>
      rw [htarget] at hsettle
      exact h.target (.inr rfl) (.inr htarget) hsettle

/-- A field that may be a reference has been read from one of its values. -/
theorem OrReference.exists_of_ofField {α : Type} {read : Dict Value → α} {name : String}
    {es : Dict Value} {r : OrReference α} (h : ofField read name es = some r) :
    ∃ w ∈ Field.all name es, r = ofEntries read w.entries := by
  unfold ofField at h
  have hfold : some r = none ∨ ∃ w ∈ Field.all name es, some r = OrReference.read read w := by
    refine Field.eq_or_read_of_foldl h (fun first v => ?_)
    -- a reference stays when an object follows
    split
    · exact .inl rfl
    · exact .inr rfl
  rcases hfold with hnone | ⟨w, hw, hread⟩
  · cases hnone
  · exact ⟨w, hw, Field.eq_of_optional hread.symm⟩

/-- The schema under a media type is read where the content has it. -/
theorem Content.placed {kind : ObjectKind} (h : Stands root doc (.object kind) pointer v)
    (hform : ("content", Form.dict (.object .mediaType)) ∈ kind.fields) {mediaType : String}
    {s : Schema} (hs : Dict.get? (ofField v.entries) mediaType = some (some s)) :
    Placed root doc (schemaPointer pointer mediaType) s := by
  obtain ⟨before, after, hsplit, -⟩ := List.lookup_eq_some_iff.1 hs
  have hmem : (mediaType, some s) ∈ ofField v.entries := by simp [hsplit]
  obtain ⟨w, hw, hread⟩ := Dict.exists_of_mem_mapValues hmem
  obtain rfl := Field.eq_of_optional hread
  exact .ofField (h.entered hform (by decide) hw) (by decide) (by decide)

theorem Content.schemaAt_eq_ok_iff {c : Content} {mediaType : String} {s : Schema} :
    c.schemaAt pointer mediaType = .ok s ↔ Dict.get? c mediaType = some (some s) := by
  unfold schemaAt
  constructor
  · intro h
    split at h
    case h_1 _ hs =>
      cases h
      obtain ⟨_, ho, rfl⟩ := Option.bind_eq_some_iff.1 hs
      exact ho
    case h_2 => cases h
  · intro h
    rw [h]
    rfl

/-- The model under a media type was made from the schema. -/
theorem Content.isMade_model {kind : ObjectKind} (hdoc : doc.isOrdered = true)
    (h : Stands root doc (.object kind) pointer v)
    (hform : ("content", Form.dict (.object .mediaType)) ∈ kind.fields) {mediaType : String}
    {m : Model} (hm : (ofField v.entries).model doc pointer mediaType = .ok m) :
    m.IsMade root doc := by
  obtain ⟨s, hs, hm⟩ := bind_eq_ok_iff.1 hm
  obtain rfl := Except.ok.inj hm
  exact Model.isMade_ofSchema hdoc (placed h hform (schemaAt_eq_ok_iff.1 hs))

theorem Content.sorted_ofField (es : Dict Value) : Dict.Sorted (ofField es) :=
  (Field.dict_sorted "content" es).mapValues _

/-- A media type that is not null has a schema. -/
theorem Content.exists_of_mem_types {c : Content} (hsorted : Dict.Sorted c) {mediaType : String}
    (h : mediaType ∈ c.types) : ∃ s, Dict.get? c mediaType = some (some s) := by
  obtain ⟨⟨_, s⟩, he, rfl⟩ := List.mem_map.1 h
  obtain ⟨hmem, hsome⟩ := List.mem_filter.1 he
  obtain ⟨s, rfl⟩ := Option.isSome_iff_exists.1 hsome
  exact ⟨s, hsorted.get?_eq_some hmem⟩

/-- A preferred media type is not null. -/
theorem Content.exists_of_preferred {es : Dict Value}
    (h : MediaType.preferred (ofField es).types ≠ "") :
    ∃ s, Dict.get? (ofField es) (MediaType.preferred (ofField es).types) = some (some s) :=
  exists_of_mem_types (sorted_ofField es) (MediaType.preferred_mem h)

/-- The model of a parameter was made from its schema, its content or nothing. -/
theorem Parameter.isMade_model (hdoc : doc.isOrdered = true)
    (h : Stands root doc (.object .parameter) place v) {m : Model}
    (hm : (ofEntries v.entries).model doc place = .ok m) : m.IsMade root doc := by
  unfold model at hm
  split at hm
  · cases hm
    exact Model.isMade_ofSchema hdoc (.ofField h (by decide) (by decide))
  · split at hm
    case isTrue hempty =>
      cases hm
      have hnone : Content.ofField v.entries = [] := List.isEmpty_iff.1 hempty
      exact Model.isMade_leaf (.untyped (.inl rfl) h (by rw [hnone]; decide +kernel) ⟨rfl, rfl⟩)
    · exact Content.isMade_model hdoc h (by decide) hm

/-- The model of a drafted parameter was made from the document. -/
theorem Parameter.isMade_drafted (hdoc : doc.isOrdered = true)
    (h : Stands root doc (.object .parameter) place v) {q : TypedClient.Parameter}
    (hq : (ofEntries v.entries).drafted doc place = .ok (some q)) : q.model.IsMade root doc := by
  unfold drafted at hq
  split at hq
  · cases hq
  · cases hq
  · obtain ⟨m, hm, hq⟩ := bind_eq_ok_iff.1 hq
    obtain ⟨_, hstart, hq⟩ := bind_eq_ok_iff.1 hq
    obtain ⟨-, rfl⟩ := TypedClient.Parameter.withModel_eq_ok_iff.1 hstart
    obtain rfl := Option.some.inj (Except.ok.inj hq)
    exact (isMade_model hdoc h hm).modify (fun _ => ⟨rfl, rfl, rfl, rfl⟩)

/-- The models of listed parameters were made from the document. -/
theorem Parameter.isMade_draftedAll (hdoc : doc.isOrdered = true) {vs : List Value} {i : Nat}
    {qs : List TypedClient.Parameter}
    (hvs : StandFrom root doc (.orReference .parameter) pointer i vs)
    (h : draftedAll doc pointer i (vs.map (OrReference.read ofEntries)) = .ok qs) :
    ∀ q ∈ qs, q.model.IsMade root doc := by
  induction vs generalizing i qs with
  | nil =>
      cases h
      exact fun _ hq => absurd hq List.not_mem_nil
  | cons first rest ih =>
      rw [List.map_cons] at h
      cases hfirst : OrReference.read ofEntries first with
      | none =>
          rw [hfirst] at h
          exact ih hvs.tail h
      | some r =>
          rw [hfirst] at h
          obtain rfl := Field.eq_of_optional hfirst
          obtain ⟨⟨p, place⟩, hsettle, h⟩ := bind_eq_ok_iff.1 h
          obtain ⟨drafted, hdrafted, h⟩ := bind_eq_ok_iff.1 h
          obtain ⟨qs', hqs, h⟩ := bind_eq_ok_iff.1 h
          cases h
          obtain ⟨w, hw, rfl⟩ := OrReference.stands_settle (hvs.head) hsettle
          intro q hq
          rcases List.mem_append.1 hq with hq | hq
          · exact isMade_drafted hdoc hw (Option.mem_toList.1 hq ▸ hdrafted)
          · exact ih hvs.tail hqs q hq

theorem Parameter.isMade_draftedAt {kind : ObjectKind} (hdoc : doc.isOrdered = true)
    (h : Stands root doc (.object kind) pointer v)
    (hform : ("parameters", Form.list (.orReference .parameter)) ∈ kind.fields)
    {qs : List TypedClient.Parameter}
    (hqs : draftedAll doc (pointer ++ "/parameters") 0 (parametersOf v.entries) = .ok qs) :
    ∀ q ∈ qs, q.model.IsMade root doc :=
  isMade_draftedAll hdoc (.of_listed h hform (by decide)) hqs

/-- The model of a body was made from its content or nothing. -/
theorem RequestBody.isMade_drafted (hdoc : doc.isOrdered = true)
    (h : Stands root doc (.object .requestBody) place v) {body : TypedClient.Parameter}
    (hbody : (ofEntries v.entries).drafted doc place = .ok body) : body.model.IsMade root doc := by
  obtain ⟨m, hm, hbody⟩ := bind_eq_ok_iff.1 hbody
  obtain rfl := Except.ok.inj hbody
  unfold model at hm
  dsimp only at hm
  split at hm
  case isTrue hnone =>
    cases hm
    exact Model.isMade_leaf (.untyped (.inr rfl) h hnone ⟨rfl, rfl⟩)
  case isFalse => exact Content.isMade_model hdoc h (by decide) hm

/-- The model of a response was made from its content. -/
theorem Response.isMade_declared (hdoc : doc.isOrdered = true)
    (h : Stands root doc (.orReference .response) pointer v) {status : String}
    {response : TypedClient.Response}
    (hresponse : declared doc pointer status (OrReference.read ofEntries v) = .ok response) :
    response.model.IsMade root doc := by
  cases hv : OrReference.read ofEntries v with
  | none =>
      rw [hv] at hresponse
      cases hresponse
      exact Model.isMade_absent
  | some r =>
      rw [hv] at hresponse
      obtain rfl := Field.eq_of_optional hv
      obtain ⟨⟨q, place⟩, hsettle, hresponse⟩ := bind_eq_ok_iff.1 hresponse
      obtain ⟨w, hw, rfl⟩ := OrReference.stands_settle h hsettle
      obtain ⟨m, hm, hresponse⟩ := bind_eq_ok_iff.1 hresponse
      obtain rfl := Except.ok.inj hresponse
      unfold model at hm
      dsimp only at hm
      split at hm
      · cases hm
        exact Model.isMade_absent
      · obtain ⟨s, hs, hm⟩ := bind_eq_ok_iff.1 hm
        obtain rfl := Except.ok.inj hm
        have hplaced := Content.placed hw (by decide) (Content.schemaAt_eq_ok_iff.1 hs)
        split
        · exact Model.isMade_absent
        · exact Model.isMade_ofSchema hdoc hplaced

/-- The models of the parameters of an operation were made from the document. -/
theorem Operation.isMade_draftedParameters (hdoc : doc.isOrdered = true)
    (h : Stands root doc (.object .operation) pointer v) {shared ps : List TypedClient.Parameter}
    (hshared : ∀ p ∈ shared, p.model.IsMade root doc)
    (hps : (ofEntries v.entries).draftedParameters doc pointer shared = .ok ps) :
    ∀ p ∈ ps, p.model.IsMade root doc := by
  obtain ⟨own, hown, hps⟩ := bind_eq_ok_iff.1 hps
  have hmerged := TypedClient.Parameter.forall_model_merge hshared
    (Parameter.isMade_draftedAt hdoc h (by decide) hown)
  split at hps
  · cases hps
    exact hmerged
  case h_2 b hb =>
    obtain ⟨⟨q, place⟩, hsettle, hps⟩ := bind_eq_ok_iff.1 hps
    obtain ⟨body, hbody, hps⟩ := bind_eq_ok_iff.1 hps
    cases hps
    obtain ⟨w, hw, rfl⟩ := OrReference.exists_of_ofField hb
    obtain ⟨w, hw, rfl⟩ := OrReference.stands_settle (h.field (by decide) (by decide) hw) hsettle
    refine TypedClient.Parameter.forall_model_merge hmerged (List.forall_mem_singleton.2 ?_)
    exact RequestBody.isMade_drafted hdoc hw hbody

/-- The models of an operation were made from the document. -/
theorem Operation.isMade_drafted (hdoc : doc.isOrdered = true)
    (h : Stands root doc (.object .operation) pointer v) {path : String} {method : Method}
    {shared : List TypedClient.Parameter} (hshared : ∀ p ∈ shared, p.model.IsMade root doc)
    {op : TypedClient.Operation}
    (hop : (ofEntries v.entries).drafted doc path pointer shared method = .ok op) :
    ∀ m ∈ op.models, m.IsMade root doc := by
  obtain ⟨parameters, hparameters, hop⟩ := bind_eq_ok_iff.1 hop
  obtain ⟨responses, hresponses, hop⟩ := bind_eq_ok_iff.1 hop
  obtain rfl := Except.ok.inj hop
  refine TypedClient.Operation.forall_models
    (isMade_draftedParameters hdoc h hshared hparameters)
    (TypedClient.Response.forall_model_results (fun r hr => ?_))
  obtain ⟨⟨status, e⟩, -, hmem, he⟩ := exists_left_of_forall₂ (forall₂_of_mapM hresponses) hr
  obtain ⟨w, hw, rfl⟩ := Dict.exists_of_mem_mapValues (List.mem_of_mem_filter hmem)
  have hform : ("responses", Form.dict (.orReference .response)) ∈ ObjectKind.operation.fields := by
    decide
  exact Response.isMade_declared hdoc (h.entered hform (by decide) hw) he

/-- The methods of a path are fields. -/
theorem PathItem.forall_label : ∀ m ∈ Method.known,
    (m.label, Form.object .operation) ∈ ObjectKind.pathItem.fields ∧
      "/" ++ Pointer.escape m.label = "/" ++ m.label := by decide

/-- The models of all operations of a description were made from the document. -/
theorem Document.isMade_operations (hdoc : doc.isOrdered = true) {filter : TagFilter}
    {ops : List TypedClient.Operation}
    (h : (ofEntries doc.entries).operations doc filter = .ok ops) :
    ∀ op ∈ ops, ∀ m ∈ op.models, m.IsMade .document doc := by
  rw [Document.operations_eq] at h
  refine forall_mem_draftedPaths (fun path item ops hmem hitem op hop => ?_) h
  obtain ⟨v, hv, hread⟩ := Dict.exists_of_mem_mapValues hmem
  obtain rfl := Field.eq_of_optional hread
  obtain ⟨⟨settled, pointer⟩, hsettled, hitem⟩ := bind_eq_ok_iff.1 (PathItem.drafted_eq .. ▸ hitem)
  obtain ⟨shared, hshared, hcalls⟩ := bind_eq_ok_iff.1 hitem
  have hplace : Stands .document doc (.object .pathItem) (Pointer.join ["paths", path]) v :=
    stands_path (by decide) hv
  obtain ⟨w, hw, rfl⟩ := stands_settledItem hplace rfl hsettled
  obtain ⟨c, -, hc, hdrafted⟩ := exists_left_of_forall₂ (forall₂_of_mapM hcalls) hop
  obtain ⟨o, ho, hread⟩ := stands_call hw PathItem.forall_label (List.mem_filter.1 hc).1
  exact Operation.isMade_drafted hdoc ho (Parameter.isMade_draftedAt hdoc hw (by decide) hshared)
    (hread ▸ hdrafted)

end V3

namespace Version

/-- The models of all operations were made from the document. -/
theorem isMade_operations {version : Version} (hdoc : doc.isOrdered = true) {filter : TagFilter}
    {ops : List Operation} (h : version.operations filter doc = .ok ops) :
    ∀ op ∈ ops, ∀ m ∈ op.models, m.IsMade version.documentKind doc := by
  cases version with
  | v2 => exact V2.Document.isMade_operations hdoc h
  | v3 => exact V3.Document.isMade_operations hdoc h

/-- A named schema is read where its pointer says. -/
theorem placed_schemas {version : Version} {name : String} {s : Schema}
    (h : (name, s) ∈ version.schemas doc) :
    Placed version.documentKind doc (version.schemaPointer name) s := by
  cases version with
  | v2 =>
      obtain ⟨v, hv, rfl⟩ := Dict.exists_of_mem_mapValues h
      have hform : ("definitions", Form.dict (.orReference .schema)) ∈
          ObjectKind.document2.fields := by decide
      have hentered : Stands .document2 doc (.orReference .schema)
          ("#" ++ "/definitions/" ++ Pointer.escape name) v :=
        Stands.whole.entered hform (by decide) hv
      exact .read (hentered.joined (by decide))
  | v3 =>
      obtain ⟨v, hv, rfl⟩ := Dict.exists_of_mem_mapValues h
      have hcomponents : Field.value "components" doc.entries ≠ .null := by
        intro hnull
        rw [hnull] at hv
        cases hv
      have hobject : ("components", Form.object .components) ∈ ObjectKind.document.fields := by
        decide
      have hform : ("schemas", Form.dict (.orReference .schema)) ∈
          ObjectKind.components.fields := by decide
      have hfield : Stands .document doc (.object .components) ("#" ++ "/components")
          (Field.value "components" doc.entries) :=
        Stands.whole.field hobject (by decide) (Field.value_mem_all hcomponents)
      have hentered : Stands .document doc (.orReference .schema)
          ("#" ++ "/components" ++ "/schemas/" ++ Pointer.escape name) v :=
        hfield.entered hform (by decide) hv
      exact .read (hentered.joined (by decide))

end Version

namespace Model

/-- The nodes of a core are nodes of the model. -/
theorem IsMade.core {m : Model} (h : m.IsMade root doc) : m.core.IsMade root doc := by
  induction m using induction_on_parts with
  | absent => exact h
  | node t ps i ms _ ih _ =>
      rw [Model.core]
      split
      · refine ih (fun u hu => h u ?_)
        simp [nodes_node, hu]
      · exact h

/-- What is left of a model after lifting was made from the document. -/
theorem LiftsTo.isMade {anonymous : List Model} {m m' : Model} (hlifts : LiftsTo anonymous m m')
    (h : m.IsMade root doc) : m'.IsMade root doc := by
  induction hlifts with
  | absent => exact h
  | declared => exact isMade_leaf (.reference rfl)
  | leaf => exact h
  | layer hkind _ ih =>
      simp only [IsMade, nodes_node, List.flatMap_nil, List.nil_append, List.append_nil,
        List.forall_mem_cons] at h ih ⊢
      exact ⟨h.1, ih h.2⟩

end Model

namespace Draft

variable {version : Version} {filter : TagFilter} {ops : List Operation} {d : Draft}

/-- Every node of a draft that is put together from an ordered document was made from it. -/
theorem Assembled.made (h : Assembled version filter doc ops d) (hdoc : doc.isOrdered = true) :
    ∀ t ∈ d.nodes, Made version.documentKind doc t := by
  have hops := Version.isMade_operations hdoc h.operations_eq
  have hmodels : ∀ m ∈ d.models, m.IsMade version.documentKind doc := by
    intro m hm
    by_cases hanonymous : m.anonymous = true
    · rcases h.gathers.source m (List.mem_filter.2 ⟨hm, hanonymous⟩) with hnone | ⟨n, hn, -, _, rfl⟩
      · cases hnone
      · obtain ⟨op, hop, hn⟩ := List.mem_flatMap.1 hn
        exact (hops op hop n hn).core.modify (fun _ => ⟨rfl, rfl, rfl, rfl⟩)
    · have hnamed : m ∈ d.models.filter (fun m => !m.anonymous) :=
        List.mem_filter.2 ⟨hm, by simpa using hanonymous⟩
      rw [h.filter_named, models_namedOf] at hnamed
      obtain ⟨⟨name, s⟩, he, rfl⟩ := List.mem_map.1 hnamed
      have hplaced := Version.placed_schemas (List.mem_filter.1 he).1
      exact (Model.isMade_ofSchema hdoc hplaced).modify (fun _ => ⟨rfl, rfl, rfl, rfl⟩)
  intro t ht
  rcases List.mem_append.1 ht with ht | ht
  · obtain ⟨m, hm, ht⟩ := List.mem_flatMap.1 ht
    exact hmodels m hm t ht
  · obtain ⟨s, hs, ht⟩ := List.mem_flatMap.1 ht
    obtain ⟨op, hop, ht⟩ := List.mem_flatMap.1 ht
    obtain ⟨op, hbefore, rfl⟩ := h.mem_operations_iff.1 (List.mem_flatMap.2 ⟨s, hs, hop⟩)
    rw [Operation.nodes, Operation.models_mapModels, List.flatMap_map] at ht
    obtain ⟨m, hm, ht⟩ := List.mem_flatMap.1 ht
    exact (h.liftsTo op hbefore m hm).isMade (hops op hbefore m hm) t ht

/-- Every node of the draft of an ordered document was made from the prepared document, and honours
the extension keys of its own object when its pointer leads there. The path to an object reaches it,
and a pointer without percent signs names the path, up to the letter case of fields. -/
theorem ofDocument_made (h : ofDocument filter doc = .ok d) (hordered : doc.isOrdered = true) :
    ∃ version, Version.detect doc = .ok version ∧
      (∀ t ∈ d.nodes, Made version.documentKind (version.prepared doc) t) ∧
      ∀ form pointer path v,
        Located version.documentKind (version.prepared doc) form pointer path v →
        Pointer.Reaches (version.prepared doc) path v ∧
          ('%' ∉ pointer.toList → ∃ keys, Pointer.tokens? pointer = some keys ∧
            List.Forall₂ (fun word key => Field.isFor word key = true) keys path) := by
  obtain ⟨version, ops, hversion, hassembled⟩ := exists_assembled h
  have hprepared : (version.prepared doc).isOrdered = true := Version.isOrdered_prepared hordered
  refine ⟨version, hversion, hassembled.made hprepared, fun form pointer path v hlocated => ?_⟩
  exact ⟨(hlocated.reaches hprepared).2, hlocated.forall₂_tokens?⟩

/-- A schema for texts that says by an extension key that null is a value too. -/
def nullableText : Value :=
  .mapping [("type", .text "string"), ("x-nullable", .bool true)]

/-- A named schema with a nullable property, and one with named values. -/
def extended : Value :=
  defining
    [("pet", .mapping [("properties", .mapping [("a/b", nullableText)])]),
     ("size", .mapping
       [("enum", .list [.text "s", .text "l"]),
        ("x-enum-varnames", .list [.text "Small", .text "Large"])])]

/-- The nodes of `extended` honour its extension keys, as `ofDocument_made` says. -/
theorem ofDocument_made_extended :
    ∃ d, ofDocument {} extended = .ok d ∧
      d.nodes.map (fun t => (t.pointer, t.nullable, t.enum.map EnumMember.name)) =
        [("#/definitions/pet", false, []), ("#/definitions/pet/properties/a~1b", true, []),
         ("#/definitions/size", false, ["Small", "Large"])] ∧
      ∃ version, Version.detect extended = .ok version ∧
        (∀ t ∈ d.nodes, Made version.documentKind (version.prepared extended) t) ∧
        ∀ form pointer path v,
          Located version.documentKind (version.prepared extended) form pointer path v →
          Pointer.Reaches (version.prepared extended) path v ∧
            ('%' ∉ pointer.toList → ∃ keys, Pointer.tokens? pointer = some keys ∧
              List.Forall₂ (fun word key => Field.isFor word key = true) keys path) := by
  have hd : (ofDocument {} extended).toOption.map (fun d =>
      d.nodes.map (fun t => (t.pointer, t.nullable, t.enum.map EnumMember.name))) = some
        [("#/definitions/pet", false, []), ("#/definitions/pet/properties/a~1b", true, []),
         ("#/definitions/size", false, ["Small", "Large"])] := by decide +kernel
  obtain ⟨d, hd, hnodes⟩ := Option.map_eq_some_iff.1 hd
  exact ⟨d, eq_ok_of_toOption hd, hnodes,
    ofDocument_made (eq_ok_of_toOption hd) (by decide +kernel)⟩

/-- A named schema with a nullable property whose name reads like a percent-encoded text. -/
def percentNullable : Value :=
  defining [("pet", .mapping [("properties", .mapping [("a%20b", nullableText)])])]

/-- The extension key of the property of `percentNullable` is not found, so its model is not
nullable. -/
theorem nullable_lost :
    ∃ d, ofDocument {} percentNullable = .ok d ∧
      d.nodes.map (fun t => (t.pointer, t.nullable)) =
        [("#/definitions/pet", false), ("#/definitions/pet/properties/a%20b", false)] ∧
      ((Pointer.descend? (Version.v2.prepared percentNullable)
        ["definitions", "pet", "properties", "a%20b"]).bind (fun v =>
          Dict.get? v.entries "x-nullable")).bind Value.bool? = some true := by
  have hd : (ofDocument {} percentNullable).toOption.map (fun d =>
      d.nodes.map (fun t => (t.pointer, t.nullable))) = some
        [("#/definitions/pet", false), ("#/definitions/pet/properties/a%20b", false)] := by
    decide +kernel
  obtain ⟨d, hd, hnodes⟩ := Option.map_eq_some_iff.1 hd
  exact ⟨d, eq_ok_of_toOption hd, hnodes, by decide +kernel⟩

end Draft

end TypedClient
