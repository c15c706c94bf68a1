import TypedClient.Draft.FromDocument
import TypedClient.Proofs.Draft.Filtering
import TypedClient.Proofs.Model.Layers

/-!
# Where a draft comes from

A parameter or a response is described in place or at the end of a chain of references, and its
model stands there or at a fixed step below. `V2.Source` and `V3.Source` list what a model inside
an operation can be and where it can stand. `operations_source` shows that every model of every
drafted operation is of one of these sorts, however the parameters of paths and operations were
merged.

`Draft.exists_assembled` takes a draft apart into the prepared document that it was read from, the
operations as they were drafted and the named schemas.
-/

namespace TypedClient

/-- The end of a chain of references is what stands at the last of them. -/
theorem Value.lookup?_of_chase {doc v : Value} {unseen : List String}
    {referrer target last : String} (h : doc.chase unseen referrer target = .ok (last, v)) :
    Pointer.lookup? doc last = some v := by
  induction unseen, target using Value.chase.induct doc with
  | case1 unseen target hnone =>
      unfold Value.chase at h
      simp [hnone] at h
  | case2 unseen target v' hv hplain =>
      unfold Value.chase at h
      simp only [hv, hplain] at h
      cases h
      exact hv
  | case3 unseen target v' hv next hnext hmem ih =>
      unfold Value.chase at h
      simp only [hv, hnext, dif_pos hmem] at h
      exact ih h
  | case4 unseen target v' hv next hnext hmem =>
      unfold Value.chase at h
      simp only [hv, hnext, dif_neg hmem] at h
      cases h

/-- Where a chain of references ends does not depend on where it is followed from. -/
theorem Value.chase_referrer {doc v : Value} {unseen : List String}
    {referrer other target last : String} (h : doc.chase unseen referrer target = .ok (last, v)) :
    doc.chase unseen other target = .ok (last, v) := by
  induction unseen, target using Value.chase.induct doc with
  | case1 unseen target hnone =>
      unfold Value.chase at h
      simp [hnone] at h
  | case2 unseen target v' hv hplain =>
      unfold Value.chase at h ⊢
      simp only [hv, hplain] at h ⊢
      exact h
  | case3 unseen target v' hv next hnext hmem ih =>
      unfold Value.chase at h ⊢
      simp only [hv, hnext, dif_pos hmem] at h ⊢
      exact ih h
  | case4 unseen target v' hv next hnext hmem =>
      unfold Value.chase at h
      simp only [hv, hnext, dif_neg hmem] at h
      cases h

/-- What a reference leads to, whatever refers to it. -/
theorem Value.dereference_of_readTarget {α : Type} {doc : Value} {kind : ObjectKind}
    {read : Dict Value → α} {referrer target place : String} {it : α}
    (h : doc.readTarget kind read referrer target = .ok (it, place)) (other : String) :
    ∃ v, doc.dereference other target = .ok (place, v) ∧ it = read v.entries := by
  unfold Value.readTarget at h
  split at h
  case h_1 => cases h
  case h_2 last v hchase =>
    -- what is found is read only when it has the form of its kind
    split at h
    · cases h
      exact ⟨v, chase_referrer hchase, rfl⟩
    · cases h

/-- What a reference leads to is read where the last reference points. -/
theorem Value.lookup?_of_readTarget {α : Type} {doc : Value} {kind : ObjectKind}
    {read : Dict Value → α} {referrer target place : String} {it : α}
    (h : doc.readTarget kind read referrer target = .ok (it, place)) :
    ∃ v, Pointer.lookup? doc place = some v ∧ it = read v.entries := by
  obtain ⟨v, hchase, hit⟩ := dereference_of_readTarget h ""
  exact ⟨v, lookup?_of_chase hchase, hit⟩

/-- The written form of an index holds no slash. -/
theorem slash_not_mem_toString (i : Nat) : '/' ∉ (toString i).toList :=
  fun h => absurd (Pointer.isDigit_of_mem_toString h) (by decide)

namespace Model

/-- A model that is read without a test is itself, and it is there. -/
theorem present_eq_ok_iff {m n : Model} {pointer : String} :
    m.present pointer = .ok n ↔ m.isAbsent = false ∧ n = m := by
  unfold present
  split
  case isTrue h => simp [h]
  case isFalse h => simp [h, eq_comm]

/-- The model of a schema can be read without a test. -/
theorem present_ofSchema (doc : Value) (place pointer : String) (s : Schema) :
    (ofSchema doc place s).present pointer = .ok (ofSchema doc place s) :=
  present_eq_ok_iff.2 ⟨(ofSchema_layered doc place s).isAbsent_eq, rfl⟩

end Model

namespace Parameter

theorem withModel_eq_ok_iff {p q : Parameter} {pointer : String} {m : Model} :
    p.withModel pointer m = .ok q ↔
      m.isAbsent = false ∧ q = { p with model := m, default := m.traits.default } := by
  unfold withModel
  rw [bind_eq_ok_iff]
  constructor
  · rintro ⟨n, hn, hq⟩
    obtain ⟨hm, rfl⟩ := Model.present_eq_ok_iff.1 hn
    exact ⟨hm, (Except.ok.inj hq).symm⟩
  · rintro ⟨hm, rfl⟩
    exact ⟨m, Model.present_eq_ok_iff.2 ⟨hm, rfl⟩, rfl⟩

/-- A parameter that is placed stands beside those that were there. -/
theorem mem_of_mem_replaceLast? {p q : Parameter} {ps replaced : List Parameter}
    (h : replaceLast? p ps = some replaced) (hq : q ∈ replaced) : q = p ∨ q ∈ ps := by
  induction ps generalizing replaced with
  | nil => cases h
  | cons first rest ih =>
      unfold replaceLast? at h
      split at h
      case h_1 replaced' hrest =>
        cases h
        rcases List.mem_cons.1 hq with rfl | hq
        · exact .inr List.mem_cons_self
        · exact (ih hrest hq).imp_right (List.mem_cons_of_mem _)
      case h_2 =>
        split at h
        · cases h
          exact (List.mem_cons.1 hq).imp_right (List.mem_cons_of_mem _)
        · cases h

theorem mem_of_mem_place {p q : Parameter} {ps : List Parameter} (h : q ∈ place ps p) :
    q = p ∨ q ∈ ps := by
  unfold place at h
  cases hreplaced : replaceLast? p ps with
  | none =>
      rw [hreplaced, Option.getD_none, List.mem_append, List.mem_singleton] at h
      exact h.symm
  | some replaced =>
      rw [hreplaced, Option.getD_some] at h
      exact mem_of_mem_replaceLast? hreplaced h

/-- A merged parameter is one of the path or one of the operation, settled. -/
theorem exists_of_mem_merge {ofPath own : List Parameter} {p : Parameter}
    (h : p ∈ merge ofPath own) : ∃ q, (q ∈ ofPath ∨ q ∈ own) ∧ p = q.settle := by
  -- the parameters of the operation are placed in turn, so the induction generalises over
  -- what is there already
  have hplaced : ∀ q ∈ own.foldl place ofPath, q ∈ ofPath ∨ q ∈ own := by
    clear h
    induction own generalizing ofPath with
    | nil => exact fun q hq => .inl hq
    | cons first rest ih =>
        intro q hq
        rcases ih q hq with hq | hq
        · rcases mem_of_mem_place hq with rfl | hq
          · exact .inr List.mem_cons_self
          · exact .inl hq
        · exact .inr (List.mem_cons_of_mem _ hq)
  have hmem : p ∈ (own.foldl place ofPath).map settle := by
    rcases List.mem_append.1 h with h | h
    · exact List.mem_of_mem_filter h
    · exact List.mem_of_mem_filter h
  obtain ⟨q, hq, rfl⟩ := List.mem_map.1 hmem
  exact ⟨q, hplaced q hq, rfl⟩

@[simp] theorem model_settle (p : Parameter) : p.settle.model = p.model := by
  unfold settle
  split <;> rfl

/-- What holds of the models of two lists of parameters holds of those of the merged list. -/
theorem forall_model_merge {P : Model → Prop} {ofPath own : List Parameter}
    (hpath : ∀ p ∈ ofPath, P p.model) (hown : ∀ p ∈ own, P p.model) :
    ∀ p ∈ merge ofPath own, P p.model := by
  intro p hp
  obtain ⟨q, hq, rfl⟩ := exists_of_mem_merge hp
  rw [model_settle]
  exact hq.elim (hpath q) (hown q)

end Parameter

/-- The model of a result is that of a response. -/
theorem Response.forall_model_results {P : Model → Prop} {responses : List Response}
    (h : ∀ r ∈ responses, P r.model) : ∀ r ∈ Response.results responses, P r.model := by
  have hresult : ∀ {numbered : List (Nat × Response)} {c : StatusClass} {r : Result},
      (∀ e ∈ numbered, P e.2.model) → r ∈ numbered.map (fun e => e.2.toResult c) → P r.model := by
    intro numbered c r hall hr
    obtain ⟨e, he, rfl⟩ := List.mem_map.1 hr
    exact hall e he
  have hnumbered : ∀ e ∈ (List.range (responses.mergeSort
      (fun a b => Text.le a.status b.status)).length).zip
        (responses.mergeSort (fun a b => Text.le a.status b.status)), P e.2.model := by
    intro e he
    exact h e.2 (List.mem_mergeSort.1 (List.of_mem_zip he).2)
  intro r hr
  rcases List.mem_append.1 hr with hr | hr
  · exact hresult (fun e he => hnumbered e (List.mem_of_mem_filter he)) hr
  · exact hresult (fun e he => hnumbered e (List.mem_of_mem_filter he)) hr

/-- What holds of the models that each path drafts holds of all of them. -/
theorem forall_mem_draftedPaths {I : Type} {P : Operation → Prop} {paths : Dict (Option I)}
    {draft : String → I → Except DraftFailure (List Operation)} {ops : List Operation}
    (hdraft : ∀ path item ops, (path, some item) ∈ paths → draft path item = .ok ops →
      ∀ op ∈ ops, P op)
    (h : draftedPaths paths draft = .ok ops) : ∀ op ∈ ops, P op := by
  obtain ⟨byPath, hpaths, hflat⟩ := bind_eq_ok_iff.1 h
  cases hflat
  intro op hop
  obtain ⟨ops, hops, hop⟩ := List.mem_flatten.1 hop
  obtain ⟨⟨path, item⟩, -, hmem, he⟩ := exists_left_of_forall₂ (forall₂_of_mapM hpaths) hops
  cases item with
  | none =>
      cases he
      cases hop
  | some item => exact hdraft path item ops (List.mem_of_mem_filter hmem) he op hop

/-- What holds of the models of the parameters and of the results holds of all models. -/
theorem Operation.forall_models {P : Model → Prop} {op : Operation}
    (hparameters : ∀ p ∈ op.parameters, P p.model) (hresults : ∀ r ∈ op.results, P r.model) :
    ∀ m ∈ op.models, P m := by
  intro m hm
  rcases List.mem_append.1 hm with hm | hm
  · obtain ⟨p, hp, rfl⟩ := List.mem_map.1 hm
    exact hparameters p hp
  · obtain ⟨r, hr, rfl⟩ := List.mem_map.1 hm
    exact hresults r hr

/-- The places of a parameter: a list of parameters that it stands in, or the end of a chain of
references that leads to it. -/
inductive StandsAt {α : Type} (doc : Value) (read : Dict Value → α) (p : α) : String → Prop where
  /-- The parameter is one of a list. -/
  | inPlace (base : String) (i : Nat) :
      StandsAt doc read p (base ++ "/parameters" ++ "/" ++ toString i)
  /-- The parameter is described elsewhere. -/
  | described {place : String} {v : Value} (hv : Pointer.lookup? doc place = some v)
      (hp : p = read v.entries) : StandsAt doc read p place

/-- A parameter behind a reference stands where it leads. -/
theorem standsAt_readTarget {α : Type} {doc : Value} {kind : ObjectKind} {read : Dict Value → α}
    {referrer target place : String} {p : α}
    (h : doc.readTarget kind read referrer target = .ok (p, place)) :
    StandsAt doc read p place := by
  obtain ⟨v, hv, hp⟩ := Value.lookup?_of_readTarget h
  exact .described hv hp

namespace V2

/-- A parameter that travels outside of the body. -/
def Parameter.IsValue (p : Parameter) : Prop :=
  Text.lower p.location ∈ ["path", "query", "header"]

/-- A parameter that travels outside of the body and lists its values, without a schema. -/
structure Parameter.IsEnum (p : Parameter) : Prop where
  isValue : p.IsValue
  isMissing : p.schema.isMissing = true
  enum_ne_nil : p.enum ≠ []

/-- The sorts of models inside an operation of version 2. -/
inductive Source (doc : Value) : Model → Prop where
  /-- A result without a body has no model. -/
  | absent : Source doc .absent
  /-- The model of a schema stands one step below what the schema belongs to. -/
  | schema {place : String} {m : Model} (h : Model.Layered (place ++ "/schema") m) : Source doc m
  /-- The model of a form, or of a parameter without a schema, in a list of parameters. -/
  | inPlace {base last : String} {m : Model} (hlast : '/' ∉ last.toList)
      (h : Model.Layered (base ++ "/parameters" ++ "/" ++ last) m) : Source doc m
  /-- The model of a parameter without a schema that is described elsewhere. -/
  | described {place : String} {v : Value} {m : Model} (hv : Pointer.lookup? doc place = some v)
      (hvalue : (Parameter.ofEntries v.entries).IsValue) (h : Model.Layered place m)
      (henum : m.isDeclared = true → (Parameter.ofEntries v.entries).IsEnum) : Source doc m

variable {doc : Value} {consumes : List String} {base place : String}

/-- A parameter with a reference stands where it leads. -/
theorem Parameter.standsAt_settle {p q : Parameter} {i : Nat}
    (h : p.settle doc (base ++ "/parameters" ++ "/" ++ toString i) = .ok (q, place)) :
    StandsAt doc ofEntries q place := by
  unfold settle at h
  split at h
  · cases h
    exact .inPlace base i
  · exact standsAt_readTarget h

/-- A role is that of a parameter at one of its places. -/
theorem Parameter.exists_of_mem_roles {ps : List (Option Parameter)} {i : Nat} {rs : List Role}
    (h : roles doc consumes (base ++ "/parameters") i ps = .ok rs) :
    ∀ r ∈ rs, ∃ p place, StandsAt doc ofEntries p place ∧ p.role doc consumes place = .ok r := by
  induction ps generalizing i rs with
  | nil =>
      cases h
      exact fun _ hr => absurd hr List.not_mem_nil
  | cons first rest ih =>
      cases first with
      | none => exact ih h
      | some p =>
          obtain ⟨⟨q, place⟩, hsettle, h⟩ := bind_eq_ok_iff.1 h
          obtain ⟨first, hfirst, h⟩ := bind_eq_ok_iff.1 h
          obtain ⟨rs', hrest, h⟩ := bind_eq_ok_iff.1 h
          cases h
          intro r hr
          rcases List.mem_cons.1 hr with rfl | hr
          · exact ⟨q, place, standsAt_settle hsettle, hfirst⟩
          · exact ih hrest r hr

/-- The model of a parameter outside of the body is there. -/
theorem Parameter.valueModel_eq (p : Parameter) : p.valueModel doc place = .ok
    (if p.schema.isMissing then
      (Model.ofSchema doc place p.typeSchema).modify (fun t => { t with description := "" })
    else Model.ofSchema doc (place ++ "/schema") p.schema) := by
  unfold valueModel
  rw [Model.present_ofSchema]
  split
  · rfl
  · rfl

/-- The model of a parameter outside of the body stands at the parameter or at its schema. -/
theorem Parameter.source_valueModel {p : Parameter} {m : Model}
    (hplace : StandsAt doc ofEntries p place) (hvalue : p.IsValue)
    (h : p.valueModel doc place = .ok m) : Source doc m := by
  obtain rfl := Except.ok.inj (p.valueModel_eq.symm.trans h)
  split
  case isTrue hmissing =>
    have hlayered : Model.Layered place ((Model.ofSchema doc place p.typeSchema).modify
        (fun t => { t with description := "" })) :=
      (Model.ofSchema_layered ..).modify (fun _ => rfl) (fun _ => rfl)
    cases hplace with
    | inPlace base i => exact .inPlace (slash_not_mem_toString i) hlayered
    | described hv hp =>
        subst hp
        refine .described hv hvalue hlayered (fun hdeclared => ⟨hvalue, hmissing, ?_⟩)
        rw [Model.isDeclared_modify (f := fun t => { t with description := "" }) (fun _ => rfl)]
          at hdeclared
        exact Model.enum_ne_nil_of_isDeclared hdeclared
  case isFalse => exact .schema (Model.ofSchema_layered ..)

theorem Parameter.exists_of_valueRole {p : Parameter} {start : TypedClient.Parameter} {r : Role}
    (h : p.valueRole doc place start = .ok r) :
    ∃ q, r = .plain q ∧ q.location = start.location ∧ p.valueModel doc place = .ok q.model := by
  obtain ⟨model, hmodel, h⟩ := bind_eq_ok_iff.1 h
  obtain ⟨q, hq, h⟩ := bind_eq_ok_iff.1 h
  obtain rfl := Except.ok.inj h
  obtain ⟨-, rfl⟩ := TypedClient.Parameter.withModel_eq_ok_iff.1 hq
  exact ⟨_, rfl, rfl, hmodel⟩

/-- A plain parameter is a body, or it travels outside of the body. -/
theorem Parameter.role_eq_plain {p : Parameter} {q : TypedClient.Parameter}
    (h : p.role doc consumes place = .ok (.plain q)) :
    (Text.lower p.location = "body" ∧ q.location = .body ∧
        q.model = Model.ofSchema doc (place ++ "/schema") p.schema) ∨
      (p.IsValue ∧ q.location ≠ .body ∧ p.valueModel doc place = .ok q.model) := by
  unfold role at h
  split at h
  case h_1 hlocation =>
    obtain ⟨q, hq, h⟩ := bind_eq_ok_iff.1 h
    obtain rfl := Role.plain.inj (Except.ok.inj h)
    obtain ⟨-, rfl⟩ := TypedClient.Parameter.withModel_eq_ok_iff.1 hq
    exact .inl ⟨hlocation, rfl, rfl⟩
  case h_2 =>
    obtain ⟨model, -, h⟩ := bind_eq_ok_iff.1 h
    exact nomatch Except.ok.inj h
  case h_3 hlocation | h_4 hlocation | h_5 hlocation =>
    obtain ⟨_, hq, hplace, hmodel⟩ := exists_of_valueRole h
    obtain rfl := Role.plain.inj hq
    exact .inr ⟨by simp [IsValue, hlocation], by simp [hplace], hmodel⟩
  case h_6 => exact nomatch Except.ok.inj h

/-- A part of the form is one in its place too, and has the model of its values. -/
theorem Parameter.role_eq_form {p : Parameter} {q : TypedClient.Parameter}
    (h : p.role doc consumes place = .ok (.form q)) :
    Text.lower p.location = "formdata" ∧ p.valueModel doc place = .ok q.model := by
  unfold role at h
  split at h
  case h_2 hlocation =>
    obtain ⟨model, hmodel, h⟩ := bind_eq_ok_iff.1 h
    obtain rfl := Role.form.inj (Except.ok.inj h)
    exact ⟨hlocation, hmodel⟩
  case h_1 =>
    obtain ⟨_, -, h⟩ := bind_eq_ok_iff.1 h
    exact nomatch Except.ok.inj h
  case h_6 => exact nomatch Except.ok.inj h
  all_goals
    obtain ⟨_, hplain, -⟩ := exists_of_valueRole h
    exact nomatch hplain

/-- A plain parameter has a model of one of the sorts. -/
theorem Parameter.source_role {p : Parameter} {q : TypedClient.Parameter}
    (hplace : StandsAt doc ofEntries p place) (h : p.role doc consumes place = .ok (.plain q)) :
    Source doc q.model := by
  obtain ⟨-, -, hmodel⟩ | ⟨hvalue, -, hmodel⟩ := role_eq_plain h
  · exact hmodel ▸ .schema (Model.ofSchema_layered ..)
  · exact source_valueModel hplace hvalue hmodel

theorem source_plainOf {ps : List (Option Parameter)} {i : Nat} {rs : List Parameter.Role}
    (h : Parameter.roles doc consumes (base ++ "/parameters") i ps = .ok rs) :
    ∀ p ∈ plainOf rs, Source doc p.model := by
  intro p hp
  obtain ⟨r, hr, hplain⟩ := List.mem_filterMap.1 hp
  obtain ⟨q, place, hplace, hrole⟩ := Parameter.exists_of_mem_roles h r hr
  split at hplain
  case h_1 =>
    cases hplain
    exact Parameter.source_role hplace hrole
  case h_2 => cases hplain

/-- The form of an operation has a model in its list of parameters. -/
theorem source_formBody {pointer : String} {parts : List TypedClient.Parameter}
    {body : TypedClient.Parameter} (h : formBody consumes pointer parts = .ok body) :
    Source doc body.model := by
  obtain ⟨properties, -, h⟩ := bind_eq_ok_iff.1 h
  obtain rfl := Except.ok.inj h
  have hpointer : pointer ++ "/parameters/formData" =
      pointer ++ "/parameters" ++ "/" ++ "formData" := by
    rw [String.append_assoc, String.append_assoc]
    rfl
  exact .inPlace (by decide) (.declared hpointer rfl)

/-- The parameters of an operation have models of these sorts. -/
theorem source_parametersFrom {itemPointer pointer : String} {shared own : List (Option Parameter)}
    {ps : List TypedClient.Parameter}
    (h : parametersFrom doc consumes itemPointer pointer shared own = .ok ps) :
    ∀ p ∈ ps, Source doc p.model := by
  obtain ⟨sharedRoles, hshared, h⟩ := bind_eq_ok_iff.1 h
  obtain ⟨ownRoles, hown, h⟩ := bind_eq_ok_iff.1 h
  have hplain := TypedClient.Parameter.forall_model_merge (source_plainOf hshared)
    (source_plainOf hown)
  split at h
  · cases h
    exact hplain
  · obtain ⟨body, hbody, h⟩ := bind_eq_ok_iff.1 h
    cases h
    refine TypedClient.Parameter.forall_model_merge hplain ?_
    exact List.forall_mem_singleton.2 (source_formBody hbody)

/-- A response has no model or that of its schema. -/
theorem Response.source_declared {pointer status : String} {r : Option Response}
    {response : TypedClient.Response} (h : Response.declared doc pointer status r = .ok response) :
    Source doc response.model := by
  cases r with
  | none =>
      cases h
      exact .absent
  | some r =>
      have hread : ∀ {r : Response} {place : String}, (if r.schema.isMissing then
          Except.ok { status, description := Text.trim r.description }
        else Except.ok { status, description := Text.trim r.description
                         mediaType := MediaType.json
                         model := Model.ofSchema doc (place ++ "/schema") r.schema }) =
          (.ok response : Except DraftFailure TypedClient.Response) →
          Source doc response.model := by
        intro r place h
        split at h
        · cases h
          exact .absent
        · cases h
          exact .schema (Model.ofSchema_layered ..)
      unfold Response.declared at h
      dsimp only at h
      split at h
      · exact hread h
      · obtain ⟨⟨q, place⟩, -, h⟩ := bind_eq_ok_iff.1 h
        exact hread h

theorem source_responsesFrom {produces : List String} {pointer : String}
    {responses : Dict (Option Response)} {rs : List TypedClient.Response}
    (h : responsesFrom doc produces pointer responses = .ok rs) :
    ∀ r ∈ rs, Source doc r.model := by
  obtain ⟨declared, hdeclared, h⟩ := bind_eq_ok_iff.1 h
  have hall : ∀ r ∈ declared, Source doc r.model := by
    intro r hr
    obtain ⟨e, -, -, he⟩ := exists_left_of_forall₂ (forall₂_of_mapM hdeclared) hr
    exact Response.source_declared he
  split at h
  · cases h
    exact hall
  · cases h
    refine List.forall_mem_map.2 (fun r hr => ?_)
    split
    · exact hall r hr
    · exact hall r hr

/-- The models of an operation are of these sorts. -/
theorem Operation.drafted_source {t : Document} {path itemPointer : String} {item : PathItem}
    {method : Method} {o : Operation} {op : TypedClient.Operation}
    (h : o.drafted doc t path item itemPointer method = .ok op) :
    ∀ m ∈ op.models, Source doc m := by
  obtain ⟨parameters, hparameters, h⟩ := bind_eq_ok_iff.1 h
  obtain ⟨responses, hresponses, h⟩ := bind_eq_ok_iff.1 h
  obtain rfl := Except.ok.inj h
  exact Operation.forall_models (source_parametersFrom hparameters)
    (Response.forall_model_results (source_responsesFrom hresponses))

/-- The models of all operations of a description are of these sorts. -/
theorem Document.operations_source {t : Document} {filter : TagFilter}
    {ops : List TypedClient.Operation} (h : t.operations doc filter = .ok ops) :
    ∀ op ∈ ops, ∀ m ∈ op.models, Source doc m := by
  rw [Document.operations_eq] at h
  refine forall_mem_draftedPaths (fun path item ops _ hitem op hop => ?_) h
  obtain ⟨⟨settled, pointer⟩, -, hcalls⟩ := bind_eq_ok_iff.1 (PathItem.drafted_eq .. ▸ hitem)
  obtain ⟨c, -, -, hc⟩ := exists_left_of_forall₂ (forall₂_of_mapM hcalls) hop
  exact Operation.drafted_source hc

end V2

namespace V3

/-- The sorts of models inside an operation of version 3. -/
inductive Source (doc : Value) : Model → Prop where
  /-- A result without a body has no model. -/
  | absent : Source doc .absent
  /-- A parameter or a body that says nothing of its values has a primitive type. -/
  | primitive {t : Traits} (h : t.kind = .generic) : Source doc (.leaf t)
  /-- The model of the schema of a parameter that stands in a list. -/
  | inPlace {base last : String} {m : Model} (hlast : '/' ∉ last.toList)
      (h : Model.Layered (base ++ "/parameters" ++ "/" ++ last ++ "/schema") m) : Source doc m
  /-- The model of the schema of a parameter that is described elsewhere. -/
  | described {place : String} {v : Value} {m : Model} (hv : Pointer.lookup? doc place = some v)
      (hlocation : (Parameter.ofEntries v.entries).location ≠ "")
      (h : Model.Layered (place ++ "/schema") m) : Source doc m
  /-- The model of the schema of a media type. -/
  | content {place mediaType : String} {m : Model}
      (h : Model.Layered (Content.schemaPointer place mediaType) m) : Source doc m

variable {doc : Value} {place : String}

/-- A change at the top that keeps the sort and the pointer keeps where a model comes from. -/
theorem Source.modify {m : Model} (h : Source doc m) {f : Traits → Traits}
    (hkind : ∀ t, (f t).kind = t.kind) (hpointer : ∀ t, (f t).pointer = t.pointer) :
    Source doc (m.modify f) := by
  cases h with
  | absent => exact .absent
  | primitive h => exact .primitive ((hkind _).trans h)
  | inPlace hlast h => exact .inPlace hlast (h.modify hkind hpointer)
  | described hv hlocation h => exact .described hv hlocation (h.modify hkind hpointer)
  | content h => exact .content (h.modify hkind hpointer)

/-- The model of the schema under a media type comes from content. -/
theorem Content.source_model {c : Content} {mediaType : String} {m : Model}
    (h : c.model doc place mediaType = .ok m) : Source doc m := by
  obtain ⟨s, -, h⟩ := bind_eq_ok_iff.1 h
  cases h
  exact .content (Model.ofSchema_layered ..)

/-- The model of a parameter comes from its schema, its content or nothing. -/
theorem Parameter.source_model {p : Parameter} {m : Model}
    (hplace : StandsAt doc ofEntries p place) (hlocation : p.location ≠ "")
    (h : p.model doc place = .ok m) : Source doc m := by
  unfold model at h
  split at h
  · cases h
    cases hplace with
    | inPlace base i => exact .inPlace (slash_not_mem_toString i) (Model.ofSchema_layered ..)
    | described hv hp =>
        subst hp
        exact .described hv hlocation (Model.ofSchema_layered ..)
  · split at h
    · cases h
      exact .primitive rfl
    · exact Content.source_model h

/-- A parameter of a known location names one. -/
theorem location_ne_empty {location : String}
    (h : Location.ofLabel (Text.lower location) ≠ .other "") : location ≠ "" := by
  rintro rfl
  exact h (by decide)

/-- A drafted parameter comes from one that stands at the pointer. -/
theorem Parameter.source_drafted {p : Parameter} {q : TypedClient.Parameter}
    (hplace : StandsAt doc ofEntries p place) (h : p.drafted doc place = .ok (some q)) :
    Source doc q.model := by
  unfold drafted at h
  split at h
  · cases h
  · cases h
  case h_3 location hbody hother =>
    obtain ⟨m, hm, h⟩ := bind_eq_ok_iff.1 h
    obtain ⟨_, hq, h⟩ := bind_eq_ok_iff.1 h
    obtain ⟨-, rfl⟩ := TypedClient.Parameter.withModel_eq_ok_iff.1 hq
    obtain rfl := Option.some.inj (Except.ok.inj h)
    have hlocation := location_ne_empty (fun heq => hother _ heq)
    exact (source_model hplace hlocation hm).modify (fun _ => rfl) (fun _ => rfl)

theorem Parameter.source_draftedAll {base : String} {i : Nat}
    {ps : List (Option (OrReference Parameter))} {qs : List TypedClient.Parameter}
    (h : draftedAll doc (base ++ "/parameters") i ps = .ok qs) :
    ∀ q ∈ qs, Source doc q.model := by
  induction ps generalizing i qs with
  | nil =>
      cases h
      exact fun _ hq => absurd hq List.not_mem_nil
  | cons first rest ih =>
      cases first with
      | none => exact ih h
      | some r =>
          obtain ⟨⟨p, place⟩, hsettle, h⟩ := bind_eq_ok_iff.1 h
          obtain ⟨drafted, hdrafted, h⟩ := bind_eq_ok_iff.1 h
          obtain ⟨qs', hrest, h⟩ := bind_eq_ok_iff.1 h
          cases h
          have hplace : StandsAt doc ofEntries p place := by
            cases r with
            | inline it =>
                cases hsettle
                exact .inPlace base i
            | reference target => exact standsAt_readTarget hsettle
          intro q hq
          rcases List.mem_append.1 hq with hq | hq
          · exact source_drafted hplace (Option.mem_toList.1 hq ▸ hdrafted)
          · exact ih hrest q hq

/-- The model of a body comes from its content or nothing. -/
theorem RequestBody.source_drafted {b : RequestBody} {q : TypedClient.Parameter}
    (h : b.drafted doc place = .ok q) : Source doc q.model := by
  obtain ⟨m, hm, h⟩ := bind_eq_ok_iff.1 h
  obtain rfl := Except.ok.inj h
  unfold model at hm
  dsimp only at hm
  split at hm
  · cases hm
    exact .primitive rfl
  · exact Content.source_model hm

/-- The parameters of an operation have models of these sorts. -/
theorem Operation.source_draftedParameters {pointer : String}
    {shared ps : List TypedClient.Parameter} {o : Operation}
    (hshared : ∀ p ∈ shared, Source doc p.model)
    (h : o.draftedParameters doc pointer shared = .ok ps) : ∀ p ∈ ps, Source doc p.model := by
  obtain ⟨own, hown, h⟩ := bind_eq_ok_iff.1 h
  have hmerged := TypedClient.Parameter.forall_model_merge hshared
    (Parameter.source_draftedAll hown)
  split at h
  · cases h
    exact hmerged
  · obtain ⟨⟨b, place⟩, -, h⟩ := bind_eq_ok_iff.1 h
    obtain ⟨body, hbody, h⟩ := bind_eq_ok_iff.1 h
    cases h
    refine TypedClient.Parameter.forall_model_merge hmerged (List.forall_mem_singleton.2 ?_)
    exact RequestBody.source_drafted hbody

/-- A response has no model or that of the schema of a media type. -/
theorem Response.source_declared {pointer status : String} {r : Option (OrReference Response)}
    {response : TypedClient.Response} (h : Response.declared doc pointer status r = .ok response) :
    Source doc response.model := by
  cases r with
  | none =>
      cases h
      exact .absent
  | some r =>
      obtain ⟨⟨q, place⟩, -, h⟩ := bind_eq_ok_iff.1 h
      obtain ⟨m, hm, h⟩ := bind_eq_ok_iff.1 h
      obtain rfl := Except.ok.inj h
      unfold model at hm
      dsimp only at hm
      split at hm
      · cases hm
        exact .absent
      · obtain ⟨s, -, hm⟩ := bind_eq_ok_iff.1 hm
        cases hm
        dsimp only
        split
        · exact .absent
        · exact .content (Model.ofSchema_layered ..)

/-- The models of an operation are of these sorts. -/
theorem Operation.drafted_source {path pointer : String} {shared : List TypedClient.Parameter}
    {method : Method} {o : Operation} {op : TypedClient.Operation}
    (hshared : ∀ p ∈ shared, Source doc p.model)
    (h : o.drafted doc path pointer shared method = .ok op) : ∀ m ∈ op.models, Source doc m := by
  obtain ⟨parameters, hparameters, h⟩ := bind_eq_ok_iff.1 h
  obtain ⟨responses, hresponses, h⟩ := bind_eq_ok_iff.1 h
  obtain rfl := Except.ok.inj h
  refine Operation.forall_models (Operation.source_draftedParameters hshared hparameters)
    (Response.forall_model_results (fun r hr => ?_))
  obtain ⟨e, -, -, he⟩ := exists_left_of_forall₂ (forall₂_of_mapM hresponses) hr
  exact Response.source_declared he

/-- The models of all operations of a description are of these sorts. -/
theorem Document.operations_source {t : Document} {filter : TagFilter}
    {ops : List TypedClient.Operation} (h : t.operations doc filter = .ok ops) :
    ∀ op ∈ ops, ∀ m ∈ op.models, Source doc m := by
  rw [Document.operations_eq] at h
  refine forall_mem_draftedPaths (fun path item ops _ hitem op hop => ?_) h
  obtain ⟨⟨settled, pointer⟩, -, hitem⟩ := bind_eq_ok_iff.1 (PathItem.drafted_eq .. ▸ hitem)
  obtain ⟨shared, hshared, hcalls⟩ := bind_eq_ok_iff.1 hitem
  obtain ⟨c, -, -, hc⟩ := exists_left_of_forall₂ (forall₂_of_mapM hcalls) hop
  exact Operation.drafted_source (Parameter.source_draftedAll hshared) hc

end V3

namespace Version

/-- The kind of object that a whole description is. -/
def documentKind : Version → ObjectKind
  | v2 => .document2
  | v3 => .document

/-- The document that a draft is read from. -/
def prepared (version : Version) (doc : Value) : Value :=
  match version with
  | v2 => BodyMerge.mend doc.normalize
  | v3 => doc.normalize

/-- Where the named schemas stand. -/
def schemaPath : Version → List String
  | v2 => ["definitions"]
  | v3 => ["components", "schemas"]

/-- Where a named schema stands. -/
def schemaPointer (version : Version) (name : String) : String :=
  Pointer.join (version.schemaPath ++ [name])

/-- The named schemas of a prepared document. -/
def schemas (version : Version) (doc : Value) : Dict Schema :=
  match version with
  | v2 => (V2.Document.ofEntries doc.entries).definitions
  | v3 => (V3.Document.ofEntries doc.entries).schemas

/-- The operations of a prepared document, with their models still inside them. -/
def operations (version : Version) (filter : TagFilter) (doc : Value) :
    Except DraftFailure (List Operation) :=
  match version with
  | v2 => (V2.Document.ofEntries doc.entries).operations doc filter
  | v3 => (V3.Document.ofEntries doc.entries).operations doc filter

/-- The parameters that models are lifted out of first. -/
def early : Version → Parameter → Bool
  | v2 => fun _ => true
  | v3 => fun p => p.location != .body

/-- What a model inside an operation can be. -/
def Source : Version → Value → Model → Prop
  | v2 => V2.Source
  | v3 => V3.Source

/-- The models of all operations are of the sorts that the version has. -/
theorem operations_source {version : Version} {filter : TagFilter} {doc : Value}
    {ops : List Operation} (h : version.operations filter doc = .ok ops) :
    ∀ op ∈ ops, ∀ m ∈ op.models, version.Source doc m := by
  cases version with
  | v2 => exact V2.Document.operations_source h
  | v3 => exact V3.Document.operations_source h

/-- A model inside an operation is layered. -/
theorem Source.layered {version : Version} {doc : Value} {m : Model}
    (h : version.Source doc m) : m = .absent ∨ ∃ pointer, Model.Layered pointer m := by
  cases version with
  | v2 =>
      cases h with
      | absent => exact .inl rfl
      | schema h => exact .inr ⟨_, h⟩
      | inPlace _ h => exact .inr ⟨_, h⟩
      | described _ _ h _ => exact .inr ⟨_, h⟩
  | v3 =>
      cases h with
      | absent => exact .inl rfl
      | primitive h => exact .inr ⟨_, .leaf rfl (.inl h)⟩
      | inPlace _ h => exact .inr ⟨_, h⟩
      | described _ _ h => exact .inr ⟨_, h⟩
      | content h => exact .inr ⟨_, h⟩

end Version

namespace Draft

/-- The model of a named schema. -/
def namedModel (version : Version) (doc : Value) (name : String) (s : Schema) : Model :=
  (Model.ofSchema doc (version.schemaPointer name) s).modify
    (fun t => { t with sourceName := name })

/-- A named schema as it is stored, with its pointer. -/
def namedSchema (version : Version) (doc : Value) (name : String) : RawSchema :=
  { pointer := version.schemaPointer name
    raw := (Pointer.lookup? doc (version.schemaPointer name)).getD .null }

/-- The named models of a prepared document, with their schemas. -/
def namedOf (version : Version) (doc : Value) : List (Model × RawSchema) :=
  (Dict.withoutExtensions (version.schemas doc)).map
    (fun e => (namedModel version doc e.1 e.2, namedSchema version doc e.1))

section Named

variable (version : Version) (doc : Value) (name : String) (s : Schema)

/-- The model of a named schema is there to take the name. -/
theorem ofSchema_eq : ofSchema doc version.schemaPath name s =
    .ok (namedModel version doc name s, namedSchema version doc name) := by
  unfold ofSchema
  dsimp only
  rw [Model.present_ofSchema]
  rfl

/-- The named schemas of a description never keep it from being drafted. -/
theorem ofSchemas_eq :
    ofSchemas doc version.schemaPath (version.schemas doc) = .ok (namedOf version doc) := by
  rw [ofSchemas, namedOf, mapM_eq_ok_iff, List.forall₂_map_right_iff, List.forall₂_same]
  exact fun e _ => ofSchema_eq version doc e.1 e.2

theorem models_namedOf : (namedOf version doc).map Prod.fst =
    (Dict.withoutExtensions (version.schemas doc)).map
      (fun e => namedModel version doc e.1 e.2) := by
  rw [namedOf, List.map_map]
  rfl

/-- The model of a named schema is layered, and stands where the schema does. -/
theorem namedModel_layered : Model.Layered (version.schemaPointer name)
    (namedModel version doc name s) :=
  (Model.ofSchema_layered ..).modify (f := fun t => { t with sourceName := name })
    (fun _ => rfl) (fun _ => rfl)

theorem anonymous_namedModel : (namedModel version doc name s).anonymous = false := by
  have hmodel := Model.anonymous_ofSchema doc (version.schemaPointer name) s
  unfold namedModel
  cases hm : Model.ofSchema doc (version.schemaPointer name) s with
  | absent => rfl
  | node => rwa [hm] at hmodel

theorem sourceName_namedModel : (namedModel version doc name s).traits.sourceName = name := by
  have hmodel := (Model.ofSchema_layered doc (version.schemaPointer name) s).isAbsent_eq
  unfold namedModel
  cases hm : Model.ofSchema doc (version.schemaPointer name) s with
  | absent =>
      rw [hm] at hmodel
      cases hmodel
  | node => rfl

end Named

/-- The operations of a document before models are lifted out of them. -/
def unlifted (filter : TagFilter) (doc : Value) : Except DraftFailure (List Operation) :=
  match Version.detect doc with
  | .error u => .error (.version u)
  | .ok version => version.operations filter (version.prepared doc)

/-- A draft is put together from the named schemas and the operations of a prepared document. -/
structure Assembled (version : Version) (filter : TagFilter) (doc : Value) (ops : List Operation)
    (d : Draft) : Prop where
  isA : doc.isA version.documentKind = true
  operations_eq : version.operations filter doc = .ok ops
  models_eq : d.models =
    (namedOf version doc).map Prod.fst ++ (Operation.liftAll version.early [] ops).2
  services_eq : d.services = Service.ofOperations (Operation.liftAll version.early [] ops).1
  schemas_eq : d.schemas = (namedOf version doc).map Prod.snd

/-- Every draft of a document is put together in this way. -/
theorem exists_assembled {filter : TagFilter} {doc : Value} {d : Draft}
    (h : ofDocument filter doc = .ok d) :
    ∃ version ops, Version.detect doc = .ok version ∧
      Assembled version filter (version.prepared doc) ops d := by
  unfold ofDocument at h
  cases hversion : Version.detect doc with
  | error u =>
      rw [hversion] at h
      cases h
  | ok version =>
      rw [hversion] at h
      cases version with
      | v2 =>
          dsimp only [ofV2] at h
          split at h
          · cases h
          case isFalse hform =>
            have hisA : (Version.v2.prepared doc).isA .document2 = true := by
              simpa [Version.prepared] using hform
            obtain ⟨named, hnamed, h⟩ := bind_eq_ok_iff.1 h
            obtain ⟨ops, hops, h⟩ := bind_eq_ok_iff.1 h
            obtain rfl := Except.ok.inj
              ((ofSchemas_eq .v2 (Version.prepared .v2 doc)).symm.trans hnamed)
            obtain rfl := Except.ok.inj h
            exact ⟨.v2, ops, rfl, hisA, hops, rfl, rfl, rfl⟩
      | v3 =>
          dsimp only [ofV3] at h
          split at h
          · cases h
          case isFalse hform =>
            have hisA : (Version.v3.prepared doc).isA .document = true := by
              simpa [Version.prepared] using hform
            obtain ⟨named, hnamed, h⟩ := bind_eq_ok_iff.1 h
            obtain ⟨ops, hops, h⟩ := bind_eq_ok_iff.1 h
            obtain rfl := Except.ok.inj
              ((ofSchemas_eq .v3 (Version.prepared .v3 doc)).symm.trans hnamed)
            obtain rfl := Except.ok.inj h
            exact ⟨.v3, ops, rfl, hisA, hops, rfl, rfl, rfl⟩

end Draft

end TypedClient
