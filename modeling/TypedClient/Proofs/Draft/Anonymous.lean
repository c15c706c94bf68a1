import TypedClient.Proofs.Draft.Nodes
import TypedClient.Proofs.Draft.Sources

/-!
# Models lifted out of operations

`ofDocument_liftedFrom` compares the operations of a draft with what they were before models were
lifted out of them. In the draft an operation is made of primitive types, arrays, dictionaries and
references alone. What was replaced by a reference stands among the anonymous models, at the
pointer that the reference targets, and each anonymous model is there because of such a reference.

The anonymous models are gathered in one list that all operations add to. `Gathers` says what
lifting a list of models does to it, and it composes, so what one model does to the list gives what
a whole description does.
-/

namespace TypedClient

namespace Model

/-- What lifting makes of a model. -/
def lifted (m : Model) : Model :=
  (m.lift [] "").1

/-- A model as it stands among the anonymous models. -/
def madeAnonymous (sourceName : String) (m : Model) : Model :=
  m.modify (fun t => { t with anonymous := true, sourceName })

@[simp] theorem pointer_madeAnonymous (name : String) (m : Model) :
    (m.madeAnonymous name).pointer = m.pointer := by
  cases m <;> rfl

variable {t : Traits} {ps : List (Property Model)} {i : Model} {ms : List Model}

/-- Arrays and dictionaries are lifted inside. -/
theorem lift_layer (h : t.kind = .array ∨ t.kind = .dictionary) (ps : List (Property Model))
    (i : Model) (ms : List Model) :
    ∃ suffix, ∀ earlier name, (node t ps i ms).lift earlier name =
      (node t ps (i.lift earlier (name ++ suffix)).1 ms, (i.lift earlier (name ++ suffix)).2) := by
  have hplain : (node t ps i ms).isDeclared = false := by
    rcases h with h | h <;> simp [isDeclared, kind, traits, h, Kind.isComposition]
  rcases h with h | h
  · exact ⟨"Item", fun _ _ => by simp only [lift, hplain, h]; rfl⟩
  · exact ⟨"Value", fun _ _ => by simp only [lift, hplain, h]; rfl⟩

/-- What is neither declared nor a layer stays. -/
theorem lift_other (h : (node t ps i ms).isDeclared = false)
    (hlayer : ¬ (t.kind = .array ∨ t.kind = .dictionary)) (earlier : List Model) (name : String) :
    (node t ps i ms).lift earlier name = (node t ps i ms, earlier) := by
  rw [not_or] at hlayer
  simp only [lift, h]
  cases hkind : t.kind <;> simp_all

/-- Lifting adds the core of a model, unless it needs no declaration or its pointer is taken. -/
theorem lift_snd (m : Model) : ∃ suffix, ∀ earlier name, (m.lift earlier name).2 =
    if m.core.isDeclared = true ∧ m.core.pointer ∉ earlier.map Model.pointer then
      earlier ++ [m.core.madeAnonymous (name ++ suffix)]
    else earlier := by
  induction m using induction_on_parts with
  | absent => exact ⟨"", fun _ _ => rfl⟩
  | node t ps i ms _ ih _ =>
      by_cases hlayer : t.kind = .array ∨ t.kind = .dictionary
      · obtain ⟨outer, hitems⟩ := lift_layer hlayer ps i ms
        obtain ⟨suffix, hlift⟩ := ih
        refine ⟨outer ++ suffix, fun earlier name => ?_⟩
        rw [hitems, core_layer hlayer, hlift, String.append_assoc]
      · have hcore : (node t ps i ms).core = node t ps i ms := if_neg hlayer
        rw [hcore]
        by_cases hdeclared : (node t ps i ms).isDeclared = true
        · refine ⟨"", fun earlier name => ?_⟩
          have htaken : earlier.any (fun m => m.pointer = t.pointer) = true ↔
              t.pointer ∈ earlier.map Model.pointer := by
            simp [List.any_eq_true, List.mem_map]
          simp only [lift_declared hdeclared, htaken, String.append_empty]
          by_cases hmem : t.pointer ∈ earlier.map Model.pointer
          · rw [if_pos hmem, if_neg (fun h => h.2 hmem)]
          · rw [if_neg hmem, if_pos ⟨hdeclared, hmem⟩]
            rfl
        · refine ⟨"", fun earlier name => ?_⟩
          rw [lift_other (by simpa using hdeclared) hlayer, if_neg (fun h => hdeclared h.1)]

/-- A model with its declared core replaced by a reference to an anonymous model at the pointer of
the core, and otherwise the same. -/
inductive LiftsTo (anonymous : List Model) : Model → Model → Prop where
  /-- Nothing is lifted out of nothing. -/
  | absent : LiftsTo anonymous .absent .absent
  /-- A model that needs a declaration is replaced. -/
  | declared {m a : Model} (h : m.isDeclared = true) (ha : a ∈ anonymous)
      (hpointer : a.pointer = m.pointer) :
      LiftsTo anonymous m (referenceTo a.pointer a.pointer)
  /-- A primitive type or a reference stays. -/
  | leaf {t : Traits} (h : t.kind = .generic ∨ t.kind = .reference) :
      LiftsTo anonymous (.leaf t) (.leaf t)
  /-- An array or a dictionary stays around what is lifted inside it. -/
  | layer {t : Traits} {i i' : Model} (h : t.kind = .array ∨ t.kind = .dictionary)
      (hi : LiftsTo anonymous i i') : LiftsTo anonymous (.node t [] i []) (.node t [] i' [])

/-- The sorts of nodes that an operation keeps. -/
def undeclaredKinds : List Kind :=
  [.generic, .array, .dictionary, .reference]

variable {anonymous : List Model} {m m' : Model}

/-- Nothing that needs a declaration is left, at any depth. -/
theorem LiftsTo.kind_mem (h : LiftsTo anonymous m m') :
    ∀ t ∈ m'.nodes, t.kind ∈ undeclaredKinds := by
  induction h with
  | absent => exact fun _ ht => absurd ht List.not_mem_nil
  | declared => exact List.forall_mem_singleton.2 (by simp [undeclaredKinds])
  | leaf h =>
      refine List.forall_mem_singleton.2 ?_
      rcases h with h | h <;> simp [undeclaredKinds, h]
  | @layer t i i' h _ ih =>
      rw [nodes_node, List.flatMap_nil, List.flatMap_nil, List.nil_append, List.append_nil]
      refine List.forall_mem_cons.2 ⟨?_, ih⟩
      rcases h with h | h <;> simp [undeclaredKinds, h]

/-- A declared core leaves a reference to its pointer. -/
theorem LiftsTo.exists_reference (h : LiftsTo anonymous m m') (hcore : m.core.isDeclared = true) :
    ∃ t ∈ m'.referenceNodes, t.target = m.core.pointer := by
  induction h with
  | absent => cases hcore
  | declared h _ hpointer =>
      exact ⟨_, List.mem_singleton_self _, by rw [core_of_isDeclared h, ← hpointer]⟩
  | leaf h =>
      rw [core_leaf h] at hcore
      rcases h with h | h <;>
        simp [isDeclared, Model.leaf, kind, traits, h, Kind.isComposition] at hcore
  | @layer t i i' h _ ih =>
      rw [core_layer h] at hcore ⊢
      obtain ⟨r, hr, htarget⟩ := ih hcore
      refine ⟨r, ?_, htarget⟩
      obtain ⟨hmem, hreference⟩ := List.mem_filter.1 hr
      refine List.mem_filter.2 ⟨?_, hreference⟩
      simp [nodes_node, hmem]

/-- A layered model is lifted when the anonymous models hold its core, if that is declared. -/
theorem Layered.liftsTo {pointer : String} (h : Layered pointer m)
    (hheld : m.core.isDeclared = true → m.core.pointer ∈ anonymous.map Model.pointer) :
    LiftsTo anonymous m m.lifted := by
  -- the items of a layer are lifted on their own
  have hlayer : ∀ {t : Traits} {i : Model}, t.kind = .array ∨ t.kind = .dictionary →
      (node t [] i []).lifted = node t [] i.lifted [] := by
    intro t i hkind
    obtain ⟨suffix, hlift⟩ := lift_layer hkind [] i []
    rw [lifted, hlift, i.lift_fst [] [] _ ""]
    rfl
  induction h with
  | @declared pointer m _ h =>
      rw [core_of_isDeclared h] at hheld
      obtain ⟨a, ha, hpointer⟩ := List.mem_map.1 (hheld h)
      cases m with
      | absent => cases h
      | node t ps i ms =>
          have hreplaced : LiftsTo anonymous _ _ := .declared h ha hpointer
          rw [lifted, lift_declared h]
          rwa [hpointer] at hreplaced
  | @leaf pointer t _ h =>
      have hself : (Model.leaf t).lifted = Model.leaf t := by
        have hplain : (Model.leaf t).isDeclared = false := by
          rcases h with h | h <;>
            simp [isDeclared, Model.leaf, kind, traits, h, Kind.isComposition]
        have hkind : ¬ (t.kind = .array ∨ t.kind = .dictionary) := by
          rcases h with h | h <;> simp [h]
        exact congrArg Prod.fst (lift_other hplain hkind [] "")
      rw [hself]
      exact .leaf h
  | array _ h _ ih =>
      rw [core_layer (.inl h)] at hheld
      rw [hlayer (.inl h)]
      exact .layer (.inl h) (ih hheld)
  | dictionary _ h _ ih =>
      rw [core_layer (.inr h)] at hheld
      rw [hlayer (.inr h)]
      exact .layer (.inr h) (ih hheld)

end Model

/-- Lifting the models `ms` turns the anonymous models `earlier` into `later`. -/
structure Gathers (ms earlier later : List Model) : Prop where
  /-- What was there stays. -/
  kept : ∀ a ∈ earlier, a ∈ later
  /-- Pointers stay distinct. -/
  nodup : (earlier.map Model.pointer).Nodup → (later.map Model.pointer).Nodup
  /-- What is added is the core of one of the models, and needs a declaration. -/
  source : ∀ a ∈ later, a ∈ earlier ∨
    ∃ m ∈ ms, m.core.isDeclared = true ∧ ∃ name, a = m.core.madeAnonymous name
  /-- A core that needs a declaration is there. -/
  held : ∀ m ∈ ms, m.core.isDeclared = true → m.core.pointer ∈ later.map Model.pointer

namespace Gathers

variable {ms ns earlier between later : List Model}

theorem nil (earlier : List Model) : Gathers [] earlier earlier where
  kept := fun _ ha => ha
  nodup := id
  source := fun _ ha => .inl ha
  held := fun _ hm => absurd hm List.not_mem_nil

/-- Models are lifted one after the other. -/
theorem trans (h : Gathers ms earlier between) (h' : Gathers ns between later) :
    Gathers (ms ++ ns) earlier later where
  kept := fun a ha => h'.kept a (h.kept a ha)
  nodup := fun hnodup => h'.nodup (h.nodup hnodup)
  source := by
    intro a ha
    rcases h'.source a ha with ha | ⟨m, hm, hsource⟩
    · rcases h.source a ha with ha | ⟨m, hm, hsource⟩
      · exact .inl ha
      · exact .inr ⟨m, List.mem_append_left _ hm, hsource⟩
    · exact .inr ⟨m, List.mem_append_right _ hm, hsource⟩
  held := by
    intro m hm hcore
    rcases List.mem_append.1 hm with hm | hm
    · obtain ⟨a, ha, hpointer⟩ := List.mem_map.1 (h.held m hm hcore)
      exact hpointer ▸ List.mem_map_of_mem (h'.kept a ha)
    · exact h'.held m hm hcore

/-- The order of the models does not matter for what is known of the list. -/
theorem of_mem_iff (h : Gathers ms earlier later) (hmem : ∀ m, m ∈ ms ↔ m ∈ ns) :
    Gathers ns earlier later where
  kept := h.kept
  nodup := h.nodup
  source := by simpa only [hmem] using h.source
  held := fun m hm => h.held m ((hmem m).2 hm)

/-- One model adds its core, if it needs a declaration and its pointer is not there. -/
theorem lift (m : Model) (earlier : List Model) (name : String) :
    Gathers [m] earlier (m.lift earlier name).2 := by
  obtain ⟨suffix, hlift⟩ := m.lift_snd
  rw [hlift]
  split
  case isTrue hadded =>
    refine ⟨fun a ha => List.mem_append_left _ ha, fun hnodup => ?_, fun a ha => ?_, ?_⟩
    · rw [List.map_append, List.map_singleton, Model.pointer_madeAnonymous]
      exact List.concat_eq_append ▸ hnodup.concat hadded.2
    · refine (List.mem_append.1 ha).imp_right (fun ha => ?_)
      exact ⟨m, List.mem_singleton_self m, hadded.1, _, List.mem_singleton.1 ha⟩
    · refine List.forall_mem_singleton.2 (fun _ => ?_)
      simp
  case isFalse hkept =>
    refine ⟨fun _ ha => ha, id, fun a ha => .inl ha, List.forall_mem_singleton.2 (fun hcore => ?_)⟩
    by_contra hmissing
    exact hkept ⟨hcore, hmissing⟩

end Gathers

namespace Operation

/-- A choice of parameters that does not look at their models. -/
def IgnoresModels (early : Parameter → Bool) : Prop :=
  ∀ p model, early { p with model } = early p

/-- The chosen parameters have their models lifted. -/
theorem liftParameters_eq_map (chosen : Parameter → Bool) (name : String) (earlier : List Model)
    (ps : List Parameter) :
    (liftParameters chosen name earlier ps).1 =
      ps.map (fun p => if chosen p then { p with model := p.model.lifted } else p) := by
  induction ps generalizing earlier with
  | nil => rfl
  | cons p rest ih =>
      simp only [liftParameters, List.map_cons]
      split
      · rw [ih, p.model.lift_fst _ [] _ ""]
        rfl
      · rw [ih]

theorem gathers_liftParameters (chosen : Parameter → Bool) (name : String) (earlier : List Model)
    (ps : List Parameter) :
    Gathers ((ps.filter chosen).map Parameter.model) earlier
      (liftParameters chosen name earlier ps).2 := by
  induction ps generalizing earlier with
  | nil => exact .nil earlier
  | cons p rest ih =>
      simp only [liftParameters, List.filter_cons]
      split
      · exact (Gathers.lift p.model earlier _).trans (ih _)
      · exact ih earlier

theorem liftResults_eq_map (name : String) (earlier : List Model) (rs : List Result) :
    (liftResults name earlier rs).1 = rs.map (fun r => { r with model := r.model.lifted }) := by
  induction rs generalizing earlier with
  | nil => rfl
  | cons r rest ih =>
      simp only [liftResults, List.map_cons]
      rw [ih, r.model.lift_fst _ [] _ ""]
      rfl

theorem gathers_liftResults (name : String) (earlier : List Model) (rs : List Result) :
    Gathers (rs.map Result.model) earlier (liftResults name earlier rs).2 := by
  induction rs generalizing earlier with
  | nil => exact .nil earlier
  | cons r rest ih => exact (Gathers.lift r.model earlier _).trans (ih _)

variable {early : Parameter → Bool}

/-- In two turns every parameter is chosen once. -/
theorem liftParameters_twice (hearly : IgnoresModels early) (name : String)
    (earlier between : List Model) (ps : List Parameter) :
    (liftParameters (fun p => !early p) name between
        (liftParameters early name earlier ps).1).1 =
      ps.map (fun p => { p with model := p.model.lifted }) := by
  rw [liftParameters_eq_map, liftParameters_eq_map, List.map_map]
  refine List.map_congr_left (fun p _ => ?_)
  by_cases hchosen : early p = true
  · simp [hchosen, hearly p]
  · simp [hchosen]

/-- Lifting changes every model of an operation and nothing else. -/
theorem lift_eq_mapModels (hearly : IgnoresModels early) (earlier : List Model)
    (op : Operation) : (op.lift early earlier).1 = op.mapModels Model.lifted := by
  simp only [lift, mapModels]
  rw [liftParameters_twice hearly, liftResults_eq_map]

/-- An operation adds what its models add. -/
theorem gathers_lift (hearly : IgnoresModels early) (earlier : List Model) (op : Operation) :
    Gathers op.models earlier (op.lift early earlier).2 := by
  have hfirst := gathers_liftParameters early op.sourceName earlier op.parameters
  have hsecond := gathers_liftParameters (fun p => !early p) op.sourceName
    (liftParameters early op.sourceName earlier op.parameters).2
    (liftParameters early op.sourceName earlier op.parameters).1
  have hresults := gathers_liftResults op.sourceName
    (liftParameters (fun p => !early p) op.sourceName
      (liftParameters early op.sourceName earlier op.parameters).2
      (liftParameters early op.sourceName earlier op.parameters).1).2 op.results
  -- the first turn does not change the parameters that are left for the second
  have hleft : ((liftParameters early op.sourceName earlier op.parameters).1.filter
        (fun p => !early p)).map Parameter.model =
      (op.parameters.filter (fun p => !early p)).map Parameter.model := by
    rw [liftParameters_eq_map, List.filter_map]
    have hsame : ∀ p, ((fun p => !early p) ∘ fun p =>
        if early p then { p with model := p.model.lifted } else p) p = !early p := by
      intro p
      by_cases hchosen : early p = true
      · simp [hchosen, hearly p]
      · simp [hchosen]
    rw [funext hsame, List.map_map]
    refine List.map_congr_left (fun p hp => ?_)
    have hchosen : early p = false := by simpa using (List.mem_filter.1 hp).2
    simp [hchosen]
  rw [hleft] at hsecond
  refine ((hfirst.trans hsecond).trans hresults).of_mem_iff (fun m => ?_)
  simp only [models, List.mem_append, List.mem_map, List.mem_filter, Bool.not_eq_true']
  constructor
  · rintro ((⟨p, ⟨hp, -⟩, hm⟩ | ⟨p, ⟨hp, -⟩, hm⟩) | hr)
    · exact .inl ⟨p, hp, hm⟩
    · exact .inl ⟨p, hp, hm⟩
    · exact .inr hr
  · rintro (⟨p, hp, hm⟩ | hr)
    · cases hchosen : early p with
      | true => exact .inl (.inl ⟨p, ⟨hp, hchosen⟩, hm⟩)
      | false => exact .inl (.inr ⟨p, ⟨hp, hchosen⟩, hm⟩)
    · exact .inr hr

/-- Operations add what their models add. -/
theorem gathers_liftAll (hearly : IgnoresModels early) (earlier : List Model)
    (ops : List Operation) :
    Gathers (ops.flatMap Operation.models) earlier (liftAll early earlier ops).2 := by
  induction ops generalizing earlier with
  | nil => exact .nil earlier
  | cons op rest ih => exact (gathers_lift hearly earlier op).trans (ih _)

end Operation

/-- Neither version looks at models to choose what is lifted first. -/
theorem Version.early_ignoresModels (version : Version) :
    Operation.IgnoresModels version.early := by
  cases version with
  | v2 => exact fun _ _ => rfl
  | v3 => exact fun _ _ => rfl

namespace Draft

/-- A draft whose operations are `ops` with models lifted out of them. -/
structure LiftedFrom (ops : List Operation) (d : Draft) : Prop where
  /-- The services hold the operations, each with its models lifted. -/
  filed : Filed d.services (ops.map (Operation.mapModels Model.lifted))
  /-- At any depth the models of operations are primitive types, arrays, dictionaries and
  references. -/
  kind_mem : ∀ op ∈ d.operations, ∀ t ∈ op.nodes, t.kind ∈ Model.undeclaredKinds
  /-- The anonymous models follow the others. -/
  models_eq : d.models =
    d.models.filter (fun m => !m.anonymous) ++ d.models.filter Model.anonymous
  /-- The pointers of the anonymous models are distinct. -/
  nodup : ((d.models.filter Model.anonymous).map Model.pointer).Nodup
  /-- A model was replaced by a reference to an anonymous model, or nothing was to replace. -/
  liftsTo : ∀ op ∈ ops, ∀ m ∈ op.models,
    Model.LiftsTo (d.models.filter Model.anonymous) m m.lifted
  /-- An operation refers to every anonymous model. -/
  targeted : ∀ a ∈ d.models, a.anonymous = true →
    ∃ op ∈ d.operations, ∃ t ∈ op.referenceNodes, t.target = a.pointer

variable {version : Version} {filter : TagFilter} {doc : Value} {ops : List Operation} {d : Draft}

/-- The named models are not anonymous. -/
theorem anonymous_of_mem_namedOf {m : Model} (h : m ∈ (namedOf version doc).map Prod.fst) :
    m.anonymous = false := by
  rw [models_namedOf] at h
  obtain ⟨e, -, rfl⟩ := List.mem_map.1 h
  exact anonymous_namedModel version doc e.1 e.2

namespace Assembled

/-- The anonymous models of a draft are those that were lifted out of its operations. -/
theorem filter_anonymous (h : Assembled version filter doc ops d) :
    d.models.filter Model.anonymous = (Operation.liftAll version.early [] ops).2 := by
  have hnamed : ((namedOf version doc).map Prod.fst).filter Model.anonymous = [] :=
    List.filter_eq_nil_iff.2 (fun m hm => by simp [anonymous_of_mem_namedOf hm])
  have hlifted := Operation.liftAll_anonymous version.early
    (fun _ hm => absurd hm List.not_mem_nil) ops
  rw [h.models_eq, List.filter_append, hnamed, List.nil_append, List.filter_eq_self.2 hlifted]

/-- The other models are the named ones. -/
theorem filter_named (h : Assembled version filter doc ops d) :
    d.models.filter (fun m => !m.anonymous) = (namedOf version doc).map Prod.fst := by
  have hnamed : ∀ m ∈ (namedOf version doc).map Prod.fst, (!m.anonymous) = true :=
    fun m hm => by rw [anonymous_of_mem_namedOf hm]; rfl
  have hlifted : (Operation.liftAll version.early [] ops).2.filter (fun m => !m.anonymous) = [] :=
    List.filter_eq_nil_iff.2 (fun m hm => by
      simp [Operation.liftAll_anonymous version.early
        (fun _ hm => absurd hm List.not_mem_nil) ops m hm])
  rw [h.models_eq, List.filter_append, hlifted, List.append_nil, List.filter_eq_self.2 hnamed]

/-- What the operations of a draft have gathered. -/
theorem gathers (h : Assembled version filter doc ops d) :
    Gathers (ops.flatMap Operation.models) [] (d.models.filter Model.anonymous) :=
  h.filter_anonymous ▸ Operation.gathers_liftAll version.early_ignoresModels [] ops

/-- Each model inside an operation has been lifted. -/
theorem liftsTo (h : Assembled version filter doc ops d) :
    ∀ op ∈ ops, ∀ m ∈ op.models, Model.LiftsTo (d.models.filter Model.anonymous) m m.lifted := by
  intro op hop m hm
  rcases (Version.operations_source h.operations_eq op hop m hm).layered with rfl | ⟨pointer, hm'⟩
  · exact .absent
  · exact hm'.liftsTo (h.gathers.held m (List.mem_flatMap.2 ⟨op, hop, hm⟩))

/-- The services hold the operations, each with its models lifted. -/
theorem filed (h : Assembled version filter doc ops d) :
    Filed d.services (ops.map (Operation.mapModels Model.lifted)) := by
  have hlift : (Operation.liftAll version.early [] ops).1 =
      ops.map (Operation.mapModels Model.lifted) := by
    rw [Operation.liftAll_fst]
    exact List.map_congr_left
      (fun op _ => Operation.lift_eq_mapModels version.early_ignoresModels [] op)
  rw [h.services_eq, hlift]
  exact filed_ofOperations _

/-- An operation of the draft is one of the operations, with its models lifted. -/
theorem mem_operations_iff (h : Assembled version filter doc ops d) {op : Operation} :
    op ∈ d.operations ↔ ∃ op' ∈ ops, op'.mapModels Model.lifted = op := by
  rw [operations, h.filed.perm.mem_iff, List.mem_map]

/-- A draft that is put together has models lifted out of its operations. -/
theorem liftedFrom (h : Assembled version filter doc ops d) : LiftedFrom ops d where
  filed := h.filed
  kind_mem := by
    intro op hop t ht
    obtain ⟨before, hbefore, rfl⟩ := h.mem_operations_iff.1 hop
    rw [Operation.nodes, Operation.models_mapModels, List.flatMap_map] at ht
    obtain ⟨m, hm, ht⟩ := List.mem_flatMap.1 ht
    exact (h.liftsTo before hbefore m hm).kind_mem t ht
  models_eq := by rw [h.filter_anonymous, h.filter_named, ← h.models_eq]
  nodup := h.gathers.nodup List.nodup_nil
  liftsTo := h.liftsTo
  targeted := by
    intro a ha hanonymous
    rcases h.gathers.source a (List.mem_filter.2 ⟨ha, hanonymous⟩) with ha | ⟨m, hm, hcore, _, rfl⟩
    · cases ha
    · obtain ⟨op, hop, hm⟩ := List.mem_flatMap.1 hm
      obtain ⟨t, ht, htarget⟩ := (h.liftsTo op hop m hm).exists_reference hcore
      refine ⟨op.mapModels Model.lifted, h.mem_operations_iff.2 ⟨op, hop, rfl⟩, t, ?_, ?_⟩
      · rw [Operation.referenceNodes, Operation.models_mapModels]
        exact List.mem_flatMap.2 ⟨m.lifted, List.mem_map_of_mem hm, ht⟩
      · rw [htarget, Model.pointer_madeAnonymous]

end Assembled

/-- Every draft of a document has models lifted out of the operations that the document
describes. -/
theorem ofDocument_liftedFrom (h : ofDocument filter doc = .ok d) :
    ∃ ops, unlifted filter doc = .ok ops ∧ LiftedFrom ops d := by
  obtain ⟨version, ops, hversion, hassembled⟩ := exists_assembled h
  refine ⟨ops, ?_, hassembled.liftedFrom⟩
  rw [unlifted, hversion]
  exact hassembled.operations_eq

/-- A document with one call, which returns an array of dictionaries of objects and takes an enum
that it shares with other calls of its path. -/
def shelved : Value :=
  .mapping
    [("info", .mapping [("title", .text "pets"), ("version", .text "1")]),
     ("openapi", .text "3.0.0"),
     ("paths", .mapping [("/pets", .mapping
       [("get", .mapping [("responses", .mapping [("200", .mapping
          [("content", .mapping [("application/json", .mapping [("schema", .mapping
             [("items", .mapping
                [("additionalProperties", .mapping
                   [("properties", .mapping [("id", .mapping [("type", .text "string")])]),
                    ("type", .text "object")]),
                 ("type", .text "object")]),
              ("type", .text "array")])])]),
           ("description", .text "ok")])])]),
        ("parameters", .list [.mapping
          [("in", .text "query"), ("name", .text "sort"),
           ("schema", .mapping [("enum", .list [.text "up"]), ("type", .text "string")])]])])])]

/-- The enum and the innermost objects of `shelved` become anonymous models, as
`ofDocument_liftedFrom` says. -/
theorem ofDocument_liftedFrom_shelved :
    ∃ d ops, ofDocument {} shelved = .ok d ∧
      d.models.map Model.pointer =
        ["#/paths/~1pets/parameters/0/schema",
         "#/paths/~1pets/get/responses/200/content/application~1json/schema" ++
           "/items/additionalProperties"] ∧
      unlifted {} shelved = .ok ops ∧ LiftedFrom ops d := by
  have hd : (ofDocument {} shelved).toOption.map (fun d => d.models.map Model.pointer) = some
      ["#/paths/~1pets/parameters/0/schema",
       "#/paths/~1pets/get/responses/200/content/application~1json/schema" ++
         "/items/additionalProperties"] := by decide +kernel
  obtain ⟨d, hd, hpointers⟩ := Option.map_eq_some_iff.1 hd
  obtain ⟨ops, hops, hlifted⟩ := ofDocument_liftedFrom (eq_ok_of_toOption hd)
  exact ⟨d, ops, eq_ok_of_toOption hd, hpointers, hops, hlifted⟩

end Draft

end TypedClient
