import TypedClient.Proofs.Draft.Filtering
import TypedClient.Proofs.Draft.Pipeline
import TypedClient.Proofs.Draft.Told
import TypedClient.Proofs.Naming.Binding
import TypedClient.Proofs.Naming.Member
import TypedClient.Proofs.TypeScript.ModelType
import TypedClient.Proofs.TypeScript.Outline

/-!
# Names in the code of a client

The code of a client has names outside of its literals: those of models, services, operations,
parameters and enum members, the keys of properties, and the verbs of requests, which stand between
quotes as they are. `spelled_ofDocument` says that none of them brings in what a description may
have in its texts.
-/

namespace TypedClient

namespace Model

variable {m n k : Model}

/-- The nodes of a part are nodes of the model. -/
theorem nodes_subset_of_mem_parts (h : k ∈ m.parts) : k.nodes ⊆ m.nodes := by
  cases m with
  | absent => exact absurd h List.not_mem_nil
  | node t ps i ms =>
      intro u hu
      rw [nodes_node]
      rw [parts] at h
      simp only [List.mem_cons, List.mem_append, List.mem_flatMap]
      split at h
      · rw [List.mem_singleton.1 h] at hu
        exact .inr (.inl (.inr hu))
      · rw [List.mem_singleton.1 h] at hu
        exact .inr (.inl (.inr hu))
      · exact .inr (.inr ⟨k, h, hu⟩)
      · exact .inr (.inr ⟨k, h, hu⟩)
      · exact .inr (.inr ⟨k, h, hu⟩)
      · obtain ⟨p, hp, rfl⟩ := List.mem_map.1 h
        exact .inr (.inl (.inl ⟨p, hp, hu⟩))
      · exact absurd h List.not_mem_nil

/-- The parts of a model change with it. -/
theorem parts_mapNodes {f : Traits → Traits} (key : Traits → String → String → String)
    (hkind : ∀ t, (f t).kind = t.kind) (m : Model) :
    (m.mapNodes f key).parts = m.parts.map (mapNodes f key) := by
  cases m with
  | absent => rfl
  | node t ps i ms =>
      rw [mapNodes_node, parts, parts, hkind]
      split <;> simp

theorem parts_modify {f : Traits → Traits} (hkind : ∀ t, (f t).kind = t.kind) (m : Model) :
    (m.modify f).parts = m.parts := by
  cases m with
  | absent => rfl
  | node t ps i ms => rw [modify, parts, parts, hkind]

/-- The interfaces in the type expression of a model have the keys that the names of their
properties ask for. -/
def Keyed (m : Model) : Prop :=
  ∀ n, m.Within n → n.kind = .interface →
    ∀ p ∈ n.properties, p.exportName = Naming.propertyKey p.name

theorem keyed_iff : m.Keyed ↔
    (m.kind = .interface → ∀ p ∈ m.properties, p.exportName = Naming.propertyKey p.name) ∧
      ∀ k ∈ m.parts, k.Keyed :=
  forall_within_iff

theorem keyed_modify {f : Traits → Traits} (hkind : ∀ t, (f t).kind = t.kind) :
    (m.modify f).Keyed ↔ m.Keyed := by
  rw [keyed_iff, keyed_iff, parts_modify hkind]
  cases m with
  | absent => rfl
  | node t ps i ms => simp only [modify, kind, traits, properties, hkind]

/-- Naming gives properties their keys. -/
theorem keyed_nameModel (table : NameTable) (m : Model) : (Draft.nameModel table m).Keyed := by
  have hkind : ∀ t, (Draft.nameNode table t).kind = t.kind :=
    Draft.nameNode_part table Traits.kind (fun _ _ => rfl) (fun _ _ => rfl)
  induction m using parts_induction with
  | h m ih =>
      rw [keyed_iff, Draft.nameModel, parts_mapNodes _ hkind, List.forall_mem_map]
      refine ⟨fun hinterface p hp => ?_, ih⟩
      cases m with
      | absent => exact absurd hp List.not_mem_nil
      | node t ps i ms =>
          rw [mapNodes_node] at hinterface hp
          obtain ⟨p, -, rfl⟩ := List.mem_map.1 hp
          have hnode : t.kind = .interface := (hkind t).symm.trans hinterface
          exact if_pos hnode

/-- The names in the type expression of a model are as the code needs them. -/
structure Spelled (m : Model) : Prop where
  keyed : m.Keyed
  target : ∀ t ∈ m.referenceNodes, Naming.isTypeName t.target = true

theorem Spelled.of_mem_parts (h : m.Spelled) (hk : k ∈ m.parts) : k.Spelled where
  keyed := (keyed_iff.1 h.keyed).2 k hk
  target t ht := by
    obtain ⟨hnode, href⟩ := List.mem_filter.1 ht
    exact h.target t (List.mem_filter.2 ⟨nodes_subset_of_mem_parts hk hnode, href⟩)

end Model

namespace Naming

open TypeScript (IsCode isCode isCode_of_test isCode_of_isWord isCode_number)

variable {s : String}

/-- What is made of a number for the name of a member is code when the number is. -/
theorem isCode_enumKeyOfNumber (h : IsCode s) : IsCode (enumKeyOfNumber s) := by
  intro c hc
  rw [enumKeyOfNumber, String.toList_ofList] at hc
  rcases List.mem_cons.1 hc with rfl | hc
  · decide
  obtain ⟨d, hd, hc⟩ := List.mem_flatMap.1 hc
  split at hc
  · exact (by decide : IsCode "MINUS_") c hc
  · split at hc
    · rw [List.mem_singleton.1 hc]
      decide
    · rw [List.mem_singleton.1 hc]
      exact h d hd

theorem isCode_enumKeyOfText (s : String) : IsCode (enumKeyOfText s) := by
  have hchars : ∀ c ∈ enumKeyChars false false false s.toList, isCode c = true := fun c hc =>
    isCode_of_test (by decide) (continuesMember_of_mem_enumKeyChars _ _ _ _ c hc)
  unfold enumKeyOfText
  generalize enumKeyChars false false false s.toList = cs at hchars
  cases cs with
  | nil => decide
  | cons c cs =>
      intro d hd
      dsimp only at hd
      rw [String.toList_ofList] at hd
      split at hd
      · rcases List.mem_cons.1 hd with rfl | hd
        · decide
        · exact hchars d hd
      · exact hchars d hd

/-- The name that a member asks for is code, whatever its value is. -/
theorem isCode_memberBase (e : EnumMember) : IsCode (memberBase e) := by
  unfold memberBase
  split
  · unfold enumKey
    split
    · decide
    · split <;> decide
    · exact isCode_enumKeyOfNumber (isCode_number _ _)
    · exact isCode_enumKeyOfNumber (isCode_of_isWord (TypeScript.isWord_int _))
    · exact isCode_enumKeyOfText _
  · split
    case isTrue hname => exact isCode_of_isWord (TypeScript.isWord_of_isIdentifier hname)
    case isFalse => exact isCode_enumKeyOfText _

theorem NumberedFrom.isCode {base name : String} (h : NumberedFrom base name)
    (hbase : IsCode base) : IsCode name := by
  obtain ⟨more, rfl, hmore⟩ := h.exists_digits
  exact hbase.append (fun c hc => isCode_of_test (by decide) (hmore c hc))

theorem isCode_nameMembers (members : List EnumMember) :
    ∀ e ∈ nameMembers members, IsCode e.name := by
  intro e he
  obtain ⟨e', -, hname⟩ := exists_left_of_forall₂ (forall₂_nameMembers members) he
  exact hname.isCode (isCode_memberBase e')

end Naming

/-! ## Verbs -/

/-- Calls that are read for methods have one of them. -/
theorem Method.mem_of_call {O : Type} {methods : List Method} {read : Method → Option O}
    {c : Method × O} (h : c ∈ methods.filterMap (fun m => (read m).map (fun o => (m, o)))) :
    c.1 ∈ methods := by
  obtain ⟨m, hm, hc⟩ := List.mem_filterMap.1 h
  obtain ⟨o, -, rfl⟩ := Option.map_eq_some_iff.1 hc
  exact hm

theorem V2.Document.method_mem {doc : Value} {es : Dict Value} {filter : TagFilter}
    {ops : List TypedClient.Operation}
    (h : (Document.ofEntries es).operations doc filter = .ok ops) :
    ∀ op ∈ ops, op.method ∈ Method.known := by
  have hknown : V2.methods ⊆ Method.known := by decide
  rw [Document.operations_eq] at h
  refine forall_mem_draftedPaths (fun path item ops hmem hitem op hop => ?_) h
  obtain ⟨read, rfl⟩ := exists_of_mem_optional hmem
  obtain ⟨⟨settled, pointer⟩, hsettled, hcalls⟩ :=
    bind_eq_ok_iff.1 (PathItem.drafted_eq .. ▸ hitem)
  obtain ⟨found, rfl⟩ := exists_of_settledItem hsettled
  obtain ⟨c, -, hc, hdrafted⟩ := exists_left_of_forall₂ (forall₂_of_mapM hcalls) hop
  have hcall := (List.mem_filter.1 hc).1
  dsimp only [PathItem.ofEntries] at hcall
  rw [(Operation.drafted_call hdrafted).2.1]
  exact hknown (Method.mem_of_call hcall)

theorem V3.Document.method_mem {doc : Value} {es : Dict Value} {filter : TagFilter}
    {ops : List TypedClient.Operation}
    (h : (Document.ofEntries es).operations doc filter = .ok ops) :
    ∀ op ∈ ops, op.method ∈ Method.known := by
  rw [Document.operations_eq] at h
  refine forall_mem_draftedPaths (fun path item ops hmem hitem op hop => ?_) h
  obtain ⟨read, rfl⟩ := exists_of_mem_optional hmem
  obtain ⟨⟨settled, pointer⟩, hsettled, hitem⟩ :=
    bind_eq_ok_iff.1 (PathItem.drafted_eq .. ▸ hitem)
  obtain ⟨found, rfl⟩ := exists_of_settledItem hsettled
  obtain ⟨shared, -, hcalls⟩ := bind_eq_ok_iff.1 hitem
  obtain ⟨c, -, hc, hdrafted⟩ := exists_left_of_forall₂ (forall₂_of_mapM hcalls) hop
  have hcall := (List.mem_filter.1 hc).1
  dsimp only [PathItem.ofEntries] at hcall
  rw [(Operation.drafted_call hdrafted).2.1]
  exact Method.mem_of_call hcall

/-- The verbs of the operations of a draft are known. -/
theorem Draft.Assembled.method_mem {version : Version} {filter : TagFilter} {doc : Value}
    {ops : List Operation} {d : Draft} (h : Assembled version filter doc ops d) :
    ∀ op ∈ d.operations, op.method ∈ Method.known := by
  intro op hop
  obtain ⟨before, hbefore, rfl⟩ := h.mem_operations_iff.1 hop
  have hops := h.operations_eq
  cases version with
  | v2 => exact V2.Document.method_mem hops before hbefore
  | v3 => exact V3.Document.method_mem hops before hbefore

/-! ## Clients -/

/-- The names in the method of an operation are as the code needs them. -/
structure Operation.Spelled (op : Operation) : Prop where
  method : op.method ∈ Method.known
  name : Naming.isBindingName op.name = true
  parameter : ∀ p ∈ op.parameters, Naming.isBindingName p.exportName = true
  model : ∀ m ∈ op.models, m.Spelled

/-- The names in the code of a service are as the code needs them. -/
structure Service.Spelled (s : Service) : Prop where
  name : Naming.isTypeName s.name = true
  imported : ∀ name ∈ s.imports, Naming.isTypeName name = true
  operation : ∀ op ∈ s.operations, op.Spelled

/-- The names in the file of a model are as the code needs them. -/
structure Model.Declared (m : Model) : Prop extends m.Spelled where
  name : Naming.isTypeName m.name = true
  imported : ∀ name ∈ m.traits.imports, Naming.isTypeName name = true
  member : m.kind = .enum → ∀ e ∈ m.traits.enum, TypeScript.IsCode e.name

/-- The names in the code of a client are as the code needs them. -/
structure Client.Spelled (c : Client) : Prop where
  model : ∀ m ∈ c.models, m.Declared
  service : ∀ s ∈ c.services, s.Spelled
  schema : ∀ s ∈ c.schemas, Naming.isTypeName s.name = true

namespace Draft

variable {d named : Draft}

/-- Every model of a named draft is keyed. -/
theorem keyed_named (h : d.named = .ok named) :
    (∀ m ∈ named.models, m.Keyed) ∧
      ∀ s ∈ named.services, ∀ op ∈ s.operations, ∀ m ∈ op.models, m.Keyed := by
  constructor
  · intro m hm
    have hkeyed : named.models.map Model.Keyed =
        d.models.map (fun m => (nameModel d.nameTable m).Keyed) :=
      map_models_named h Model.Keyed (fun m name => propext (Model.keyed_modify (fun _ => rfl)))
    have hmem : m.Keyed ∈ named.models.map Model.Keyed := List.mem_map_of_mem hm
    rw [hkeyed] at hmem
    obtain ⟨n, -, hn⟩ := List.mem_map.1 hmem
    rw [← hn]
    exact Model.keyed_nameModel _ _
  · intro s hs op hop m hm
    obtain ⟨-, rfl⟩ := named_eq_ok_iff.1 h
    have hmem := List.mem_map_of_mem (f := fun s => s.operations.map Operation.models) hs
    rw [models_nameServices, services_mapModels, List.map_map] at hmem
    obtain ⟨u, -, hu⟩ := List.mem_map.1 hmem
    have hmodels : op.models ∈ s.operations.map Operation.models := List.mem_map_of_mem hop
    rw [← hu, Function.comp_apply, List.map_map] at hmodels
    obtain ⟨before, -, hbefore⟩ := List.mem_map.1 hmodels
    rw [← hbefore, Function.comp_apply, Operation.models_mapModels] at hm
    obtain ⟨n, -, rfl⟩ := List.mem_map.1 hm
    exact Model.keyed_nameModel _ _

/-- The members of an enum of a named draft have names that are code. -/
theorem isCode_members_named (h : d.named = .ok named) {t : Traits} (ht : t ∈ named.nodes)
    (henum : t.kind = .enum) : ∀ e ∈ t.enum, TypeScript.IsCode e.name := by
  obtain ⟨u, -, -, hmembers⟩ := exists_enum_named h ht henum
  rw [hmembers]
  exact Naming.isCode_nameMembers u.enum

end Draft

namespace Client

open Draft

/-- The names in the code of the client of a document are as the code needs them. -/
theorem spelled_ofDocument {filter : TagFilter} {doc : Value} {c : Client}
    (h : Client.ofDocument filter doc = .ok c) : c.Spelled := by
  have hnames := wellNamed_ofDocument h
  obtain ⟨d, out, named, hd, hout, hnamed, rfl⟩ := ofDocument_eq_ok_iff.1 h
  obtain ⟨version, ops, -, hassembled⟩ := exists_assembled hd
  obtain ⟨-, hbinding⟩ := named_binding_names hnamed (hassembled.present_resolved hout)
  obtain ⟨hmodels, hservices⟩ := keyed_named hnamed
  have htarget : ∀ t : Traits, (∃ n ∈ named.finish.models, n.name = t.target) →
      Naming.isTypeName t.target = true := by
    rintro t ⟨n, hn, hname⟩
    rw [← hname]
    exact hnames.model_name n hn
  refine ⟨fun m hm => ?_, fun s hs => ?_, hnames.schema_name⟩
  · refine ⟨⟨?_, fun t ht => htarget t (hnames.model_target m hm t ht)⟩, hnames.model_name m hm,
      fun name hname => ?_, fun henum => ?_⟩
    · obtain ⟨k, hk, rfl⟩ := exists_of_mem_models hm
      have hkind : ∀ t : Traits,
          ({ t with imports := importsOf k.name k.referenceNodes } : Traits).kind = t.kind :=
        fun _ => rfl
      exact (Model.keyed_modify hkind).2 (hmodels k hk)
    · obtain ⟨-, hmem⟩ := (hnames.mem_model_imports m hm name).1 hname
      obtain ⟨t, ht, rfl⟩ := List.mem_map.1 hmem
      exact htarget t (hnames.model_target m hm t ht)
    · obtain ⟨k, hk, rfl⟩ := exists_of_mem_models hm
      cases k with
      | absent => cases henum
      | node t ps i ms =>
          have hnode : t ∈ named.nodes :=
            List.mem_append_left _ (List.mem_flatMap.2 ⟨_, hk, by rw [Model.nodes]; simp⟩)
          have hmembers : ∀ e ∈ t.enum, TypeScript.IsCode e.name :=
            isCode_members_named hnamed hnode henum
          exact hmembers
  · refine ⟨hnames.service_name s hs, fun name hname => ?_, fun op hop => ?_⟩
    · obtain ⟨t, ht, rfl⟩ := List.mem_map.1 ((hnames.mem_service_imports s hs name).1 hname)
      exact htarget t (hnames.service_target s hs t ht)
    · obtain ⟨before, hbefore, hmethod⟩ := exists_part Operation.isTold_method hout hnamed hs hop
      have htargets := hnames.service_target s hs
      obtain ⟨k, hk, rfl⟩ := exists_of_mem_services hs
      obtain ⟨-, hoperations⟩ := hbinding k hk
      obtain ⟨hname, hparameters⟩ := hoperations op hop
      refine ⟨hmethod ▸ hassembled.method_mem before hbefore, hname, hparameters, fun m hm => ?_⟩
      refine ⟨hservices k hk op hop m hm, fun t ht => htarget t (htargets t ?_)⟩
      exact List.mem_flatMap.2 ⟨op, hop, List.mem_flatMap.2 ⟨m, hm, ht⟩⟩

end Client

end TypedClient
