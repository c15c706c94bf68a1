import Mathlib.Data.List.Nodup
import TypedClient.Draft.Naming
import TypedClient.Proofs.Draft.Nodes
import TypedClient.Proofs.Naming.Alphabet

/-!
# Named drafts

What a named draft is made of, part by part, and `named_exports_nodup`: the names that the
generated code exports are pairwise distinct, and so are the names inside a service, an operation
and an enum.
-/

namespace TypedClient

section Lists

variable {α β γ δ : Type}

/-- Values that are put in, one for each item, can be taken out again. -/
theorem map_zipWith_put {put : α → β → γ} {get : γ → β} {items : List α} {values : List β}
    (h : ∀ a ∈ items, ∀ b, get (put a b) = b) (hlen : items.length = values.length) :
    (List.zipWith put items values).map get = values := by
  induction items generalizing values with
  | nil => exact (List.length_eq_zero_iff.1 hlen.symm) ▸ rfl
  | cons a items ih =>
      cases values with
      | nil => simp at hlen
      | cons b values =>
          rw [List.zipWith_cons_cons, List.map_cons, h a List.mem_cons_self,
            ih (fun a ha => h a (List.mem_cons_of_mem _ ha)) (by simpa using hlen)]

/-- What does not depend on the values that are put in stays. -/
theorem map_zipWith_keep {put : α → β → γ} {get : γ → δ} {old : α → δ} {items : List α}
    {values : List β} (h : ∀ a b, get (put a b) = old a) (hlen : items.length = values.length) :
    (List.zipWith put items values).map get = items.map old := by
  induction items generalizing values with
  | nil => rfl
  | cons a items ih =>
      cases values with
      | nil => simp at hlen
      | cons b values =>
          rw [List.zipWith_cons_cons, List.map_cons, List.map_cons, h, ih (by simpa using hlen)]

/-- The values of the items that pass a test, one item after the other. -/
theorem map_filter_eq_flatten (test : α → Bool) (value : α → β) (items : List α) :
    (items.filter test).map value =
      (items.map (fun a => if test a then [value a] else [])).flatten := by
  induction items with
  | nil => rfl
  | cons a items ih =>
      rw [List.filter_cons, List.map_cons, List.flatten_cons, ← ih]
      split <;> rfl

end Lists

namespace Naming

/-- The members of an enum are named one after the other. -/
theorem names_nameMembers (members : List EnumMember) :
    (nameMembers members).map EnumMember.name =
      (Namespace.reserveAll {} (members.map memberBase)).1 := by
  refine map_zipWith_put (fun _ _ _ => rfl) ?_
  rw [Namespace.length_reserveAll, List.length_map]

/-- The names of the members of an enum are distinct. -/
theorem nodup_nameMembers (members : List EnumMember) :
    ((nameMembers members).map EnumMember.name).Nodup := by
  rw [names_nameMembers]
  exact Namespace.nodup_reserveAll _

/-- The parameters of an operation are named one after the other. -/
theorem names_nameParameters (parameters : List Parameter) :
    (nameParameters parameters).map Parameter.exportName =
      (Namespace.reserveAll {} (parameters.map (fun p =>
        orElse (escapeReserved (camel p.name)) "param"))).1 := by
  refine map_zipWith_put (fun _ _ _ => rfl) ?_
  rw [Namespace.length_reserveAll, List.length_map]

/-- The names of the parameters of an operation are distinct. -/
theorem nodup_nameParameters (parameters : List Parameter) :
    ((nameParameters parameters).map Parameter.exportName).Nodup := by
  rw [names_nameParameters]
  exact Namespace.nodup_reserveAll _

/-- Naming parameters keeps their models. -/
theorem models_nameParameters (parameters : List Parameter) :
    (nameParameters parameters).map Parameter.model = parameters.map Parameter.model := by
  refine map_zipWith_keep (fun _ _ => rfl) ?_
  rw [Namespace.length_reserveAll, List.length_map]

/-- The operations of a service are named one after the other. -/
theorem names_namedOperations (operations : List Operation) :
    (namedOperations operations).map Operation.name =
      (Namespace.reserveAll {} (operations.map operationBase)).1 := by
  refine map_zipWith_put (fun _ _ _ => rfl) ?_
  rw [Namespace.length_reserveAll, List.length_map]

/-- The names of the operations of a service are distinct. -/
theorem nodup_namedOperations (operations : List Operation) :
    ((namedOperations operations).map Operation.name).Nodup := by
  rw [names_namedOperations]
  exact Namespace.nodup_reserveAll _

/-- The parameters of a named operation are named parameters. -/
theorem parameters_namedOperations (operations : List Operation) :
    (namedOperations operations).map Operation.parameters =
      operations.map (fun op => nameParameters op.parameters) := by
  refine map_zipWith_keep (fun _ _ => rfl) ?_
  rw [Namespace.length_reserveAll, List.length_map]

/-- Naming operations keeps their models. -/
theorem models_namedOperations (operations : List Operation) :
    (namedOperations operations).map Operation.models = operations.map Operation.models := by
  refine map_zipWith_keep (fun op _ => ?_) ?_
  · simp only [Operation.models, models_nameParameters]
  · rw [Namespace.length_reserveAll, List.length_map]

/-- Whether a service may not have a name: another service has it, or a model has the name of its
class. -/
def takenFor (models services : Namespace) (name : String) : Bool :=
  services.taken name || models.taken (name ++ "Service")

/-- What is taken for a service: its own name by a service, or the name of its class by a model. -/
theorem covered_service (models services : Namespace) (base : String) :
    Covered (takenFor models services) base
      (services.names.map Sum.inl ++ models.names.map Sum.inr)
      (fun i => if services.taken (base ++ toString i) then Sum.inl (base ++ toString i)
        else Sum.inr (base ++ toString i ++ "Service")) where
  injective := by
    intro i j h
    dsimp only at h
    split at h <;> split at h
    · exact numbered_injective base (Sum.inl.inj h)
    · exact absurd h (by simp)
    · exact absurd h (by simp)
    · exact numbered_injective base ((String.append_left_inj _).1 (Sum.inr.inj h))
  mem := by
    intro i h
    split
    · rename_i hservice
      exact List.mem_append_left _ (List.mem_map_of_mem (List.contains_iff_mem.1 hservice))
    · rename_i hservice
      have hmodel : models.taken (base ++ toString i ++ "Service") = true :=
        (Bool.or_eq_true_iff.1 h).resolve_left hservice
      exact List.mem_append_right _ (List.mem_map_of_mem (List.contains_iff_mem.1 hmodel))

/-- What the services of a list become one after the other: each is given a name that no service has
had, with a class name that no model has, and reserving it gives that same name. -/
theorem nameServices_step (models services : Namespace) (s : Service) (rest : List Service) :
    ∃ name, Grants (takenFor models services) (typeBase s.tag "Default") name ∧
      services.reserve name = (name, ⟨name :: services.names⟩) ∧
      nameServices models services (s :: rest) =
        { s with name, operations := namedOperations s.operations } ::
          nameServices models ⟨name :: services.names⟩ rest := by
  have hlen : (services.names.map Sum.inl ++
      models.names.map Sum.inr : List (String ⊕ String)).length ≤
      services.names.length + models.names.length := by simp
  have hgrants : Grants (takenFor models services) (typeBase s.tag "Default")
      (freeName (takenFor models services) (services.names.length + models.names.length)
        (typeBase s.tag "Default")) :=
    grants_freeName (covered_service models services _) hlen
  have hservice := (Bool.or_eq_false_iff.1 hgrants.free).1
  refine ⟨_, hgrants, ?_, ?_⟩
  · rw [Namespace.reserve, freeName_of_free services.names.length hservice]
  · rw [nameServices]
    simp only [Namespace.reserve]
    -- the name that was searched for is free among the services, so reserving it changes nothing
    rw [show (fun n => services.taken n || models.taken (n ++ "Service")) =
      takenFor models services from rfl, freeName_of_free services.names.length hservice]

/-- The name of a service was taken by no other, and a model has not the name of its class. -/
theorem nameServices_cons (models services : Namespace) (s : Service) (rest : List Service) :
    ∃ name, name ∉ services.names ∧ name ++ "Service" ∉ models.names ∧
      NumberedFrom (typeBase s.tag "Default") name ∧
      nameServices models services (s :: rest) =
        { s with name, operations := namedOperations s.operations } ::
          nameServices models ⟨name :: services.names⟩ rest := by
  obtain ⟨name, hgrants, -, heq⟩ := nameServices_step models services s rest
  obtain ⟨hservice, hmodel⟩ := Bool.or_eq_false_iff.1 hgrants.free
  exact ⟨name, services.taken_eq_false_iff.1 hservice, models.taken_eq_false_iff.1 hmodel,
    hgrants.numberedFrom, heq⟩

/-- The services keep their order, their tags and their operations, up to names. -/
theorem operations_nameServices (models services : Namespace) (list : List Service) :
    (nameServices models services list).map Service.operations =
      list.map (fun s => namedOperations s.operations) := by
  induction list generalizing services with
  | nil => rfl
  | cons s rest ih =>
      obtain ⟨name, -, -, -, heq⟩ := nameServices_cons models services s rest
      rw [heq, List.map_cons, List.map_cons, ih]

/-- Each service is named after the tag of one of the list. -/
theorem numberedFrom_nameServices (models services : Namespace) (list : List Service) :
    ∀ s ∈ nameServices models services list,
      ∃ t ∈ list, NumberedFrom (typeBase t.tag "Default") s.name := by
  induction list generalizing services with
  | nil => exact fun _ h => absurd h List.not_mem_nil
  | cons s rest ih =>
      obtain ⟨name, -, -, hbase, heq⟩ := nameServices_cons models services s rest
      rw [heq, List.forall_mem_cons]
      refine ⟨⟨s, List.mem_cons_self, hbase⟩, fun t ht => ?_⟩
      obtain ⟨u, hu, hname⟩ := ih _ t ht
      exact ⟨u, List.mem_cons_of_mem s hu, hname⟩

/-- The names of the services are new, and no model has the name of one of their classes. -/
theorem nameServices_fresh (models services : Namespace) (list : List Service) :
    ∀ s ∈ nameServices models services list,
      s.name ∉ services.names ∧ s.name ++ "Service" ∉ models.names := by
  induction list generalizing services with
  | nil => exact fun _ h => absurd h List.not_mem_nil
  | cons s rest ih =>
      obtain ⟨name, hnew, hclass, -, heq⟩ := nameServices_cons models services s rest
      rw [heq, List.forall_mem_cons]
      refine ⟨⟨hnew, hclass⟩, fun t ht => ?_⟩
      obtain ⟨htnew, hrest⟩ := ih ⟨name :: services.names⟩ t ht
      exact ⟨List.not_mem_of_not_mem_cons htnew, hrest⟩

/-- The class of a service is named like a type. -/
theorem isTypeName_class {name : String} (h : isTypeName name = true) :
    isTypeName (name ++ "Service") = true :=
  isTypeName_append h (by decide)

/-- The names of the services are distinct. -/
theorem nodup_nameServices (models services : Namespace) (list : List Service) :
    ((nameServices models services list).map Service.name).Nodup := by
  induction list generalizing services with
  | nil => exact List.nodup_nil
  | cons s rest ih =>
      obtain ⟨name, -, -, -, heq⟩ := nameServices_cons models services s rest
      rw [heq, List.map_cons]
      refine List.nodup_cons.2 ⟨fun hmem => ?_, ih _⟩
      obtain ⟨t, ht, htname⟩ := List.mem_map.1 hmem
      have hnew := (nameServices_fresh models ⟨name :: services.names⟩ rest t ht).1
      exact hnew (htname ▸ List.mem_cons_self)

end Naming

namespace NameTable

/-- A name found at a pointer is an entry of the table. -/
theorem mem_of_get?_eq_some {table : NameTable} {pointer name : String}
    (h : table.get? pointer = some name) : (pointer, name) ∈ table := by
  obtain ⟨before, after, hsplit, -⟩ := List.lookup_eq_some_iff.1 h
  rw [← List.mem_reverse, hsplit]
  exact List.mem_append_right _ List.mem_cons_self

/-- A name is found at the pointers of the table. -/
theorem get?_isSome_iff {table : NameTable} {pointer : String} :
    (table.get? pointer).isSome = true ↔ pointer ∈ table.map Prod.fst := by
  rw [get?, List.lookup_isSome_iff]
  constructor
  · rintro ⟨e, he, hp⟩
    exact eq_of_beq hp ▸ List.mem_map_of_mem (List.mem_reverse.1 he)
  · intro hmem
    obtain ⟨e, he, rfl⟩ := List.mem_map.1 hmem
    exact ⟨e, List.mem_reverse.2 he, beq_self_eq_true _⟩

end NameTable

namespace Draft

variable {d named : Draft}

/-- Each model gets a name. -/
theorem length_modelNames (d : Draft) : d.modelNames.1.length = d.models.length := by
  rw [modelNames, Naming.Namespace.length_reserveAll, List.length_map]

/-- The table names the pointers of the models. -/
theorem pointers_nameTable (d : Draft) : d.nameTable.map Prod.fst = d.models.map Model.pointer :=
  List.map_fst_zip (Nat.le_of_eq (by rw [List.length_map, length_modelNames]))

/-- The names of the table are those of the models. -/
theorem names_nameTable (d : Draft) : d.nameTable.map Prod.snd = d.modelNames.1 :=
  List.map_snd_zip (Nat.le_of_eq (by rw [List.length_map, length_modelNames]))

/-- The names of the models and those of the core files are distinct. -/
theorem nodup_modelNames (d : Draft) : (d.modelNames.1 ++ runtimeNames).Nodup := by
  have h := Naming.Namespace.nodup_names_reserveAll ⟨runtimeNames⟩
    (d.models.map (fun m => Naming.typeBase m.traits.sourceName "Model")) (by decide)
  rw [Naming.Namespace.names_reserveAll] at h
  have hperm := (List.reverse_perm d.modelNames.1).append_right runtimeNames
  exact hperm.nodup_iff.1 h

/-- The names that no class of a service may have are those of the models and of the core
files. -/
theorem mem_names_modelNames {name : String} :
    name ∈ d.modelNames.2.names ↔ name ∈ d.modelNames.1 ++ runtimeNames := by
  rw [modelNames, Naming.Namespace.names_reserveAll]
  simp

/-- Each model is named after one in the source. -/
theorem numberedFrom_modelNames {name : String} (h : name ∈ d.modelNames.1) :
    ∃ m ∈ d.models, Naming.NumberedFrom (Naming.typeBase m.traits.sourceName "Model") name := by
  obtain ⟨base, hbase, hname⟩ := Naming.Namespace.numberedFrom_reserveAll _ _ name h
  obtain ⟨m, hm, rfl⟩ := List.mem_map.1 hbase
  exact ⟨m, hm, hname⟩

/-- The name of a model looks like the name of a type. -/
theorem isTypeName_of_mem_modelNames {name : String} (h : name ∈ d.modelNames.1) :
    Naming.isTypeName name = true := by
  obtain ⟨m, -, hname⟩ := numberedFrom_modelNames h
  exact hname.isTypeName (Naming.isTypeName_typeBase (by decide))

/-- Naming fails exactly at a reference that targets no model, and else gives each part of the
draft its names. -/
theorem named_eq_ok_iff :
    d.named = .ok named ↔
      (∀ t ∈ d.referenceNodes, t.target ∈ d.models.map Model.pointer) ∧
      named =
        { d.mapModels (nameModel d.nameTable) with
          models := List.zipWith (fun m name => m.modify (fun t => { t with name }))
            (d.models.map (nameModel d.nameTable)) d.modelNames.1
          services := Naming.nameServices d.modelNames.2 {}
            (d.mapModels (nameModel d.nameTable)).services
          schemas := d.schemas.map (fun s =>
            { s with
              name := (d.nameTable.get? s.pointer).getD ""
              raw := s.raw.nameTargets d.nameTable }) } := by
  have hsome : (∀ t ∈ d.referenceNodes, t.target ∈ d.models.map Model.pointer) ↔
      d.referenceNodes.find? (fun t => (d.nameTable.get? t.target).isNone) = none := by
    rw [List.find?_eq_none]
    refine forall₂_congr (fun t _ => ?_)
    rw [← pointers_nameTable, ← NameTable.get?_isSome_iff, Option.isNone_iff_eq_none]
    exact Option.isSome_iff_ne_none
  rw [hsome, Draft.named]
  cases hfind : d.referenceNodes.find? (fun t => (d.nameTable.get? t.target).isNone) with
  | some t =>
      split
      simp only [hfind, reduceCtorEq, false_and]
  | none =>
      split
      rename_i hnames
      simp only [hfind, hnames, Except.ok.injEq, true_and, models_mapModels]
      exact eq_comm

/-- Each model gets its name, and what a name does not touch comes from the named tree. -/
theorem map_models_named {α : Type} (h : d.named = .ok named) (g : Model → α)
    (hg : ∀ m name, g (m.modify (fun t => { t with name })) = g m) :
    named.models.map g = d.models.map (fun m => g (nameModel d.nameTable m)) := by
  obtain ⟨-, rfl⟩ := named_eq_ok_iff.1 h
  rw [map_zipWith_keep hg (by rw [List.length_map, length_modelNames]), List.map_map]
  rfl

/-- Naming keeps the traits of a node other than targets and members. -/
theorem nameNode_part {α : Type} (table : NameTable) (part : Traits → α)
    (htarget : ∀ t target, part { t with target } = part t)
    (henum : ∀ t enum, part { t with enum } = part t) (t : Traits) :
    part (nameNode table t) = part t := by
  unfold nameNode
  split
  · exact htarget _ _
  · exact henum _ _
  · rfl

/-- Naming keeps pointers. -/
theorem pointers_named (h : d.named = .ok named) :
    named.models.map Model.pointer = d.models.map Model.pointer := by
  rw [map_models_named h Model.pointer (fun m _ => by cases m <;> rfl)]
  exact List.map_congr_left (fun m _ => Model.traits_mapNodes _ Traits.pointer
    (nameNode_part _ Traits.pointer (fun _ _ => rfl) (fun _ _ => rfl)) m)

/-- The models have the names of the table, where there are models. -/
theorem names_named (h : d.named = .ok named) (hpresent : ∀ m ∈ d.models, m.isAbsent = false) :
    named.models.map Model.name = d.modelNames.1 := by
  obtain ⟨-, rfl⟩ := named_eq_ok_iff.1 h
  refine map_zipWith_put (fun m hm name => ?_) (by rw [List.length_map, length_modelNames])
  obtain ⟨n, hn, rfl⟩ := List.mem_map.1 hm
  cases n with
  | absent => exact absurd (hpresent _ hn) (by decide)
  | node t ps i ms => rfl

/-- A named draft holds its table: each model stands at its pointer under its name. -/
theorem entries_named (h : d.named = .ok named) (hpresent : ∀ m ∈ d.models, m.isAbsent = false) :
    named.models.map (fun m => (m.pointer, m.name)) = d.nameTable := by
  rw [nameTable, ← pointers_named h, ← names_named h hpresent, List.zip_map']

/-- Naming services keeps the models of their operations. -/
theorem models_nameServices (models services : Naming.Namespace) (list : List Service) :
    (Naming.nameServices models services list).map
        (fun s => s.operations.map Operation.models) =
      list.map (fun s => s.operations.map Operation.models) := by
  have h := congrArg (List.map (List.map Operation.models))
    (Naming.operations_nameServices models services list)
  rw [List.map_map, List.map_map] at h
  refine h.trans (List.map_congr_left (fun s _ => ?_))
  exact Naming.models_namedOperations s.operations

/-- Naming services keeps the nodes of their operations. -/
theorem nodes_nameServices (models services : Naming.Namespace) (list : List Service) :
    (Naming.nameServices models services list).flatMap Service.nodes =
      list.flatMap Service.nodes := by
  have hnodes : ∀ l : List Service, l.flatMap Service.nodes =
      (l.map (fun s => s.operations.map Operation.models)).flatMap
        (fun ops => ops.flatMap (fun ms => ms.flatMap Model.nodes)) := by
    intro l
    rw [List.flatMap_map]
    refine List.flatMap_congr (fun s _ => ?_)
    rw [List.flatMap_map]
    rfl
  rw [hnodes, hnodes, models_nameServices]

/-- The nodes of a named draft are those of the draft with their targets and members named, and
with the names of the models at the top. -/
theorem parts_named {α : Type} (h : d.named = .ok named) (part : Traits → α)
    (hpart : ∀ t name, part { t with name } = part t) :
    named.nodes.map part = d.nodes.map (fun t => part (nameNode d.nameTable t)) := by
  have hbase : (d.mapModels (nameModel d.nameTable)).nodes = d.nodes.map (nameNode d.nameTable) :=
    nodes_mapModels _ _ d
  have hmodels := map_models_named h (fun m => m.nodes.map part) (fun m name => by
    cases m with
    | absent => rfl
    | node t ps i ms => simp only [Model.modify, Model.nodes, List.map_cons, hpart])
  obtain ⟨-, hnamed⟩ := named_eq_ok_iff.1 h
  have hservices : named.services.flatMap Service.nodes =
      (d.mapModels (nameModel d.nameTable)).services.flatMap Service.nodes := by
    rw [hnamed, nodes_nameServices]
  calc named.nodes.map part
      = (named.models.map (fun m => m.nodes.map part)).flatten ++
          (named.services.flatMap Service.nodes).map part := by
        rw [nodes, List.map_append, List.map_flatMap, List.flatMap_def]
    _ = (d.mapModels (nameModel d.nameTable)).nodes.map part := by
        rw [hmodels, hservices, nodes, List.map_append, models_mapModels, List.flatMap_map]
        congr 1
        rw [List.map_flatMap, List.flatMap_def]
    _ = d.nodes.map (fun t => part (nameNode d.nameTable t)) := by
        rw [hbase, List.map_map]
        rfl

/-- The references of a named draft target the names of what they targeted. -/
theorem targets_named (h : d.named = .ok named) :
    named.referenceNodes.map Traits.target =
      d.referenceNodes.map (fun t => (d.nameTable.get? t.target).getD t.target) := by
  have hname : ∀ t, (if (nameNode d.nameTable t).isReference then
        [(nameNode d.nameTable t).target] else []) =
      if t.isReference then [(d.nameTable.get? t.target).getD t.target] else [] := by
    intro t
    have hsame : (nameNode d.nameTable t).isReference = t.isReference :=
      nameNode_part _ Traits.isReference (fun _ _ => rfl) (fun _ _ => rfl) t
    rw [hsame]
    split
    · rename_i href
      rw [nameNode, of_decide_eq_true href]
    · rfl
  rw [referenceNodes_eq_filter, referenceNodes_eq_filter, map_filter_eq_flatten,
    map_filter_eq_flatten, parts_named h _ (fun _ _ => rfl)]
  simp only [hname]

/-- The members of an enum of a named draft are named members of an enum of the draft. -/
theorem exists_enum_named (h : d.named = .ok named) {t : Traits} (ht : t ∈ named.nodes)
    (henum : t.kind = .enum) :
    ∃ u ∈ d.nodes, u.kind = .enum ∧ t.enum = Naming.nameMembers u.enum := by
  have hparts := parts_named h (fun t => (t.kind, t.enum)) (fun _ _ => rfl)
  have hmem : (t.kind, t.enum) ∈ named.nodes.map (fun t => (t.kind, t.enum)) :=
    List.mem_map_of_mem ht
  rw [hparts] at hmem
  obtain ⟨u, hmem, hu⟩ := List.mem_map.1 hmem
  obtain ⟨hkind, hmembers⟩ := Prod.mk.inj hu
  have hsame : (nameNode d.nameTable u).kind = u.kind :=
    nameNode_part _ Traits.kind (fun _ _ => rfl) (fun _ _ => rfl) u
  have huenum : u.kind = .enum := by rw [← hsame, hkind, henum]
  refine ⟨u, hmem, huenum, ?_⟩
  rw [← hmembers, nameNode, huenum]

/-- The members of every enum of a named draft have distinct names. -/
theorem nodup_members_named (h : d.named = .ok named) {t : Traits} (ht : t ∈ named.nodes)
    (henum : t.kind = .enum) : (t.enum.map EnumMember.name).Nodup := by
  obtain ⟨u, -, -, hmembers⟩ := exists_enum_named h ht henum
  rw [hmembers]
  exact Naming.nodup_nameMembers u.enum

/-- The operations of a service and the parameters of an operation have distinct names. -/
theorem nodup_operations_named (h : d.named = .ok named) {s : Service} (hs : s ∈ named.services) :
    (s.operations.map Operation.name).Nodup ∧
      ∀ op ∈ s.operations, (op.parameters.map Parameter.exportName).Nodup := by
  obtain ⟨-, rfl⟩ := named_eq_ok_iff.1 h
  have hmem := List.mem_map_of_mem (f := Service.operations) hs
  rw [Naming.operations_nameServices] at hmem
  obtain ⟨u, -, hu⟩ := List.mem_map.1 hmem
  rw [← hu]
  refine ⟨Naming.nodup_namedOperations _, fun op hop => ?_⟩
  have hparameters := List.mem_map_of_mem (f := Operation.parameters) hop
  rw [Naming.parameters_namedOperations] at hparameters
  obtain ⟨v, -, hv⟩ := List.mem_map.1 hparameters
  rw [← hv]
  exact Naming.nodup_nameParameters v.parameters

/-- Schemas at distinct pointers of models have distinct names, each the name of a model. -/
theorem nodup_schemas_named (h : d.named = .ok named) (hs : (d.schemas.map RawSchema.pointer).Nodup)
    (hsm : ∀ s ∈ d.schemas, s.pointer ∈ d.models.map Model.pointer) :
    (named.schemas.map RawSchema.name).Nodup := by
  obtain ⟨-, rfl⟩ := named_eq_ok_iff.1 h
  have hfound : ∀ s ∈ d.schemas,
      (s.pointer, (d.nameTable.get? s.pointer).getD "") ∈ d.nameTable := by
    intro s hmem
    have hsome := hsm s hmem
    rw [← pointers_nameTable, ← NameTable.get?_isSome_iff] at hsome
    obtain ⟨name, hname⟩ := Option.isSome_iff_exists.1 hsome
    rw [hname]
    exact NameTable.mem_of_get?_eq_some hname
  have hnames : (d.nameTable.map Prod.snd).Nodup := by
    rw [names_nameTable]
    exact (List.nodup_append.1 d.nodup_modelNames).1
  rw [List.map_map]
  refine (List.Nodup.of_map _ hs).map_on (fun s hmem t htmem hst => ?_)
  -- names of the table are distinct, so one name means one entry and one pointer
  have hentry := List.inj_on_of_nodup_map hnames (hfound s hmem) (hfound t htmem) hst
  exact List.inj_on_of_nodup_map hs hmem htmem (Prod.mk.inj hentry).1

/-- The names that the generated code exports for a named draft: those of the models, of the
classes of the services and of the constants for the schemas, and those of the core files. -/
def exports (d : Draft) : List String :=
  d.models.map Model.name ++ d.services.map (fun s => s.name ++ "Service") ++
    d.schemas.map (fun s => "$" ++ s.name) ++ runtimeNames

/-- Each service is named after a tag. -/
theorem numberedFrom_service (h : d.named = .ok named) {s : Service} (hs : s ∈ named.services) :
    ∃ tag, Naming.NumberedFrom (Naming.typeBase tag "Default") s.name := by
  obtain ⟨-, rfl⟩ := named_eq_ok_iff.1 h
  obtain ⟨t, -, hbase⟩ := Naming.numberedFrom_nameServices _ _ _ s hs
  exact ⟨t.tag, hbase⟩

/-- The name of a service looks like the name of a type. -/
theorem isTypeName_service (h : d.named = .ok named) {s : Service} (hs : s ∈ named.services) :
    Naming.isTypeName s.name = true := by
  obtain ⟨tag, hbase⟩ := numberedFrom_service h hs
  exact hbase.isTypeName (Naming.isTypeName_typeBase (by decide))

/-- The class of a service has the name of no model and of no core file. -/
theorem class_fresh (h : d.named = .ok named) {s : Service} (hs : s ∈ named.services) :
    s.name ++ "Service" ∉ d.modelNames.1 ++ runtimeNames := by
  obtain ⟨-, rfl⟩ := named_eq_ok_iff.1 h
  obtain ⟨-, hfree⟩ := Naming.nameServices_fresh _ _ _ s hs
  exact fun hmem => hfree (mem_names_modelNames.2 hmem)

/-- The names of the classes of the services are distinct. -/
theorem nodup_classes (h : d.named = .ok named) :
    (named.services.map (fun s => s.name ++ "Service")).Nodup := by
  obtain ⟨-, rfl⟩ := named_eq_ok_iff.1 h
  have hnames := Naming.nodup_nameServices d.modelNames.2 {}
    (d.mapModels (nameModel d.nameTable)).services
  have happend := hnames.map (f := (· ++ "Service"))
    (fun _ _ heq => (String.append_left_inj _).1 heq)
  rwa [List.map_map] at happend

/-- The names that the generated code exports are distinct: a dollar sign stands in the names of
the constants for the schemas only. -/
theorem nodup_exports (h : d.named = .ok named) (hpresent : ∀ m ∈ d.models, m.isAbsent = false)
    (hs : (d.schemas.map RawSchema.pointer).Nodup)
    (hsm : ∀ s ∈ d.schemas, s.pointer ∈ d.models.map Model.pointer) : named.exports.Nodup := by
  have hmodels := d.nodup_modelNames
  have hschemas : (named.schemas.map (fun s => "$" ++ s.name)).Nodup := by
    have hnames := (nodup_schemas_named h hs hsm).map (f := ("$" ++ ·))
      (fun _ _ heq => (String.append_right_inj _).1 heq)
    rwa [List.map_map] at hnames
  have hdollar : ∀ name ∈ named.schemas.map (fun s => "$" ++ s.name), '$' ∈ name.toList := by
    intro name hname
    obtain ⟨s, -, rfl⟩ := List.mem_map.1 hname
    rw [String.toList_append]
    exact List.mem_append_left _ (by decide)
  have hclass : ∀ name ∈ named.services.map (fun s => s.name ++ "Service"),
      name ∉ d.modelNames.1 ++ runtimeNames ∧ Naming.isTypeName name = true := by
    intro name hname
    obtain ⟨s, hmem, rfl⟩ := List.mem_map.1 hname
    exact ⟨class_fresh h hmem, Naming.isTypeName_class (isTypeName_service h hmem)⟩
  -- no name but that of a constant holds a dollar sign, and no class is named like a model
  have hfree : ∀ {name : String}, Naming.isTypeName name = true → '$' ∉ name.toList :=
    fun hname => Naming.not_mem_of_isTypeName hname (by decide)
  have hruntime : ∀ name ∈ runtimeNames, Naming.isTypeName name = true := by decide
  rw [List.nodup_append] at hmodels
  obtain ⟨hnodup, hcore, hapart⟩ := hmodels
  rw [exports, names_named h hpresent]
  simp only [List.nodup_append, List.mem_append]
  refine ⟨⟨⟨hnodup, nodup_classes h, ?_⟩, hschemas, ?_⟩, hcore, ?_⟩
  · rintro a ha _ hb rfl
    exact (hclass a hb).1 (List.mem_append_left _ ha)
  · rintro a (ha | ha) _ hb rfl
    · exact hfree (isTypeName_of_mem_modelNames ha) (hdollar a hb)
    · exact hfree (hclass a ha).2 (hdollar a hb)
  · rintro a ((ha | ha) | ha) b hb rfl
    · exact hapart a ha a hb rfl
    · exact (hclass a ha).1 (List.mem_append_right _ hb)
    · exact hfree (hruntime a hb) (hdollar a ha)

/-- The names of a named draft are distinct where the generated code needs it: those it exports,
those of the operations of a service, of the parameters of an operation and of the members of an
enum. An entry of the list of models is a model; schemas stand at distinct pointers of models. -/
theorem named_exports_nodup (h : d.named = .ok named)
    (hpresent : ∀ m ∈ d.models, m.isAbsent = false)
    (hs : (d.schemas.map RawSchema.pointer).Nodup)
    (hsm : ∀ s ∈ d.schemas, ∃ m ∈ d.models, m.pointer = s.pointer) :
    named.exports.Nodup ∧
      (∀ s ∈ named.services, (s.operations.map Operation.name).Nodup ∧
        ∀ op ∈ s.operations, (op.parameters.map Parameter.exportName).Nodup) ∧
      ∀ t ∈ named.nodes, t.kind = .enum → (t.enum.map EnumMember.name).Nodup :=
  ⟨nodup_exports h hpresent hs (fun s hmem => List.mem_map.2 (hsm s hmem)),
    fun _ hmem => nodup_operations_named h hmem, fun _ ht henum => nodup_members_named h ht henum⟩

/-- A draft whose models, services, operations and members ask for the same names. -/
def crowded : Draft where
  models :=
    [.leaf { kind := .generic, type := "string", pointer := "#/a", sourceName := "Pet" },
     .leaf
      { kind := .enum, pointer := "#/b", sourceName := "pet"
        enum := [{ value := .text "a b" }, { value := .text "a-b" }] },
     .leaf { kind := .reference, pointer := "#/c", sourceName := "Pet1", target := "#/b" },
     .leaf { kind := .generic, type := "string", pointer := "#/d", sourceName := "PetsService" }]
  services :=
    [{ tag := "pets", operations := [{ id := "list" }, { id := "List" }] }, { tag := "Pets" }]
  schemas := [{ pointer := "#/b" }]

/-- `crowded` gets names as `named_exports_nodup` says. -/
theorem named_exports_nodup_crowded :
    ∃ named, crowded.named = .ok named ∧
      named.exports = ["Pet", "Pet1", "Pet11", "PetsService", "Pets1Service", "Pets2Service",
        "$Pet1"] ++ runtimeNames ∧
      named.exports.Nodup ∧
      (∀ s ∈ named.services, (s.operations.map Operation.name).Nodup ∧
        ∀ op ∈ s.operations, (op.parameters.map Parameter.exportName).Nodup) ∧
      ∀ t ∈ named.nodes, t.kind = .enum → (t.enum.map EnumMember.name).Nodup :=
  have h := named_eq_ok_iff.2 ⟨by decide, rfl⟩
  ⟨_, h, by decide +kernel, named_exports_nodup h (by decide) (by decide) (by decide)⟩

end Draft

end TypedClient
