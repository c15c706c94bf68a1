import TypedClient.Draft
import TypedClient.Proofs.Model.Nodes

/-!
# The nodes of a draft

A change of every model of a draft reaches the models of its parameters and results too. The
lemmas here carry what is known of the nodes of one model over to operations, services and whole
drafts.
-/

namespace TypedClient

namespace Operation

/-- The models of a changed operation are the changed models. -/
theorem models_mapModels (f : Model → Model) (op : Operation) :
    (op.mapModels f).models = op.models.map f := by
  simp only [models, mapModels, List.map_append, List.map_map]
  rfl

/-- Two changes in turn are one change. -/
theorem mapModels_mapModels (f g : Model → Model) (op : Operation) :
    (op.mapModels f).mapModels g = op.mapModels (g ∘ f) := by
  simp only [mapModels, List.map_map]
  rfl

/-- The nodes in the models of an operation, in reading order. -/
def nodes (op : Operation) : List Traits :=
  op.models.flatMap Model.nodes

/-- The references of an operation are those of its nodes that are references. -/
theorem referenceNodes_eq_filter (op : Operation) :
    op.referenceNodes = op.nodes.filter Traits.isReference := by
  rw [referenceNodes, nodes, List.filter_flatMap]
  rfl

/-- The nodes of a changed operation are the changed nodes. -/
theorem nodes_mapModels (f : Traits → Traits) (key : Traits → String → String → String)
    (op : Operation) : (op.mapModels (Model.mapNodes f key)).nodes = op.nodes.map f := by
  rw [nodes, nodes, models_mapModels, List.flatMap_map, List.map_flatMap]
  exact List.flatMap_congr (fun m _ => Model.nodes_mapNodes f key m)

end Operation

namespace Service

/-- The nodes in the operations of a service, in reading order. -/
def nodes (s : Service) : List Traits :=
  s.operations.flatMap Operation.nodes

/-- The references of a service are those of its nodes that are references. -/
theorem referenceNodes_eq_filter (s : Service) :
    s.referenceNodes = s.nodes.filter Traits.isReference := by
  rw [referenceNodes, nodes, List.filter_flatMap]
  exact List.flatMap_congr (fun op _ => op.referenceNodes_eq_filter)

end Service

namespace Draft

/-- Every node of a draft: those of the models, then those of the operations. -/
def nodes (d : Draft) : List Traits :=
  d.models.flatMap Model.nodes ++ d.services.flatMap Service.nodes

/-- The references of a draft are those of its nodes that are references. -/
theorem referenceNodes_eq_filter (d : Draft) :
    d.referenceNodes = d.nodes.filter Traits.isReference := by
  rw [referenceNodes, nodes, List.filter_append, List.filter_flatMap, List.filter_flatMap]
  congr 1
  exact List.flatMap_congr (fun s _ => s.referenceNodes_eq_filter)

@[simp] theorem models_mapModels (f : Model → Model) (d : Draft) :
    (d.mapModels f).models = d.models.map f := rfl

theorem services_mapModels (f : Model → Model) (d : Draft) :
    (d.mapModels f).services = d.services.map (fun s =>
      { s with operations := s.operations.map (Operation.mapModels f) }) := rfl

/-- Two changes in turn are one change. -/
theorem mapModels_mapModels (f g : Model → Model) (d : Draft) :
    (d.mapModels f).mapModels g = d.mapModels (g ∘ f) := by
  simp only [mapModels, mapOperations, List.map_map]
  congr 1
  refine List.map_congr_left (fun s _ => ?_)
  simp only [Function.comp_apply, List.map_map]
  congr 1
  exact List.map_congr_left (fun op _ => op.mapModels_mapModels f g)

/-- The nodes of a changed draft are the changed nodes. -/
theorem nodes_mapModels (f : Traits → Traits) (key : Traits → String → String → String)
    (d : Draft) : (d.mapModels (Model.mapNodes f key)).nodes = d.nodes.map f := by
  rw [nodes, nodes, models_mapModels, services_mapModels, List.flatMap_map, List.flatMap_map,
    List.map_append, List.map_flatMap, List.map_flatMap]
  congr 1
  · exact List.flatMap_congr (fun m _ => Model.nodes_mapNodes f key m)
  · refine List.flatMap_congr (fun s _ => ?_)
    rw [Service.nodes, Service.nodes, List.flatMap_map, List.map_flatMap]
    exact List.flatMap_congr (fun op _ => op.nodes_mapModels f key)

/-- A change that turns no node into a reference and no reference into another node changes the
references of a draft where they stand. -/
theorem referenceNodes_mapModels {f : Traits → Traits} (key : Traits → String → String → String)
    (hf : ∀ t, (f t).isReference = t.isReference) (d : Draft) :
    (d.mapModels (Model.mapNodes f key)).referenceNodes = d.referenceNodes.map f := by
  rw [referenceNodes_eq_filter, referenceNodes_eq_filter, nodes_mapModels, List.filter_map]
  congr 2
  exact funext hf

end Draft

end TypedClient
