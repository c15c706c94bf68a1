import Mathlib.Data.List.Basic
import TypedClient.Model.Basic

/-!
# The nodes of a model

How the nodes of a model change with the model. `nodes_mapNodes` is the main fact: a change of
every node changes the list of nodes in the same way, so the nodes of a changed model and of the
model it came from stand in one-to-one correspondence, in reading order.
-/

namespace TypedClient.Model

/-- The nodes of a list of properties are those of their models. -/
theorem nodesOfProperties_eq_flatMap (ps : List (Property Model)) :
    nodesOfProperties ps = ps.flatMap (fun p => p.model.nodes) := by
  induction ps with
  | nil => rfl
  | cons p ps ih => rw [nodesOfProperties, ih, List.flatMap_cons]

/-- The nodes of a list of members are those of the members. -/
theorem nodesOfMembers_eq_flatMap (ms : List Model) :
    nodesOfMembers ms = ms.flatMap nodes := by
  induction ms with
  | nil => rfl
  | cons m ms ih => rw [nodesOfMembers, ih, List.flatMap_cons]

/-- Every property is mapped on its own. -/
theorem mapProperties_eq_map (f : Traits → Traits) (key : Traits → String → String → String)
    (t : Traits) (ps : List (Property Model)) :
    mapProperties f key t ps = ps.map (fun p =>
      { p with exportName := key t p.name p.exportName, model := p.model.mapNodes f key }) := by
  induction ps with
  | nil => rfl
  | cons p ps ih => rw [mapProperties, ih, List.map_cons]

/-- Every member is mapped on its own. -/
theorem mapMembers_eq_map (f : Traits → Traits) (key : Traits → String → String → String)
    (ms : List Model) : mapMembers f key ms = ms.map (mapNodes f key) := by
  induction ms with
  | nil => rfl
  | cons m ms ih => rw [mapMembers, ih, List.map_cons]

theorem nodes_node (t : Traits) (ps : List (Property Model)) (i : Model) (ms : List Model) :
    nodes (node t ps i ms) =
      t :: (ps.flatMap (fun p => p.model.nodes) ++ i.nodes ++ ms.flatMap nodes) := by
  rw [nodes, nodesOfProperties_eq_flatMap, nodesOfMembers_eq_flatMap]

theorem mapNodes_node (f : Traits → Traits) (key : Traits → String → String → String)
    (t : Traits) (ps : List (Property Model)) (i : Model) (ms : List Model) :
    mapNodes f key (node t ps i ms) =
      node (f t)
        (ps.map (fun p =>
          { p with exportName := key t p.name p.exportName, model := p.model.mapNodes f key }))
        (i.mapNodes f key) (ms.map (mapNodes f key)) := by
  rw [mapNodes, mapProperties_eq_map, mapMembers_eq_map]

/-- Induction over a model: a property of models that passes from the parts of a node to the node
holds of every model. -/
theorem induction_on_parts {P : Model → Prop} (absent : P .absent)
    (node : ∀ t ps i ms, (∀ p ∈ ps, P p.model) → P i → (∀ m ∈ ms, P m) → P (.node t ps i ms))
    (m : Model) : P m :=
  @Model.rec P (fun ps => ∀ p ∈ ps, P p.model) (fun ms => ∀ m ∈ ms, P m) (fun p => P p.model)
    absent node
    (fun _ h => absurd h List.not_mem_nil)
    (fun _ _ hp hps => List.forall_mem_cons.2 ⟨hp, hps⟩)
    (fun _ h => absurd h List.not_mem_nil)
    (fun _ _ hm hms => List.forall_mem_cons.2 ⟨hm, hms⟩)
    (fun _ _ _ _ hm => hm) m

/-- The nodes of a changed model are the changed nodes. -/
theorem nodes_mapNodes (f : Traits → Traits) (key : Traits → String → String → String)
    (m : Model) : (m.mapNodes f key).nodes = m.nodes.map f := by
  induction m using induction_on_parts with
  | absent => rfl
  | node t ps i ms hps hi hms =>
      have hp : (ps.flatMap fun p => (p.model.mapNodes f key).nodes) =
          ps.flatMap (fun p => p.model.nodes.map f) := List.flatMap_congr hps
      have hm : (ms.flatMap fun m => (m.mapNodes f key).nodes) =
          ms.flatMap (fun m => m.nodes.map f) := List.flatMap_congr hms
      rw [mapNodes_node, nodes_node, nodes_node, List.flatMap_map, List.flatMap_map, hp, hi, hm]
      simp only [List.map_cons, List.map_append, List.map_flatMap]

/-- Two changes in turn are one change. -/
theorem mapNodes_mapNodes (f g : Traits → Traits) (key next : Traits → String → String → String)
    (m : Model) :
    (m.mapNodes f key).mapNodes g next =
      m.mapNodes (g ∘ f) (fun t name exportName => next (f t) name (key t name exportName)) := by
  induction m using induction_on_parts with
  | absent => rfl
  | node t ps i ms hps hi hms =>
      rw [mapNodes_node, mapNodes_node, mapNodes_node, hi, List.map_map, List.map_map]
      congr 1
      · exact List.map_congr_left (fun p hp => by simp only [Function.comp_apply, hps p hp])
      · exact List.map_congr_left hms

/-- Changes that agree on the nodes of a model give the same model. -/
theorem mapNodes_congr {f g : Traits → Traits} {key next : Traits → String → String → String}
    {m : Model} (hfg : ∀ t ∈ m.nodes, f t = g t) (hkey : ∀ t ∈ m.nodes, key t = next t) :
    m.mapNodes f key = m.mapNodes g next := by
  induction m using induction_on_parts with
  | absent => rfl
  | node t ps i ms hps hi hms =>
      simp only [nodes_node, List.mem_cons, List.mem_append, List.mem_flatMap] at hfg hkey
      rw [mapNodes_node, mapNodes_node, hfg t (.inl rfl),
        hi (fun u hu => hfg u (.inr (.inl (.inr hu)))) (fun u hu => hkey u (.inr (.inl (.inr hu))))]
      congr 1
      · refine List.map_congr_left (fun p hp => ?_)
        rw [hkey t (.inl rfl),
          hps p hp (fun u hu => hfg u (.inr (.inl (.inl ⟨p, hp, hu⟩))))
            (fun u hu => hkey u (.inr (.inl (.inl ⟨p, hp, hu⟩))))]
      · exact List.map_congr_left (fun m hm => hms m hm
          (fun u hu => hfg u (.inr (.inr ⟨m, hm, hu⟩)))
          (fun u hu => hkey u (.inr (.inr ⟨m, hm, hu⟩))))

/-- What a change keeps at every node it keeps at the top, also where there is no model. -/
theorem traits_mapNodes {α : Type} {f : Traits → Traits} (key : Traits → String → String → String)
    (part : Traits → α) (hf : ∀ t, part (f t) = part t) (m : Model) :
    part (m.mapNodes f key).traits = part m.traits := by
  cases m with
  | absent => rfl
  | node t ps i ms => exact hf t

/-- A changed model is a model. -/
theorem isAbsent_mapNodes (f : Traits → Traits) (key : Traits → String → String → String)
    (m : Model) : (m.mapNodes f key).isAbsent = m.isAbsent := by
  cases m with
  | absent => rfl
  | node t ps i ms => rfl

/-- Two changes of traits in turn are one. -/
theorem mapTraits_mapTraits (f g : Traits → Traits) (m : Model) :
    (m.mapTraits f).mapTraits g = m.mapTraits (g ∘ f) :=
  mapNodes_mapNodes f g _ _ m

/-- Changes of traits that agree on the nodes of a model give the same model. -/
theorem mapTraits_congr {f g : Traits → Traits} {m : Model} (h : ∀ t ∈ m.nodes, f t = g t) :
    m.mapTraits f = m.mapTraits g :=
  mapNodes_congr h (fun _ _ => rfl)

/-- A change of traits that changes no node of a model changes nothing. -/
theorem mapTraits_eq_self {f : Traits → Traits} {m : Model} (h : ∀ t ∈ m.nodes, f t = t) :
    m.mapTraits f = m := by
  rw [mapTraits_congr (g := id) h]
  clear h
  induction m using induction_on_parts with
  | absent => rfl
  | node t ps i ms hps hi hms =>
      have hproperties : ∀ p ∈ ps, { p with model := p.model.mapTraits id } = id p := by
        intro p hp
        rw [hps p hp]
        rfl
      have hmembers : ∀ m ∈ ms, m.mapTraits id = id m := hms
      rw [mapTraits, mapNodes_node]
      congr 1
      · exact (List.map_congr_left hproperties).trans (List.map_id ps)
      · exact (List.map_congr_left hmembers).trans (List.map_id ms)

/-- A change that turns no node into a reference and no reference into another node changes the
references where they stand. -/
theorem referenceNodes_mapNodes {f : Traits → Traits} (key : Traits → String → String → String)
    (hf : ∀ t, (f t).isReference = t.isReference) (m : Model) :
    (m.mapNodes f key).referenceNodes = m.referenceNodes.map f := by
  rw [referenceNodes, referenceNodes, nodes_mapNodes, List.filter_map]
  congr 2
  exact funext hf

/-- A change at the top changes the first node. -/
theorem nodes_modify (f : Traits → Traits) (m : Model) :
    (m.modify f).nodes = m.nodes.modifyHead f := by
  cases m with
  | absent => rfl
  | node t ps i ms => rfl

/-- A change at the top that keeps references and their targets keeps the targets of a model. -/
theorem targets_modify {f : Traits → Traits} (hf : ∀ t, (f t).isReference = t.isReference)
    (htarget : ∀ t, (f t).target = t.target) (m : Model) :
    (m.modify f).referenceNodes.map Traits.target = m.referenceNodes.map Traits.target := by
  rw [referenceNodes, referenceNodes, nodes_modify]
  cases m.nodes with
  | nil => rfl
  | cons t rest =>
      rw [List.modifyHead_cons, List.filter_cons, List.filter_cons, hf]
      split
      · rw [List.map_cons, List.map_cons, htarget]
      · rfl

end TypedClient.Model
