import TypedClient.Draft.Finish
import TypedClient.Proofs.Draft.Naming
import TypedClient.Proofs.Draft.Resolution

/-!
# What is told of parameters

A description says of a parameter what it is called on the wire, where it travels, whether it is
required and what it defaults to. Resolving, naming and finishing change models and the names in
the generated code and nothing else, so `exists_part` finds what is told of a finished operation in
the draft, and `exists_told` what is told of its parameters.
-/

namespace TypedClient

/-- What a description tells of a parameter, without its model and its name in the code. -/
def Parameter.told (p : Parameter) : Parameter :=
  { p with exportName := "", model := .absent }

namespace Operation

/-- What a description tells of the parameters of an operation. -/
def told (op : Operation) : List Parameter :=
  op.parameters.map Parameter.told

theorem told_mapModels (f : Model → Model) (op : Operation) :
    (op.mapModels f).told = op.told := by
  rw [told, mapModels, List.map_map]
  rfl

end Operation

namespace Naming

/-- Naming parameters keeps what is told of them. -/
theorem told_nameParameters (parameters : List Parameter) :
    (nameParameters parameters).map Parameter.told = parameters.map Parameter.told := by
  refine map_zipWith_keep (fun _ _ => rfl) ?_
  rw [Namespace.length_reserveAll, List.length_map]

end Naming

/-- What is told of an operation: it depends neither on models nor on names in the generated
code. -/
structure Operation.IsTold {α : Type} (part : Operation → α) : Prop where
  mapModels : ∀ f op, part (op.mapModels f) = part op
  named : ∀ op name,
    part { op with name, parameters := Naming.nameParameters op.parameters } = part op

theorem Operation.isTold_told : IsTold Operation.told where
  mapModels := told_mapModels
  named op _ := Naming.told_nameParameters op.parameters

theorem Operation.isTold_method : IsTold Operation.method where
  mapModels _ _ := rfl
  named _ _ := rfl

namespace Draft

variable {d out named : Draft} {α : Type} {part : Operation → α}

theorem map_operations_mapModels (hpart : Operation.IsTold part) (f : Model → Model) (d : Draft) :
    (d.mapModels f).operations.map part = d.operations.map part := by
  simp only [operations, mapModels, mapOperations, List.flatMap_map, List.map_flatMap,
    List.map_map]
  congr 1
  funext s
  exact List.map_congr_left (fun op _ => hpart.mapModels f op)

theorem map_operations_resolveBy (hpart : Operation.IsTold part) {digest : String → UInt64}
    (h : d.resolveBy digest = .ok out) : out.operations.map part = d.operations.map part := by
  obtain ⟨visits, -, -, rfl⟩ := resolveBy_eq_ok_iff.1 h
  exact map_operations_mapModels hpart _ _

theorem map_operations_named (hpart : Operation.IsTold part) (h : d.named = .ok named) :
    named.operations.map part = d.operations.map part := by
  have hservice : ∀ operations : List Operation,
      (Naming.namedOperations operations).map part = operations.map part := by
    intro operations
    refine map_zipWith_keep hpart.named ?_
    rw [Naming.Namespace.length_reserveAll, List.length_map]
  obtain ⟨-, rfl⟩ := named_eq_ok_iff.1 h
  rw [← map_operations_mapModels hpart (nameModel d.nameTable) d]
  simp only [operations, List.flatMap_def, Naming.operations_nameServices, List.map_flatten,
    List.map_map]
  congr 1
  exact List.map_congr_left (fun s _ => hservice s.operations)

/-- What is told of an operation when it is resolved, named and finished was told of an operation
of the draft. -/
theorem exists_part (hpart : Operation.IsTold part) {digest : String → UInt64}
    (hout : d.resolveBy digest = .ok out) (hnamed : out.named = .ok named) {s : Service}
    (hs : s ∈ named.finish.services) {op : Operation} (hop : op ∈ s.operations) :
    ∃ before ∈ d.operations, part before = part op := by
  obtain ⟨before, hbefore, rfl⟩ := List.mem_map.1 (List.mem_mergeSort.1 hs)
  have hmem : part op ∈ named.operations.map part :=
    List.mem_map_of_mem (List.mem_flatMap.2 ⟨before, hbefore, hop⟩)
  rw [map_operations_named hpart hnamed, map_operations_resolveBy hpart hout] at hmem
  exact List.mem_map.1 hmem

/-- The same for all that is told of the parameters. -/
theorem exists_told {digest : String → UInt64} (hout : d.resolveBy digest = .ok out)
    (hnamed : out.named = .ok named) {s : Service} (hs : s ∈ named.finish.services)
    {op : Operation} (hop : op ∈ s.operations) :
    ∃ before ∈ d.operations, before.told = op.told :=
  exists_part Operation.isTold_told hout hnamed hs hop

end Draft

end TypedClient
