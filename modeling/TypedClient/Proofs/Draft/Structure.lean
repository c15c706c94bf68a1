import TypedClient.Proofs.Draft.Merging
import TypedClient.Proofs.Model.Shape

/-!
# Merging and structure

Models are merged by their shapes. `merged_respects_structure` says when that merges only models of
one structure: as long as the anonymous models of a draft are clear. `lookalikes` is a draft whose
anonymous models differ and are merged all the same, because a name in one of them is not clear.
-/

namespace TypedClient.Draft

variable {d : Draft} {m : Model}

/-- A model without a place in the merged draft was anonymous, and an anonymous model of its shape
stands for it. -/
theorem exists_representative (digest : String → UInt64)
    (hptr : (d.models.map Model.pointer).Nodup) (hm : m ∈ d.models)
    (hgone : m.pointer ∉ (d.merged digest).models.map Model.pointer) :
    m.anonymous = true ∧ ∃ first ∈ d.models, first.anonymous = true ∧ first.shape = m.shape ∧
      first.pointer ∈ (d.merged digest).models.map Model.pointer ∧
      (Merge.ofModels digest d.models).retarget m.pointer = first.pointer := by
  have hsound := Merge.ofModels_sound digest hptr
  rw [pointers_merged] at hgone ⊢
  have hremoved : m ∉ (Merge.ofModels digest d.models).kept := fun hmem =>
    hgone (List.mem_map_of_mem (List.mem_reverse.2 hmem))
  obtain ⟨first, hf, ha, hs, hp⟩ := hsound.retarget_removed hptr hm hremoved
  have hmem := List.mem_reverse.2 hf
  exact ⟨hsound.firstWins.anonymous_of_not_mem hm (fun hk => hremoved (List.mem_reverse.1 hk)),
    first, hsound.firstWins.sublist.subset hmem, ha, hs, List.mem_map_of_mem hmem, hp⟩

/-- Clear models have one shape exactly when they have one structure. So where the anonymous models
of a draft are clear, a model that is merged has the structure of the anonymous model that stands
for it, whatever the digest is. -/
theorem merged_respects_structure {a b : Model} (ha : a.isClear = true) (hb : b.isClear = true)
    (digest : String → UInt64) (hptr : (d.models.map Model.pointer).Nodup)
    (hclear : ∀ m ∈ d.models, m.anonymous = true → m.isClear = true) :
    (a.shape = b.shape ↔ a.SameStructure b) ∧
      ∀ m ∈ d.models, m.pointer ∉ (d.merged digest).models.map Model.pointer →
        ∃ first ∈ d.models, first.anonymous = true ∧ first.SameStructure m ∧
          first.pointer ∈ (d.merged digest).models.map Model.pointer ∧
          (Merge.ofModels digest d.models).retarget m.pointer = first.pointer := by
  refine ⟨Model.shape_eq_iff ha hb, fun m hm hgone => ?_⟩
  obtain ⟨hanonymous, first, hf, hfa, hs, hkept, hp⟩ := exists_representative digest hptr hm hgone
  have hsame := (Model.shape_eq_iff (hclear first hf hfa) (hclear m hm hanonymous)).1 hs
  exact ⟨first, hf, hfa, hsame, hkept, hp⟩

/-- An anonymous interface with one property of text type. -/
def oneProperty (pointer name : String) (required : Bool) : Model :=
  .node { kind := .interface, pointer, anonymous := true }
    [{ name, required, model := .primitive "string" "" }] .absent []

/-- A draft of two anonymous interfaces of one structure and a third with another. -/
def alikes : Draft where
  models := [oneProperty "#/a" "x" true, oneProperty "#/b" "x" true, oneProperty "#/c" "x" false]

/-- The models of `alikes` are clear, so its merge goes as `merged_respects_structure` says. -/
theorem merged_respects_structure_alikes :
    ((oneProperty "#/a" "x" true).shape = (oneProperty "#/c" "x" false).shape ↔
      (oneProperty "#/a" "x" true).SameStructure (oneProperty "#/c" "x" false)) ∧
    ∀ m ∈ alikes.models, m.pointer ∉ (alikes.merged (fun _ => 0)).models.map Model.pointer →
      ∃ first ∈ alikes.models, first.anonymous = true ∧ first.SameStructure m ∧
        first.pointer ∈ (alikes.merged (fun _ => 0)).models.map Model.pointer ∧
        (Merge.ofModels (fun _ => 0) alikes.models).retarget m.pointer = first.pointer :=
  merged_respects_structure (by decide) (by decide) (fun _ => 0) (by decide) (by decide)

/-- A draft of two anonymous interfaces of different structure: the property `x!` of one may be
missing, and the property `x` of the other may not. -/
def lookalikes : Draft where
  models := [oneProperty "#/a" "x!" false, oneProperty "#/b" "x" true]

/-- The models of `lookalikes` have one shape and not one structure, and one of them is lost. -/
theorem lookalikes_merged :
    (oneProperty "#/a" "x!" false).shape = (oneProperty "#/b" "x" true).shape ∧
      ¬ (oneProperty "#/a" "x!" false).SameStructure (oneProperty "#/b" "x" true) ∧
      (lookalikes.merged (fun _ => 0)).models.map Model.pointer = ["#/a"] := by
  obtain ⟨hshape, hstructure⟩ := Model.lookalikes_of_marks.1 "x" (.primitive "string" "")
  exact ⟨hshape, hstructure, by decide⟩

end TypedClient.Draft
