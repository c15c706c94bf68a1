import TypedClient.Proofs.Draft.References
import TypedClient.Proofs.Model.Shape

/-!
# Resolving a resolved draft

A second resolution of a draft succeeds, and it merges nothing exactly when the anonymous models
of the draft have distinct shapes. `resolved_shapes_distinct` says when one resolution gets there:
as long as no anonymous model that stays refers to one that is merged. Shapes are compared before
references change, so where an anonymous model does refer to a merged one, the new target can make
its shape that of another model. `chained` is such a draft, and a second resolution merges more.
-/

namespace TypedClient

/-- Marks are no part of the structure of a model. -/
theorem Model.sameStructure_lazy (lazy : Traits → Bool) (m : Model) :
    m.SameStructure (m.mapTraits (fun t => { t with lazy := lazy t })) := by
  induction m using induction_on_parts with
  | absent => exact trivial
  | node t ps i ms hps hi hms =>
      have hproperties : SameProperties ps (ps.map (fun p =>
          { p with model := p.model.mapTraits (fun t => { t with lazy := lazy t }) })) := by
        induction ps with
        | nil => exact trivial
        | cons p ps ih =>
            obtain ⟨hp, hrest⟩ := List.forall_mem_cons.1 hps
            exact ⟨⟨rfl, rfl, hp⟩, ih hrest⟩
      have hmembers : SameMembers ms
          (ms.map (mapTraits (fun t => { t with lazy := lazy t }))) := by
        induction ms with
        | nil => exact trivial
        | cons m ms ih =>
            obtain ⟨hm, hrest⟩ := List.forall_mem_cons.1 hms
            exact ⟨hm, ih hrest⟩
      rw [mapTraits, mapNodes_node, SameStructure]
      refine ⟨rfl, rfl, ?_⟩
      split
      · exact rfl
      · exact ⟨rfl, rfl⟩
      · exact ⟨rfl, rfl⟩
      · exact hproperties
      · exact hi
      · exact hi
      · exact hmembers

namespace Draft

variable {d out : Draft} {digest : String → UInt64} {models kept : List Model}

/-- Marking sets marks and nothing else. -/
theorem markNode_eq (opened : List String) :
    markNode opened =
      fun t => { t with lazy := t.lazy || (t.isReference && opened.contains t.target) } := by
  funext t
  cases hopen : t.isReference && opened.contains t.target with
  | true => rw [markNode, if_pos hopen, Bool.or_true]
  | false => rw [markNode, if_neg (ne_true_of_eq_false hopen), Bool.or_false]

/-- Marking keeps the shape of a model. -/
theorem shape_mark (opened : List String) (m : Model) :
    (m.mapTraits (markNode opened)).shape = m.shape := by
  rw [markNode_eq]
  exact (m.sameStructure_lazy _).shape_eq.symm

/-- Whether no two anonymous models of a list have one shape. -/
def ShapesDistinct (models : List Model) : Prop :=
  models.Pairwise (fun a b => a.anonymous = true → b.anonymous = true → a.shape ≠ b.shape)

/-- Whether shapes are distinct shows in which models are anonymous and what shapes they have. -/
theorem shapesDistinct_congr {others : List Model}
    (h : models.map (fun m => (m.anonymous, m.shape)) =
      others.map (fun m => (m.anonymous, m.shape))) :
    ShapesDistinct models ↔ ShapesDistinct others := by
  have hpairs : ∀ ms : List Model, ShapesDistinct ms ↔
      (ms.map (fun m => (m.anonymous, m.shape))).Pairwise
        (fun a b => a.1 = true → b.1 = true → a.2 ≠ b.2) := by
    intro ms
    rw [List.pairwise_map]
    exact Iff.rfl
  rw [hpairs, hpairs, h]

/-- Every model stays exactly when the shapes of the anonymous models are distinct. -/
theorem FirstWins.eq_iff (h : FirstWins models kept) (hptr : (models.map Model.pointer).Nodup) :
    kept = models ↔ ShapesDistinct models := by
  constructor
  · intro heq
    rw [← heq]
    exact h.distinct
  · intro hdistinct
    have hall : models ⊆ kept := by
      intro m hm
      by_contra hk
      -- a model that is left out comes after one of its shape
      obtain ⟨first, -, ha, hs, hsub, -⟩ := h.represented m hm hk
      have hpair := hdistinct.sublist hsub
      rw [List.pairwise_pair] at hpair
      exact hpair ha (h.anonymous_of_not_mem hm hk) hs
    have hlength := (List.subperm_of_subset (List.Nodup.of_map _ hptr) hall).length_le
    exact h.sublist.eq_of_length (Nat.le_antisymm h.sublist.length_le hlength)

/-- The target that stands for the pointer of a model is the pointer of a model that stays. -/
theorem Merge.Sound.retarget_mem {g : Merge} (h : g.Sound models)
    (hptr : (models.map Model.pointer).Nodup) {target : String}
    (htarget : target ∈ models.map Model.pointer) :
    g.retarget target ∈ g.kept.reverse.map Model.pointer := by
  obtain ⟨m, hm, rfl⟩ := List.mem_map.1 htarget
  by_cases hk : m ∈ g.kept
  · have hother : ∀ n ∈ models, n ∉ g.kept → n.pointer ≠ m.pointer := by
      intro n hn hnk heq
      rw [List.inj_on_of_nodup_map hptr hn hm heq] at hnk
      exact hnk hk
    rw [h.retarget_other hother]
    exact List.mem_map_of_mem (List.mem_reverse.2 hk)
  · obtain ⟨first, hf, -, -, hp⟩ := h.retarget_removed hptr hm hk
    rw [hp]
    exact List.mem_map_of_mem (List.mem_reverse.2 hf)

/-- A target that is the pointer of a model that stays does not change. -/
theorem Merge.Sound.retarget_kept {g : Merge} (h : g.Sound models)
    (hptr : (models.map Model.pointer).Nodup) {target : String}
    (htarget : target ∈ g.kept.reverse.map Model.pointer) : g.retarget target = target := by
  obtain ⟨m, hm, rfl⟩ := List.mem_map.1 htarget
  refine h.retarget_other (fun n hn hk heq => hk ?_)
  rw [List.inj_on_of_nodup_map hptr hn (h.firstWins.sublist.subset hm) heq]
  exact List.mem_reverse.1 hm

/-- The models of a resolved draft stand where the models that stay stand. -/
theorem pointers_resolveBy (h : d.resolveBy digest = .ok out) :
    out.models.map Model.pointer =
      (Merge.ofModels digest d.models).kept.reverse.map Model.pointer := by
  obtain ⟨visits, -, -, rfl⟩ := resolveBy_eq_ok_iff.1 h
  rw [pointers_marked, pointers_merged]

/-- The shapes of a resolved draft are those of the merged draft. -/
theorem shapesDistinct_resolveBy_iff (h : d.resolveBy digest = .ok out) :
    ShapesDistinct out.models ↔ ShapesDistinct (d.merged digest).models := by
  obtain ⟨visits, -, -, rfl⟩ := resolveBy_eq_ok_iff.1 h
  refine shapesDistinct_congr (map_marked _ (fun opened m => ?_) visits [] _)
  have hanonymous : (m.mapTraits (markNode opened)).anonymous = m.anonymous := by
    refine Model.traits_mapNodes _ Traits.anonymous (fun t => ?_) m
    rw [markNode_eq]
  rw [hanonymous, shape_mark]

/-- A model keeps its shape when its targets do not change. -/
theorem mapTraits_retarget_eq {f : String → String} {m : Model}
    (h : ∀ t ∈ m.referenceNodes, f t.target = t.target) :
    m.mapTraits (retargetNode f) = m := by
  have hnodes : ∀ t ∈ m.nodes, retargetNode f t = t := by
    intro t ht
    cases href : t.isReference with
    | false => simp [retargetNode, href]
    | true =>
        rw [retargetNode, if_pos href, h t (List.mem_filter.2 ⟨ht, href⟩)]
  exact Model.mapTraits_eq_self hnodes

/-- The shapes of the merged draft are distinct when no anonymous model that stays refers to one
that is merged. -/
theorem shapesDistinct_merged (hptr : (d.models.map Model.pointer).Nodup)
    (hkeep : ∀ m ∈ (Merge.ofModels digest d.models).kept.reverse, m.anonymous = true →
      ∀ t ∈ m.referenceNodes,
        t.target ∈ (Merge.ofModels digest d.models).kept.reverse.map Model.pointer) :
    ShapesDistinct (d.merged digest).models := by
  have hsound := Merge.ofModels_sound digest hptr
  rw [merged_eq, models_mapModels, ShapesDistinct, List.pairwise_map]
  refine (List.Pairwise.and_mem.1 hsound.firstWins.distinct).imp ?_
  rintro a b ⟨ha, hb, hne⟩ haa hba
  have hanonymous : ∀ m : Model,
      (m.mapTraits (retargetNode (Merge.ofModels digest d.models).retarget)).anonymous =
        m.anonymous := by
    intro m
    refine Model.traits_mapNodes _ Traits.anonymous (fun t => ?_) m
    unfold retargetNode
    split <;> rfl
  rw [hanonymous] at haa hba
  rw [mapTraits_retarget_eq (fun t ht => hsound.retarget_kept hptr (hkeep a ha haa t ht)),
    mapTraits_retarget_eq (fun t ht => hsound.retarget_kept hptr (hkeep b hb hba t ht))]
  exact hne haa hba

/-- The references of the models that stay and of the operations are references of the draft. -/
theorem referenceNodes_subset (h : kept ⊆ d.models) :
    { d with models := kept }.referenceNodes ⊆ d.referenceNodes := by
  intro t ht
  rcases List.mem_append.1 ht with ht | ht
  · obtain ⟨m, hm, ht⟩ := List.mem_flatMap.1 ht
    exact List.mem_append_left _ (List.mem_flatMap.2 ⟨m, h hm, ht⟩)
  · exact List.mem_append_right _ ht

/-- A draft in which every target is the pointer of a model resolves: merging takes targets to
pointers of models that stay. -/
theorem resolveBy_of_targets (digest : String → UInt64) (hptr : (d.models.map Model.pointer).Nodup)
    (htargets : ∀ t ∈ d.referenceNodes, t.target ∈ d.models.map Model.pointer) :
    ∃ out, d.resolveBy digest = .ok out := by
  have hsound := Merge.ofModels_sound digest hptr
  cases h : d.resolveBy digest with
  | ok out => exact ⟨out, rfl⟩
  | error e =>
      obtain ⟨t, ht, hnot⟩ := (resolveBy_error_iff digest hptr).1 ⟨e, h⟩
      rw [referenceNodes_merged] at ht
      obtain ⟨u, hu, rfl⟩ := List.mem_map.1 ht
      have hmem := referenceNodes_subset hsound.firstWins.sublist.subset hu
      have href : u.isReference = true := by
        rw [referenceNodes_eq_filter] at hmem
        exact (List.mem_filter.1 hmem).2
      have hkept := hsound.retarget_mem hptr (htargets u hmem)
      rw [← pointers_merged] at hkept
      rw [retargetNode, if_pos href] at hnot
      exact absurd (List.mem_map.1 hkept) hnot

/-- Every target of a resolved draft is the pointer of a model. -/
theorem targets_of_resolveBy (hptr : (d.models.map Model.pointer).Nodup)
    (h : d.resolveBy digest = .ok out) :
    ∀ t ∈ out.referenceNodes, t.target ∈ out.models.map Model.pointer := by
  have htargets : ∀ target ∈ out.referenceNodes.map Traits.target,
      target ∈ out.models.map Model.pointer := by
    rw [targets_resolveBy h, pointers_resolveBy h, ← pointers_merged]
    exact List.forall_mem_map.2 (fun t ht =>
      List.mem_map.2 (resolves_of_resolveBy_eq_ok hptr h t ht))
  exact List.forall_mem_map.1 htargets

/-- A resolved draft resolves again, and nothing is merged then exactly when its anonymous models
have distinct shapes. That is so when every target of an anonymous model that stays is the pointer
of a model that stays. -/
theorem resolved_shapes_distinct (digest : String → UInt64)
    (hptr : (d.models.map Model.pointer).Nodup) (h : d.resolveBy digest = .ok out) :
    (∃ again, out.resolveBy digest = .ok again ∧
      (again.models.map Model.pointer = out.models.map Model.pointer ↔
        ShapesDistinct out.models)) ∧
    ((∀ m ∈ d.models, m.anonymous = true → m.pointer ∈ out.models.map Model.pointer →
        ∀ t ∈ m.referenceNodes, t.target ∈ out.models.map Model.pointer) →
      ShapesDistinct out.models) := by
  have hout := nodup_pointers_resolveBy hptr h
  obtain ⟨again, hagain⟩ := resolveBy_of_targets digest hout (targets_of_resolveBy hptr h)
  have hfirst := (Merge.ofModels_sound digest hout).firstWins
  refine ⟨⟨again, hagain, ?_⟩, fun hkeep => ?_⟩
  · rw [← hfirst.eq_iff hout, pointers_resolveBy hagain]
    constructor
    · intro heq
      have hlength := congrArg List.length heq
      rw [List.length_map, List.length_map] at hlength
      exact hfirst.sublist.eq_of_length hlength
    · intro heq
      rw [heq]
  · rw [shapesDistinct_resolveBy_iff h]
    rw [pointers_resolveBy h] at hkeep
    refine shapesDistinct_merged hptr (fun m hm ha => ?_)
    exact hkeep m ((Merge.ofModels_sound digest hptr).firstWins.sublist.subset hm) ha
      (List.mem_map_of_mem hm)

/-- An anonymous interface with one property that refers to a target. -/
def linkTo (pointer target : String) : Model :=
  .node { kind := .interface, pointer, anonymous := true }
    [{ name := "next", model := .referenceTo target "" }] .absent []

/-- A draft in which two of four anonymous models are merged, and no anonymous model refers to a
merged one. -/
def unchained : Draft where
  models :=
    [linkTo "#/a" "#/c", linkTo "#/b" "#/a", anonymousText "#/c", anonymousText "#/d",
     linkTo "#/e" "#/c"]

/-- What becomes of `unchained`. -/
def unchainedResolved : Draft where
  models := [linkTo "#/a" "#/c", linkTo "#/b" "#/a", anonymousText "#/c"]

/-- `unchained` needs one resolution, as `resolved_shapes_distinct` says. -/
theorem resolved_shapes_distinct_unchained : ShapesDistinct unchainedResolved.models :=
  (resolved_shapes_distinct (d := unchained) (fun _ => 0) (by decide) (by cbv)).2 (by decide)

/-- A draft of two anonymous models that refer to two others of one shape. -/
def chained : Draft where
  models :=
    [linkTo "#/a" "#/c", linkTo "#/b" "#/d", anonymousText "#/c", anonymousText "#/d"]

/-- What becomes of `chained`: the models at `#/a` and `#/b` refer to one model now. -/
def chainedResolved : Draft where
  models := [linkTo "#/a" "#/c", linkTo "#/b" "#/c", anonymousText "#/c"]

/-- One resolution of `chained` leaves two anonymous models of one shape, and a second one merges
them. -/
theorem chained_resolved_twice :
    chained.resolveBy (fun _ => 0) = .ok chainedResolved ∧
      ¬ ShapesDistinct chainedResolved.models ∧
      chainedResolved.resolveBy (fun _ => 0) =
        .ok { models := [linkTo "#/a" "#/c", anonymousText "#/c"] } := by
  refine ⟨by cbv, ?_, by cbv⟩
  intro hdistinct
  have hpair := List.rel_of_pairwise_cons hdistinct (List.mem_cons_self (a := linkTo "#/b" "#/c"))
  exact hpair rfl rfl rfl

end Draft

end TypedClient
