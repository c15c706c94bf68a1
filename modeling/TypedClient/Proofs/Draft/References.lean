import TypedClient.Proofs.Draft.Naming
import TypedClient.Proofs.Draft.Reachability
import TypedClient.Proofs.Draft.Resolution

/-!
# References from drafts to clients

A reference is a pointer in a resolved draft, the name of a model in a named draft and the name of
a kept model in a client. `references_resolve` follows it through all three: a draft whose
references have targets once anonymous models are merged gets names, each reference gets the name
of the model it pointed to, and no client holds a reference to a model that it does not hold.
-/

namespace TypedClient.Draft

variable {d out named : Draft}

/-- Whether a pointer and a name mean one model: there is one at the pointer, and the models with
the name are those at the pointer. -/
def SameModel (named : Draft) (pointer name : String) : Prop :=
  (∃ m ∈ named.models, m.pointer = pointer) ∧
    ∀ m ∈ named.models, m.name = name ↔ m.pointer = pointer

/-- The names of the models of a named draft are distinct. -/
theorem nodup_names_named (h : d.named = .ok named)
    (hpresent : ∀ m ∈ d.models, m.isAbsent = false) : (named.models.map Model.name).Nodup := by
  rw [names_named h hpresent]
  exact (List.nodup_append.1 d.nodup_modelNames).1

/-- At distinct pointers the table names the one model at a pointer. -/
theorem sameModel_get? (h : d.named = .ok named)
    (hpresent : ∀ m ∈ d.models, m.isAbsent = false) (hptr : (d.models.map Model.pointer).Nodup)
    {p : String} (hp : p ∈ d.models.map Model.pointer) :
    named.SameModel p ((d.nameTable.get? p).getD p) := by
  have hnames := nodup_names_named h hpresent
  have hpointers : (named.models.map Model.pointer).Nodup := by rwa [pointers_named h]
  rw [← pointers_nameTable, ← NameTable.get?_isSome_iff] at hp
  obtain ⟨name, hname⟩ := Option.isSome_iff_exists.1 hp
  have hentry := NameTable.mem_of_get?_eq_some hname
  rw [← entries_named h hpresent] at hentry
  obtain ⟨m, hm, heq⟩ := List.mem_map.1 hentry
  obtain ⟨rfl, rfl⟩ := Prod.mk.inj heq
  refine ⟨⟨m, hm, rfl⟩, fun n hn => ?_⟩
  rw [hname, Option.getD_some]
  constructor
  · intro hsame
    rw [List.inj_on_of_nodup_map hnames hn hm hsame]
  · intro hsame
    rw [List.inj_on_of_nodup_map hpointers hn hm hsame]

/-- Naming takes each reference from the pointer of a model to the name of that model. -/
theorem sameModel_named (h : d.named = .ok named)
    (hpresent : ∀ m ∈ d.models, m.isAbsent = false) (hptr : (d.models.map Model.pointer).Nodup) :
    List.Forall₂ (fun before after => named.SameModel before.target after.target)
      d.referenceNodes named.referenceNodes := by
  rw [← List.forall₂_map_right_iff
    (R := fun before after => named.SameModel (Traits.target before) after), targets_named h,
    List.forall₂_map_right_iff, List.forall₂_same]
  exact fun t ht => sameModel_get? h hpresent hptr ((named_eq_ok_iff.1 h).1 t ht)

/-- Every reference of a named draft targets the name of a model. -/
theorem name_of_mem_referenceNodes (h : d.named = .ok named)
    (hpresent : ∀ m ∈ d.models, m.isAbsent = false) (hptr : (d.models.map Model.pointer).Nodup)
    {t : Traits} (ht : t ∈ named.referenceNodes) : ∃ m ∈ named.models, m.name = t.target := by
  have hmem := List.mem_map_of_mem (f := Traits.target) ht
  rw [targets_named h] at hmem
  obtain ⟨u, hu, htarget⟩ := List.mem_map.1 hmem
  obtain ⟨⟨m, hm, hp⟩, hiff⟩ := sameModel_get? h hpresent hptr ((named_eq_ok_iff.1 h).1 u hu)
  exact ⟨m, hm, ((hiff m hm).2 hp).trans htarget⟩

/-- The models of a resolved draft are models when those that merging keeps are. -/
theorem present_of_kept {digest : String → UInt64} (h : d.resolveBy digest = .ok out)
    (hkept : ∀ m ∈ (Merge.ofModels digest d.models).kept, m.isAbsent = false) :
    ∀ m ∈ out.models, m.isAbsent = false := by
  obtain ⟨visits, -, -, rfl⟩ := resolveBy_eq_ok_iff.1 h
  have hmarked := map_marked Model.isAbsent (fun _ m => m.isAbsent_mapNodes _ _) visits []
    (d.merged digest).models
  have hmerged : ∀ m ∈ (d.merged digest).models, m.isAbsent = false := by
    intro m hm
    rw [merged_eq, models_mapModels] at hm
    obtain ⟨n, hn, rfl⟩ := List.mem_map.1 hm
    rw [Model.mapTraits, Model.isAbsent_mapNodes]
    exact hkept n (List.mem_reverse.1 hn)
  have hall : ∀ b ∈ (marked visits [] (d.merged digest).models).map Model.isAbsent, b = false := by
    rw [hmarked]
    exact List.forall_mem_map.2 hmerged
  exact List.forall_mem_map.1 hall

/-- Resolution keeps models models. -/
theorem present_resolveBy {digest : String → UInt64} (hptr : (d.models.map Model.pointer).Nodup)
    (hpresent : ∀ m ∈ d.models, m.isAbsent = false) (h : d.resolveBy digest = .ok out) :
    ∀ m ∈ out.models, m.isAbsent = false := by
  refine present_of_kept h (fun m hm => hpresent m ?_)
  exact (Merge.ofModels_sound digest hptr).firstWins.sublist.subset (List.mem_reverse.2 hm)

/-- Resolution keeps pointers distinct. -/
theorem nodup_pointers_resolveBy {digest : String → UInt64}
    (hptr : (d.models.map Model.pointer).Nodup) (h : d.resolveBy digest = .ok out) :
    (out.models.map Model.pointer).Nodup := by
  obtain ⟨visits, -, -, rfl⟩ := resolveBy_eq_ok_iff.1 h
  rw [pointers_marked]
  exact pointers_merged_nodup digest hptr

/-- A resolved draft gets names. -/
theorem named_of_resolveBy {digest : String → UInt64} (hptr : (d.models.map Model.pointer).Nodup)
    (h : d.resolveBy digest = .ok out) : ∃ named, out.named = .ok named := by
  refine ⟨_, named_eq_ok_iff.2 ⟨?_, rfl⟩⟩
  have hresolves := resolves_of_resolveBy_eq_ok hptr h
  have htargets : ∀ target ∈ out.referenceNodes.map Traits.target,
      target ∈ (d.merged digest).models.map Model.pointer := by
    rw [targets_resolveBy h]
    exact List.forall_mem_map.2 (fun t ht => List.mem_map.2 (hresolves t ht))
  obtain ⟨visits, -, -, rfl⟩ := resolveBy_eq_ok_iff.1 h
  rw [pointers_marked]
  exact List.forall_mem_map.1 htargets

/-- A client holds the model of every name that is reached. -/
theorem finish_holds {m : Model} (hm : m ∈ d.models) (h : d.Reached m.name) :
    ∃ n ∈ d.finish.models, n.name = m.name := by
  refine ⟨_, List.mem_mergeSort.2 (List.mem_map_of_mem (mem_kept.2 ⟨hm, h⟩)), ?_⟩
  cases m with
  | absent => rfl
  | node t ps i ms => rfl

/-- A model with its imports refers to what it referred to. -/
theorem targets_imports (imports : Traits → List String) (m : Model) :
    (m.modify (fun t => { t with imports := imports t })).referenceNodes.map Traits.target =
      m.referenceNodes.map Traits.target :=
  Model.targets_modify (f := fun t => { t with imports := imports t }) (fun _ => rfl)
    (fun _ => rfl) m

/-- Where every reference of a draft targets the name of a model and names are distinct, every
reference of its client targets the name of a model of the client. -/
theorem finish_references (hnames : (d.models.map Model.name).Nodup)
    (htargets : ∀ t ∈ d.referenceNodes, ∃ m ∈ d.models, m.name = t.target) :
    (∀ m ∈ d.finish.models, ∀ t ∈ m.referenceNodes, ∃ n ∈ d.finish.models, n.name = t.target) ∧
      ∀ s ∈ d.finish.services, ∀ t ∈ s.referenceNodes,
        ∃ n ∈ d.finish.models, n.name = t.target := by
  constructor
  · intro m hm t ht
    -- the model is a kept one with imports, which do not change what it refers to
    obtain ⟨k, hk, rfl⟩ := List.mem_map.1 (List.mem_mergeSort.1 hm)
    have hmem := List.mem_map_of_mem (f := Traits.target) ht
    rw [targets_imports] at hmem
    obtain ⟨u, hu, htarget⟩ := List.mem_map.1 hmem
    obtain ⟨n, hn, hname⟩ := htargets u
      (List.mem_append_left _ (List.mem_flatMap.2 ⟨k, (mem_kept.1 hk).1, hu⟩))
    rw [← htarget, ← hname]
    exact finish_holds hn (hname ▸ reached_of_mem_kept hnames hk hu)
  · intro s hs t ht
    obtain ⟨u, hu, rfl⟩ := List.mem_map.1 (List.mem_mergeSort.1 hs)
    obtain ⟨n, hn, hname⟩ := htargets t
      (List.mem_append_right _ (List.mem_flatMap.2 ⟨u, hu, ht⟩))
    rw [← hname]
    exact finish_holds hn (hname ▸ reached_of_mem_service hu ht)

/-- Resolution fails exactly when, after merging, some reference targets no model. Else the
resolved draft gets names, each reference gets the name of the model it pointed to, and every
reference in a model or an operation of the client targets the name of a model of the client. The
entries of the list of models are models, at distinct pointers. -/
theorem references_resolve (digest : String → UInt64)
    (hpresent : ∀ m ∈ d.models, m.isAbsent = false) (hptr : (d.models.map Model.pointer).Nodup) :
    ((∃ e, d.resolveBy digest = .error e) ↔
      ∃ t ∈ (d.merged digest).referenceNodes, ¬ (d.merged digest).Resolves t.target) ∧
    ∀ out, d.resolveBy digest = .ok out → ∃ named, out.named = .ok named ∧
      List.Forall₂ (fun before after => named.SameModel before.target after.target)
        out.referenceNodes named.referenceNodes ∧
      (∀ m ∈ named.finish.models, ∀ t ∈ m.referenceNodes,
        ∃ n ∈ named.finish.models, n.name = t.target) ∧
      ∀ s ∈ named.finish.services, ∀ t ∈ s.referenceNodes,
        ∃ n ∈ named.finish.models, n.name = t.target := by
  refine ⟨resolveBy_error_iff digest hptr, fun out hout => ?_⟩
  obtain ⟨named, hnamed⟩ := named_of_resolveBy hptr hout
  have hpresent := present_resolveBy hptr hpresent hout
  have hptr := nodup_pointers_resolveBy hptr hout
  exact ⟨named, hnamed, sameModel_named hnamed hpresent hptr,
    finish_references (nodup_names_named hnamed hpresent)
      (fun t ht => name_of_mem_referenceNodes hnamed hpresent hptr ht)⟩

/-- Two models that refer to each other and to themselves, an anonymous model that is merged and an
operation that refers to it. -/
def tangled : Draft where
  models :=
    [.node { kind := .interface, pointer := "#/a", sourceName := "a" }
      [{ name := "b", model := .referenceTo "#/b" "#/a/b" },
       { name := "a", model := .referenceTo "#/a" "#/a/a" }] .absent [],
     .node { kind := .array, pointer := "#/b", sourceName := "A" } []
      (.referenceTo "#/a" "#/b/items") [],
     anonymousText "#/c", anonymousText "#/d"]
  services := [{ operations := [{ results := [{ model := .referenceTo "#/d" "#/r" }] }] }]

/-- What becomes of `tangled`. -/
def tangledResolved : Draft where
  models :=
    [.node { kind := .interface, pointer := "#/a", sourceName := "a" }
      [{ name := "b", model := .referenceTo "#/b" "#/a/b" },
       { name := "a"
         model := .leaf
          { kind := .reference, target := "#/a", pointer := "#/a/a", lazy := true } }]
      .absent [],
     .node { kind := .array, pointer := "#/b", sourceName := "A" } []
      (.leaf { kind := .reference, target := "#/a", pointer := "#/b/items", lazy := true }) [],
     anonymousText "#/c"]
  services := [{ operations := [{ results := [{ model := .referenceTo "#/c" "#/r" }] }] }]

/-- `tangled` resolves, and its references go where `references_resolve` says. -/
theorem references_resolve_tangled :
    ∃ named, tangledResolved.named = .ok named ∧
      List.Forall₂ (fun before after => named.SameModel before.target after.target)
        tangledResolved.referenceNodes named.referenceNodes ∧
      (∀ m ∈ named.finish.models, ∀ t ∈ m.referenceNodes,
        ∃ n ∈ named.finish.models, n.name = t.target) ∧
      ∀ s ∈ named.finish.services, ∀ t ∈ s.referenceNodes,
        ∃ n ∈ named.finish.models, n.name = t.target :=
  (references_resolve (d := tangled) (fun _ => 0) (by decide) (by decide)).2 _ (by cbv)

end TypedClient.Draft
