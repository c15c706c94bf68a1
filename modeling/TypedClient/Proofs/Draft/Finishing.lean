import Mathlib.Data.List.Forall2
import Mathlib.Data.List.Permutation
import TypedClient.Proofs.Draft.Order
import TypedClient.Proofs.Draft.Reachability

/-!
# What a client holds

`finish_holds_reachable` says what the client of a draft is when the names of the models are
distinct: the models that chains of references lead to from a named model or an operation, in
strictly ascending order, each with the targets it refers to as imports, and the services and the
schemas in ascending order. The order in which the draft lists its models does not show in the
client.

A service imports no empty target. `untargeted` is a draft with a reference of that kind.
-/

namespace TypedClient.Draft

variable {d : Draft} {m : Model}

/-- The models that a client keeps: the named ones, and those that references lead to from an
operation or from a model that is kept. -/
inductive Retained (d : Draft) : Model → Prop where
  /-- A named model is kept. -/
  | named {m : Model} (hm : m ∈ d.models) (hnamed : m.anonymous = false) : Retained d m
  /-- A model that an operation refers to is kept. -/
  | used {m : Model} (hm : m ∈ d.models) {s : Service} (hs : s ∈ d.services) {t : Traits}
      (ht : t ∈ s.referenceNodes) (htarget : t.target = m.name) : Retained d m
  /-- A model that a kept model refers to is kept. -/
  | referred {m n : Model} (hn : Retained d n) (hm : m ∈ d.models) {t : Traits}
      (ht : t ∈ n.referenceNodes) (htarget : t.target = m.name) : Retained d m

/-- A kept model is a model of the draft. -/
theorem Retained.mem (h : d.Retained m) : m ∈ d.models := by
  cases h with
  | named hm _ => exact hm
  | used hm _ _ _ => exact hm
  | referred _ hm _ _ => exact hm

/-- A draft of more models and the same services keeps more models. -/
theorem Retained.mono {models : List Model} (h : d.Retained m) (hsub : d.models ⊆ models) :
    Retained { d with models } m := by
  induction h with
  | named hm hnamed => exact .named (hsub hm) hnamed
  | used hm hs ht htarget => exact .used (hsub hm) hs ht htarget
  | referred _ hm ht htarget ih => exact .referred ih (hsub hm) ht htarget

/-- The name of a kept model is reached. -/
theorem Retained.reached (hnames : (d.models.map Model.name).Nodup) (h : d.Retained m) :
    d.Reached m.name := by
  induction h with
  | @named m hm hnamed =>
      refine .root (List.mem_append_left _ (List.mem_map_of_mem (List.mem_filter.2 ⟨hm, ?_⟩)))
      rw [hnamed]
      rfl
  | used hm hs ht htarget =>
      rw [← htarget]
      exact reached_of_mem_service hs ht
  | referred hn hm ht htarget ih =>
      rw [← htarget]
      exact reached_of_mem_kept hnames (mem_kept.2 ⟨hn.mem, ih⟩) ht

/-- The model of a reached name is kept. -/
theorem retained_of_reached (hnames : (d.models.map Model.name).Nodup) {name : String}
    (h : d.Reached name) (hm : m ∈ d.models) (hname : m.name = name) : d.Retained m := by
  induction h generalizing m with
  | root hroot =>
      rcases List.mem_append.1 hroot with hroot | hroot
      · obtain ⟨n, hn, hsame⟩ := List.mem_map.1 hroot
        obtain ⟨hmem, hnamed⟩ := List.mem_filter.1 hn
        obtain rfl := List.inj_on_of_nodup_map hnames hmem hm (hsame.trans hname.symm)
        exact .named hm (by simpa using hnamed)
      · obtain ⟨t, ht, htarget⟩ := List.mem_map.1 hroot
        obtain ⟨s, hs, ht⟩ := List.mem_flatMap.1 ht
        exact .used hm hs ht (htarget.trans hname.symm)
  | @step source target _ ht ih =>
      -- only the name of a model leads further, and that model is kept
      by_cases hsource : source ∈ d.models.map Model.name
      · obtain ⟨n, hn, rfl⟩ := List.mem_map.1 hsource
        rw [targetsOf_name hnames hn, Model.references, List.mem_eraseDups] at ht
        obtain ⟨t, ht, htarget⟩ := List.mem_map.1 ht
        exact .referred (ih hn rfl) hm ht (htarget.trans hname.symm)
      · rw [targetsOf_of_not_mem hsource] at ht
        exact absurd ht List.not_mem_nil

/-- At distinct names the models of a client are those that are kept. -/
theorem mem_kept_iff (hnames : (d.models.map Model.name).Nodup) : m ∈ d.kept ↔ d.Retained m := by
  rw [mem_kept]
  constructor
  · rintro ⟨hm, hreached⟩
    exact retained_of_reached hnames hreached hm rfl
  · intro h
    exact ⟨h.mem, h.reached hnames⟩

/-- Names that are distinct in the draft are distinct among the models that are kept. -/
theorem nodup_names_kept (hnames : (d.models.map Model.name).Nodup) :
    (d.kept.map Model.name).Nodup :=
  hnames.sublist (List.filter_sublist.map Model.name)

/-- Which models are kept does not depend on the order of the models. -/
theorem kept_perm (hnames : (d.models.map Model.name).Nodup) {models : List Model}
    (hperm : models.Perm d.models) : (kept { d with models }).Perm d.kept := by
  have hnames' : (models.map Model.name).Nodup := (hperm.map Model.name).nodup_iff.2 hnames
  refine (List.perm_ext_iff_of_nodup (List.Nodup.of_map _ (nodup_names_kept hnames'))
    (List.Nodup.of_map _ (nodup_names_kept hnames))).2 (fun m => ?_)
  rw [mem_kept_iff hnames', mem_kept_iff hnames]
  constructor
  · intro h
    exact h.mono hperm.subset
  · intro h
    exact h.mono hperm.symm.subset

/-- What imports are: the distinct targets of references other than `own`, ascending. -/
structure ImportsFrom (own : String) (refs : List Traits) (imports : List String) : Prop where
  /-- The imports ascend strictly. -/
  ascending : imports.Pairwise (· < ·)
  /-- The imports are the targets other than `own`. -/
  mem_iff : ∀ target, target ∈ imports ↔ target ≠ own ∧ ∃ t ∈ refs, t.target = target

/-- Imports are listed as they should be. -/
theorem importsFrom_importsOf (own : String) (refs : List Traits) :
    ImportsFrom own refs (importsOf own refs) where
  ascending := by
    have hdistinct := nodup_eraseDups ((refs.map Traits.target).filter (· != own))
    exact sortBy_ascending id (by rwa [List.map_id])
  mem_iff := by
    intro target
    rw [importsOf, Text.sort, List.mem_mergeSort, List.mem_eraseDups, List.mem_filter,
      List.mem_map, and_comm, bne_iff_ne]

/-- There is one list of imports. -/
theorem ImportsFrom.unique {own : String} {refs : List Traits} {imports others : List String}
    (h : ImportsFrom own refs imports) (hothers : ImportsFrom own refs others) :
    imports = others := by
  have hnodup : ∀ {xs : List String}, xs.Pairwise (· < ·) → xs.Nodup := by
    intro xs hxs
    exact hxs.imp String.ne_of_lt
  have hperm := (List.perm_ext_iff_of_nodup (hnodup h.ascending) (hnodup hothers.ascending)).2
    (fun target => (h.mem_iff target).trans (hothers.mem_iff target).symm)
  refine hperm.eq_of_pairwise ?_ h.ascending hothers.ascending
  intro a b _ _ hab hba
  exact absurd (String.lt_trans hab hba) (String.lt_irrefl a)

/-- A model with its imports. -/
def withImports (m : Model) : Model :=
  m.modify (fun t => { t with imports := importsOf m.name m.referenceNodes })

/-- Imports do not change the name of a model. -/
theorem name_withImports (m : Model) : (withImports m).name = m.name := by
  cases m with
  | absent => rfl
  | node t ps i ms => rfl

/-- The models of a client are the models that are kept, with their imports, sorted. -/
theorem models_finish (d : Draft) :
    d.finish.models = sortBy Model.name (d.kept.map withImports) := by
  refine congrArg (sortBy Model.name) (List.map_congr_left (fun m _ => ?_))
  cases m with
  | absent => rfl
  | node t ps i ms => rfl

/-- Distinct names stay distinct when models get their imports. -/
theorem nodup_names_withImports (hnames : (d.models.map Model.name).Nodup) :
    ((d.kept.map withImports).map Model.name).Nodup := by
  have hsame : Model.name ∘ withImports = Model.name := funext name_withImports
  rw [List.map_map, hsame]
  exact nodup_names_kept hnames

/-- What the client of a draft is. -/
structure ClientOf (d : Draft) (c : Client) : Prop where
  /-- The models ascend strictly by name. -/
  models_ascend : c.models.Pairwise (fun a b => a.name < b.name)
  /-- The models are the models that are kept, with their imports. -/
  mem_models_iff : ∀ n, n ∈ c.models ↔ ∃ m imports, d.Retained m ∧
    n = m.modify (fun t => { t with imports }) ∧ ImportsFrom m.name m.referenceNodes imports
  /-- The services ascend by name. -/
  services_ascend : c.services.Pairwise (fun a b => a.name ≤ b.name)
  /-- The services are those of the draft, with their imports. -/
  services_perm : ∃ services, c.services.Perm services ∧
    List.Forall₂ (fun before after => ∃ imports, after = { before with imports } ∧
      ImportsFrom "" before.referenceNodes imports) d.services services
  /-- The schemas ascend by name. -/
  schemas_ascend : c.schemas.Pairwise (fun a b => a.name ≤ b.name)
  /-- The schemas are those of the draft. -/
  schemas_perm : c.schemas.Perm d.schemas

/-- At distinct names the client of a draft holds the models that chains of references lead to from
a named model or an operation, and all services and schemas, sorted and with their imports. The
order of the models of the draft does not matter. -/
theorem finish_holds_reachable (hnames : (d.models.map Model.name).Nodup) :
    d.ClientOf d.finish ∧
      ∀ models, models.Perm d.models → finish { d with models } = d.finish := by
  refine ⟨?_, fun models hperm => ?_⟩
  · refine ⟨?_, fun n => ?_, sortBy_sorted _ _, ⟨_, sortBy_perm _ _, ?_⟩, sortBy_sorted _ _,
      sortBy_perm _ _⟩
    · rw [models_finish]
      exact sortBy_ascending _ (nodup_names_withImports hnames)
    · rw [models_finish, (sortBy_perm _ _).mem_iff, List.mem_map]
      constructor
      · rintro ⟨m, hm, rfl⟩
        exact ⟨m, _, (mem_kept_iff hnames).1 hm, rfl, importsFrom_importsOf _ _⟩
      · rintro ⟨m, imports, hm, rfl, himports⟩
        refine ⟨m, (mem_kept_iff hnames).2 hm, ?_⟩
        rw [withImports, (importsFrom_importsOf _ _).unique himports]
    · rw [List.forall₂_map_right_iff, List.forall₂_same]
      exact fun s _ => ⟨_, rfl, importsFrom_importsOf _ _⟩
  · have hmodels : (finish { d with models }).models = d.finish.models := by
      rw [models_finish, models_finish]
      exact (sortBy_eq_of_perm (nodup_names_withImports hnames)
        ((kept_perm hnames hperm).map withImports).symm).symm
    exact congrArg (fun models => { d.finish with models }) hmodels

/-- An array of references to a name. -/
def arrayOf (name target : String) (anonymous : Bool) : Model :=
  .node { kind := .array, name, anonymous } [] (.referenceTo target "") []

/-- A draft with a named model, a circle of anonymous models that it refers to, an anonymous model
that an operation refers to, and one that nothing refers to. -/
def circled : Draft where
  models :=
    [arrayOf "Head" "Link" false, arrayOf "Link" "Back" true, arrayOf "Back" "Link" true,
     arrayOf "Item" "Nowhere" true, arrayOf "Alone" "Head" true]
  services :=
    [{ name := "Items", operations := [{ results := [{ model := .referenceTo "Item" "" }] }] }]

/-- The client of `circled` holds four of its five models, as `finish_holds_reachable` says. -/
theorem finish_holds_reachable_circled :
    circled.finish.models.map Model.name = ["Back", "Head", "Item", "Link"] ∧
      circled.ClientOf circled.finish ∧
      ∀ models, models.Perm circled.models → finish { circled with models } = circled.finish :=
  ⟨by cbv, finish_holds_reachable (by decide)⟩

/-- A draft with an operation that refers to the empty name. -/
def untargeted : Draft where
  services := [{ operations := [{ results := [{ model := .referenceTo "" "" }] }] }]

/-- The imports of the service of `untargeted` are not all the targets that its operations refer
to. -/
theorem untargeted_not_imported :
    ¬ ∃ services, untargeted.finish.services.Perm services ∧
      List.Forall₂ (fun before after => ∃ imports, after = { before with imports } ∧
        imports.Pairwise (· < ·) ∧
        ∀ target, target ∈ imports ↔ ∃ t ∈ before.referenceNodes, t.target = target)
        untargeted.services services := by
  rintro ⟨services, hperm, hservices⟩
  have hfinish : untargeted.finish.services = untargeted.services := by cbv
  rw [hfinish, untargeted] at hperm
  obtain rfl := List.singleton_perm.1 hperm
  cases hservices with
  | cons hservice _ =>
      obtain ⟨imports, heq, -, hmem⟩ := hservice
      have hnone : imports = [] := (congrArg Service.imports heq).symm
      have hempty := (hmem "").2 ⟨_, List.mem_cons_self, rfl⟩
      rw [hnone] at hempty
      exact absurd hempty List.not_mem_nil

end TypedClient.Draft
