import Mathlib.Data.List.Nodup
import TypedClient.Draft.Finish
import TypedClient.Proofs.Draft.Nodes

/-!
# Reachable models

`mem_reachable_iff` says that the rounds of reachability end with the names that a chain of
references leads to from a root. A round that reaches the name of no further model is the last one
that matters: names of no model lead nowhere. So one round more than there are models is enough,
whatever cycles the references form.
-/

namespace TypedClient.Draft

variable {d : Draft}

/-- The names that chains of references lead to from the roots. -/
inductive Reached (d : Draft) : String → Prop where
  /-- A root is reached. -/
  | root {name : String} (h : name ∈ d.roots) : Reached d name
  /-- What a reached model refers to is reached. -/
  | step {name target : String} (h : Reached d name) (ht : target ∈ d.targetsOf name) :
      Reached d target

/-- Adding names keeps what was seen and adds the rest. -/
theorem mem_addNew {seen names : List String} {n : String} :
    n ∈ addNew seen names ↔ n ∈ seen ∨ n ∈ names := by
  induction names generalizing seen with
  | nil => simp [addNew]
  | cons a names ih =>
      rw [addNew]
      split
      · rename_i hseen
        rw [ih, List.mem_cons]
        constructor
        · exact Or.imp_right Or.inr
        · rintro (h | rfl | h)
          · exact .inl h
          · exact .inl (List.contains_iff_mem.1 hseen)
          · exact .inr h
      · rw [ih, List.mem_cons, List.mem_cons, or_assoc, or_left_comm]

/-- Adding names never shortens what was seen. -/
theorem length_le_addNew (seen names : List String) :
    seen.length ≤ (addNew seen names).length := by
  induction names generalizing seen with
  | nil => exact Nat.le_refl _
  | cons a names ih =>
      rw [addNew]
      split
      · exact ih seen
      · exact Nat.le_trans (Nat.le_succ _) (ih (a :: seen))

/-- When nothing gets longer, nothing was new. -/
theorem subset_of_length_addNew {seen names : List String}
    (h : (addNew seen names).length = seen.length) : names ⊆ seen := by
  induction names generalizing seen with
  | nil => exact List.nil_subset _
  | cons a names ih =>
      rw [addNew] at h
      split at h
      · rename_i hseen
        exact List.cons_subset.2 ⟨List.contains_iff_mem.1 hseen, ih h⟩
      · have hgrow := length_le_addNew (a :: seen) names
        rw [List.length_cons] at hgrow
        omega

/-- Names that were seen are not added. -/
theorem addNew_of_subset {seen names : List String} (h : names ⊆ seen) :
    addNew seen names = seen := by
  induction names with
  | nil => rfl
  | cons a names ih =>
      obtain ⟨ha, hrest⟩ := List.cons_subset.1 h
      rw [addNew, if_pos (List.contains_iff_mem.2 ha), ih hrest]

/-- Whether a list holds what the models of its names refer to. -/
def Closed (d : Draft) (seen : List String) : Prop :=
  ∀ n ∈ seen, ∀ t ∈ d.targetsOf n, t ∈ seen

/-- A round adds what the models of the names refer to. -/
theorem mem_expand {seen : List String} {n : String} :
    n ∈ d.expand seen ↔ n ∈ seen ∨ ∃ m ∈ seen, n ∈ d.targetsOf m := by
  rw [expand, mem_addNew, List.mem_flatMap]

/-- A round that adds nothing finds a closed list. -/
theorem closed_of_length_expand {seen : List String}
    (h : (d.expand seen).length = seen.length) : d.Closed seen := fun n hn _ ht =>
  subset_of_length_addNew h (List.mem_flatMap.2 ⟨n, hn, ht⟩)

/-- No round changes a closed list. -/
theorem reach_of_closed {seen : List String} (h : d.Closed seen) (rounds : Nat) :
    d.reach rounds seen = seen := by
  cases rounds with
  | zero => rfl
  | succ rounds =>
      have hexpand : d.expand seen = seen := by
        refine addNew_of_subset (fun t ht => ?_)
        obtain ⟨n, hn, hnt⟩ := List.mem_flatMap.1 ht
        exact h n hn t hnt
      rw [reach, hexpand, if_pos rfl]

/-- The name of no model leads nowhere. -/
theorem targetsOf_of_not_mem {n : String} (h : n ∉ d.models.map Model.name) :
    d.targetsOf n = [] := by
  have hnone : d.models.reverse.find? (fun m => m.name = n) = none := by
    refine List.find?_eq_none.2 (fun m hm heq => h ?_)
    exact List.mem_map.2 ⟨m, List.mem_reverse.1 hm, by simpa using heq⟩
  rw [targetsOf, hnone]
  rfl

/-- The models whose names are not seen. -/
def unseen (d : Draft) (seen : List String) : List Model :=
  d.models.filter (fun m => !seen.contains m.name)

/-- Of more names, fewer models are unseen. -/
theorem unseen_sublist {seen next : List String} (h : seen ⊆ next) :
    (d.unseen next).Sublist (d.unseen seen) := by
  refine List.monotone_filter_right _ (fun m hm => ?_)
  simp only [Bool.not_eq_true', List.contains_eq_mem, decide_eq_false_iff_not] at hm ⊢
  exact fun hseen => hm (h hseen)

/-- A round that reaches the name of no further model ends with a closed list. -/
theorem closed_expand {seen : List String}
    (h : (d.unseen (d.expand seen)).length = (d.unseen seen).length) :
    d.Closed (d.expand seen) := by
  have hsub : seen ⊆ d.expand seen := fun _ hn => mem_expand.2 (.inl hn)
  have hsame : d.unseen (d.expand seen) = d.unseen seen :=
    (unseen_sublist hsub).eq_of_length h
  intro n hn t ht
  by_cases hseen : n ∈ seen
  · exact mem_expand.2 (.inr ⟨n, hseen, ht⟩)
  · -- a new name with targets is the name of a model, which was not seen and now is
    by_cases hmodel : n ∈ d.models.map Model.name
    · obtain ⟨m, hm, rfl⟩ := List.mem_map.1 hmodel
      have hmem : m ∈ d.unseen seen :=
        List.mem_filter.2 ⟨hm, by simpa using hseen⟩
      rw [← hsame] at hmem
      exact absurd hn (by simpa using (List.mem_filter.1 hmem).2)
    · rw [targetsOf_of_not_mem hmodel] at ht
      exact absurd ht List.not_mem_nil

/-- With more rounds than unseen models the search ends with a closed list. -/
theorem closed_reach {rounds : Nat} {seen : List String} (h : (d.unseen seen).length < rounds) :
    d.Closed (d.reach rounds seen) := by
  induction rounds generalizing seen with
  | zero => exact absurd h (Nat.not_lt_zero _)
  | succ rounds ih =>
      rw [reach]
      split
      · rename_i hlength
        exact closed_of_length_expand hlength
      · have hsub : seen ⊆ d.expand seen := fun _ hn => mem_expand.2 (.inl hn)
        have hle := (unseen_sublist (d := d) hsub).length_le
        -- each further round reaches the name of a model, or the list is closed already
        by_cases hsame : (d.unseen (d.expand seen)).length = (d.unseen seen).length
        · rw [reach_of_closed (closed_expand hsame)]
          exact closed_expand hsame
        · exact ih (by omega)

/-- The search keeps what was seen. -/
theorem subset_reach (d : Draft) (rounds : Nat) (seen : List String) :
    seen ⊆ d.reach rounds seen := by
  induction rounds generalizing seen with
  | zero => exact List.Subset.refl _
  | succ rounds ih =>
      rw [reach]
      split
      · exact List.Subset.refl _
      · exact fun n hn => ih _ (mem_expand.2 (.inl hn))

/-- The search finds only what references lead to. -/
theorem reached_of_mem_reach {rounds : Nat} {seen : List String} (h : ∀ n ∈ seen, d.Reached n) :
    ∀ n ∈ d.reach rounds seen, d.Reached n := by
  induction rounds generalizing seen with
  | zero => exact h
  | succ rounds ih =>
      rw [reach]
      split
      · exact h
      · refine ih (fun n hn => ?_)
        rcases mem_expand.1 hn with hn | ⟨m, hm, ht⟩
        · exact h n hn
        · exact .step (h m hm) ht

/-- The reachable names are those that chains of references lead to from the roots. -/
theorem mem_reachable_iff {name : String} : name ∈ d.reachable ↔ d.Reached name := by
  constructor
  · refine fun h => reached_of_mem_reach (fun n hn => ?_) name h
    rcases mem_addNew.1 hn with hn | hn
    · exact absurd hn List.not_mem_nil
    · exact .root hn
  · intro h
    induction h with
    | root hroot => exact subset_reach d _ _ (mem_addNew.2 (.inr hroot))
    | step _ ht ih =>
        have hlength : (d.unseen (addNew [] d.roots)).length < d.models.length + 1 :=
          Nat.lt_succ_of_le (List.length_filter_le _ _)
        exact closed_reach hlength _ ih _ ht

/-- A client keeps the models with a name that can be reached. -/
theorem mem_kept {m : Model} : m ∈ d.kept ↔ m ∈ d.models ∧ d.Reached m.name := by
  rw [kept, List.mem_filter, List.contains_iff_mem, mem_reachable_iff]

/-- At distinct names the targets of a name are those of the model that has it. -/
theorem targetsOf_name (hnames : (d.models.map Model.name).Nodup) {m : Model} (hm : m ∈ d.models) :
    d.targetsOf m.name = m.references := by
  have hfound : d.models.reverse.find? (fun n => n.name = m.name) = some m := by
    cases h : d.models.reverse.find? (fun n => n.name = m.name) with
    | none =>
        have hnone := List.find?_eq_none.1 h m (List.mem_reverse.2 hm)
        exact absurd (decide_eq_true rfl) hnone
    | some n =>
        have hname : n.name = m.name := by simpa using List.find?_some h
        have hn := List.mem_reverse.1 (List.mem_of_find?_eq_some h)
        rw [List.inj_on_of_nodup_map hnames hn hm hname]
  rw [targetsOf, hfound]
  rfl

/-- What a kept model refers to is reached. -/
theorem reached_of_mem_kept (hnames : (d.models.map Model.name).Nodup) {m : Model}
    (hm : m ∈ d.kept) {t : Traits} (ht : t ∈ m.referenceNodes) : d.Reached t.target := by
  obtain ⟨hmem, hreached⟩ := mem_kept.1 hm
  refine .step hreached ?_
  rw [targetsOf_name hnames hmem, Model.references, List.mem_eraseDups]
  exact List.mem_map_of_mem ht

/-- What an operation refers to is reached. -/
theorem reached_of_mem_service {s : Service} (hs : s ∈ d.services) {t : Traits}
    (ht : t ∈ s.referenceNodes) : d.Reached t.target :=
  .root (List.mem_append_right _ (List.mem_map_of_mem (List.mem_flatMap.2 ⟨s, hs, ht⟩)))

end TypedClient.Draft
