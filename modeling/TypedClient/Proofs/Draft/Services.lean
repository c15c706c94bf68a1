import TypedClient.Draft.Services
import TypedClient.Proofs.Draft.Order

/-!
# Tag filters and services

`TagFilter.Keeps` says which operations a filter keeps, and `Filed` says what it means that
services hold a list of operations: each operation once, in the service of its tag, with the
services in the order in which their tags come up. `filed_ofOperations` shows that the services of
any list of operations hold it.
-/

namespace TypedClient

namespace TagFilter

/-- A filter keeps the operations that have one of the included tags, if any of those is not blank,
and none of the excluded ones. Blanks around the tags of the filter and blank tags do not count. -/
def Keeps (f : TagFilter) (tags : List String) : Prop :=
  ((∃ t ∈ f.included, Text.trim t ≠ "") →
      ∃ t ∈ f.included, Text.trim t ≠ "" ∧ Text.trim t ∈ tags) ∧
    ∀ t ∈ f.excluded, Text.trim t ≠ "" → Text.trim t ∉ tags

/-- The tags of a list are its texts without blanks around them, the empty text left out. -/
theorem mem_tagsOf {tags : List String} {tag : String} :
    tag ∈ tagsOf tags ↔ ∃ t ∈ tags, Text.trim t ≠ "" ∧ Text.trim t = tag := by
  simp only [tagsOf, List.mem_filter, List.mem_map, bne_iff_ne]
  constructor
  · rintro ⟨⟨t, ht, rfl⟩, hne⟩
    exact ⟨t, ht, hne, rfl⟩
  · rintro ⟨t, ht, hne, rfl⟩
    exact ⟨⟨t, ht, rfl⟩, hne⟩

/-- Some tag of an operation is among the tags of a list. -/
theorem any_contains_tagsOf {tags listed : List String} :
    tags.any (tagsOf listed).contains = true ↔
      ∃ t ∈ listed, Text.trim t ≠ "" ∧ Text.trim t ∈ tags := by
  simp only [List.any_eq_true, List.contains_iff_mem, mem_tagsOf]
  constructor
  · rintro ⟨_, htag, t, ht, hne, rfl⟩
    exact ⟨t, ht, hne, htag⟩
  · rintro ⟨t, ht, hne, htag⟩
    exact ⟨Text.trim t, htag, t, ht, hne, rfl⟩

/-- A filter allows what it keeps. -/
theorem allows_iff_keeps (f : TagFilter) (tags : List String) :
    f.allows tags = true ↔ f.Keeps tags := by
  have hempty : (tagsOf f.included).isEmpty = true ↔ ¬ ∃ t ∈ f.included, Text.trim t ≠ "" := by
    rw [List.isEmpty_iff, List.eq_nil_iff_forall_not_mem]
    constructor
    · rintro h ⟨t, ht, hne⟩
      exact h _ (mem_tagsOf.2 ⟨t, ht, hne, rfl⟩)
    · rintro h _ htag
      obtain ⟨t, ht, hne, rfl⟩ := mem_tagsOf.1 htag
      exact h ⟨t, ht, hne⟩
  rw [allows, Bool.and_eq_true, Bool.or_eq_true, hempty, any_contains_tagsOf, Bool.not_eq_true',
    ← Bool.not_eq_true, any_contains_tagsOf, ← imp_iff_not_or, Keeps]
  simp only [not_exists, not_and]

/-- Whether a filter keeps an operation can be decided. -/
instance (f : TagFilter) (tags : List String) : Decidable (f.Keeps tags) :=
  decidable_of_iff _ (f.allows_iff_keeps tags)

/-- What a filter allows is what it is decided to keep. -/
theorem decide_keeps (f : TagFilter) (tags : List String) :
    decide (f.Keeps tags) = f.allows tags :=
  Bool.eq_iff_iff.2 (decide_eq_true_iff.trans (f.allows_iff_keeps tags).symm)

/-- The filter without tags allows every operation. -/
@[simp] theorem allows_nothing_listed (tags : List String) :
    ({} : TagFilter).allows tags = true :=
  (allows_iff_keeps _ _).2 ⟨fun ⟨_, ht, _⟩ => absurd ht List.not_mem_nil,
    fun _ ht => absurd ht List.not_mem_nil⟩

end TagFilter

/-- Services hold a list of operations. -/
structure Filed (services : List Service) (ops : List Operation) : Prop where
  /-- The tags of the services are those of the operations, in the order in which they come up. -/
  tags_eq : services.map Service.tag = (ops.map Service.tagOf).eraseDups
  /-- No two services have one tag. -/
  tags_nodup : (services.map Service.tag).Nodup
  /-- A service holds the operations of its tag, in their order. -/
  operations_eq : ∀ s ∈ services,
    s.operations = ops.filter (fun op => Service.tagOf op = s.tag)
  /-- Together the services hold every operation once. -/
  perm : (services.flatMap Service.operations).Perm ops

namespace Service

/-- Adding an operation gives the services one more operation. -/
theorem flatMap_operations_add (services : List Service) (op : Operation) :
    ((add services op).flatMap Service.operations).Perm
      (services.flatMap Service.operations ++ [op]) := by
  induction services with
  | nil => exact .refl _
  | cons s rest ih =>
      unfold add
      split
      · simpa using (@List.perm_append_comm _ [op] _).append_left s.operations
      · simpa using ih.append_left s.operations

/-- An operation of a new tag gets a new service at the end. -/
theorem add_of_not_mem {services : List Service} {op : Operation}
    (h : tagOf op ∉ services.map Service.tag) :
    add services op = services ++ [{ tag := tagOf op, operations := [op] }] := by
  induction services with
  | nil => rfl
  | cons s rest ih =>
      rw [List.map_cons, List.mem_cons, not_or] at h
      rw [add, if_neg (Ne.symm h.1), ih h.2, List.cons_append]

/-- An operation of a tag that is there is added to the service of that tag. -/
theorem add_of_mem {services : List Service} {op : Operation}
    (hdistinct : (services.map Service.tag).Nodup) (h : tagOf op ∈ services.map Service.tag) :
    add services op = services.map (fun s =>
      if s.tag = tagOf op then { s with operations := s.operations ++ [op] } else s) := by
  induction services with
  | nil => cases h
  | cons s rest ih =>
      obtain ⟨hfresh, hrest⟩ := List.nodup_cons.1 hdistinct
      rw [add, List.map_cons]
      split
      case isTrue htag =>
        have hsame : ∀ r ∈ rest, r.tag ≠ tagOf op := fun r hr heq =>
          hfresh (htag.trans heq.symm ▸ List.mem_map_of_mem hr)
        rw [List.map_congr_left (fun r hr => if_neg (hsame r hr)), List.map_id']
      case isFalse htag =>
        rw [ih hrest (List.mem_of_ne_of_mem (Ne.symm htag) h)]

end Service

open Service

variable {services : List Service} {ops : List Operation}

/-- A tag has a service when an operation has it. -/
theorem Filed.mem_tags_iff (h : Filed services ops) {tag : String} :
    tag ∈ services.map Service.tag ↔ tag ∈ ops.map tagOf := by
  rw [h.tags_eq, List.mem_eraseDups]

/-- With one more operation a service comes last when its tag is new. -/
theorem Filed.tags_add (h : Filed services ops) (op : Operation) :
    (Service.add services op).map Service.tag = ((ops ++ [op]).map tagOf).eraseDups := by
  rw [List.map_append, List.map_singleton, eraseDups_concat, ← h.tags_eq]
  split
  case isTrue hmem =>
    rw [add_of_mem h.tags_nodup (h.mem_tags_iff.2 hmem), List.map_map]
    exact List.map_congr_left (fun s _ => by simp only [Function.comp_apply]; split <;> rfl)
  case isFalse hnew =>
    rw [add_of_not_mem (fun hmem => hnew (h.mem_tags_iff.1 hmem)), List.map_append,
      List.map_singleton]

/-- With one more operation a service still holds the operations of its tag. -/
theorem Filed.operations_add (h : Filed services ops) {op : Operation} {s : Service}
    (hs : s ∈ Service.add services op) :
    s.operations = (ops ++ [op]).filter (fun o => tagOf o = s.tag) := by
  rw [List.filter_append]
  by_cases hmem : tagOf op ∈ services.map Service.tag
  · rw [add_of_mem h.tags_nodup hmem] at hs
    obtain ⟨r, hr, rfl⟩ := List.mem_map.1 hs
    split
    case isTrue htag => simp [h.operations_eq r hr, htag]
    case isFalse htag => simp [h.operations_eq r hr, Ne.symm htag]
  · rw [add_of_not_mem hmem, List.mem_append] at hs
    rcases hs with hs | hs
    · have hne : tagOf op ≠ s.tag := fun heq => hmem (heq ▸ List.mem_map_of_mem hs)
      simp [h.operations_eq s hs, hne]
    · -- the new service starts with the operation alone, since no earlier one has its tag
      obtain rfl := List.mem_singleton.1 hs
      have hnone : ops.filter (fun o => tagOf o = tagOf op) = [] := by
        refine List.filter_eq_nil_iff.2 (fun o ho htag => hmem (h.mem_tags_iff.2 ?_))
        exact of_decide_eq_true htag ▸ List.mem_map_of_mem ho
      simp [hnone]

/-- One more operation is filed with the others. -/
theorem Filed.add (h : Filed services ops) (op : Operation) :
    Filed (Service.add services op) (ops ++ [op]) where
  tags_eq := h.tags_add op
  tags_nodup := h.tags_add op ▸ nodup_eraseDups _
  operations_eq := fun _ hs => h.operations_add hs
  perm := (flatMap_operations_add services op).trans (h.perm.append_right [op])

/-- Operations that are added in turn are filed after those that are there. -/
theorem Filed.addAll (h : Filed services ops) (later : List Operation) :
    Filed (later.foldl Service.add services) (ops ++ later) := by
  induction later generalizing services ops with
  | nil => simpa using h
  | cons op rest ih => simpa using ih (h.add op)

/-- The services of a list of operations hold it. -/
theorem filed_ofOperations (ops : List Operation) : Filed (Service.ofOperations ops) ops := by
  have hnone : Filed [] [] := ⟨rfl, List.nodup_nil, by simp, .refl _⟩
  exact hnone.addAll ops

end TypedClient
