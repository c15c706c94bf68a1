import Mathlib.Data.List.Nodup
import Mathlib.Order.Bounds.Defs
import TypedClient.Draft.Finish

/-!
# Distinct and sorted lists

What sorting by a text does. The sorted list holds the same items, and where no two items have one
key it ascends strictly, so it does not depend on the order that it was made from.
-/

namespace TypedClient

/-- Without repetitions a list holds nothing twice. -/
theorem nodup_eraseDups {α : Type} [BEq α] [LawfulBEq α] : (xs : List α) → xs.eraseDups.Nodup
  | [] => by simp
  | x :: xs => by
      rw [List.eraseDups_cons, List.nodup_cons]
      refine ⟨?_, nodup_eraseDups (xs.filter (fun y => !y == x))⟩
      simp [List.mem_eraseDups]
termination_by xs => xs.length
decreasing_by exact Nat.lt_succ_of_le (List.length_filter_le _ _)

/-- An item at the end of a list is a repetition or the last of the distinct items. -/
theorem eraseDups_concat {α : Type} [BEq α] [LawfulBEq α] [DecidableEq α] (xs : List α) (x : α) :
    (xs ++ [x]).eraseDups = if x ∈ xs then xs.eraseDups else xs.eraseDups ++ [x] := by
  rw [List.eraseDups_append]
  split
  case isTrue h => simp [List.removeAll, h]
  case isFalse h => simp [List.removeAll, h, List.eraseDups_cons]

/-- The Boolean order of texts is their order. -/
theorem Text.le_eq_true_iff {a b : String} : Text.le a b = true ↔ a ≤ b := by
  rw [Text.le, Bool.not_eq_true', decide_eq_false_iff_not, String.not_lt]

namespace Draft

variable {α : Type} {key : α → String} {xs ys : List α}

/-- Sorting keeps the items. -/
theorem sortBy_perm (key : α → String) (xs : List α) : (sortBy key xs).Perm xs :=
  List.mergeSort_perm xs _

/-- Sorted items ascend. -/
theorem sortBy_sorted (key : α → String) (xs : List α) :
    (sortBy key xs).Pairwise (fun a b => key a ≤ key b) := by
  have hsorted := @List.pairwise_mergeSort α (fun a b => Text.le (key a) (key b))
    (fun a b c hab hbc => Text.le_eq_true_iff.2
      (String.le_trans (Text.le_eq_true_iff.1 hab) (Text.le_eq_true_iff.1 hbc)))
    (fun a b => by
      rw [Bool.or_eq_true, Text.le_eq_true_iff, Text.le_eq_true_iff]
      exact String.le_total (key a) (key b)) xs
  exact hsorted.imp (fun hab => Text.le_eq_true_iff.1 hab)

/-- Sorting keeps the items of one key in their order. -/
theorem sortBy_stable (key : α → String) (xs : List α) (k : String) :
    (sortBy key xs).filter (fun x => key x = k) = xs.filter (fun x => key x = k) := by
  -- items of one key ascend as they are, so sorting keeps them as a sublist
  have hkept : (xs.filter (fun x => key x = k)).Sublist (sortBy key xs) := by
    refine List.sublist_mergeSort ?_ ?_ ?_ List.filter_sublist
    · intro a b c hab hbc
      rw [Text.le_eq_true_iff] at hab hbc ⊢
      exact String.le_trans hab hbc
    · intro a b
      rw [Bool.or_eq_true, Text.le_eq_true_iff, Text.le_eq_true_iff]
      exact String.le_total (key a) (key b)
    · refine List.pairwise_of_forall_mem_list (fun a ha b hb => ?_)
      have hsame : key a = key b := by
        rw [of_decide_eq_true (List.mem_filter.1 ha).2, of_decide_eq_true (List.mem_filter.1 hb).2]
      exact Text.le_eq_true_iff.2 (hsame ▸ String.le_refl (key a))
  have hfiltered := hkept.filter (fun x => key x = k)
  simp only [List.filter_filter, Bool.and_self] at hfiltered
  refine (hfiltered.eq_of_length ?_).symm
  exact ((sortBy_perm key xs).filter _).length_eq.symm

/-- At distinct keys sorted items ascend strictly. -/
theorem sortBy_ascending (key : α → String) (h : (xs.map key).Nodup) :
    (sortBy key xs).Pairwise (fun a b => key a < key b) := by
  have hdistinct : ((sortBy key xs).map key).Nodup :=
    ((sortBy_perm key xs).map key).nodup_iff.2 h
  refine (sortBy_sorted key xs).imp₂ (fun a b hle hne => ?_) (List.pairwise_map.1 hdistinct)
  exact String.not_le.1 (fun hba => hne (String.le_antisymm hle hba))

/-- At distinct keys the order that items are sorted from does not matter. -/
theorem sortBy_eq_of_perm (h : (xs.map key).Nodup) (hperm : xs.Perm ys) :
    sortBy key xs = sortBy key ys := by
  have hys : (ys.map key).Nodup := (hperm.map key).nodup_iff.1 h
  refine List.Perm.eq_of_pairwise ?_ (sortBy_ascending key h) (sortBy_ascending key hys)
    ((sortBy_perm key xs).trans (hperm.trans (sortBy_perm key ys).symm))
  intro a b _ _ hab hba
  exact absurd (String.lt_trans hab hba) (String.lt_irrefl _)

end Draft

namespace Text

/-- Sorted texts ascend. -/
theorem pairwise_sort (xs : List String) : (sort xs).Pairwise (· ≤ ·) :=
  Draft.sortBy_sorted id xs

/-- The first of ascending texts that pass a test is the least of them. -/
theorem isLeast_of_find?_eq_some {xs : List String} (h : xs.Pairwise (· ≤ ·))
    {test : String → Bool} {t : String} (ht : xs.find? test = some t) :
    IsLeast {u | u ∈ xs ∧ test u = true} t := by
  obtain ⟨htest, before, after, rfl, hbefore⟩ := List.find?_eq_some_iff_append.1 ht
  refine ⟨⟨List.mem_append_right _ List.mem_cons_self, htest⟩, ?_⟩
  rintro u ⟨hu, hpasses⟩
  rcases List.mem_append.1 hu with hu | hu
  · have hfails := hbefore u hu
    rw [hpasses] at hfails
    cases hfails
  · rcases List.mem_cons.1 hu with rfl | hu
    · exact String.le_refl u
    · exact List.rel_of_pairwise_cons (List.pairwise_append.1 h).2.1 hu

end Text

end TypedClient
