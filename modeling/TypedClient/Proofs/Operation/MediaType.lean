import Mathlib.Data.List.DropRight
import Mathlib.Data.List.TakeDrop
import Mathlib.Data.String.Basic
import Mathlib.Order.Bounds.Basic
import TypedClient.Operation.MediaType
import TypedClient.Proofs.Draft.Order

/-!
# Preferred media types

Of some media types those of JSON come first, then those that are built on JSON, then all others,
and the least of the first sort that there is is preferred. `IsPreferred` says this without sorting,
and so without the order that the media types come in. At most one of them is preferred in this
sense, so `preferred_least` gives what is preferred and also that it does not depend on their order.
-/

namespace TypedClient

namespace Text

/-- What is left of a text when all that satisfies a test goes from its ends. -/
structure StripsTo (test : Char → Bool) (s kept : List Char) : Prop where
  /-- What goes satisfies the test. -/
  around : ∃ left right, s = left ++ kept ++ right ∧
    (∀ c ∈ left, test c = true) ∧ ∀ c ∈ right, test c = true
  /-- Nothing more goes from the front. -/
  first : ∀ c ∈ kept.head?, test c = false
  /-- Nothing more goes from the end. -/
  last : ∀ c ∈ kept.getLast?, test c = false

theorem stripsTo_stripWhile (test : Char → Bool) (s : List Char) :
    StripsTo test s (stripWhile test s) where
  around := by
    refine ⟨s.takeWhile test, (s.dropWhile test).rtakeWhile test, ?_,
      fun _ hc => List.mem_takeWhile_imp hc, fun _ hc => List.mem_rtakeWhile_imp hc⟩
    calc s
        _ = s.takeWhile test ++ s.dropWhile test := List.takeWhile_append_dropWhile.symm
        _ = s.takeWhile test ++ (stripWhile test s ++ (s.dropWhile test).rtakeWhile test) :=
            congrArg _ (List.rdropWhile_append_rtakeWhile ..).symm
        _ = _ := (List.append_assoc ..).symm
  first := by
    intro c hc
    -- what is left is the start of what is left when nothing goes from the end
    obtain ⟨rest, hrest⟩ := List.rdropWhile_prefix test (l := s.dropWhile test)
    have hhead := List.head?_dropWhile_not test s
    rw [← hrest, show (s.dropWhile test).rdropWhile test = stripWhile test s from rfl,
      List.head?_append, hc] at hhead
    exact hhead
  last := by
    intro c hc
    obtain ⟨hne, rfl⟩ := List.mem_getLast?_eq_getLast hc
    exact Bool.eq_false_iff.2 (List.rdropWhile_last_not test (s.dropWhile test) hne)

end Text

namespace MediaType

variable {types other : List String} {t u : String}

/-- What is compared of a media type: what stands before the first semicolon, stripped of blanks, in
lower case. -/
inductive HasBase (mediaType : String) : String → Prop where
  | mk {before after kept : List Char} (htext : mediaType.toList = before ++ after)
      (hbefore : ';' ∉ before) (hafter : after = [] ∨ after.head? = some ';')
      (hkept : Text.StripsTo Unicode.isBlank before kept) :
      HasBase mediaType (String.ofList (kept.map Unicode.lower))

theorem hasBase_base (mediaType : String) : HasBase mediaType (base mediaType) := by
  have hcut : (Text.cut ';' mediaType).1.toList = mediaType.toList.takeWhile (· != ';') := by
    rw [Text.cut, String.toList_ofList, List.span_eq_takeWhile_dropWhile]
  have hstrips := Text.stripsTo_stripWhile Unicode.isBlank (mediaType.toList.takeWhile (· != ';'))
  have hbase : base mediaType = String.ofList ((Text.stripWhile Unicode.isBlank
      (mediaType.toList.takeWhile (· != ';'))).map Unicode.lower) := by
    rw [base, Text.lower, Text.trim, hcut, String.toList_ofList]
  rw [hbase]
  refine .mk List.takeWhile_append_dropWhile.symm (fun hmem => ?_) ?_ hstrips
  · simpa using List.mem_takeWhile_imp hmem
  · have hhead := List.head?_dropWhile_not (· != ';') mediaType.toList
    cases hrest : mediaType.toList.dropWhile (· != ';') with
    | nil => exact .inl rfl
    | cons c rest =>
        rw [hrest] at hhead
        exact .inr (congrArg some (by simpa using hhead))

/-- Whether a media type is one of JSON. -/
def IsJson (t : String) : Prop :=
  base t = "application/json"

/-- Whether a media type is built on JSON. -/
def IsOnJson (t : String) : Prop :=
  "+json".toList <:+ (base t).toList

instance : Decidable (IsJson t) :=
  inferInstanceAs (Decidable (_ = _))

/-- The least media type of JSON, or the least that is built on it when there is none, or the least
of all when there is none of these either. -/
inductive IsPreferred (types : List String) (t : String) : Prop where
  | json (h : IsLeast {u | u ∈ types ∧ IsJson u} t)
  | onJson (hjson : ∀ u ∈ types, ¬ IsJson u) (h : IsLeast {u | u ∈ types ∧ IsOnJson u} t)
  | first (hjson : ∀ u ∈ types, ¬ IsJson u) (honJson : ∀ u ∈ types, ¬ IsOnJson u)
      (h : IsLeast {u | u ∈ types} t)

theorem IsPreferred.mem (h : IsPreferred types t) : t ∈ types := by
  cases h with
  | json h => exact h.1.1
  | onJson _ h => exact h.1.1
  | first _ _ h => exact h.1

/-- At most one media type is preferred. -/
theorem IsPreferred.eq (h : IsPreferred types t) (h' : IsPreferred types u) : t = u := by
  cases h with
  | json h =>
      cases h' with
      | json h' => exact h.unique h'
      | onJson hjson _ | first hjson _ _ => exact absurd h.1.2 (hjson t h.1.1)
  | onJson hjson h =>
      cases h' with
      | json h' => exact absurd h'.1.2 (hjson u h'.1.1)
      | onJson _ h' => exact h.unique h'
      | first _ honJson _ => exact absurd h.1.2 (honJson t h.1.1)
  | first hjson honJson h =>
      cases h' with
      | json h' => exact absurd h'.1.2 (hjson u h'.1.1)
      | onJson _ h' => exact absurd h'.1.2 (honJson u h'.1.1)
      | first _ _ h' => exact h.unique h'

/-- What is preferred depends on which media types there are only. -/
theorem IsPreferred.of_mem_iff (h : IsPreferred types t) (hmem : ∀ u, u ∈ other ↔ u ∈ types) :
    IsPreferred other t := by
  cases h with
  | json h => exact .json (by simpa only [hmem] using h)
  | onJson hjson h =>
      exact .onJson (by simpa only [hmem] using hjson) (by simpa only [hmem] using h)
  | first hjson honJson h =>
      exact .first (by simpa only [hmem] using hjson) (by simpa only [hmem] using honJson)
        (by simpa only [hmem] using h)

/-- The first sorted media type that passes a test is the least that does. -/
theorem isLeast_of_find? {test : String → Bool} {p : String → Prop}
    (hp : ∀ u, test u = true ↔ p u) (h : (Text.sort types).find? test = some t) :
    IsLeast {u | u ∈ types ∧ p u} t := by
  have hleast := Text.isLeast_of_find?_eq_some (Text.pairwise_sort types) h
  simpa only [Text.sort, List.mem_mergeSort, hp] using hleast

/-- No media type passes a test that no sorted one passes. -/
theorem not_of_find? {test : String → Bool} {p : String → Prop}
    (hp : ∀ u, test u = true ↔ p u) (h : (Text.sort types).find? test = none) :
    ∀ u ∈ types, ¬ p u := by
  intro u hu
  rw [← hp]
  exact List.find?_eq_none.1 h u (List.mem_mergeSort.2 hu)

theorem isPreferred_preferred (h : types ≠ []) : IsPreferred types (preferred types) := by
  have hjson : ∀ u, decide (base u = json) = true ↔ IsJson u := fun u => decide_eq_true_iff
  have honJson : ∀ u, Text.endsWith "+json" (base u) = true ↔ IsOnJson u :=
    fun u => List.isSuffixOf_iff_suffix
  unfold preferred
  dsimp only
  cases hfirst : (Text.sort types).find? (fun t => base t = json) with
  | some t => exact .json (isLeast_of_find? hjson hfirst)
  | none =>
      have hnone := not_of_find? hjson hfirst
      cases hsecond : (Text.sort types).find? (fun t => Text.endsWith "+json" (base t)) with
      | some t => exact .onJson hnone (isLeast_of_find? honJson hsecond)
      | none =>
          have hsorted : (Text.sort types) ≠ [] := fun hnil =>
            h (List.nil_perm.1 (hnil ▸ List.mergeSort_perm types _))
          obtain ⟨t, rest, hcons⟩ := List.exists_cons_of_ne_nil hsorted
          rw [hcons]
          have hthird : (Text.sort types).find? (fun _ => true) = some t := by rw [hcons]; rfl
          refine .first hnone (not_of_find? honJson hsecond) ?_
          simpa using isLeast_of_find? (p := fun _ => True) (by simp) hthird

/-- Of some media types one is preferred. -/
theorem preferred_mem_of_ne_nil (h : types ≠ []) : preferred types ∈ types :=
  (isPreferred_preferred h).mem

/-- A preferred media type is one of the media types. -/
theorem preferred_mem (h : preferred types ≠ "") : preferred types ∈ types := by
  refine preferred_mem_of_ne_nil ?_
  rintro rfl
  exact h (by simp [preferred, Text.sort])

/-- Of some media types the least of JSON is preferred, or the least that is built on JSON, or the
least of all, in whatever order they are given. Media types are compared by what stands before a
semicolon, without blanks around it and in lower case. -/
theorem preferred_least {types : List String} (h : types ≠ []) :
    preferred types ∈ types ∧
      (∀ other : List String, other.Perm types → preferred other = preferred types) ∧
      IsPreferred types (preferred types) ∧
      ∀ t ∈ types, HasBase t (base t) := by
  have hpreferred := isPreferred_preferred h
  refine ⟨hpreferred.mem, fun other hperm => ?_, hpreferred, fun t _ => hasBase_base t⟩
  have hother : other ≠ [] := fun hnil => h (List.nil_perm.1 (hnil ▸ hperm))
  exact ((isPreferred_preferred hother).of_mem_iff (fun u => hperm.mem_iff.symm)).eq hpreferred

/-- Two spellings of JSON among other media types. -/
def spelled : List String :=
  ["text/plain", "application/json", "APPLICATION/Json ;v=1", "a/b+json"]

/-- Of two spellings of JSON the one with capitals is preferred, as `preferred_least` says, also
when the media types come in another order. -/
theorem preferred_least_spelled :
    spelled ≠ [] ∧ preferred spelled = "APPLICATION/Json ;v=1" ∧
      preferred spelled.reverse = "APPLICATION/Json ;v=1" ∧
      IsPreferred spelled (preferred spelled) ∧ HasBase "APPLICATION/Json ;v=1" json := by
  have hne : spelled ≠ [] := by decide
  obtain ⟨-, hperm, hpreferred, hbase⟩ := preferred_least hne
  have hleast : ∀ u ∈ spelled, IsJson u → "APPLICATION/Json ;v=1" ≤ u := by decide +kernel
  have hspelled : IsPreferred spelled "APPLICATION/Json ;v=1" :=
    .json ⟨⟨by decide, by decide +kernel⟩, fun u hu => hleast u hu.1 hu.2⟩
  have hvalue := hpreferred.eq hspelled
  exact ⟨hne, hvalue, (hperm _ (List.reverse_perm _)).trans hvalue, hpreferred,
    (show base "APPLICATION/Json ;v=1" = json by decide +kernel) ▸ hbase _ (by decide)⟩

end MediaType

end TypedClient
