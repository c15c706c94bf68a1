import Mathlib.Data.List.Forall2
import Mathlib.Data.List.Nodup
import Mathlib.Data.List.Perm.Subperm
import TypedClient.Naming.Namespace
import TypedClient.Proofs.Text.Parts

/-!
# Fresh names

A namespace hands out names that were free. The search for a number that makes a name free is
bounded; `freeName_of_taken` shows that the bound is never the reason why it stops, because more
numbered names than there are taken ones cannot all be taken. So the search ends without a bound
too, and `grants_freeName` shows that it gives the same name then.
-/

namespace TypedClient.Naming

/-- Different numbers make different names. -/
theorem numbered_injective (base : String) :
    Function.Injective (fun i : Nat => base ++ toString i) := by
  intro i j h
  have hrepr : i.repr = j.repr := (String.append_right_inj base).1 h
  exact Text.toDigits_injective (by rw [← Nat.toList_repr, hrepr, Nat.toList_repr])

/-- The search returns no number below its start. -/
theorem le_firstFree (taken : String → Bool) (base : String) (fuel i : Nat) :
    i ≤ firstFree taken base fuel i := by
  induction fuel generalizing i with
  | zero => exact Nat.le_refl i
  | succ fuel ih =>
      rw [firstFree]
      split
      · have := ih (i + 1)
        omega
      · exact Nat.le_refl i

/-- Every number that the search passes makes a taken name. -/
theorem taken_of_lt_firstFree {taken : String → Bool} {base : String} {fuel i j : Nat}
    (hi : i ≤ j) (hj : j < firstFree taken base fuel i) : taken (base ++ toString j) = true := by
  induction fuel generalizing i with
  | zero =>
      rw [firstFree] at hj
      omega
  | succ fuel ih =>
      rw [firstFree] at hj
      split at hj
      · rename_i htaken
        by_cases heq : j = i
        · rw [heq]
          exact htaken
        · exact ih (by omega) hj
      · omega

/-- The search stops at a number that makes a free name, or when its fuel is used up. -/
theorem firstFree_free_or_eq (taken : String → Bool) (base : String) (fuel i : Nat) :
    taken (base ++ toString (firstFree taken base fuel i)) = false ∨
      firstFree taken base fuel i = i + fuel := by
  induction fuel generalizing i with
  | zero => exact .inr rfl
  | succ fuel ih =>
      rw [firstFree]
      split
      · rcases ih (i + 1) with h | h
        · exact .inl h
        · exact .inr (by omega)
      · rename_i hfree
        exact .inl (by simpa using hfree)

/-- What is taken is taken by one of few: each number that makes a taken name has a code of its own
in `cover`. -/
structure Covered {α : Type} (taken : String → Bool) (base : String) (cover : List α)
    (code : Nat → α) : Prop where
  injective : Function.Injective code
  mem : ∀ i, taken (base ++ toString i) = true → code i ∈ cover

/-- More numbers than there are codes cannot all make taken names. -/
theorem Covered.exists_free {α : Type} {taken : String → Bool} {base : String} {cover : List α}
    {code : Nat → α} (h : Covered taken base cover code) (numbers : List Nat)
    (hnodup : numbers.Nodup) (hlen : cover.length < numbers.length) :
    ∃ i ∈ numbers, taken (base ++ toString i) = false := by
  by_contra hall
  have hsub : numbers.map code ⊆ cover := by
    intro c hc
    obtain ⟨i, hi, rfl⟩ := List.mem_map.1 hc
    refine h.mem i ?_
    cases htaken : taken (base ++ toString i) with
    | true => rfl
    | false => exact absurd ⟨i, hi, htaken⟩ hall
  have hle := ((hnodup.map h.injective).subperm hsub).length_le
  rw [List.length_map] at hle
  omega

/-- A free name is asked for as it is. -/
theorem freeName_of_free {taken : String → Bool} {base : String} (bound : Nat)
    (h : taken base = false) : freeName taken bound base = base := by
  simp [freeName, h]

/-- A taken name gets the least positive number that makes it free. -/
theorem freeName_of_taken {α : Type} {taken : String → Bool} {base : String} {bound : Nat}
    {cover : List α} {code : Nat → α} (hcover : Covered taken base cover code)
    (hlen : cover.length ≤ bound) (h : taken base = true) :
    ∃ i, 1 ≤ i ∧ freeName taken bound base = base ++ toString i ∧
      taken (base ++ toString i) = false ∧
      ∀ j, 1 ≤ j → j < i → taken (base ++ toString j) = true := by
  refine ⟨firstFree taken base bound 1, le_firstFree taken base bound 1, by simp [freeName, h], ?_,
    fun j h1 hj => taken_of_lt_firstFree h1 hj⟩
  rcases firstFree_free_or_eq taken base bound 1 with hfree | hstop
  · exact hfree
  · obtain ⟨i, hi, hfree⟩ := hcover.exists_free (List.range' 1 (bound + 1)) List.nodup_range'
      (by rw [List.length_range']; omega)
    have hi := List.mem_range'_1.1 hi
    -- every number before the last one tried makes a taken name, so the free one is the last
    have hlast : i = firstFree taken base bound 1 := by
      by_contra hne
      have hlt : i < firstFree taken base bound 1 := by omega
      have htaken := taken_of_lt_firstFree hi.1 hlt
      rw [hfree] at htaken
      exact absurd htaken (by simp)
    rw [← hlast]
    exact hfree

/-- `name` is `base` or `base` with a number. -/
def NumberedFrom (base name : String) : Prop :=
  name = base ∨ ∃ i : Nat, name = base ++ toString i

/-- Nothing but digits follows the name that was asked for. -/
theorem NumberedFrom.exists_digits {base name : String} (h : NumberedFrom base name) :
    ∃ more, name = base ++ more ∧ ∀ c ∈ more.toList, c.isDigit = true := by
  rcases h with rfl | ⟨i, rfl⟩
  · exact ⟨"", (String.append_empty).symm, fun _ hc => nomatch hc⟩
  · refine ⟨toString i, rfl, fun c hc => ?_⟩
    exact Nat.isDigit_of_mem_toDigits (by decide) (Nat.le_refl 10)
      (Nat.toList_repr (n := i) ▸ hc)

/-! ## The search without a bound -/

/-- The search for a number as it goes on for as long as the name with that number is taken. -/
inductive EndsAt (taken : String → Bool) (base : String) : (i n : Nat) → Prop where
  /-- The search stops at a number that makes a free name. -/
  | stop {i : Nat} (h : taken (base ++ toString i) = false) : EndsAt taken base i i
  /-- Else it goes on with the next number. -/
  | next {i n : Nat} (h : taken (base ++ toString i) = true)
      (hrest : EndsAt taken base (i + 1) n) : EndsAt taken base i n

/-- The search ends at the first number that makes a free name, if there is one. -/
theorem endsAt_iff {taken : String → Bool} {base : String} {i n : Nat} :
    EndsAt taken base i n ↔ i ≤ n ∧ taken (base ++ toString n) = false ∧
      ∀ j, i ≤ j → j < n → taken (base ++ toString j) = true := by
  constructor
  · intro h
    induction h with
    | stop h => exact ⟨Nat.le_refl _, h, fun j hj hlt => by omega⟩
    | next h _ ih =>
        obtain ⟨hle, hfree, hpassed⟩ := ih
        refine ⟨by omega, hfree, fun j hj hlt => ?_⟩
        rcases Nat.eq_or_lt_of_le hj with rfl | hj
        · exact h
        · exact hpassed j hj hlt
  · rintro ⟨hle, hfree, hpassed⟩
    obtain ⟨steps, rfl⟩ := Nat.exists_eq_add_of_le hle
    induction steps generalizing i with
    | zero => exact .stop hfree
    | succ steps ih =>
        rw [Nat.add_comm steps, ← Nat.add_assoc] at hfree hpassed ⊢
        exact .next (hpassed i (Nat.le_refl i) (by omega))
          (ih (by omega) hfree (fun j hj => hpassed j (by omega)))

/-- What is given to one who asks for `base`: `base` itself when it is free, and else `base` with
the number that the search from one on ends at, which is the least that makes a free name. -/
inductive Grants (taken : String → Bool) (base : String) : String → Prop where
  | asked (h : taken base = false) : Grants taken base base
  | numbered {n : Nat} (h : taken base = true) (hsearch : EndsAt taken base 1 n) (hpos : 1 ≤ n)
      (hfree : taken (base ++ toString n) = false)
      (hleast : ∀ j, 1 ≤ j → j < n → taken (base ++ toString j) = true) :
      Grants taken base (base ++ toString n)

/-- What is given is free. -/
theorem Grants.free {taken : String → Bool} {base name : String} (h : Grants taken base name) :
    taken name = false := by
  cases h with
  | asked h => exact h
  | numbered _ _ _ hfree _ => exact hfree

/-- What is given is the name asked for or has a number. -/
theorem Grants.numberedFrom {taken : String → Bool} {base name : String}
    (h : Grants taken base name) : NumberedFrom base name := by
  cases h with
  | asked => exact .inl rfl
  | numbered => exact .inr ⟨_, rfl⟩

/-- The name that is found with a bound is the one that is given. -/
theorem grants_freeName {α : Type} {taken : String → Bool} {base : String} {bound : Nat}
    {cover : List α} {code : Nat → α} (hcover : Covered taken base cover code)
    (hlen : cover.length ≤ bound) : Grants taken base (freeName taken bound base) := by
  cases h : taken base with
  | false =>
      rw [freeName_of_free bound h]
      exact .asked h
  | true =>
      obtain ⟨n, hpos, hname, hfree, hleast⟩ := freeName_of_taken hcover hlen h
      rw [hname]
      exact .numbered h (endsAt_iff.2 ⟨hpos, hfree, hleast⟩) hpos hfree hleast

namespace Namespace

variable (ns : Namespace)

/-- The taken names cover what is taken. -/
theorem covered (base : String) :
    Covered ns.taken base ns.names (fun i => base ++ toString i) where
  injective := numbered_injective base
  mem := fun _ h => List.contains_iff_mem.1 h

/-- A name is free when it is not among the taken ones. -/
theorem taken_eq_false_iff {name : String} : ns.taken name = false ↔ name ∉ ns.names := by
  simp [taken]

/-- A namespace gives the name that the search finds. -/
theorem grants_reserve (base : String) : Grants ns.taken base (ns.reserve base).1 :=
  grants_freeName (ns.covered base) (Nat.le_refl ns.names.length)

/-- A name that is reserved was not taken. -/
theorem reserve_not_mem (base : String) : (ns.reserve base).1 ∉ ns.names :=
  ns.taken_eq_false_iff.1 (ns.grants_reserve base).free

/-- A reserved name is taken from then on, and nothing else is. -/
theorem names_reserve (base : String) :
    (ns.reserve base).2.names = (ns.reserve base).1 :: ns.names := rfl

theorem reserveAll_cons (base : String) (rest : List String) :
    ns.reserveAll (base :: rest) =
      ((ns.reserve base).1 :: ((ns.reserve base).2.reserveAll rest).1,
        ((ns.reserve base).2.reserveAll rest).2) := rfl

/-- Each base gets a name. -/
theorem length_reserveAll (bases : List String) :
    (ns.reserveAll bases).1.length = bases.length := by
  induction bases generalizing ns with
  | nil => rfl
  | cons base rest ih => rw [reserveAll_cons, List.length_cons, List.length_cons, ih]

/-- The names that are reserved join those that were taken. -/
theorem names_reserveAll (bases : List String) :
    (ns.reserveAll bases).2.names = (ns.reserveAll bases).1.reverse ++ ns.names := by
  induction bases generalizing ns with
  | nil => rfl
  | cons base rest ih =>
      rw [reserveAll_cons]
      simp only [ih, names_reserve, List.reverse_cons, List.append_assoc, List.singleton_append]

/-- Distinct names stay distinct when further names are reserved. -/
theorem nodup_names_reserveAll (bases : List String) (h : ns.names.Nodup) :
    (ns.reserveAll bases).2.names.Nodup := by
  induction bases generalizing ns with
  | nil => exact h
  | cons base rest ih =>
      rw [reserveAll_cons]
      refine ih (ns.reserve base).2 ?_
      rw [names_reserve]
      exact List.nodup_cons.2 ⟨ns.reserve_not_mem base, h⟩

/-- Names reserved one after the other are distinct. -/
theorem nodup_reserveAll (bases : List String) : (reserveAll {} bases).1.Nodup := by
  have h := nodup_names_reserveAll {} bases List.nodup_nil
  rw [names_reserveAll, List.append_nil] at h
  exact List.nodup_reverse.1 h

/-- Each name is the base that was asked for or has a number. -/
theorem forall₂_reserveAll (bases : List String) :
    List.Forall₂ NumberedFrom bases (ns.reserveAll bases).1 := by
  induction bases generalizing ns with
  | nil => exact .nil
  | cons base rest ih =>
      rw [reserveAll_cons]
      exact .cons (ns.grants_reserve base).numberedFrom (ih (ns.reserve base).2)

/-- Each name is taken from one of the bases. -/
theorem numberedFrom_reserveAll (bases : List String) :
    ∀ name ∈ (ns.reserveAll bases).1, ∃ base ∈ bases, NumberedFrom base name := by
  intro name hname
  obtain ⟨i, hi, rfl⟩ := List.mem_iff_getElem.1 hname
  have hlen : i < bases.length := by rwa [length_reserveAll] at hi
  exact ⟨bases[i], List.getElem_mem hlen, (ns.forall₂_reserveAll bases).get hlen hi⟩

end Namespace

end TypedClient.Naming
