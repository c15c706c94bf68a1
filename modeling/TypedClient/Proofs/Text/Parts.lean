import Mathlib.Data.List.Infix

/-!
# The parts of a text

When a text determines the parts it was put together from. A mark is a sequence whose first
character stands nowhere else in it, so two marks never overlap; `cut_eq` says that texts free of
marks, each followed by a mark, end at the same place when the whole texts are equal.
-/

namespace TypedClient.Text

variable {α : Type} {x : α} {tails : List (List α)} {u v r s tail next : List α}

/-- Whether a text holds no mark, where the marks are `x` with one of the tails behind it. -/
def FreeOf (x : α) (tails : List (List α)) (u : List α) : Prop :=
  ∀ tail ∈ tails, ¬ (x :: tail) <:+: u

/-- A text without the first character of the marks holds no mark. -/
theorem FreeOf.of_not_mem (h : x ∉ u) : FreeOf x tails u :=
  fun _ _ hmark => h (hmark.subset List.mem_cons_self)

/-- A text that ends with a mark and more is not free of marks. -/
theorem FreeOf.ne_append (h : FreeOf x tails u) (htail : tail ∈ tails) :
    u ≠ v ++ x :: (tail ++ r) := by
  rintro rfl
  exact h tail htail ⟨v, r, by simp⟩

/-- A text stays free of marks when something without their characters follows. -/
theorem FreeOf.append (h : FreeOf x tails u) (hv : ∀ tail ∈ tails, ∀ c ∈ v, c ∉ x :: tail) :
    FreeOf x tails (u ++ v) := by
  rintro tail htail ⟨before, after, heq⟩
  rcases List.append_eq_append_iff.1 heq with ⟨more, hu, -⟩ | ⟨more, hmark, hmore⟩
  · exact h tail htail ⟨before, more, hu.symm⟩
  · by_cases hnil : more = []
    · exact h tail htail ⟨before, [], by simpa [hnil] using hmark⟩
    · -- the last character of the mark stands in what follows
      have hlast : more.getLast hnil = (x :: tail).getLast (List.cons_ne_nil x tail) := by
        have hboth := congrArg List.getLast? hmark
        rw [List.getLast?_append_of_ne_nil _ (List.cons_ne_nil x tail),
          List.getLast?_append_of_ne_nil _ hnil, List.getLast?_eq_getLast_of_ne_nil hnil,
          List.getLast?_eq_getLast_of_ne_nil (List.cons_ne_nil x tail)] at hboth
        exact (Option.some.inj hboth).symm
      refine hv tail htail (more.getLast hnil) ?_ ?_
      · exact hmore ▸ List.mem_append_left _ (List.getLast_mem hnil)
      · exact hlast ▸ List.getLast_mem (List.cons_ne_nil x tail)

/-- What stands between the ends of two texts before a mark is nothing when the longer is free of
marks. -/
theorem FreeOf.eq_nil (hx : ∀ tail ∈ tails, x ∉ tail) (htail : tail ∈ tails)
    {gap : List α} (hfree : FreeOf x tails (u ++ gap))
    (h : x :: (tail ++ r) = gap ++ x :: s) : gap = [] := by
  cases gap with
  | nil => rfl
  | cons y gap =>
      obtain ⟨rfl, hrest⟩ := List.cons.inj h
      exfalso
      -- the mark lies inside the gap, or the gap ends inside the mark, which then holds `x` again
      rcases List.append_eq_append_iff.1 hrest with ⟨more, hgap, -⟩ | ⟨more, htaileq, hmore⟩
      · exact hfree tail htail ⟨u, more, by simp [hgap]⟩
      · cases more with
        | nil =>
            rw [List.append_nil] at htaileq
            exact hfree tail htail ⟨u, [], by simp [htaileq]⟩
        | cons z more =>
            obtain ⟨rfl, -⟩ := List.cons.inj hmore
            exact hx tail htail (htaileq ▸ List.mem_append_right _ List.mem_cons_self)

/-- Texts free of marks, each with a mark behind it, are equal when the whole texts are. -/
theorem cut_eq (hx : ∀ tail ∈ tails, x ∉ tail) (hu : FreeOf x tails u) (hv : FreeOf x tails v)
    (htail : tail ∈ tails) (hnext : next ∈ tails)
    (h : u ++ x :: (tail ++ r) = v ++ x :: (next ++ s)) : u = v ∧ tail ++ r = next ++ s := by
  rcases List.append_eq_append_iff.1 h with ⟨gap, rfl, hgap⟩ | ⟨gap, rfl, hgap⟩
  · obtain rfl := hv.eq_nil hx htail hgap
    exact ⟨(List.append_nil u).symm, (List.cons.inj hgap).2⟩
  · obtain rfl := hu.eq_nil hx hnext hgap
    exact ⟨List.append_nil v, (List.cons.inj hgap).2.symm⟩

/-- Texts up to the first `x` are equal when the whole texts are. -/
theorem cut_first (hu : x ∉ u) (hv : x ∉ v) (h : u ++ x :: r = v ++ x :: s) : u = v ∧ r = s :=
  cut_eq (by simp) (FreeOf.of_not_mem hu : FreeOf x [[]] u) (.of_not_mem hv) List.mem_cons_self
    List.mem_cons_self h

/-- Texts from the last `x` on are equal when the whole texts are. -/
theorem cut_last (hr : x ∉ r) (hs : x ∉ s) (h : u ++ x :: r = v ++ x :: s) : u = v ∧ r = s := by
  have hrev := congrArg List.reverse h
  simp only [List.reverse_append, List.reverse_cons, List.append_assoc, List.singleton_append]
    at hrev
  obtain ⟨hrs, huv⟩ := cut_first (by simpa using hr) (by simpa using hs) hrev
  exact ⟨List.reverse_injective huv, List.reverse_injective hrs⟩

/-- Texts are told from a flag behind them when they do not end like it. -/
theorem cut_flag {flag : List α} (hu : ¬ flag <:+ u) (hv : ¬ flag <:+ v) {a b : Bool}
    (h : u ++ (if a then flag else []) = v ++ if b then flag else []) : u = v ∧ a = b := by
  cases a <;> cases b
  · exact ⟨List.append_cancel_right h, rfl⟩
  · exact absurd ⟨_, h.symm.trans (List.append_nil _)⟩ hu
  · exact absurd ⟨_, h.trans (List.append_nil _)⟩ hv
  · exact ⟨List.append_cancel_right h, rfl⟩

/-- A text up to a character that does not stand in `v` starts with `v` when the whole text
does. -/
theorem prefix_of_append_eq (hx : x ∉ v) (h : u ++ x :: r = v ++ s) : v <+: u := by
  rcases List.append_eq_append_iff.1 h with ⟨more, rfl, hmore⟩ | ⟨more, rfl, -⟩
  · cases more with
    | nil => exact ⟨[], by simp⟩
    | cons y more =>
        obtain ⟨rfl, -⟩ := List.cons.inj hmore
        exact absurd (List.mem_append_right u List.mem_cons_self) hx
  · exact ⟨more, rfl⟩

/-- The digits of a number determine it. -/
theorem toDigits_injective {m n : Nat} (h : Nat.toDigits 10 m = Nat.toDigits 10 n) : m = n := by
  rw [← Nat.ofDigitChars_ten_toDigits (n := m), h, Nat.ofDigitChars_ten_toDigits]

end TypedClient.Text
