import Mathlib.Algebra.Order.Field.Power
import Mathlib.Data.Rat.Cast.Order
import Mathlib.Order.Monotone.Basic
import Mathlib.Tactic.Linarith
import Mathlib.Tactic.NormNum
import Mathlib.Tactic.Positivity
import Mathlib.Tactic.Ring
import TypedClient.Number.Shortest

/-!
# What the shortest decimal says

The decimal of a double lies in the interval of the numbers that round to it, and the intervals of
distinct doubles are disjoint. So `magnitude_eq_of_shortest`: doubles with one shortest decimal
have one magnitude.
-/

namespace TypedClient

/-- The number that a decimal stands for. -/
def Decimal.value (d : Decimal) : ℚ :=
  d.digits * 10 ^ d.exponent

/-- A power with the part below zero taken out. -/
theorem zpow_mul_pow_toNat {b : ℚ} (hb : b ≠ 0) (z : Int) :
    b ^ z * b ^ (-z).toNat = b ^ z.toNat := by
  rw [← zpow_natCast, ← zpow_natCast, ← zpow_add₀ hb]
  congr 1
  omega

namespace Binary64

namespace Neighbourhood

variable {n : Neighbourhood} {k : Int} {digits : Nat}

/-- Whether a number rounds to the double of a neighbourhood. -/
def Holds (n : Neighbourhood) (v : ℚ) : Prop :=
  (n.low * 2 ^ n.exponent < v ∨ (n.closed = true ∧ n.low * 2 ^ n.exponent = v)) ∧
    (v < n.high * 2 ^ n.exponent ∨ (n.closed = true ∧ v = n.high * 2 ^ n.exponent))

/-- A unit of the neighbourhood on the scale of the grid `10 ^ k`. -/
def binaryStep (n : Neighbourhood) (k : Int) : Nat :=
  Nat.pow 2 n.exponent.toNat * Nat.pow 10 (-k).toNat

/-- The width of the grid `10 ^ k` on the same scale. -/
def decimalStep (n : Neighbourhood) (k : Int) : Nat :=
  Nat.pow 2 (-n.exponent).toNat * Nat.pow 10 k.toNat

theorem binaryStep_pos (n : Neighbourhood) (k : Int) : 0 < n.binaryStep k :=
  Nat.mul_pos (Nat.pow_pos (by decide)) (Nat.pow_pos (by decide))

theorem decimalStep_pos (n : Neighbourhood) (k : Int) : 0 < n.decimalStep k :=
  Nat.mul_pos (Nat.pow_pos (by decide)) (Nat.pow_pos (by decide))

/-- The two steps are `2 ^ exponent` and `10 ^ k` on one scale. -/
theorem exists_scale (n : Neighbourhood) (k : Int) :
    ∃ scale : ℚ, 0 < scale ∧ (n.binaryStep k : ℚ) = 2 ^ n.exponent * scale ∧
      (n.decimalStep k : ℚ) = 10 ^ k * scale := by
  refine ⟨2 ^ (-n.exponent).toNat * 10 ^ (-k).toNat, by positivity, ?_, ?_⟩
  · simp only [binaryStep, Nat.pow_eq]
    push_cast
    rw [← mul_assoc, zpow_mul_pow_toNat (by norm_num)]
  · simp only [decimalStep, Nat.pow_eq]
    push_cast
    rw [mul_left_comm, zpow_mul_pow_toNat (by norm_num)]

/-- Whether the multiple `digits · 10 ^ k` lies above the lower end. -/
def AboveLow (n : Neighbourhood) (k : Int) (digits : Nat) : Prop :=
  n.low * n.binaryStep k < digits * n.decimalStep k ∨
    (n.closed = true ∧ n.low * n.binaryStep k = digits * n.decimalStep k)

/-- Whether the multiple `digits · 10 ^ k` lies below the upper end. -/
def BelowHigh (n : Neighbourhood) (k : Int) (digits : Nat) : Prop :=
  digits * n.decimalStep k < n.high * n.binaryStep k ∨
    (n.closed = true ∧ digits * n.decimalStep k = n.high * n.binaryStep k)

/-- A bound that holds with the steps holds of the numbers. -/
theorem holds_of_steps (hlow : n.AboveLow k digits) (hhigh : n.BelowHigh k digits) :
    n.Holds (Decimal.value ⟨digits, k⟩) := by
  unfold AboveLow at hlow
  unfold BelowHigh at hhigh
  obtain ⟨scale, hpos, hbinary, hdecimal⟩ := n.exists_scale k
  simp only [← Nat.cast_lt (α := ℚ), ← Nat.cast_inj (R := ℚ), Nat.cast_mul, hbinary, hdecimal,
    ← mul_assoc, mul_lt_mul_iff_left₀ hpos, mul_left_inj' (ne_of_gt hpos)] at hlow hhigh
  exact ⟨hlow, hhigh⟩

/-- The multiple of `10 ^ k` at the double or next below it, counted in `10 ^ k`. -/
def below (n : Neighbourhood) (k : Int) : Nat :=
  n.value * n.binaryStep k / n.decimalStep k

/-- A hit on a grid is one of the two multiples around the double, where that one is inside. -/
theorem onGrid?_eq_some_cases (h : n.onGrid? k = some digits) :
    (digits = n.below k ∧ n.below k ≠ 0 ∧ n.AboveLow k (n.below k)) ∨
      (digits = n.below k + 1 ∧ n.BelowHigh k (n.below k + 1)) := by
  unfold onGrid? at h
  dsimp only at h
  split at h
  · rename_i hboth
    split at h
    · exact .inl ⟨(Option.some.inj h).symm, hboth.1⟩
    · exact .inr ⟨(Option.some.inj h).symm, hboth.2⟩
  · split at h
    · rename_i hlow
      exact .inl ⟨(Option.some.inj h).symm, hlow⟩
    · split at h
      · rename_i hhigh
        exact .inr ⟨(Option.some.inj h).symm, hhigh⟩
      · cases h

/-- There is a hit where the multiple above the double is inside. -/
theorem onGrid?_isSome (h : n.BelowHigh k (n.below k + 1)) :
    ∃ digits, n.onGrid? k = some digits := by
  unfold onGrid?
  dsimp only
  split
  · split
    · exact ⟨_, rfl⟩
    · exact ⟨_, rfl⟩
  · split
    · exact ⟨_, rfl⟩
    · exact ⟨_, if_pos h⟩

/-- A hit on a grid is not zero and rounds to the double. -/
theorem holds_of_onGrid? (hlow : n.low < n.value) (hhigh : n.value < n.high)
    (h : n.onGrid? k = some digits) : digits ≠ 0 ∧ n.Holds (Decimal.value ⟨digits, k⟩) := by
  have hfloor : n.below k * n.decimalStep k ≤ n.value * n.binaryStep k := Nat.div_mul_le_self _ _
  have hceil : n.value * n.binaryStep k < (n.below k + 1) * n.decimalStep k := by
    rw [Nat.succ_mul]
    exact Nat.lt_div_mul_add (n.decimalStep_pos k)
  have hl := Nat.mul_lt_mul_of_pos_right hlow (n.binaryStep_pos k)
  have hh := Nat.mul_lt_mul_of_pos_right hhigh (n.binaryStep_pos k)
  rcases onGrid?_eq_some_cases h with ⟨rfl, hne, habove⟩ | ⟨rfl, hbelow⟩
  · exact ⟨hne, holds_of_steps habove (.inl (Nat.lt_of_le_of_lt hfloor hh))⟩
  · exact ⟨Nat.succ_ne_zero _, holds_of_steps (.inl (Nat.lt_trans hl hceil)) hbelow⟩

/-- A grid finer than the gap above the double hits. -/
theorem onGrid?_of_fine (hhigh : n.high = n.value + 2)
    (h : (10 : ℚ) ^ k < 2 * 2 ^ n.exponent) : ∃ digits, n.onGrid? k = some digits := by
  obtain ⟨scale, hpos, hbinary, hdecimal⟩ := n.exists_scale k
  have hsteps : n.decimalStep k < 2 * n.binaryStep k := by
    rw [← Nat.cast_lt (α := ℚ), Nat.cast_mul, hbinary, hdecimal, ← mul_assoc]
    exact mul_lt_mul_of_pos_right h hpos
  refine onGrid?_isSome (.inl ?_)
  have hfloor : n.below k * n.decimalStep k ≤ n.value * n.binaryStep k := Nat.div_mul_le_self _ _
  rw [hhigh, Nat.succ_mul, Nat.add_mul]
  omega

/-- A search with a hit within reach ends with a hit. -/
theorem search_of_hit {fuel : Nat} (h : ∃ j < fuel, ∃ digits, n.onGrid? (k - j) = some digits) :
    n.onGrid? (n.search fuel k).exponent = some (n.search fuel k).digits := by
  induction fuel generalizing k with
  | zero =>
      obtain ⟨j, hj, -⟩ := h
      exact absurd hj (Nat.not_lt_zero j)
  | succ fuel ih =>
      rw [search]
      cases hk : n.onGrid? k with
      | some digits => exact hk
      | none =>
          obtain ⟨j, hj, digits, hdigits⟩ := h
          cases j with
          | zero => simp [hk] at hdigits
          | succ j =>
              refine ih ⟨j, Nat.lt_of_succ_lt_succ hj, digits, ?_⟩
              rw [← hdigits]
              congr 1
              push_cast
              ring

end Neighbourhood

/-- A power of ten that is small enough in bits is below a power of two. -/
theorem ten_zpow_le_two_zpow {a b : Int} (h : 10 * a ≤ 3 * b) (h' : 13 * a ≤ 4 * b) :
    (10 : ℚ) ^ a ≤ 2 ^ b := by
  -- compare third powers above zero and fourth powers below, where each bound is close enough
  rcases le_or_gt 0 a with ha | ha
  · have hcube : ((10 : ℚ) ^ a) ^ 3 ≤ (2 ^ b) ^ 3 := by
      calc ((10 : ℚ) ^ a) ^ 3 = 1000 ^ a := by
            rw [← zpow_natCast, ← zpow_mul, mul_comm, zpow_mul]
            norm_num
        _ ≤ 1024 ^ a := zpow_le_zpow_left₀ ha (by norm_num) (by norm_num)
        _ = 2 ^ (10 * a) := by
            rw [zpow_mul]
            norm_num
        _ ≤ 2 ^ (3 * b) := zpow_le_zpow_right₀ (by norm_num) h
        _ = (2 ^ b) ^ 3 := by
            rw [← zpow_natCast, ← zpow_mul, mul_comm]
            norm_num
    exact le_of_pow_le_pow_left₀ (by norm_num) (by positivity) hcube
  · have hneg : (0 : Int) ≤ -a := by omega
    have hfourth : ((10 : ℚ) ^ a) ^ 4 ≤ (2 ^ b) ^ 4 := by
      calc ((10 : ℚ) ^ a) ^ 4 = (10000 ^ (-a))⁻¹ := by
            rw [zpow_neg, inv_inv, ← zpow_natCast, ← zpow_mul, mul_comm, zpow_mul]
            norm_num
        _ ≤ (8192 ^ (-a))⁻¹ :=
            inv_anti₀ (by positivity) (zpow_le_zpow_left₀ hneg (by norm_num) (by norm_num))
        _ = 2 ^ (13 * a) := by
            rw [zpow_neg, inv_inv, zpow_mul]
            norm_num
        _ ≤ 2 ^ (4 * b) := zpow_le_zpow_right₀ (by norm_num) h'
        _ = (2 ^ b) ^ 4 := by
            rw [← zpow_natCast, ← zpow_mul, mul_comm]
            norm_num
    exact le_of_pow_le_pow_left₀ (by norm_num) (by positivity) hfourth

/-- The exponent bits as a power of two, from that of the least doubles on. -/
theorem exponent_eq (x : Binary64) :
    x.exponent = ((x.magnitude / hiddenBit - 1 : Nat) : Int) - 1074 := by
  unfold exponent hiddenBit
  split <;> omega

/-- The mantissa has at most fifty-three bits. -/
theorem log2_mantissa_le (x : Binary64) : Nat.log2 x.mantissa ≤ 52 := by
  have hlt : x.mantissa < 2 ^ 53 := by
    unfold mantissa hiddenBit
    split <;> omega
  by_cases h0 : x.mantissa = 0
  · rw [h0]
    decide
  · exact Nat.lt_succ_iff.1 ((Nat.log2_lt h0).2 hlt)

/-- The magnitude leaves out the sign bit. -/
theorem magnitude_lt (x : Binary64) : x.magnitude < 2 ^ 63 :=
  Nat.mod_lt _ (by decide)

/-- The search for the shortest decimal ends with a hit. -/
theorem onGrid?_shortest {x : Binary64} (h : x.mantissa ≠ 0) :
    x.neighbourhood.onGrid? x.shortest.exponent = some x.shortest.digits := by
  rw [shortest, if_neg h]
  refine Neighbourhood.search_of_hit ⟨39, by decide, Neighbourhood.onGrid?_of_fine rfl ?_⟩
  -- forty grids below the first one, a unit of the grid is far below the last bit of the mantissa
  have hlog := x.log2_mantissa_le
  have hlt := x.magnitude_lt
  have hexp := x.exponent_eq
  have hbits : x.magnitude / hiddenBit < 2048 := by
    unfold hiddenBit
    omega
  have hpos : (0 : ℚ) < 2 ^ (x.exponent - 2) := by positivity
  have hdouble : (2 : ℚ) ^ (x.exponent - 2) < 2 * 2 ^ (x.exponent - 2) := by linarith
  rw [Int.fdiv_eq_ediv_of_nonneg _ (by decide)]
  refine lt_of_le_of_lt (ten_zpow_le_two_zpow (b := x.exponent - 2) ?_ ?_) hdouble
  · omega
  · omega

/-- The shortest decimal of a double other than zero is not zero and rounds to the double. -/
theorem shortest_holds {x : Binary64} (h : x.mantissa ≠ 0) :
    x.shortest.digits ≠ 0 ∧ x.neighbourhood.Holds x.shortest.value := by
  refine Neighbourhood.holds_of_onGrid? ?_ ?_ (onGrid?_shortest h)
  · simp only [neighbourhood]
    split <;> omega
  · simp only [neighbourhood]
    omega

/-- The mantissa at a magnitude. -/
def mantissaAt (magnitude : Nat) : Nat :=
  if magnitude < hiddenBit then magnitude else magnitude % hiddenBit + hiddenBit

/-- Whether the double of a magnitude is a power of two, with doubles twice as close below it. -/
def Carries (magnitude : Nat) : Prop :=
  mantissaAt magnitude = hiddenBit ∧ magnitude ≥ 2 * hiddenBit

instance (magnitude : Nat) : Decidable (Carries magnitude) :=
  inferInstanceAs (Decidable (_ ∧ _))

/-- Below a power of two the mantissa has all bits, with the exponent before. -/
theorem mantissaAt_of_carries {magnitude : Nat} (h : Carries (magnitude + 1)) :
    mantissaAt magnitude = 2 * hiddenBit - 1 ∧
      (magnitude + 1) / hiddenBit - 1 = magnitude / hiddenBit - 1 + 1 := by
  unfold Carries mantissaAt hiddenBit at h
  unfold mantissaAt hiddenBit
  split at h <;> split <;> omega

/-- Below any other double the mantissa is one less, with the same exponent. -/
theorem mantissaAt_succ {magnitude : Nat} (h : ¬ Carries (magnitude + 1)) :
    mantissaAt (magnitude + 1) = mantissaAt magnitude + 1 ∧
      (magnitude + 1) / hiddenBit - 1 = magnitude / hiddenBit - 1 := by
  unfold Carries mantissaAt hiddenBit at h
  unfold mantissaAt hiddenBit
  split at h <;> split <;> split <;> omega

/-- The midpoint between the double of a magnitude and the next, counted in `2 ^ -1076`. -/
def midpoint (magnitude : Nat) : Nat :=
  (4 * mantissaAt magnitude + 2) * 2 ^ (magnitude / hiddenBit - 1)

/-- Midpoints ascend. -/
theorem midpoint_strictMono : StrictMono midpoint := by
  refine strictMono_nat_of_lt_succ (fun magnitude => ?_)
  have hpos : 0 < 2 ^ (magnitude / hiddenBit - 1) := Nat.pow_pos (by decide)
  by_cases h : Carries (magnitude + 1)
  · obtain ⟨hmantissa, hexp⟩ := mantissaAt_of_carries h
    rw [midpoint, midpoint, hmantissa, hexp, h.1, Nat.pow_succ, Nat.mul_comm _ 2, ← Nat.mul_assoc]
    exact Nat.mul_lt_mul_of_pos_right (by decide) hpos
  · obtain ⟨hmantissa, hexp⟩ := mantissaAt_succ h
    rw [midpoint, midpoint, hmantissa, hexp]
    exact Nat.mul_lt_mul_of_pos_right (by omega) hpos

/-- What a neighbourhood counts in its own unit, counted in `2 ^ -1076`. -/
theorem mul_unit_eq (x : Binary64) (a : Nat) :
    (a : ℚ) * 2 ^ x.neighbourhood.exponent =
      ((a * 2 ^ (x.magnitude / hiddenBit - 1) : Nat) : ℚ) * 2 ^ (-1076 : Int) := by
  have hexp : x.neighbourhood.exponent =
      ((x.magnitude / hiddenBit - 1 : Nat) : Int) + (-1076 : Int) := by
    show x.exponent - 2 = _
    rw [exponent_eq]
    ring
  rw [hexp, zpow_add₀ (by norm_num), zpow_natCast, ← mul_assoc, Nat.cast_mul, Nat.cast_pow,
    Nat.cast_ofNat]

/-- The upper end of an interval is the midpoint above the double. -/
theorem high_eq_midpoint (x : Binary64) :
    x.neighbourhood.high * 2 ^ (x.magnitude / hiddenBit - 1) = midpoint x.magnitude := rfl

/-- The lower end of an interval is the midpoint below the double. -/
theorem low_eq_midpoint {x : Binary64} {magnitude : Nat} (hx : x.magnitude = magnitude + 1) :
    x.neighbourhood.low * 2 ^ (x.magnitude / hiddenBit - 1) = midpoint magnitude := by
  have hlow : x.neighbourhood.low =
      if Carries x.magnitude then 4 * mantissaAt x.magnitude - 1
      else 4 * mantissaAt x.magnitude - 2 := rfl
  rw [hlow, hx, midpoint]
  by_cases h : Carries (magnitude + 1)
  · obtain ⟨hbelow, hexp⟩ := mantissaAt_of_carries h
    rw [if_pos h, h.1, hbelow, hexp, Nat.pow_succ, Nat.mul_comm _ 2, ← Nat.mul_assoc]
    rfl
  · obtain ⟨hbelow, hexp⟩ := mantissaAt_succ h
    rw [if_neg h, hbelow, hexp]
    congr 1

/-- The mantissas of neighbours are not both even. -/
theorem mantissaAt_mod_two (magnitude : Nat) : mantissaAt magnitude % 2 = magnitude % 2 := by
  unfold mantissaAt hiddenBit
  split <;> omega

/-- No number rounds to a double and to a greater one: the midpoint between neighbours rounds to
the one with the even mantissa. -/
theorem not_lt_of_holds {x y : Binary64} {v : ℚ} (hx : x.neighbourhood.Holds v)
    (hy : y.neighbourhood.Holds v) : ¬ x.magnitude < y.magnitude := by
  intro hlt
  obtain ⟨m, hm⟩ : ∃ m, y.magnitude = m + 1 := ⟨y.magnitude - 1, by omega⟩
  have hpos : (0 : ℚ) < 2 ^ (-1076 : Int) := zpow_pos (by norm_num) _
  have hhigh := hx.2
  have hlow := hy.1
  rw [mul_unit_eq, high_eq_midpoint] at hhigh
  rw [mul_unit_eq, low_eq_midpoint hm] at hlow
  have hends : (midpoint x.magnitude : ℚ) * 2 ^ (-1076 : Int) ≤ midpoint m * 2 ^ (-1076 : Int) := by
    have hle : midpoint x.magnitude ≤ midpoint m := midpoint_strictMono.monotone (by omega)
    exact mul_le_mul_of_nonneg_right (Nat.cast_le.2 hle) hpos.le
  -- the number lies below one end and above the other, so it is both of them
  rcases hhigh with hhigh | ⟨hxclosed, hhigh⟩
  · rcases hlow with hlow | ⟨-, hlow⟩ <;> linarith
  · rcases hlow with hlow | ⟨hyclosed, hlow⟩
    · linarith
    · have hsame : (midpoint x.magnitude : ℚ) = midpoint m :=
        mul_right_cancel₀ hpos.ne' (hhigh.symm.trans hlow.symm)
      have hmag := midpoint_strictMono.injective (Nat.cast_injective hsame)
      have hxeven : mantissaAt x.magnitude % 2 = 0 := of_decide_eq_true hxclosed
      have hyeven : mantissaAt y.magnitude % 2 = 0 := of_decide_eq_true hyclosed
      rw [mantissaAt_mod_two] at hxeven hyeven
      omega

/-- Only zero has no mantissa. -/
theorem mantissa_eq_zero_iff (x : Binary64) : x.mantissa = 0 ↔ x.magnitude = 0 := by
  unfold mantissa hiddenBit
  split <;> omega

/-- The shortest decimal of a double is zero only for zero. -/
theorem shortest_value_eq_zero_iff (x : Binary64) : x.shortest.value = 0 ↔ x.magnitude = 0 := by
  rw [← mantissa_eq_zero_iff]
  constructor
  · intro h
    by_contra hne
    have hpow : (10 : ℚ) ^ x.shortest.exponent ≠ 0 := zpow_ne_zero _ (by norm_num)
    rcases mul_eq_zero.1 h with hdigits | hten
    · exact (shortest_holds hne).1 (Nat.cast_eq_zero.1 hdigits)
    · exact hpow hten
  · intro h
    rw [shortest, if_pos h]
    simp [Decimal.value]

/-- Doubles whose shortest decimals are one number have one magnitude. -/
theorem magnitude_eq_of_shortest {x y : Binary64} (h : x.shortest.value = y.shortest.value) :
    x.magnitude = y.magnitude := by
  by_cases hx : x.magnitude = 0
  · have hzero := (shortest_value_eq_zero_iff x).2 hx
    rw [hx, (shortest_value_eq_zero_iff y).1 (h ▸ hzero)]
  · have hy : y.magnitude ≠ 0 := fun hy =>
      hx ((shortest_value_eq_zero_iff x).1 (h.trans ((shortest_value_eq_zero_iff y).2 hy)))
    have hxholds := (shortest_holds (mt (mantissa_eq_zero_iff x).1 hx)).2
    have hyholds := (shortest_holds (mt (mantissa_eq_zero_iff y).1 hy)).2
    rw [← h] at hyholds
    exact Nat.le_antisymm (Nat.le_of_not_lt (not_lt_of_holds hyholds hxholds))
      (Nat.le_of_not_lt (not_lt_of_holds hxholds hyholds))

/-- A double is its sign and its magnitude. -/
theorem eq_of_magnitude_eq {x y : Binary64} (hsign : x.isNegative = y.isNegative)
    (hmag : x.magnitude = y.magnitude) : x = y := by
  have hx := x.bits.toNat_lt
  have hy := y.bits.toNat_lt
  have hiff : Word.signedBound ≤ x.bits.toNat ↔ Word.signedBound ≤ y.bits.toNat :=
    decide_eq_decide.1 hsign
  unfold magnitude Word.signedBound at hmag
  unfold Word.signedBound at hiff
  have hbits : x.bits.toNat = y.bits.toNat := by omega
  cases x
  cases y
  exact congrArg Binary64.mk (UInt64.toNat_inj.1 hbits)

end Binary64

end TypedClient
