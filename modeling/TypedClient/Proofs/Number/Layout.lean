import Mathlib.Data.List.TakeWhile
import TypedClient.Number.Layout
import TypedClient.Proofs.Number.Shortest

/-!
# Reading number texts

`read_decimal` says that every layout writes down the number it was given: a reader of digits, a
point and an exponent finds it again. So the texts of distinct doubles are distinct in any one
layout, which is `number_injective`.
-/

namespace TypedClient.Layout

/-- The number that digits with at most one point stand for. -/
def readPointed (cs : List Char) : ℚ :=
  Nat.ofDigitChars 10 (cs.filter (· != '.')) 0 / 10 ^ ((cs.dropWhile (· != '.')).length - 1)

/-- The number that a sign and digits stand for. -/
def readExponent : List Char → Int
  | [] => 0
  | sign :: digits => (if sign = '-' then -1 else 1) * Nat.ofDigitChars 10 digits 0

/-- The number that a text of digits, a point and an exponent stands for. -/
def read (cs : List Char) : ℚ :=
  readPointed (cs.takeWhile (· != 'e')) * 10 ^ readExponent ((cs.dropWhile (· != 'e')).drop 1)

/-- What does not hold a character differs from it everywhere. -/
theorem ne_of_not_mem {x : Char} {cs : List Char} (h : x ∉ cs) : ∀ c ∈ cs, (c != x) = true := by
  intro c hc
  simpa using fun heq : c = x => h (heq ▸ hc)

/-- Where no character is equal to `x`, all of them are taken. -/
theorem splitAt_none {x : Char} {cs : List Char} (h : x ∉ cs) :
    cs.takeWhile (· != x) = cs ∧ cs.dropWhile (· != x) = [] :=
  ⟨List.takeWhile_eq_self_iff.2 (ne_of_not_mem h), List.dropWhile_eq_nil_iff.2 (ne_of_not_mem h)⟩

/-- Up to the first `x` a test for another character passes. -/
theorem splitAt_first {x : Char} {before : List Char} (h : x ∉ before) (after : List Char) :
    (before ++ x :: after).takeWhile (· != x) = before ∧
      (before ++ x :: after).dropWhile (· != x) = x :: after := by
  rw [List.takeWhile_append_of_pos (ne_of_not_mem h),
    List.dropWhile_append_of_pos (ne_of_not_mem h)]
  simp

/-- A text without an exponent reads as its digits. -/
theorem read_of_not_mem {cs : List Char} (h : 'e' ∉ cs) : read cs = readPointed cs := by
  rw [read, (splitAt_none h).1, (splitAt_none h).2]
  simp [readExponent]

/-- A text with an exponent reads as its digits times the power. -/
theorem read_append {cs : List Char} (h : 'e' ∉ cs) (sign : Char) (digits : List Char) :
    read (cs ++ 'e' :: sign :: digits) = readPointed cs * 10 ^ readExponent (sign :: digits) := by
  obtain ⟨htake, hdrop⟩ := splitAt_first h (sign :: digits)
  rw [read, htake, hdrop]
  rfl

/-- Digits without a point read as their number. -/
theorem readPointed_of_not_mem {cs : List Char} (h : '.' ∉ cs) :
    readPointed cs = Nat.ofDigitChars 10 cs 0 := by
  rw [readPointed, List.filter_eq_self.2 (ne_of_not_mem h), (splitAt_none h).2]
  simp

/-- Digits with a point read as their number, with a power of ten for the digits after it. -/
theorem readPointed_append {whole fraction : List Char} (hwhole : '.' ∉ whole)
    (hfraction : '.' ∉ fraction) :
    readPointed (whole ++ '.' :: fraction) =
      Nat.ofDigitChars 10 (whole ++ fraction) 0 / 10 ^ fraction.length := by
  rw [readPointed, (splitAt_first hwhole fraction).2, List.filter_append,
    List.filter_eq_self.2 (ne_of_not_mem hwhole), List.filter_cons_of_neg (by simp),
    List.filter_eq_self.2 (ne_of_not_mem hfraction)]
  simp

/-- A text of digits holds no other character. -/
theorem not_mem_of_isDigit {x : Char} {cs : List Char} (h : ∀ c ∈ cs, c.isDigit = true)
    (hx : x.isDigit = false) : x ∉ cs := fun hmem => by
  have hdigit := h x hmem
  rw [hx] at hdigit
  cases hdigit

/-- A power of ten in the denominator. -/
theorem div_ten_pow (a : ℚ) (n : Nat) : a / 10 ^ n = a * 10 ^ (-(n : Int)) := by
  rw [zpow_neg, zpow_natCast, div_eq_mul_inv]

/-- Digits written by position read as their number times the power that the point gives. -/
theorem readPointed_byPosition {digits : List Char} (h : ∀ c ∈ digits, c.isDigit = true)
    (lead : Int) :
    readPointed (byPosition digits lead) =
      Nat.ofDigitChars 10 digits 0 * 10 ^ (lead - digits.length) := by
  have hpoint := not_mem_of_isDigit h (x := '.') (by decide)
  -- the point stands before the digits, behind them, or between two of them
  rw [byPosition]
  split
  · rename_i hlead
    have hzeros : '.' ∉ List.replicate (-lead).toNat '0' ++ digits := by
      simp [hpoint]
    have hread := readPointed_append (by decide : '.' ∉ ['0']) hzeros
    rw [List.singleton_append] at hread
    rw [hread, div_ten_pow, List.singleton_append, Nat.ofDigitChars_cons, Nat.ofDigitChars_append,
      Nat.ofDigitChars_replicate_zero, List.length_append, List.length_replicate]
    congr 2
    push_cast
    omega
  · split
    · rename_i hlead hlong
      have hzeros : '.' ∉ digits ++ List.replicate (lead.toNat - digits.length) '0' := by
        simp [hpoint]
      rw [readPointed_of_not_mem hzeros, Nat.ofDigitChars_append, Nat.ofDigitChars_replicate_zero,
        Nat.cast_mul, Nat.cast_pow, Nat.cast_ofNat, mul_comm, ← zpow_natCast]
      congr 2
      omega
    · rename_i hlead hlong
      have hread := readPointed_append
        (fun hmem => hpoint (List.mem_of_mem_take hmem) : '.' ∉ digits.take lead.toNat)
        (fun hmem => hpoint (List.mem_of_mem_drop hmem) : '.' ∉ digits.drop lead.toNat)
      rw [hread, div_ten_pow, List.take_append_drop, List.length_drop]
      congr 2
      omega

/-- The digits of an exponent read as the exponent, whatever zeros stand before them. -/
theorem readExponent_digits (zeros : Nat) (power : Int) :
    readExponent ((if power < 0 then '-' else '+') ::
      (List.replicate zeros '0' ++ Nat.toDigits 10 power.natAbs)) = power := by
  rw [readExponent, Nat.ofDigitChars_append, Nat.ofDigitChars_replicate_zero, Nat.mul_zero,
    Nat.ofDigitChars_ten_toDigits]
  by_cases h : power < 0
  · rw [if_pos h, if_pos rfl]
    omega
  · rw [if_neg h, if_neg (by decide)]
    omega

/-- Digits written with an exponent read as their number times the power. -/
theorem read_byExponent {c : Char} {rest : List Char}
    (h : ∀ d ∈ c :: rest, d.isDigit = true) (width : Nat) (power : Int) :
    read (byExponent width (c :: rest) power) =
      Nat.ofDigitChars 10 (c :: rest) 0 * 10 ^ (power - rest.length) := by
  have hpoint := not_mem_of_isDigit h (x := '.') (by decide)
  have he := not_mem_of_isDigit h (x := 'e') (by decide)
  cases rest with
  | nil =>
      have hread := read_append he (if power < 0 then '-' else '+')
        (List.replicate (width - (Nat.toDigits 10 power.natAbs).length) '0' ++
          Nat.toDigits 10 power.natAbs)
      rw [readExponent_digits, readPointed_of_not_mem hpoint] at hread
      rw [List.length_nil, Nat.cast_zero, sub_zero]
      exact hread
  | cons d rest =>
      have hefraction : 'e' ∉ [c] ++ '.' :: d :: rest := by
        simpa using he
      have hread := read_append hefraction (if power < 0 then '-' else '+')
        (List.replicate (width - (Nat.toDigits 10 power.natAbs).length) '0' ++
          Nat.toDigits 10 power.natAbs)
      rw [readExponent_digits, readPointed_append (by simpa using List.ne_of_not_mem_cons hpoint)
        (List.not_mem_of_not_mem_cons hpoint), div_ten_pow, mul_assoc,
        ← zpow_add₀ (by norm_num), neg_add_eq_sub] at hread
      exact hread

/-- What is written by position has digits and at most a point. -/
theorem mem_byPosition {digits : List Char} {lead : Int} {c : Char}
    (h : c ∈ byPosition digits lead) : c ∈ digits ∨ c = '0' ∨ c = '.' := by
  rw [byPosition] at h
  split at h
  · simp only [List.mem_cons, List.mem_append, List.mem_replicate] at h
    tauto
  · split at h
    · simp only [List.mem_append, List.mem_replicate] at h
      tauto
    · simp only [List.mem_append, List.mem_cons] at h
      rcases h with h | h | h
      · exact .inl (List.mem_of_mem_take h)
      · exact .inr (.inr h)
      · exact .inl (List.mem_of_mem_drop h)

/-- A decimal is a lone zero, or is written by position or with an exponent. -/
theorem decimal_cases (l : Layout) (d : Decimal) :
    (d.digits = 0 ∧ l.decimal d = ['0']) ∨
      l.decimal d = byPosition (Nat.toDigits 10 d.digits)
        (d.exponent + (Nat.toDigits 10 d.digits).length) ∨
      l.decimal d = byExponent l.exponentWidth (Nat.toDigits 10 d.digits)
        (d.exponent + (Nat.toDigits 10 d.digits).length - 1) := by
  rw [decimal]
  split
  · rename_i hzero
    exact .inl ⟨hzero, rfl⟩
  · dsimp only
    split
    · exact .inr (.inl rfl)
    · split
      · exact .inr (.inl rfl)
      · exact .inr (.inr rfl)

/-- The digits of a number are digits, and there is one. -/
theorem exists_cons_toDigits (n : Nat) :
    ∃ c rest, Nat.toDigits 10 n = c :: rest ∧ ∀ d ∈ c :: rest, d.isDigit = true := by
  obtain ⟨c, rest, hcons⟩ := List.exists_cons_of_ne_nil (Nat.toDigits_ne_nil (n := n) (b := 10))
  exact ⟨c, rest, hcons, fun d hd =>
    Nat.isDigit_of_mem_toDigits (by decide) (by decide) (hcons ▸ hd)⟩

/-- What a layout writes for a decimal reads as the number that the decimal stands for. -/
theorem read_decimal (l : Layout) (d : Decimal) : read (l.decimal d) = d.value := by
  obtain ⟨c, rest, hcons, hdigits⟩ := exists_cons_toDigits d.digits
  have hvalue : Nat.ofDigitChars 10 (c :: rest) 0 = d.digits := by
    rw [← hcons, Nat.ofDigitChars_ten_toDigits]
  rcases l.decimal_cases d with ⟨hzero, htext⟩ | htext | htext
  · rw [htext, Decimal.value, hzero]
    simp [read, readPointed, Nat.ofDigitChars]
  · rw [htext, hcons, read_of_not_mem, readPointed_byPosition hdigits, hvalue,
      add_sub_cancel_right, Decimal.value]
    intro hmem
    rcases mem_byPosition hmem with hmem | hmem | hmem
    · exact not_mem_of_isDigit hdigits (by decide) hmem
    · exact absurd hmem (by decide)
    · exact absurd hmem (by decide)
  · rw [htext, hcons, read_byExponent hdigits, hvalue, Decimal.value, List.length_cons]
    congr 2
    push_cast
    ring

/-- The text of a decimal starts with a digit. -/
theorem exists_cons_decimal (l : Layout) (d : Decimal) :
    ∃ c cs, l.decimal d = c :: cs ∧ c.isDigit = true := by
  obtain ⟨c, rest, hcons, hdigits⟩ := exists_cons_toDigits d.digits
  have hc : c.isDigit = true := hdigits c List.mem_cons_self
  rcases l.decimal_cases d with ⟨-, htext⟩ | htext | htext
  · exact ⟨'0', [], htext, by decide⟩
  · rw [htext, hcons, byPosition]
    split
    · exact ⟨'0', _, rfl, by decide⟩
    · split
      · exact ⟨c, _, rfl, hc⟩
      · rename_i hlead _
        obtain ⟨n, hn⟩ : ∃ n, (d.exponent + (c :: rest).length).toNat = n + 1 :=
          ⟨(d.exponent + (c :: rest).length).toNat - 1, by omega⟩
        rw [hn]
        exact ⟨c, _, rfl, hc⟩
  · rw [htext, hcons]
    exact ⟨c, _, rfl, hc⟩

/-- The sign of a text of digits. -/
def signText (negative : Bool) : List Char :=
  if negative then ['-'] else []

/-- A sign is a minus sign. -/
theorem eq_of_mem_signText {negative : Bool} {c : Char} (h : c ∈ signText negative) :
    c = '-' := by
  cases negative with
  | false => cases h
  | true => exact List.mem_singleton.1 h

/-- The text of a finite double is that of its sign and its digits. -/
theorem toList_number (l : Layout) {x : Binary64} (h : x.isFinite = true) :
    (l.number x).toList = signText x.isNegative ++ l.decimal x.shortest := by
  have hnan : ¬ x.isNaN = true := by
    simp only [Binary64.isNaN, Binary64.isFinite, decide_eq_true_eq] at h ⊢
    omega
  rw [number, if_neg hnan, if_pos h, String.toList_ofList]
  rfl

/-- The text of a double is that of its sign and its digits, or a word. -/
theorem number_cases (l : Layout) (x : Binary64) :
    (x.isNaN = true ∧ (l.number x).toList = ['N', 'a', 'N']) ∨
      (x.isFinite = true ∧ ∃ c cs, c.isDigit = true ∧ l.decimal x.shortest = c :: cs ∧
        (l.number x).toList = signText x.isNegative ++ c :: cs) ∨
      (x.magnitude = Binary64.infiniteMagnitude ∧
        (l.number x).toList = (if x.isNegative then '-' else '+') :: ['I', 'n', 'f']) := by
  rw [number]
  split
  · rename_i hnan
    exact .inl ⟨hnan, by decide⟩
  · split
    · rename_i hnan hfinite
      obtain ⟨c, cs, hcons, hc⟩ := exists_cons_decimal l x.shortest
      refine .inr (.inl ⟨hfinite, c, cs, hc, hcons, ?_⟩)
      rw [← hcons, ← toList_number l hfinite, number, if_neg hnan, if_pos hfinite]
    · rename_i hnan hfinite
      simp only [Binary64.isNaN, Binary64.isFinite, decide_eq_true_eq] at hnan hfinite
      refine .inr (.inr ⟨by omega, ?_⟩)
      split
      · decide
      · decide

/-- A sign and a digit do not start a word. -/
theorem signText_ne_word {negative : Bool} {c first second : Char} {cs rest : List Char}
    (hc : c.isDigit = true) (hfirst : first.isDigit = false) (hsecond : second.isDigit = false) :
    signText negative ++ c :: cs ≠ first :: second :: rest := by
  intro h
  cases negative with
  | false =>
      rw [(List.cons.inj h).1, hfirst] at hc
      cases hc
  | true =>
      rw [(List.cons.inj (List.cons.inj h).2).1, hsecond] at hc
      cases hc

/-- Texts with a sign and a digit are equal when signs and digits are. -/
theorem signText_inj {a b : Bool} {c d : Char} {cs ds : List Char} (hc : c.isDigit = true)
    (hd : d.isDigit = true) (h : signText a ++ c :: cs = signText b ++ d :: ds) :
    a = b ∧ c :: cs = d :: ds := by
  cases a <;> cases b
  · exact ⟨rfl, h⟩
  · exact absurd ((List.cons.inj h).1 ▸ hc) (by decide)
  · exact absurd ((List.cons.inj h).1 ▸ hd) (by decide)
  · exact ⟨rfl, (List.cons.inj h).2⟩

/-- In any one layout the texts of distinct doubles are distinct, up to the bits of a NaN. -/
theorem number_injective (l : Layout) {x y : Binary64} (hx : x.isNaN = true → x = .nan)
    (hy : y.isNaN = true → y = .nan) (h : l.number x = l.number y) : x = y := by
  have hsign : ∀ b : Bool, (if b then '-' else '+').isDigit = false := by decide
  have htext : (l.number x).toList = (l.number y).toList := by rw [h]
  rcases l.number_cases x with ⟨hxnan, hxt⟩ | ⟨-, c, cs, hc, hxd, hxt⟩ | ⟨hxm, hxt⟩ <;>
    rcases l.number_cases y with ⟨hynan, hyt⟩ | ⟨-, d, ds, hd, hyd, hyt⟩ | ⟨hym, hyt⟩ <;>
    rw [hxt, hyt] at htext
  · rw [hx hxnan, hy hynan]
  · exact absurd htext.symm (signText_ne_word hd (by decide) (by decide))
  · exact absurd (List.cons.inj (List.cons.inj htext).2).1 (by decide)
  · exact absurd htext (signText_ne_word hc (by decide) (by decide))
  · obtain ⟨hneg, hdigits⟩ := signText_inj hc hd htext
    refine Binary64.eq_of_magnitude_eq hneg (Binary64.magnitude_eq_of_shortest ?_)
    rw [← l.read_decimal, ← l.read_decimal, hxd, hyd, hdigits]
  · exact absurd htext (signText_ne_word hc (hsign _) (by decide))
  · exact absurd (List.cons.inj (List.cons.inj htext).2).1 (by decide)
  · exact absurd htext.symm (signText_ne_word hd (hsign _) (by decide))
  · have hsame : ∀ a b : Bool, (if a then '-' else '+') = (if b then '-' else '+') → a = b := by
      decide
    exact Binary64.eq_of_magnitude_eq (hsame _ _ (List.cons.inj htext).1) (hxm.trans hym.symm)

end TypedClient.Layout
