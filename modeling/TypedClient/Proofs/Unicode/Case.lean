import Mathlib.Data.Nat.Bitwise
import TypedClient.Unicode.Case
import TypedClient.Unicode.Digit
import TypedClient.Unicode.Letter
import TypedClient.Unicode.Title

/-!
# Letters under case mappings

A case mapping sends a letter to a letter, or to a letter with letters and marks behind it. This is
a fact about tables with a few thousand code points. To check it by evaluation, a set of code
points is written as one number, in which the `n`-th bit says whether `n` is in the set.
-/

namespace TypedClient.Unicode

namespace Span

/-- The set of the code points of a span. -/
def bits (s : Span) : Nat :=
  if s.step = 1 then (2 ^ (s.last + 1 - s.first) - 1) <<< s.first
  else (List.range (s.last + 1 - s.first)).foldr
    (fun i set => if i % s.step = 0 then set ||| 2 ^ (s.first + i) else set) 0

/-- The set of the code points of several spans. -/
def bitsOf (spans : List Span) : Nat :=
  spans.foldr (fun s set => set ||| s.bits) 0

theorem testBit_bits (s : Span) (n : Nat) : s.bits.testBit n = s.mem n := by
  have hpoints : ∀ l : List Nat, (l.foldr (fun i set =>
      if i % s.step = 0 then set ||| 2 ^ (s.first + i) else set) 0).testBit n =
      l.any (fun i => i % s.step == 0 && s.first + i == n) := by
    intro l
    induction l with
    | nil => exact Nat.zero_testBit n
    | cons i l ih =>
        rw [List.foldr_cons, List.any_cons, ← ih]
        by_cases hi : i % s.step = 0
        · simp [hi, Nat.testBit_two_pow, Bool.or_comm, BEq.beq]
        · simp [hi]
  unfold bits
  split
  case isTrue hstep =>
    rw [Nat.testBit_shiftLeft, Nat.testBit_two_pow_sub_one, Bool.eq_iff_iff]
    simp only [mem, hstep, Nat.mod_one, ge_iff_le, Bool.and_eq_true, decide_eq_true_eq,
      beq_self_eq_true, and_true]
    omega
  case isFalse =>
    rw [hpoints, Bool.eq_iff_iff, List.any_eq_true]
    simp only [mem, List.mem_range, Bool.and_eq_true, beq_iff_eq, decide_eq_true_eq]
    constructor
    · rintro ⟨i, hi, hmod, rfl⟩
      rw [Nat.add_sub_cancel_left]
      omega
    · rintro ⟨⟨hfirst, hlast⟩, hmod⟩
      exact ⟨n - s.first, by omega, hmod, by omega⟩

theorem testBit_bitsOf (spans : List Span) (n : Nat) :
    (bitsOf spans).testBit n = contains spans n := by
  induction spans with
  | nil => exact Nat.zero_testBit n
  | cons s spans ih =>
      rw [bitsOf, List.foldr_cons, Nat.testBit_or, testBit_bits, Bool.or_comm]
      exact congrArg (s.mem n || ·) ih

end Span

namespace Shift

/-- Whether every code point of the set `source` that is moved goes into the set `target`. -/
def sends (source target : Nat) (shifts : List Shift) : Bool :=
  shifts.all (fun s =>
    let moved := (s.span.bits &&& source) >>> s.span.first
    moved &&& (target >>> s.target) == moved)

/-- A character stays or is moved as the shifts say. -/
theorem apply_cases {source target : Nat} {shifts : List Shift}
    (h : sends source target shifts = true) {c : Char} (hc : source.testBit c.toNat = true) :
    apply shifts c = c ∨ ∃ n, apply shifts c = Char.ofNat n ∧ target.testBit n = true := by
  unfold apply
  split
  case h_2 => exact .inl rfl
  case h_1 s hs =>
    refine .inr ⟨_, rfl, ?_⟩
    have hmem := List.find?_some hs
    have hfirst : s.span.first ≤ c.toNat := by
      simp only [Span.mem, Bool.and_eq_true, decide_eq_true_eq] at hmem
      exact hmem.1.1
    have hmoved := eq_of_beq (List.all_eq_true.1 h s (List.mem_of_find?_eq_some hs))
    -- the bit of `c` among those that are moved, counted from the first of the span
    have hbit := congrArg (Nat.testBit · (c.toNat - s.span.first)) hmoved
    simp only [Nat.testBit_and, Nat.testBit_shiftRight, Nat.add_sub_cancel' hfirst,
      Span.testBit_bits, hmem, hc, Bool.and_self, Bool.true_and] at hbit
    exact hbit

end Shift

/-! ## Letters and digits -/

/-- What holds of the code points of ASCII holds of its characters. -/
theorem forall_ascii {P : Char → Prop} (h : ∀ n < 0x80, P (Char.ofNat n)) {c : Char}
    (hc : c.val < 0x80) : P c := by
  have hcode := h c.toNat hc
  rwa [Char.ofNat_toNat] at hcode

/-- The set of the letters. -/
def letterBits : Nat := Span.bitsOf letterSpans

/-- The set of the digits. -/
def digitBits : Nat := Span.bitsOf digitSpans

/-- Whether `c` is one of the combining diacritical marks. -/
def isDiacritic (c : Char) : Bool :=
  0x300 ≤ c.toNat && c.toNat ≤ 0x36F

/-- Whether the case mappings of ASCII treat a character as those of the tables do. -/
def agreesInAscii (c : Char) : Bool :=
  c.isAlpha == letterBits.testBit c.toNat && c.isDigit == digitBits.testBit c.toNat &&
    (!c.isAlpha || letterBits.testBit c.toLower.toNat && letterBits.testBit c.toUpper.toNat) &&
    (!c.isDigit || c.toUpper == c)

/-- What is known of the tables by evaluation: they agree with ASCII, no letter is a digit or a
surrogate, and case mappings send letters to letters and leave digits alone. It is evaluated at
once, so that the sets are built once. -/
theorem tables_agree :
    (∀ n < 0x80, agreesInAscii (Char.ofNat n) = true) ∧
    letterBits &&& digitBits = 0 ∧
    letterSpans.all (fun s =>
      s.last < 0xD800 || (0xDFFF < s.first && s.last < 0x110000)) = true ∧
    Shift.sends letterBits letterBits lowerShifts = true ∧
    Shift.sends letterBits letterBits upperShifts = true ∧
    Shift.sends digitBits 0 upperShifts = true ∧
    Shift.sends (letterBits ||| digitBits) letterBits titleShifts = true ∧
    titleExpansions.all (fun e => e.2.head?.any letterBits.testBit &&
      e.2.tail.all (fun n => letterBits.testBit n || isDiacritic (Char.ofNat n))) = true := by
  decide +kernel

/-- What the tables say of a character of ASCII. -/
theorem agreesInAscii_iff {c : Char} (hc : c.val < 0x80) :
    c.isAlpha = letterBits.testBit c.toNat ∧ c.isDigit = digitBits.testBit c.toNat ∧
      (c.isAlpha = true → letterBits.testBit c.toLower.toNat = true ∧
        letterBits.testBit c.toUpper.toNat = true) ∧
      (c.isDigit = true → c.toUpper = c) := by
  have hagrees := forall_ascii (P := fun c => agreesInAscii c = true) tables_agree.1 hc
  simp only [agreesInAscii, Bool.and_eq_true, beq_iff_eq, Bool.or_eq_true, Bool.not_eq_true',
    ← Bool.not_eq_true, ← imp_iff_not_or] at hagrees
  obtain ⟨⟨⟨halpha, hdigit⟩, hcases⟩, hupper⟩ := hagrees
  exact ⟨halpha, hdigit, hcases, hupper⟩

theorem isLetter_eq (c : Char) : isLetter c = letterBits.testBit c.toNat := by
  unfold isLetter
  split
  case isFalse => rw [letterBits, Span.testBit_bitsOf]
  case isTrue hascii => exact (agreesInAscii_iff hascii).1

theorem isDigit_eq (c : Char) : isDigit c = digitBits.testBit c.toNat := by
  unfold isDigit
  split
  case isFalse => rw [digitBits, Span.testBit_bitsOf]
  case isTrue hascii => exact (agreesInAscii_iff hascii).2.1

/-- No digit is a letter. -/
theorem isLetter_of_isDigit {c : Char} (h : isDigit c = true) : isLetter c = false := by
  obtain ⟨-, hapart, -⟩ := tables_agree
  have hbit := congrArg (Nat.testBit · c.toNat) hapart
  rwa [Nat.testBit_and, ← isLetter_eq, ← isDigit_eq, h, Bool.and_true, Nat.zero_testBit] at hbit

/-- A code point in the set of the letters is that of a letter. -/
theorem isLetter_ofNat {n : Nat} (h : letterBits.testBit n = true) :
    isLetter (Char.ofNat n) = true := by
  obtain ⟨-, -, hscalars, -⟩ := tables_agree
  have hcode : (Char.ofNat n).toNat = n := by
    obtain ⟨s, hs, hmem⟩ := List.any_eq_true.1 (Span.testBit_bitsOf letterSpans n ▸ h)
    have hscalar := List.all_eq_true.1 hscalars s hs
    simp only [Span.mem, Bool.and_eq_true, Bool.or_eq_true, decide_eq_true_eq] at hmem hscalar
    have hvalid : n.isValidChar := by
      unfold Nat.isValidChar
      omega
    rw [Char.ofNat, dif_pos hvalid]
    rfl
  rw [isLetter_eq, hcode, h]

/-! ## Case mappings -/

/-- A letter is moved to a letter when the shifts send letters to letters. -/
theorem isLetter_apply {shifts : List Shift} {c : Char}
    (hshifts : Shift.sends letterBits letterBits shifts = true) (h : isLetter c = true) :
    isLetter (Shift.apply shifts c) = true := by
  rcases Shift.apply_cases hshifts (isLetter_eq c ▸ h) with hstay | ⟨n, hmove, hn⟩
  · rw [hstay, h]
  · rw [hmove, isLetter_ofNat hn]

theorem isLetter_lower {c : Char} (h : isLetter c = true) : isLetter (lower c) = true := by
  obtain ⟨-, -, -, hshifts, -⟩ := tables_agree
  unfold lower
  split
  case isFalse => exact isLetter_apply hshifts h
  case isTrue hascii =>
    obtain ⟨halpha, -, hcases, -⟩ := agreesInAscii_iff hascii
    rw [isLetter_eq, ← halpha] at h
    rw [isLetter_eq, (hcases h).1]

theorem isLetter_upper {c : Char} (h : isLetter c = true) : isLetter (upper c) = true := by
  obtain ⟨-, -, -, -, hshifts, -⟩ := tables_agree
  unfold upper
  split
  case isFalse => exact isLetter_apply hshifts h
  case isTrue hascii =>
    obtain ⟨halpha, -, hcases, -⟩ := agreesInAscii_iff hascii
    rw [isLetter_eq, ← halpha] at h
    rw [isLetter_eq, (hcases h).2]

/-- A digit has no upper case form of its own. -/
theorem upper_of_isDigit {c : Char} (h : isDigit c = true) : upper c = c := by
  obtain ⟨-, -, -, -, -, hshifts, -⟩ := tables_agree
  unfold upper
  split
  case isFalse =>
    rcases Shift.apply_cases hshifts (isDigit_eq c ▸ h) with hstay | ⟨n, -, hn⟩
    · exact hstay
    · rw [Nat.zero_testBit] at hn
      exact absurd hn Bool.false_ne_true
  case isTrue hascii =>
    obtain ⟨-, hdigit, -, hupper⟩ := agreesInAscii_iff hascii
    rw [isDigit_eq, ← hdigit] at h
    exact hupper h

/-- In title case a letter or digit stays or becomes a letter, with letters and diacritical marks
behind it. -/
theorem exists_title {c : Char} (h : isLetter c = true ∨ isDigit c = true) :
    ∃ d rest, title c = d :: rest ∧ (d = c ∨ isLetter d = true) ∧
      ∀ e ∈ rest, isLetter e = true ∨ isDiacritic e = true := by
  obtain ⟨-, -, -, -, -, -, hshifts, hexpansions⟩ := tables_agree
  unfold title
  split
  case h_2 =>
    refine ⟨_, [], rfl, ?_, fun _ he => nomatch he⟩
    have hbit : (letterBits ||| digitBits).testBit c.toNat = true := by
      rw [Nat.testBit_or, ← isLetter_eq, ← isDigit_eq, Bool.or_eq_true]
      exact h
    rcases Shift.apply_cases hshifts hbit with hstay | ⟨n, hmove, hn⟩
    · exact .inl hstay
    · exact .inr (hmove ▸ isLetter_ofNat hn)
  case h_1 codes hcodes =>
    obtain ⟨before, after, hsplit, -⟩ := List.lookup_eq_some_iff.1 hcodes
    have hmem : (c.toNat, codes) ∈ titleExpansions :=
      hsplit ▸ List.mem_append_right _ List.mem_cons_self
    have hall := List.all_eq_true.1 hexpansions _ hmem
    rw [Bool.and_eq_true] at hall
    cases codes with
    | nil => exact absurd hall.1 Bool.false_ne_true
    | cons code codes =>
        refine ⟨_, _, rfl, .inr (isLetter_ofNat hall.1), List.forall_mem_map.2 (fun n hn => ?_)⟩
        rcases Bool.or_eq_true_iff.1 (List.all_eq_true.1 hall.2 n hn) with hletter | hmark
        · exact .inl (isLetter_ofNat hletter)
        · exact .inr hmark

end TypedClient.Unicode
