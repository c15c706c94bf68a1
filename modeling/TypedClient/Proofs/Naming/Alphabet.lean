import TypedClient.Unicode.Blank
import TypedClient.Proofs.Naming.Word

/-!
# The characters of type names

The names of models and services are made of letters and digits of the description, their title
case forms, and the characters of a few fixed words. `isTypeName` says what such a name looks
like: it holds no blank and no mark, and it does not start with a digit or a lower case letter of
ASCII. So a dollar sign is free to set apart the names of schemas, and a lower case letter the
names of files that belong to no type.
-/

namespace TypedClient

/-- The ASCII letters are those of two cases. -/
theorem isAlpha_eq (c : Char) : c.isAlpha = (c.isUpper || c.isLower) := rfl

theorem isUpper_eq (c : Char) : c.isUpper = decide ('A'.val ≤ c.val ∧ c.val ≤ 'Z'.val) := rfl

theorem isLower_eq (c : Char) :
    c.isLower = (decide ('a'.val ≤ c.val) && decide (c.val ≤ 'z'.val)) := rfl

namespace Unicode

/-- Ranges of code points that hold all blanks beyond ASCII and nothing that a name may hold. -/
def blankRanges : List (Nat × Nat) :=
  [(0x85, 0xA0), (0x1680, 0x1680), (0x2000, 0x206F), (0x3000, 0x3000)]

/-- Whether the code points from `first` to `last` lie apart from the blanks beyond ASCII. -/
def isApart (first last : Nat) : Bool :=
  blankRanges.all (fun r => last < r.1 || r.2 < first)

theorem isBlank_eq_false_of_isApart {c : Char} {first last : Nat} (h : isApart first last = true)
    (hfirst : first ≤ c.toNat) (hlast : c.toNat ≤ last) (hwide : 0x80 ≤ c.toNat) :
    isBlank c = false := by
  simp only [isApart, blankRanges, List.all_cons, List.all_nil, Bool.and_true, Bool.and_eq_true,
    Bool.or_eq_true, decide_eq_true_eq] at h
  rw [Bool.eq_false_iff]
  intro hblank
  simp only [isBlank, Bool.or_eq_true, Bool.and_eq_true, decide_eq_true_eq, beq_iff_eq] at hblank
  omega

/-- A character of spans that lie apart from the blanks is not blank. -/
theorem isBlank_eq_false_of_contains {spans : List Span} {c : Char}
    (h : spans.all (fun s => isApart s.first s.last) = true) (hwide : 0x80 ≤ c.toNat)
    (hc : Span.contains spans c.toNat = true) : isBlank c = false := by
  obtain ⟨s, hs, hmem⟩ := List.any_eq_true.1 hc
  simp only [Span.mem, Bool.and_eq_true, decide_eq_true_eq] at hmem
  exact isBlank_eq_false_of_isApart (List.all_eq_true.1 h s hs) hmem.1.1 hmem.1.2 hwide

end Unicode

namespace Naming

/-- Whether a character may stand in the name of a type: an ASCII letter or digit, an underscore,
or a character beyond ASCII that is not blank. -/
def isNameChar (c : Char) : Bool :=
  if c.toNat < 0x80 then c.isAlphanum || c = '_' else !Unicode.isBlank c

/-- Whether a character may start the name of a type. -/
def isNameStart (c : Char) : Bool :=
  isNameChar c && !c.isLower && !c.isDigit

/-- Whether a text looks like the name of a type. -/
def isTypeName (name : String) : Bool :=
  match name.toList with
  | [] => false
  | c :: rest => isNameStart c && rest.all isNameChar

/-- The code point of an ASCII letter or digit. -/
theorem toNat_lt_of_isAlphanum {c : Char} (h : c.isAlphanum = true) : c.toNat < 0x80 := by
  have hbounds : 'Z'.val.toNat = 0x5A ∧ 'z'.val.toNat = 0x7A ∧ '9'.val.toNat = 0x39 := by decide
  simp only [Char.isAlphanum, isAlpha_eq, isUpper_eq, isLower_eq, Char.isDigit,
    Bool.or_eq_true, Bool.and_eq_true, decide_eq_true_eq, UInt32.le_iff_toNat_le, ge_iff_le] at h
  rw [Char.toNat]
  omega

theorem isNameChar_of_isAlphanum {c : Char} (h : c.isAlphanum = true) : isNameChar c = true := by
  simp [isNameChar, toNat_lt_of_isAlphanum h, h]

/-- A character beyond ASCII that is not blank may start a name. -/
theorem isNameStart_of_wide {c : Char} (hwide : 0x80 ≤ c.toNat) (h : Unicode.isBlank c = false) :
    isNameStart c = true := by
  have hascii : c.isAlphanum = false := by
    rw [Bool.eq_false_iff]
    intro halnum
    have := toNat_lt_of_isAlphanum halnum
    omega
  simp only [Char.isAlphanum, isAlpha_eq, Bool.or_eq_false_iff] at hascii
  simp [isNameStart, isNameChar, Nat.not_lt.2 hwide, h, hascii]

/-- A letter or digit may stand in a name, and a letter that is not a lower case letter of ASCII may
start one. -/
theorem isNameStart_of_isWordChar {c : Char} (h : isWordChar c = true) :
    isNameStart c = true ∨ c.isAlphanum = true := by
  rcases Nat.lt_or_ge c.toNat 0x80 with hascii | hwide
  · have hval : c.val < 0x80 := hascii
    right
    simpa [isWordChar, Unicode.isLetter, Unicode.isDigit, hval, Char.isAlphanum] using h
  · have hval : ¬ c.val < 0x80 := Nat.not_lt.2 hwide
    left
    refine isNameStart_of_wide hwide ?_
    simp only [isWordChar, Unicode.isLetter, Unicode.isDigit, hval, if_false, Bool.or_eq_true] at h
    rcases h with h | h
    · exact Unicode.isBlank_eq_false_of_contains (by decide +kernel) hwide h
    · exact Unicode.isBlank_eq_false_of_contains (by decide +kernel) hwide h

theorem isNameChar_of_isNameStart {c : Char} (h : isNameStart c = true) : isNameChar c = true := by
  simp only [isNameStart, Bool.and_eq_true] at h
  exact h.1.1

theorem isNameChar_of_isWordChar {c : Char} (h : isWordChar c = true) : isNameChar c = true := by
  rcases isNameStart_of_isWordChar h with h | h
  · exact isNameChar_of_isNameStart h
  · exact isNameChar_of_isAlphanum h

end Naming

namespace Unicode

/-- Whether the code points from `first` to `last` belong to characters that may start a name. -/
def isStartRange (first last : Nat) : Bool :=
  (0x41 ≤ first && last ≤ 0x5A) ||
    (0x80 ≤ first && (last < 0xD800 || (0xDFFF < first && last < 0x110000)) &&
      isApart first last)

theorem isNameStart_ofNat {first last n : Nat} (h : isStartRange first last = true)
    (hfirst : first ≤ n) (hlast : n ≤ last) : Naming.isNameStart (Char.ofNat n) = true := by
  simp only [isStartRange, Bool.or_eq_true, Bool.and_eq_true, decide_eq_true_eq] at h
  rcases h with ⟨hlow, hhigh⟩ | ⟨⟨hlow, hvalid⟩, hapart⟩
  · have hall : ∀ k < 26, Naming.isNameStart (Char.ofNat (0x41 + k)) = true := by decide
    have hn := hall (n - 0x41) (by omega)
    rwa [show 0x41 + (n - 0x41) = n by omega] at hn
  · have hcode : (Char.ofNat n).toNat = n := by
      have hscalar : n.isValidChar := by
        unfold Nat.isValidChar
        omega
      rw [Char.ofNat, dif_pos hscalar]
      rfl
    refine Naming.isNameStart_of_wide (by omega) ?_
    exact isBlank_eq_false_of_isApart hapart (by omega) (by omega) (by omega)

/-- What title case makes of a character: the first character may start a name, unless the
character itself stays, and the others may stand in one. -/
theorem title_cases (c : Char) :
    (∃ d rest, title c = d :: rest ∧ Naming.isNameStart d = true ∧
      rest.all Naming.isNameChar = true) ∨ (title c = [c] ∧ c.isLower = false) := by
  have hexpansions : titleExpansions.all (fun e => e.2.head?.any (fun n => isStartRange n n) &&
      e.2.tail.all (fun n => isStartRange n n || (0x61 ≤ n && n ≤ 0x7A))) = true := by
    decide +kernel
  have hshifts : titleShifts.all (fun s =>
      isStartRange s.target (s.target + (s.span.last - s.span.first))) = true := by
    decide +kernel
  unfold title
  split
  case h_1 codes hcodes =>
    obtain ⟨before, after, hsplit, -⟩ := List.lookup_eq_some_iff.1 hcodes
    have hmem : (c.toNat, codes) ∈ titleExpansions := by
      rw [hsplit]
      exact List.mem_append_right _ List.mem_cons_self
    have hcodes := List.all_eq_true.1 hexpansions _ hmem
    rw [Bool.and_eq_true] at hcodes
    cases codes with
    | nil => exact absurd hcodes.1 Bool.false_ne_true
    | cons code codes =>
        refine .inl ⟨Char.ofNat code, codes.map Char.ofNat, rfl,
          isNameStart_ofNat hcodes.1 (Nat.le_refl code) (Nat.le_refl code), ?_⟩
        rw [List.all_map, List.all_eq_true]
        intro n hn
        rcases Bool.or_eq_true_iff.1 (List.all_eq_true.1 hcodes.2 n hn) with hstart | hlower
        · exact Naming.isNameChar_of_isNameStart
            (isNameStart_ofNat hstart (Nat.le_refl n) (Nat.le_refl n))
        · simp only [Bool.and_eq_true, decide_eq_true_eq] at hlower
          have hall : ∀ k < 26, Naming.isNameChar (Char.ofNat (0x61 + k)) = true := by decide
          have hn := hall (n - 0x61) (by omega)
          rwa [show 0x61 + (n - 0x61) = n by omega] at hn
  case h_2 =>
    unfold Shift.apply
    split
    case h_1 s hs =>
      have hrange := List.all_eq_true.1 hshifts s (List.mem_of_find?_eq_some hs)
      have hspan := List.find?_some hs
      simp only [Span.mem, Bool.and_eq_true, decide_eq_true_eq] at hspan
      exact .inl ⟨_, [], rfl, isNameStart_ofNat hrange (by omega) (by omega), rfl⟩
    case h_2 hnone =>
      refine .inr ⟨rfl, ?_⟩
      -- the first of the shifts moves the lower case letters of ASCII
      have hascii := List.find?_eq_none.1 hnone ⟨⟨0x61, 0x7A, 1⟩, 0x41⟩ List.mem_cons_self
      have hbounds : 'a'.val.toNat = 0x61 ∧ 'z'.val.toNat = 0x7A := by decide
      simp only [Span.mem, Nat.mod_one, beq_self_eq_true, Bool.and_true, Bool.and_eq_true,
        decide_eq_true_eq] at hascii
      simp only [isLower_eq, Bool.and_eq_false_iff, decide_eq_false_iff_not,
        UInt32.le_iff_toNat_le]
      rw [Char.toNat] at hascii
      omega

end Unicode

namespace Naming

/-- The title case form of a character of a word holds characters that may stand in a name. -/
theorem isNameChar_of_mem_title {d : Char} (h : isWordChar d = true) :
    ∀ c ∈ Unicode.title d, isNameChar c = true := by
  rcases Unicode.title_cases d with ⟨e, rest, htitle, he, hrest⟩ | ⟨htitle, -⟩
  · rw [htitle, List.forall_mem_cons]
    exact ⟨isNameChar_of_isNameStart he, List.all_eq_true.1 hrest⟩
  · rw [htitle, List.forall_mem_singleton]
    exact isNameChar_of_isWordChar h

/-- The title case form of a letter starts with what may start a name. -/
theorem exists_title_of_isLetter {c : Char} (h : Unicode.isLetter c = true) :
    ∃ d rest, Unicode.title c = d :: rest ∧ isNameStart d = true := by
  rcases Unicode.title_cases c with ⟨d, rest, htitle, hd, -⟩ | ⟨htitle, hlower⟩
  · exact ⟨d, rest, htitle, hd⟩
  · refine ⟨c, [], htitle, ?_⟩
    have hword : isWordChar c = true := by rw [isWordChar, h, Bool.true_or]
    rcases isNameStart_of_isWordChar hword with hstart | halnum
    · exact hstart
    · have hascii : c.val < 0x80 := toNat_lt_of_isAlphanum halnum
      have halpha : c.isAlpha = true := by simpa [Unicode.isLetter, hascii] using h
      have hdigit : c.isDigit = false := by
        have hbounds : 'A'.val.toNat = 0x41 ∧ '9'.val.toNat = 0x39 := by decide
        simp only [isAlpha_eq, hlower, Bool.or_false, isUpper_eq, decide_eq_true_eq,
          UInt32.le_iff_toNat_le] at halpha
        simp only [Char.isDigit, Bool.and_eq_false_iff, decide_eq_false_iff_not,
          UInt32.le_iff_toNat_le, ge_iff_le]
        omega
      simp [isNameStart, isNameChar_of_isAlphanum halnum, hlower, hdigit]

/-- The names of types are made of what their alphabet asks for. -/
theorem alphabet_isNameStart : Alphabet isNameStart isNameChar where
  head := fun _ => exists_title_of_isLetter
  title := fun _ => isNameChar_of_mem_title
  word := fun _ => isNameChar_of_isWordChar
  underscore := by decide

theorem isTypeName_eq (name : String) :
    isTypeName name = isShaped isNameStart isNameChar name := rfl

/-- A name stays one when characters of names are added. -/
theorem isTypeName_append {name more : String} (h : isTypeName name = true)
    (hmore : more.toList.all isNameChar = true) : isTypeName (name ++ more) = true := by
  rw [isTypeName_eq] at h ⊢
  exact isShaped_append h (List.all_eq_true.1 hmore)

/-- A character that may not stand in a name stands in none. -/
theorem not_mem_of_isTypeName {name : String} {c : Char} (h : isTypeName name = true)
    (hc : isNameChar c = false) : c ∉ name.toList := by
  intro hmem
  rw [isTypeName] at h
  cases hsplit : name.toList with
  | nil => simp [hsplit] at h
  | cons d rest =>
      rw [hsplit] at hmem
      simp only [hsplit, Bool.and_eq_true, List.all_eq_true] at h
      have hname : isNameChar c = true := by
        rcases List.mem_cons.1 hmem with rfl | hmem
        · exact isNameChar_of_isNameStart h.1
        · exact h.2 c hmem
      rw [hc] at hname
      exact absurd hname (by decide)

/-- The name that a model or a service asks for looks like the name of a type. -/
theorem isTypeName_typeBase {sourceName fallback : String} (h : isTypeName fallback = true) :
    isTypeName (typeBase sourceName fallback) = true := by
  rw [isTypeName_eq] at h ⊢
  exact alphabet_isNameStart.isShaped_typeBase sourceName h

/-- A number keeps the looks of a name. -/
theorem NumberedFrom.isTypeName {base name : String} (h : NumberedFrom base name)
    (hbase : isTypeName base = true) : Naming.isTypeName name = true := by
  rw [isTypeName_eq] at hbase ⊢
  exact h.isShaped (fun c hc => isNameChar_of_isAlphanum (by simp [Char.isAlphanum, hc])) hbase

end Naming

end TypedClient
