import Mathlib.Data.List.Basic
import Mathlib.Tactic.SplitIfs
import TypedClient.Text.Bytes

/-!
# Texts and their bytes

A text is read back from its bytes (`ofBytes?_eq_some_iff`), so distinct texts have distinct bytes.
A character of ASCII is one byte, and that byte stands for nothing else: it occurs among the bytes
of a text where the character occurs in the text. Bytes are read back from their percent-encoded
form (`percentDecoded?_percentEncoded`).
-/

namespace TypedClient.Text

variable {s t : String} {c d : Char} {x : UInt8}

@[simp] theorem bytes_append (s t : String) : bytes (s ++ t) = bytes s ++ bytes t := by
  rw [bytes, String.toList_append, List.flatMap_append, ← bytes, ← bytes]

theorem bytes_ofList (cs : List Char) :
    bytes (String.ofList cs) = cs.flatMap String.utf8EncodeChar := by
  rw [bytes, String.toList_ofList]

/-- The bytes of a text are those that it is held as. -/
theorem toArray_bytes (s : String) : (⟨(bytes s).toArray⟩ : ByteArray) = s.toByteArray := by
  have hlist : s.toByteArray = (bytes s).toByteArray :=
    calc s.toByteArray = (String.ofList s.toList).toByteArray := by rw [String.ofList_toList]
      _ = (bytes s).toByteArray := String.toByteArray_ofList
  rw [hlist]
  exact ByteArray.ext (congrArg List.toArray List.toList_data_toByteArray.symm)

/-- Bytes are a text exactly when they are the bytes of that text. -/
theorem ofBytes?_eq_some_iff {b : Bytes} : ofBytes? b = some s ↔ bytes s = b := by
  have hlist : (⟨b.toArray⟩ : ByteArray) = s.toByteArray ↔ bytes s = b := by
    rw [← toArray_bytes, ByteArray.mk.injEq]
    exact ⟨fun h => (List.toArray_inj h).symm, fun h => congrArg List.toArray h.symm⟩
  rw [← hlist, ofBytes?, String.fromUTF8?]
  constructor
  · intro h
    split at h
    · exact congrArg String.toByteArray (Option.some.inj h)
    · cases h
  · intro h
    rw [dif_pos (h ▸ s.isValidUTF8)]
    exact congrArg some (String.toByteArray_inj.1 h)

@[simp] theorem ofBytes?_bytes (s : String) : ofBytes? (bytes s) = some s :=
  ofBytes?_eq_some_iff.2 rfl

/-- Texts with the same bytes are equal. -/
theorem bytes_injective : Function.Injective bytes := by
  intro s t h
  rw [← Option.some_inj, ← ofBytes?_bytes s, h, ofBytes?_bytes]

/-- Several sequences of bytes are texts exactly when they are the bytes of those texts. -/
theorem mapM_ofBytes?_eq_some_iff {parts : List Bytes} {texts : List String} :
    parts.mapM ofBytes? = some texts ↔ texts.map bytes = parts := by
  induction parts generalizing texts with
  | nil => cases texts <;> simp
  | cons b parts ih =>
      cases texts with
      | nil => simp [Option.bind_eq_some_iff]
      | cons s texts =>
          simp only [List.mapM_cons, Option.bind_eq_bind, Option.pure_def,
            Option.bind_eq_some_iff, Option.some.injEq, List.cons.injEq, List.map_cons,
            ofBytes?_eq_some_iff, ih]
          constructor
          · rintro ⟨s', rfl, texts', rfl, rfl, rfl⟩
            exact ⟨rfl, rfl⟩
          · rintro ⟨rfl, rfl⟩
            exact ⟨s, rfl, texts, rfl, rfl, rfl⟩

/-- A character of ASCII is one byte. -/
theorem utf8EncodeChar_ascii (h : c.toNat < 0x80) :
    String.utf8EncodeChar c = [UInt8.ofNat c.toNat] :=
  if_pos (Nat.le_of_lt_succ h)

/-- The byte of a character of ASCII. -/
theorem toNat_ascii (h : c.toNat < 0x80) : (UInt8.ofNat c.toNat).toNat = c.toNat := by
  rw [UInt8.toNat_ofNat', Nat.mod_eq_of_lt (by omega)]

/-- The bytes of every other character lie beyond ASCII. -/
theorem not_ascii_of_mem (h : ¬c.toNat < 0x80) (hx : x ∈ String.utf8EncodeChar c) :
    ¬x.toNat < 0x80 := by
  have hlarge : ¬c.val.toNat ≤ 0x7f := fun hle => h (Nat.lt_succ_of_le hle)
  rw [String.utf8EncodeChar, if_neg hlarge] at hx
  split_ifs at hx
  all_goals
    simp only [List.mem_cons, List.not_mem_nil, or_false] at hx
    rcases hx with rfl | rfl | rfl | rfl <;> rw [UInt8.toNat_ofNat'] <;> omega

/-- The byte of a character of ASCII belongs to that character alone. -/
theorem mem_utf8EncodeChar_ascii (hd : d.toNat < 0x80) :
    UInt8.ofNat d.toNat ∈ String.utf8EncodeChar c ↔ d = c := by
  by_cases hc : c.toNat < 0x80
  · rw [utf8EncodeChar_ascii hc, List.mem_singleton, ← UInt8.toNat_inj, toNat_ascii hd,
      toNat_ascii hc, Char.toNat_inj]
  · refine iff_of_false (fun hmem => ?_) (fun heq => hc (heq ▸ hd))
    exact not_ascii_of_mem hc hmem (lt_of_eq_of_lt (toNat_ascii hd) hd)

/-- A character of ASCII occurs in a text exactly when its byte does. -/
theorem mem_bytes_ascii (hd : d.toNat < 0x80) :
    UInt8.ofNat d.toNat ∈ bytes s ↔ d ∈ s.toList := by
  rw [bytes, List.mem_flatMap]
  simp only [mem_utf8EncodeChar_ascii hd, exists_eq_right']

/-- A text starts with a character of ASCII exactly when its bytes do. -/
theorem head?_bytes_ascii (hd : d.toNat < 0x80) :
    (bytes s).head? = some (UInt8.ofNat d.toNat) ↔ s.toList.head? = some d := by
  rw [bytes]
  cases s.toList with
  | nil => simp
  | cons c cs =>
      obtain ⟨x, rest, hx⟩ := List.exists_cons_of_length_pos
        (String.length_utf8EncodeChar c ▸ c.utf8Size_pos)
      rw [List.flatMap_cons, hx, List.cons_append, List.head?_cons, List.head?_cons,
        Option.some.injEq, Option.some.injEq]
      constructor
      · rintro rfl
        exact ((mem_utf8EncodeChar_ascii hd).1 (hx ▸ List.mem_cons_self)).symm
      · rintro rfl
        rw [utf8EncodeChar_ascii hd] at hx
        exact (List.cons.inj hx).1.symm

/-! ## Percent-encoding -/

theorem percentDecoded?_cons_of_ne (h : x ≠ 0x25) (rest : Bytes) :
    percentDecoded? (x :: rest) = (percentDecoded? rest).map (x :: ·) :=
  (percentDecoded?.eq_def (x :: rest)).trans (if_neg h)

/-- Bytes without percent signs are their own decoding. -/
theorem percentDecoded?_of_not_mem {b : Bytes} (h : 0x25 ∉ b) : percentDecoded? b = some b := by
  induction b with
  | nil => rfl
  | cons x b ih =>
      rw [List.mem_cons, not_or] at h
      rw [percentDecoded?_cons_of_ne (Ne.symm h.1), ih h.2, Option.map_some]

/-- A digit in upper case is one byte, and is read back. -/
theorem hexValue?_digit : ∀ n < 16,
    (Nat.digitChar n).toUpper.toNat < 0x80 ∧
      hexValue? (UInt8.ofNat (Nat.digitChar n).toUpper.toNat) = some (UInt8.ofNat n) := by
  decide

/-- An escaped byte is read back. -/
theorem percentDecoded?_percentByte (x : UInt8) (rest : Bytes) :
    percentDecoded? ((percentByte x).flatMap String.utf8EncodeChar ++ rest) =
      (percentDecoded? rest).map (x :: ·) := by
  obtain ⟨hhigh, hvalue⟩ := hexValue?_digit (x.toNat / 16)
    (Nat.div_lt_of_lt_mul (by simpa using x.toNat_lt))
  obtain ⟨hlow, hrest⟩ := hexValue?_digit (x.toNat % 16) (Nat.mod_lt _ (by decide))
  have hself : UInt8.ofNat (x.toNat / 16) * 16 + UInt8.ofNat (x.toNat % 16) = x :=
    calc UInt8.ofNat (x.toNat / 16) * 16 + UInt8.ofNat (x.toNat % 16)
      _ = UInt8.ofNat (x.toNat / 16 * 16 + x.toNat % 16) := by
          rw [UInt8.ofNat_add, UInt8.ofNat_mul]
          rfl
      _ = x := by rw [Nat.div_add_mod', UInt8.ofNat_toNat]
  have hwritten : (percentByte x).flatMap String.utf8EncodeChar ++ rest =
      0x25 :: UInt8.ofNat (Nat.digitChar (x.toNat / 16)).toUpper.toNat ::
        UInt8.ofNat (Nat.digitChar (x.toNat % 16)).toUpper.toNat :: rest := by
    simp only [percentByte, List.flatMap_cons, List.flatMap_nil, utf8EncodeChar_ascii hhigh,
      utf8EncodeChar_ascii hlow]
    rfl
  rw [hwritten, percentDecoded?, if_pos rfl, hvalue, hrest]
  simp only [Option.bind_eq_bind, Option.bind_some, hself]
  cases percentDecoded? rest <;> rfl

/-- Where no character is kept, what is written starts with a percent sign. -/
theorem bytes_percentEncoded_cons (x : UInt8) (b : Bytes) :
    ∃ rest, bytes (percentEncoded (fun _ => false) (x :: b)) = 0x25 :: rest := by
  rw [percentEncoded, bytes_ofList]
  simp only [Bool.and_false, List.flatMap_cons]
  exact ⟨_, rfl⟩

/-- Bytes are read back from their percent-encoded form. -/
theorem percentDecoded?_percentEncoded {kept : Char → Bool} (h : kept '%' = false) (b : Bytes) :
    percentDecoded? (bytes (percentEncoded kept b)) = some b := by
  rw [percentEncoded, bytes_ofList]
  induction b with
  | nil => rfl
  | cons x b ih =>
      rw [List.flatMap_cons, List.flatMap_append]
      dsimp only
      split
      case isTrue hkept =>
        obtain ⟨hascii, hkept⟩ := Bool.and_eq_true_iff.1 hkept
        have hlt : x.toNat < 0x80 := UInt8.lt_iff_toNat_lt.1 (of_decide_eq_true hascii)
        have hchar : (Char.ofNat x.toNat).toNat = x.toNat := by
          rw [Char.ofNat, dif_pos (.inl (by omega))]
          rfl
        have hsign : x ≠ 0x25 := by
          rintro rfl
          exact absurd (h.symm.trans hkept) (by decide)
        rw [List.flatMap_singleton, utf8EncodeChar_ascii (by omega), hchar, UInt8.ofNat_toNat,
          List.singleton_append, percentDecoded?_cons_of_ne hsign, ih, Option.map_some]
      case isFalse => rw [percentDecoded?_percentByte, ih, Option.map_some]

end TypedClient.Text
