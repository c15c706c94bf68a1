import Mathlib.Algebra.Group.Nat.Defs
import Mathlib.Data.List.TakeDrop
import Mathlib.Data.Nat.Init
import TypedClient.Text.Quoted

/-!
# Reading quoted text

How each character is written between double quotes, as the cases of `Encoded`, and that a quoted
text determines what was quoted: `first?` reads the first character back, so `quote_injective`
follows along the text.
-/

namespace TypedClient.Text

namespace Quoted

/-! ## Hexadecimal digits -/

/-- The value of a hexadecimal digit. -/
def hexDigit? (c : Char) : Option Nat :=
  if c.isDigit then some (c.toNat - 0x30)
  else if 'a' ≤ c ∧ c ≤ 'f' then some (c.toNat - 0x57)
  else if 'A' ≤ c ∧ c ≤ 'F' then some (c.toNat - 0x37)
  else none

/-- The value of hexadecimal digits behind others of the value `start`. -/
def hexFrom? (start : Nat) : List Char → Option Nat
  | [] => some start
  | c :: cs => (hexDigit? c).bind (fun d => hexFrom? (16 * start + d) cs)

theorem hexFrom?_append (start : Nat) (cs ds : List Char) :
    hexFrom? start (cs ++ ds) = (hexFrom? start cs).bind (fun n => hexFrom? n ds) := by
  induction cs generalizing start with
  | nil => rfl
  | cons c cs ih =>
      rw [List.cons_append, hexFrom?, hexFrom?]
      cases hexDigit? c with
      | none => rfl
      | some d => exact ih _

theorem hexDigit?_digitChar {n : Nat} (h : n < 16) : hexDigit? n.digitChar = some n := by
  have hall : ∀ k < 16, hexDigit? (Nat.digitChar k) = some k := by decide
  exact hall n h

/-- The digits of a number read as the number. -/
theorem hexFrom?_toDigits (n : Nat) : hexFrom? 0 (Nat.toDigits 16 n) = some n := by
  induction n using Nat.strong_induction_on with
  | _ n ih =>
      rw [Nat.toDigits_eq_if (by decide)]
      split
      case isTrue h =>
        rw [hexFrom?, hexDigit?_digitChar h, Option.bind_some, hexFrom?, Nat.mul_zero, Nat.zero_add]
      case isFalse h =>
        rw [hexFrom?_append, ih (n / 16) (by omega), Option.bind_some, hexFrom?,
          hexDigit?_digitChar (Nat.mod_lt n (by decide)), Option.bind_some, hexFrom?,
          Nat.div_add_mod]

/-- Zeros in front of the digits change nothing. -/
theorem hexFrom?_hex (width n : Nat) : hexFrom? 0 (hex width n) = some n := by
  have hzeros : ∀ k, hexFrom? 0 (List.replicate k '0') = some 0 := by
    intro k
    induction k with
    | zero => rfl
    | succ k ih => exact ih
  rw [hex, hexFrom?_append, hzeros, Option.bind_some, hexFrom?_toDigits]

/-- The code points of characters. -/
theorem toNat_lt (c : Char) : c.toNat < 0x110000 := by
  have hvalid := c.valid
  simp only [UInt32.isValidChar, Nat.isValidChar] at hvalid
  rw [Char.toNat]
  omega

/-- A number that fits is written with just as many digits as asked for. -/
theorem length_hex {width n : Nat} (hwidth : 0 < width) (h : n < 16 ^ width) :
    (hex width n).length = width := by
  have hle := (Nat.length_toDigits_le_iff (b := 16) (by decide) hwidth).2 h
  rw [hex, List.length_append, List.length_replicate]
  omega

/-! ## Characters -/

/-- How a character is written between double quotes. -/
inductive Encoded (c : Char) : List Char → Prop where
  | mark (h : c = '"' ∨ c = '\\') : Encoded c ['\\', c]
  | plain (hquote : c ≠ '"') (hslash : c ≠ '\\') (hprint : Unicode.isPrintable c = true) :
      Encoded c [c]
  | short {e : Char} (hprint : Unicode.isPrintable c = false) (h : (c, e) ∈ shortEscapes) :
      Encoded c ['\\', e]
  | ascii (hprint : Unicode.isPrintable c = false) (hshort : shortEscapes.lookup c = none)
      (h : c.toNat < 0x80) : Encoded c ('\\' :: 'x' :: hex 2 c.toNat)
  | basic (hprint : Unicode.isPrintable c = false) (hascii : 0x80 ≤ c.toNat)
      (h : c.toNat < 0x10000) : Encoded c ('\\' :: 'u' :: hex 4 c.toNat)
  | beyond (hprint : Unicode.isPrintable c = false) (h : 0x10000 ≤ c.toNat) :
      Encoded c ('\\' :: 'U' :: hex 8 c.toNat)

theorem encoded_encodeChar (c : Char) : Encoded c (encodeChar c) := by
  unfold encodeChar
  split
  case isTrue hmark => exact .mark hmark
  case isFalse hmark =>
    rw [not_or] at hmark
    split
    case isTrue hprint => exact .plain hmark.1 hmark.2 hprint
    case isFalse hprint =>
      rw [Bool.not_eq_true] at hprint
      split
      case h_1 e hshort =>
        obtain ⟨before, after, hsplit, -⟩ := List.lookup_eq_some_iff.1 hshort
        exact .short hprint (hsplit ▸ List.mem_append_cons_self)
      case h_2 hshort =>
        split_ifs with hascii hbasic
        · exact .ascii hprint hshort hascii
        · exact .basic hprint (Nat.le_of_not_lt hascii) hbasic
        · exact .beyond hprint (Nat.le_of_not_lt hbasic)

/-- The number of hexadecimal digits behind the letter of an escape. -/
def escapeWidth (e : Char) : Nat :=
  if e = 'x' then 2 else if e = 'u' then 4 else if e = 'U' then 8 else 0

/-- The character that is written by the letter of an escape and the digits behind it. -/
def unescape (e : Char) (digits : List Char) : Char :=
  if escapeWidth e = 0 then ((shortEscapes.find? (fun p => p.2 = e)).map Prod.fst).getD e
  else Char.ofNat ((hexFrom? 0 digits).getD 0)

/-- The first character of what stands between double quotes, and what follows it. -/
def first? : List Char → Option (Char × List Char)
  | [] => none
  | c :: rest =>
      if c = '\\' then
        match rest with
        | [] => none
        | e :: rest =>
            some (unescape e (rest.take (escapeWidth e)), rest.drop (escapeWidth e))
      else some (c, rest)

/-- An escape with as many digits as its letter asks for is read back. -/
theorem first?_escape {e : Char} (digits rest : List Char)
    (h : digits.length = escapeWidth e) :
    first? ('\\' :: e :: digits ++ rest) = some (unescape e digits, rest) := by
  rw [List.cons_append, List.cons_append, first?, if_pos rfl, ← h, List.take_left,
    List.drop_left]

theorem unescape_hex {e : Char} {width : Nat} (h : escapeWidth e ≠ 0) (c : Char) :
    unescape e (hex width c.toNat) = c := by
  rw [unescape, if_neg h, hexFrom?_hex, Option.getD_some, Char.ofNat_toNat]

/-- What is written for a character is read back. -/
theorem first?_encodeChar (c : Char) (rest : List Char) :
    first? (encodeChar c ++ rest) = some (c, rest) := by
  have hdigits : ∀ {e : Char}, escapeWidth e ≠ 0 → c.toNat < 16 ^ escapeWidth e →
      first? ('\\' :: e :: hex (escapeWidth e) c.toNat ++ rest) = some (c, rest) := by
    intro e hwidth hcode
    rw [first?_escape _ rest (length_hex (Nat.pos_of_ne_zero hwidth) hcode), unescape_hex hwidth]
  generalize hwritten : encodeChar c = written
  cases hwritten ▸ encoded_encodeChar c with
  | mark h =>
      rcases h with rfl | rfl
      · exact first?_escape [] rest (by decide)
      · exact first?_escape [] rest (by decide)
  | plain hquote hslash hprint =>
      simp only [List.singleton_append, first?, if_neg hslash]
  | @short e hprint h =>
      have hall : ∀ p ∈ shortEscapes, escapeWidth p.2 = 0 ∧ unescape p.2 [] = p.1 := by decide
      obtain ⟨hwidth, hletter⟩ := hall _ h
      exact (first?_escape [] rest hwidth.symm).trans (by rw [hletter])
  | ascii hprint hshort h => exact hdigits (e := 'x') (by decide) (Nat.lt_trans h (by decide))
  | basic hprint hascii h => exact hdigits (e := 'u') (by decide) (Nat.lt_of_lt_of_le h (by decide))
  | beyond hprint h =>
      exact hdigits (e := 'U') (by decide) (Nat.lt_trans (toNat_lt c) (by decide))

/-- Texts that are written alike are equal. -/
theorem flatMap_encodeChar_injective : Function.Injective (List.flatMap encodeChar) := by
  have hnil : ∀ d ds, encodeChar d ++ ds ≠ [] := by
    intro d ds h
    have hfirst := first?_encodeChar d ds
    rw [h] at hfirst
    cases hfirst
  intro cs
  induction cs with
  | nil =>
      intro ds h
      cases ds with
      | nil => rfl
      | cons d ds => exact absurd h.symm (hnil d _)
  | cons c cs ih =>
      intro ds h
      cases ds with
      | nil => exact absurd h (hnil c _)
      | cons d ds =>
          have hfirst := congrArg first? h
          rw [List.flatMap_cons, List.flatMap_cons, first?_encodeChar, first?_encodeChar] at hfirst
          obtain ⟨rfl, hrest⟩ := Prod.mk.inj (Option.some.inj hfirst)
          rw [ih hrest]

end Quoted

/-- A quoted text determines what was quoted. -/
theorem quote_injective : Function.Injective quote := by
  intro s t h
  rw [quote, quote, String.ofList_inj, Quoted.encode, Quoted.encode] at h
  have hchars := List.append_cancel_right (List.cons.inj h).2
  exact String.toList_inj.1 (Quoted.flatMap_encodeChar_injective hchars)

end TypedClient.Text
