import TypedClient.Proofs.Naming.Member
import TypedClient.Proofs.TypeScript.StringLiteral

/-!
# Property names

A property stands in the generated code under its name when that is an identifier, and under its
quoted name otherwise. The quoting has two escapes that ECMAScript does not have, `\a` and `\U`;
`property_keys` says that this is all that can go wrong: a key stands for the name that it was made
from exactly when the name holds none of the characters that are written with them. The keys
themselves are distinct for distinct names.
-/

namespace TypedClient.TypeScript

open Naming (propertyKey isIdentifier)
open Reading

/-- The name that a key stands for: that of an identifier, or the value of a string literal. -/
def propertyName? (key : String) : Option (List Nat) :=
  if Naming.isMemberName key then some (unitsOf key.toList) else stringValue? key

/-- Whether a character is written so that it reads as itself: it is not the bell, and beyond the
basic plane it is printable. -/
def isKept (c : Char) : Bool :=
  c ≠ '\x07' && (Unicode.isPrintable c || c.toNat < 0x10000)

/-- The characters that what is written for a character reads as. Of an escape that ECMAScript
does not have, the letter and the digits are left. -/
def readAs (c : Char) : List Char :=
  if isKept c then [c]
  else if c = '\x07' then ['a']
  else 'U' :: Text.Quoted.hex 8 c.toNat

theorem readAs_of_isKept {c : Char} (h : isKept c = true) : readAs c = [c] := by
  rw [readAs, if_pos h]

/-- Characters that are kept read as themselves. -/
theorem flatMap_readAs {cs : List Char} (h : ∀ c ∈ cs, isKept c = true) : cs.flatMap readAs = cs :=
  calc cs.flatMap readAs
      = cs.flatMap (fun c => [c]) := List.flatMap_congr (fun c hc => readAs_of_isKept (h c hc))
    _ = cs := List.flatMap_singleton' cs

/-- A character that is not kept is the bell, or it lies beyond the basic plane. -/
theorem readAs_of_lost {c : Char} (h : isKept c = false) :
    (c = '\x07' ∧ readAs c = ['a']) ∨
      (0x10000 ≤ c.toNat ∧ readAs c = 'U' :: Text.Quoted.hex 8 c.toNat) := by
  rw [readAs, h, if_neg Bool.false_ne_true]
  by_cases hbell : c = '\x07'
  · exact .inl ⟨hbell, if_pos hbell⟩
  · refine .inr ⟨Nat.le_of_not_lt (fun hlt => ?_), if_neg hbell⟩
    simp [isKept, hbell, hlt] at h

theorem isKept_of_isPrintable {c : Char} (h : Unicode.isPrintable c = true) : isKept c = true := by
  have hbell : c ≠ '\x07' := by
    rintro rfl
    exact absurd h (by decide)
  simp [isKept, hbell, h]

theorem isKept_of_lt {c : Char} (hbell : c ≠ '\x07') (h : c.toNat < 0x10000) :
    isKept c = true := by
  simp [isKept, hbell, h]

/-! ## Reading keys -/

/-- A character of the basic plane reads as its code unit, unless it is the bell. -/
theorem unitsOf_readAs_of_lt {c : Char} (hbell : c ≠ '\x07') (h : c.toNat < 0x10000) :
    unitsOf (readAs c) = [c.toNat] := by
  rw [readAs_of_isKept (isKept_of_lt hbell h), unitsOf, List.flatMap_singleton, codeUnits_of_lt h]

/-- What is written for a character is read as `readAs` says. -/
theorem transduce_encodeChar (c : Char) :
    transduce (step '"') inside (Text.Quoted.encodeChar c) =
      some (unitsOf (readAs c), inside) := by
  have hbell : Text.Quoted.shortEscapes.lookup c = none → c ≠ '\x07' := by
    rintro h rfl
    exact absurd h (by decide)
  generalize hwritten : Text.Quoted.encodeChar c = written
  cases hwritten ▸ Text.Quoted.encoded_encodeChar c with
  | mark h => rcases h with rfl | rfl <;> decide
  | plain hquote hslash hprint =>
      rw [readAs_of_isKept (isKept_of_isPrintable hprint)]
      exact transduce_plain (List.forall_mem_singleton.2
        (Scan.isPlain_of_isPrintable hquote hslash hprint))
  | short hprint h =>
      have hall : ∀ p ∈ Text.Quoted.shortEscapes,
          transduce (step '"') inside ['\\', p.2] = some (unitsOf (readAs p.1), inside) := by
        decide
      exact hall _ h
  | ascii hprint hshort h =>
      rw [unitsOf_readAs_of_lt (hbell hshort) (by omega), transduce_cons rfl, transduce_cons rfl]
      exact transduce_digits (Text.Quoted.length_hex (by decide) (by omega))
        (Text.Quoted.hexFrom?_hex 2 c.toNat)
  | basic hprint hascii h =>
      have hwide : c ≠ '\x07' := by
        rintro rfl
        exact absurd hascii (by decide)
      rw [unitsOf_readAs_of_lt hwide h, transduce_cons rfl, transduce_cons rfl]
      exact transduce_point (Text.Quoted.length_hex (by decide) (by omega))
        (Text.Quoted.hexFrom?_hex 4 c.toNat)
  | beyond hprint h =>
      have hlost : isKept c = false := by
        rw [isKept, hprint, Bool.false_or, decide_eq_false (Nat.not_lt.2 h), Bool.and_false]
      obtain ⟨rfl, -⟩ | ⟨-, hread⟩ := readAs_of_lost hlost
      · exact absurd h (by decide)
      rw [hread, transduce_cons rfl]
      -- the letter is read as itself, and so are the digits behind it
      have hletter : step '"' escaped 'U' = some (unitsOf ['U'], inside) := by decide
      rw [transduce, hletter, Option.bind_some,
        transduce_plain (fun d hd => Scan.isPlain_of_mem_hex hd), Option.map_some,
        ← unitsOf_append, List.singleton_append]

/-- The characters of an identifier are kept. -/
theorem isKept_of_isIdentifier {s : String} (h : isIdentifier s = true) :
    ∀ c ∈ s.toList, isKept c = true := by
  have hascii : ∀ c, Naming.isIdentifierRest c = true → isKept c = true := by
    intro c hc
    have hbell : c ≠ '\x07' := by
      rintro rfl
      exact absurd hc (by decide)
    refine isKept_of_lt hbell ?_
    simp only [Naming.isIdentifierRest, Bool.or_eq_true, decide_eq_true_eq] at hc
    rcases hc with (halnum | rfl) | rfl
    · exact Nat.lt_trans (Naming.toNat_lt_of_isAlphanum halnum) (by decide)
    · decide
    · decide
  obtain ⟨c, tail, hlist, hall⟩ := Naming.exists_of_isIdentifier h
  rw [hlist]
  exact fun d hd => hascii d (hall d hd)

/-- A quoted text is no identifier. -/
theorem isMemberName_quote (s : String) : Naming.isMemberName (Text.quote s) = false := by
  rw [Naming.isMemberName, Naming.isShaped, Text.quote, String.toList_ofList]
  exact Bool.and_eq_false_imp.2 (fun h => absurd h (by decide))

/-- A key stands for the characters that its name reads as. -/
theorem propertyName?_propertyKey (s : String) :
    propertyName? (propertyKey s) = some (unitsOf (s.toList.flatMap readAs)) := by
  unfold propertyKey
  split
  case isTrue h =>
    rw [propertyName?, if_pos (Naming.isMemberName_of_isIdentifier h),
      flatMap_readAs (isKept_of_isIdentifier h)]
  case isFalse h =>
    rw [propertyName?, isMemberName_quote, if_neg Bool.false_ne_true, Text.quote,
      Text.Quoted.encode, stringValue?_ofList (.inl rfl)
        (transduce_flatMap (fun c _ => transduce_encodeChar c)), unitsOf, List.flatMap_assoc]
    rfl

/-! ## Names that keys stand for -/

/-- A text reads as itself exactly when all its characters are kept. -/
theorem unitsOf_readAs_iff (cs : List Char) :
    unitsOf (cs.flatMap readAs) = unitsOf cs ↔ ∀ c ∈ cs, isKept c = true := by
  induction cs with
  | nil => simp [unitsOf]
  | cons c cs ih =>
      rw [List.forall_mem_cons, ← ih, List.flatMap_cons, unitsOf_append, ← List.singleton_append,
        unitsOf_append]
      cases hkept : isKept c with
      | true =>
          rw [readAs_of_isKept hkept]
          simp
      | false =>
          refine iff_of_false (fun heq => ?_) (by simp)
          -- the first code units differ
          obtain ⟨rfl, hread⟩ | ⟨hwide, hread⟩ := readAs_of_lost hkept
          · rw [hread] at heq
            exact absurd (List.cons.inj heq).1 (by decide)
          · rw [hread] at heq
            simp only [unitsOf, List.flatMap_cons, List.flatMap_nil, codeUnits,
              if_neg (Nat.not_lt.2 hwide), List.append_nil] at heq
            have hfirst : ('U').toNat = 0xD800 + (c.toNat - 0x10000) / 0x400 :=
              (List.cons.inj heq).1
            have hletter : ('U').toNat = 0x55 := rfl
            omega

/-- Distinct names have distinct keys. -/
theorem propertyKey_injective : Function.Injective propertyKey := by
  have hquoted : ∀ {s t : String}, isIdentifier s = true → s ≠ Text.quote t := by
    rintro s t hs rfl
    have hname := Naming.isMemberName_of_isIdentifier hs
    rw [isMemberName_quote] at hname
    exact Bool.noConfusion hname
  intro s t h
  unfold propertyKey at h
  split_ifs at h with hs ht ht
  · exact h
  · exact absurd h (hquoted hs)
  · exact absurd h.symm (hquoted ht)
  · exact Text.quote_injective h

/-- The key for a property stands for its name exactly when every character of the name is kept,
and it is the key for no other name. -/
theorem property_keys (s : String) :
    (propertyName? (propertyKey s) = some (unitsOf s.toList) ↔
      ∀ c ∈ s.toList, isKept c = true) ∧
    ∀ t, propertyKey t = propertyKey s → t = s := by
  rw [propertyName?_propertyKey, Option.some.injEq, unitsOf_readAs_iff]
  exact ⟨Iff.rfl, fun t h => propertyKey_injective h⟩

/-- The key for the bell stands for the name `a`, and that for an invisible tag stands for a letter
and digits. -/
theorem misread_keys :
    propertyKey "\x07" = "\"\\a\"" ∧
    propertyName? (propertyKey "\x07") = some (unitsOf "a".toList) ∧
    propertyName? (propertyKey "\x07") ≠ some (unitsOf "\x07".toList) ∧
    propertyName? (propertyKey (String.ofList [Char.ofNat 0xE0001])) =
      some (unitsOf "U000e0001".toList) := by
  decide +kernel

end TypedClient.TypeScript
