/-!
# Texts as bytes

A text is the sequence of the bytes that encode its characters in UTF-8. A percent-encoded text
writes a byte as a percent sign and two hexadecimal digits. Such an escape stands for a byte and not
for a character, so what is left when the escapes are undone need not be a text.
-/

namespace TypedClient

/-- A sequence of bytes, which may be a text or not. -/
abbrev Bytes := List UInt8

namespace Text

/-- The bytes of a text. -/
def bytes (s : String) : Bytes :=
  s.toList.flatMap String.utf8EncodeChar

/-- The text that bytes are, if they are one. -/
def ofBytes? (b : Bytes) : Option String :=
  String.fromUTF8? ⟨b.toArray⟩

/-- The value of a hexadecimal digit. -/
def hexValue? (b : UInt8) : Option UInt8 :=
  if 0x30 ≤ b ∧ b ≤ 0x39 then some (b - 0x30)
  else if 0x61 ≤ b ∧ b ≤ 0x66 then some (b - 0x57)
  else if 0x41 ≤ b ∧ b ≤ 0x46 then some (b - 0x37)
  else none

/-- Bytes with each percent sign and its two hexadecimal digits turned into one byte. -/
def percentDecoded? : Bytes → Option Bytes
  | [] => some []
  | b :: rest =>
      if b = 0x25 then
        match rest with
        | high :: low :: rest => do
            let h ← hexValue? high
            let l ← hexValue? low
            return (h * 16 + l) :: (← percentDecoded? rest)
        | _ => none
      else (percentDecoded? rest).map (b :: ·)

/-- A byte as a percent sign and two hexadecimal digits. -/
def percentByte (b : UInt8) : List Char :=
  let digit (n : Nat) : Char := (Nat.digitChar n).toUpper
  ['%', digit (b.toNat / 16), digit (b.toNat % 16)]

/-- Bytes as a text in which the characters of ASCII that are to be kept stand for themselves and
every other byte is escaped. -/
def percentEncoded (kept : Char → Bool) (b : Bytes) : String :=
  String.ofList (b.flatMap (fun x =>
    let c := Char.ofNat x.toNat
    if x < 0x80 && kept c then [c] else percentByte x))

end Text

end TypedClient
