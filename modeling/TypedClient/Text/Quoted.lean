import TypedClient.Unicode.Printable

/-!
# Quoted text

Text between double quotes. A quote and a backslash are escaped by a backslash, printable
characters stand for themselves, seven control characters have short escapes, and every other
character is written by its code: two hexadecimal digits behind `\x` for ASCII, four behind `\u`
inside the basic plane, eight behind `\U` beyond it.
-/

namespace TypedClient.Text.Quoted

/-- The lower case hexadecimal digits of `n`, at least `width` of them. -/
def hex (width n : Nat) : List Char :=
  let digits := Nat.toDigits 16 n
  List.replicate (width - digits.length) '0' ++ digits

/-- The short escapes of control characters. -/
def shortEscapes : List (Char × Char) :=
  [('\x07', 'a'), ('\x08', 'b'), ('\x0c', 'f'), ('\n', 'n'), ('\r', 'r'), ('\t', 't'),
   ('\x0b', 'v')]

/-- The written form of one character between double quotes. -/
def encodeChar (c : Char) : List Char :=
  if c = '"' ∨ c = '\\' then ['\\', c]
  else if Unicode.isPrintable c then [c]
  else match shortEscapes.lookup c with
    | some e => ['\\', e]
    | none =>
        if c.toNat < 0x80 then '\\' :: 'x' :: hex 2 c.toNat
        else if c.toNat < 0x10000 then '\\' :: 'u' :: hex 4 c.toNat
        else '\\' :: 'U' :: hex 8 c.toNat

/-- The characters of the quoted form of `s`. -/
def encode (s : List Char) : List Char :=
  '"' :: s.flatMap encodeChar ++ ['"']

end TypedClient.Text.Quoted

namespace TypedClient.Text

/-- `s` between double quotes, with everything that is not plain print escaped. -/
def quote (s : String) : String :=
  String.ofList (Quoted.encode s.toList)

/-- One character between single quotes, which themselves are escaped there. -/
def quoteChar (c : Char) : String :=
  let written :=
    if c = '\x27' then ['\\', c] else if c = '"' then [c] else Quoted.encodeChar c
  String.ofList ('\x27' :: written ++ ['\x27'])

end TypedClient.Text
