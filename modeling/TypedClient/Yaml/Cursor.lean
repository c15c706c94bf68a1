/-!
# Places in a YAML text

A cursor is what remains of a text and where that is. Columns and lines count from zero. A line
may end in any of the five line breaks of YAML 1.1, and a carriage return before a line feed is
one break with it.
-/

namespace TypedClient.Yaml

/-- Whether a character is a space or a tab. -/
def isBlank (c : Char) : Bool :=
  c = ' ' || c = '\t'

/-- Whether a character ends a line. -/
def isBreak (c : Char) : Bool :=
  c = '\n' || c = '\r' || c = '\u0085' || c = '\u2028' || c = '\u2029'

/-- Whether a character may be part of a name: a letter, a digit, an underscore or a hyphen. -/
def isNameChar (c : Char) : Bool :=
  c.isAlphanum || c = '_' || c = '-'

/-- Whether a character may stand in a YAML text at all. -/
def isAllowed (c : Char) : Bool :=
  let n := c.toNat
  n = 9 || n = 10 || n = 13 || (0x20 ≤ n && n ≤ 0x7E) || n = 0x85 ||
    (0xA0 ≤ n && n ≤ 0xD7FF) || (0xE000 ≤ n && n ≤ 0xFFFD) || 0x10000 ≤ n

/-- What remains of a text, and its place. -/
structure Cursor where
  /-- The characters to come. -/
  rest : List Char
  /-- The number of characters before. -/
  index : Nat := 0
  /-- The number of lines before. -/
  line : Nat := 0
  /-- The number of characters before on this line. -/
  column : Nat := 0
  /-- The length of the whole text, which bounds every loop over it. -/
  bound : Nat := 0

namespace Cursor

/-- The character `n` places ahead. -/
def ahead? (c : Cursor) (n : Nat) : Option Char :=
  c.rest[n]?

/-- The next character. -/
def head? (c : Cursor) : Option Char :=
  c.rest.head?

/-- Whether the next character satisfies `p`. -/
def sees (c : Cursor) (p : Char → Bool) : Bool :=
  c.rest.head?.any p

/-- Whether the next character is `x`. -/
def starts (c : Cursor) (x : Char) : Bool :=
  c.rest.head? == some x

/-- Whether the text ends `n` places ahead, or a blank or a break stands there. -/
def gapAhead (c : Cursor) (n : Nat) : Bool :=
  (c.ahead? n).all (fun x => isBlank x || isBreak x)

/-- Whether the text or the line ends here. -/
def atLineEnd (c : Cursor) : Bool :=
  c.rest.head?.all isBreak

/-- One character further on the same line. -/
def advance (c : Cursor) : Cursor :=
  match c.rest with
  | [] => c
  | _ :: rest => { c with rest, index := c.index + 1, column := c.column + 1 }

/-- Some characters further on the same line. -/
def advanceBy (c : Cursor) (n : Nat) : Cursor :=
  { c with rest := c.rest.drop n, index := c.index + n, column := c.column + n }

/-- Past a line break, with the break as it is kept: a line feed, unless it is one of the two
Unicode separators. -/
def takeBreak (c : Cursor) : List Char × Cursor :=
  match c.rest with
  | '\r' :: '\n' :: rest =>
      (['\n'], { c with rest, index := c.index + 2, line := c.line + 1, column := 0 })
  | x :: rest =>
      if isBreak x then
        ([if x = '\u2028' || x = '\u2029' then x else '\n'],
          { c with rest, index := c.index + 1, line := c.line + 1, column := 0 })
      else ([], c)
  | [] => ([], c)

/-- Past a line break. -/
def skipBreak (c : Cursor) : Cursor :=
  c.takeBreak.2

/-- Past the characters that satisfy `p`, with these characters; none of them is a break. -/
def takeWhile (c : Cursor) (p : Char → Bool) : List Char × Cursor :=
  let taken := c.rest.takeWhile p
  (taken, c.advanceBy taken.length)

/-- Past the characters that satisfy `p`. -/
def skipWhile (c : Cursor) (p : Char → Bool) : Cursor :=
  (c.takeWhile p).2

/-- Up to the end of the line. -/
def skipToLineEnd (c : Cursor) : Cursor :=
  c.skipWhile (fun x => !isBreak x)

/-- Whether a line starts here with three times `x`, followed by a gap. -/
def atMarker (c : Cursor) (x : Char) : Bool :=
  c.column = 0 && c.rest.take 3 == [x, x, x] && c.gapAhead 3

/-- Whether a line starts here with a document marker. -/
def atDocumentMarker (c : Cursor) : Bool :=
  c.atMarker '-' || c.atMarker '.'

end Cursor

end TypedClient.Yaml
