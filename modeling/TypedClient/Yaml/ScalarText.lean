import TypedClient.Yaml.Cursor
import TypedClient.Document.Pointer

/-!
# The text of scalars

Plain, quoted and block scalars, each read from a cursor at its start to one behind its end. A
line break inside a scalar is folded: alone it reads as a blank, and of several the first is
dropped. The fuel of every loop is the length of the whole text, which it cannot use up.
-/

namespace TypedClient.Yaml

/-- Breaks between two parts of a flow scalar, folded. -/
def foldBreaks (first others : List Char) : List Char :=
  if first.head? == some '\n' then if others.isEmpty then [' '] else others
  else first ++ others

/-- The blanks and breaks between two parts of a scalar that may span lines. -/
structure Gap where
  /-- The blanks on the first line, when the gap stays on it. -/
  blanks : List Char := []
  /-- The first break. -/
  first : List Char := []
  /-- The breaks behind the first. -/
  others : List Char := []
  /-- Whether there was a break. -/
  broken : Bool := false

namespace Gap

/-- What a gap reads as. -/
def text (g : Gap) : List Char :=
  if g.broken then foldBreaks g.first g.others else g.blanks

end Gap

/-- Reads a gap. A tab left of the column `indent` behind a break is refused. -/
def takeGap (indent : Nat) : (fuel : Nat) → Gap → Cursor → Except String (Gap × Cursor)
  | 0, g, c => .ok (g, c)
  | fuel + 1, g, c =>
      match c.head? with
      | none => .ok (g, c)
      | some x =>
          if isBlank x then
            if g.broken && c.column < indent && x = '\t' then
              .error "found a tab character that violates indentation"
            else if g.broken then takeGap indent fuel g c.advance
            else takeGap indent fuel { g with blanks := g.blanks ++ [x] } c.advance
          else if isBreak x then
            let (b, c) := c.takeBreak
            if g.broken then takeGap indent fuel { g with others := g.others ++ b } c
            else takeGap indent fuel { g with blanks := [], first := b, broken := true } c
          else .ok (g, c)

/-- Whether a plain scalar ends before the character here. -/
def endsPlain (flow : Bool) (c : Cursor) (x : Char) : Bool :=
  (x = ':' && c.gapAhead 1) ||
    (flow && (x = ',' || x = '?' || x = '[' || x = ']' || x = '\x7b' || x = '\x7d'))

/-- Reads the characters of a plain scalar up to a gap or its end, in reverse. -/
def takePlainPart (flow : Bool) : (fuel : Nat) → List Char → Cursor → List Char × Cursor
  | 0, s, c => (s, c)
  | fuel + 1, s, c =>
      match c.head? with
      | none => (s, c)
      | some x =>
          if isBlank x || isBreak x || endsPlain flow c x then (s, c)
          else takePlainPart flow fuel (x :: s) c.advance

/-- Reads a plain scalar part by part, with the text so far in reverse and the gap before the
next part. -/
def takePlain (flow : Bool) (indent : Nat) :
    (fuel : Nat) → List Char → Gap → Cursor → Except String (List Char × Gap × Cursor)
  | 0, s, g, c => .ok (s, g, c)
  | fuel + 1, s, g, c =>
      if c.atDocumentMarker || c.starts '#' then .ok (s, g, c)
      else
        let (part, after) := takePlainPart flow c.bound [] c
        let (s, g) := if part.isEmpty then (s, g) else (part ++ g.text.reverse ++ s, {})
        if after.sees (fun x => isBlank x || isBreak x) then
          match takeGap indent after.bound g after with
          | .error e => .error e
          | .ok (g, c) =>
              if !flow && c.column < indent then .ok (s, g, c)
              else takePlain flow indent fuel s g c
        else .ok (s, g, after)

/-- Reads a plain scalar: its text, whether a line break was read behind it, and what follows. -/
def plainScalar (flow : Bool) (indent : Nat) (c : Cursor) :
    Except String (List Char × Bool × Cursor) := do
  let (s, g, c) ← takePlain flow indent (c.bound + 1) [] {} c
  return (s.reverse, g.broken, c)

/-- The characters that single-letter escapes stand for. -/
def escapes : List (Char × Char) :=
  [('0', '\x00'), ('a', '\x07'), ('b', '\x08'), ('t', '\t'), ('\t', '\t'), ('n', '\n'),
   ('v', '\x0b'), ('f', '\x0c'), ('r', '\r'), ('e', '\x1b'), (' ', ' '), ('"', '"'),
   ('\'', '\''), ('\\', '\\'), ('N', '\u0085'), ('_', '\u00a0'), ('L', '\u2028'),
   ('P', '\u2029')]

/-- The number of hexadecimal digits behind an escape by code. -/
def codeLength? (x : Char) : Option Nat :=
  if x = 'x' then some 2 else if x = 'u' then some 4 else if x = 'U' then some 8 else none

/-- The value of a hexadecimal digit. -/
def hexValue? (c : Char) : Option Nat :=
  if c.isDigit then some (c.toNat - '0'.toNat)
  else if 'a' ≤ c ∧ c ≤ 'f' then some (c.toNat - 'a'.toNat + 10)
  else if 'A' ≤ c ∧ c ≤ 'F' then some (c.toNat - 'A'.toNat + 10)
  else none

/-- Reads an escape behind its backslash. -/
def takeEscape (c : Cursor) : Except String (Char × Cursor) :=
  match c.head? with
  | none => .error "found unknown escape character"
  | some x =>
      match escapes.lookup x, codeLength? x with
      | some e, _ => .ok (e, c.advance)
      | none, none => .error "found unknown escape character"
      | none, some n =>
          let digits := c.rest.drop 1 |>.take n
          match digits.mapM hexValue? with
          | none => .error "did not find expected hexdecimal number"
          | some values =>
              let code := values.foldl (fun code d => 16 * code + d) 0
              if values.length < n then .error "did not find expected hexdecimal number"
              else if (0xD800 ≤ code ∧ code ≤ 0xDFFF) ∨ code > 0x10FFFF then
                .error "found invalid Unicode character escape code"
              else .ok (Char.ofNat code, c.advanceBy (n + 1))

/-- Reads the characters of a quoted scalar up to a gap or its closing quote, in reverse. The
flag says that an escaped break ended the part, so that the gap behind it is already broken. -/
def takeQuotedPart (quote : Char) :
    (fuel : Nat) → List Char → Cursor → Except String (List Char × Bool × Cursor)
  | 0, s, c => .ok (s, false, c)
  | fuel + 1, s, c =>
      match c.head? with
      | none => .ok (s, false, c)
      | some x =>
          if isBlank x || isBreak x then .ok (s, false, c)
          else if x = quote then
            if quote = '\'' && c.ahead? 1 == some '\'' then
              takeQuotedPart quote fuel ('\'' :: s) (c.advanceBy 2)
            else .ok (s, false, c)
          else if quote = '"' && x = '\\' then
            if c.advance.sees isBreak then .ok (s, true, c.advance.skipBreak)
            else
              match takeEscape c.advance with
              | .error e => .error e
              | .ok (e, c) => takeQuotedPart quote fuel (e :: s) c
          else takeQuotedPart quote fuel (x :: s) c.advance

/-- Reads a quoted scalar behind its opening quote, with the text so far in reverse. -/
def takeQuoted (quote : Char) :
    (fuel : Nat) → List Char → Cursor → Except String (List Char × Cursor)
  | 0, _, _ => .error "found unexpected end of stream"
  | fuel + 1, s, c =>
      if c.atDocumentMarker then .error "found unexpected document indicator"
      else if c.rest.isEmpty then .error "found unexpected end of stream"
      else
        match takeQuotedPart quote c.bound s c with
        | .error e => .error e
        | .ok (s, broken, c) =>
            if c.starts quote then .ok (s, c.advance)
            else
              match takeGap 0 c.bound { broken } c with
              | .error e => .error e
              | .ok (g, c) => takeQuoted quote fuel (g.text.reverse ++ s) c

/-- Reads a quoted scalar: its text and what follows. -/
def quotedScalar (c : Cursor) : Except String (List Char × Cursor) := do
  let quote := c.head?.getD '"'
  let (s, c) ← takeQuoted quote (c.bound + 1) [] c.advance
  return (s.reverse, c)

/-- What becomes of the breaks at the end of a block scalar. -/
inductive Chomping where
  | strip
  | clip
  | keep
deriving DecidableEq, Repr

/-- Reads the marks behind the indicator of a block scalar: what becomes of the last breaks, and
how many columns its lines are indented more than their parent. -/
def blockMarks (c : Cursor) : Except String (Chomping × Nat × Cursor) :=
  let chomping? (c : Cursor) : Option Chomping :=
    if c.starts '+' then some .keep else if c.starts '-' then some .strip else none
  let increment (c : Cursor) : Except String (Nat × Cursor) :=
    match c.head? with
    | some x =>
        if x = '0' then .error "found an indentation indicator equal to 0"
        else if x.isDigit then .ok (x.toNat - '0'.toNat, c.advance) else .ok (0, c)
    | none => .ok (0, c)
  match chomping? c with
  | some chomping => do
      let (n, c) ← increment c.advance
      return (chomping, n, c)
  | none => do
      let (n, c) ← increment c
      if n = 0 then return (.clip, n, c)
      match chomping? c with
      | some chomping => return (chomping, n, c.advance)
      | none => return (.clip, n, c)

/-- Reads the indentation and the empty lines before a line of a block scalar. With an `indent`
of zero the indentation is still to be found; the greatest column seen is returned for that. -/
def takeBlockBreaks (indent : Nat) :
    (fuel : Nat) → (deepest : Nat) → List Char → Cursor →
      Except String (Nat × List Char × Cursor)
  | 0, deepest, breaks, c => .ok (deepest, breaks, c)
  | fuel + 1, deepest, breaks, c =>
      let spaces := if indent = 0 then c.rest.takeWhile (· = ' ')
        else (c.rest.take (indent - c.column)).takeWhile (· = ' ')
      let c := c.advanceBy spaces.length
      let deepest := max deepest c.column
      if (indent = 0 || c.column < indent) && c.starts '\t' then
        .error "found a tab character where an indentation space is expected"
      else if c.sees isBreak then
        let (b, c) := c.takeBreak
        takeBlockBreaks indent fuel deepest (breaks ++ b) c
      else .ok (deepest, breaks, c)

/-- The lines of a block scalar read so far. -/
structure BlockLines where
  /-- The text in reverse. -/
  text : List Char := []
  /-- The break behind the last line. -/
  first : List Char := []
  /-- The empty lines behind it. -/
  others : List Char := []
  /-- Whether the last line started with a blank. -/
  blank : Bool := false

/-- Reads the lines of a block scalar at the column `indent`. -/
def takeBlockLines (folded : Bool) (indent : Nat) :
    (fuel : Nat) → BlockLines → Cursor → Except String (BlockLines × Cursor)
  | 0, b, c => .ok (b, c)
  | fuel + 1, b, c =>
      if c.column != indent || c.rest.isEmpty then .ok (b, c)
      else
        let blank := c.sees isBlank
        let join : List Char :=
          if folded && !b.blank && !blank && b.first.head? == some '\n' then
            if b.others.isEmpty then [' '] else []
          else b.first
        let (line, c) := c.takeWhile (fun x => !isBreak x)
        let (first, c) := c.takeBreak
        let text := line.reverse ++ b.others.reverse ++ join.reverse ++ b.text
        match takeBlockBreaks indent (c.bound + 1) 0 [] c with
        | .error e => .error e
        | .ok (_, others, c) => takeBlockLines folded indent fuel { text, first, others, blank } c

/-- Reads a block scalar below a node at the column `parent`, which is `-1` at the top. -/
def blockScalar (folded : Bool) (parent : Int) (c : Cursor) :
    Except String (List Char × Cursor) := do
  let (chomping, increment, c) ← blockMarks c.advance
  let c := c.skipWhile isBlank
  let c := if c.starts '#' then c.skipToLineEnd else c
  if !c.atLineEnd then throw "did not find expected comment or line break"
  let c := c.skipBreak
  let given := if increment = 0 then 0 else (max parent 0).toNat + increment
  let (deepest, others, c) ← takeBlockBreaks given (c.bound + 1) 0 [] c
  let indent := if given = 0 then max (max deepest (parent + 1).toNat) 1 else given
  let (b, c) ← takeBlockLines folded indent (c.bound + 1) { others } c
  let last := match chomping with
    | .strip => []
    | .clip => b.first
    | .keep => b.first ++ b.others
  return (b.text.reverse ++ last, c)

end TypedClient.Yaml
