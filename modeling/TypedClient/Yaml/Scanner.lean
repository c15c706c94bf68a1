import TypedClient.Yaml.ScalarText
import TypedClient.Yaml.Token

/-!
# From text to tokens

Block structure comes from indentation: a node that starts further right than its parent opens a
collection, and the collection ends where a token starts further left. A mapping key need not be
marked, so every node that could be one is remembered; when a colon follows on the same line,
the key token is put in front of it after the fact.
-/

namespace TypedClient.Yaml

/-- A node that turns out to be a key if a colon follows it on its line. -/
structure PossibleKey where
  /-- The number of tokens before it. -/
  position : Nat
  /-- Whether the indentation admits nothing but a key there. -/
  required : Bool
  /-- Where it starts. -/
  index : Nat
  /-- The line it starts on. -/
  line : Nat
  /-- The column it starts at. -/
  column : Nat

/-- The state between two tokens. -/
structure Scanner where
  /-- What is left of the text. -/
  cursor : Cursor
  /-- The tokens so far. -/
  tokens : Array Token := #[.streamStart]
  /-- The column of the innermost block collection, `-1` outside all. -/
  indent : Int := -1
  /-- The columns of the collections around it. -/
  indents : List Int := []
  /-- Whether an unmarked key may start here. -/
  keyAllowed : Bool := true
  /-- The last possible key of each open flow collection, the innermost first, and of the block
  context around them. -/
  keys : List (Option PossibleKey) := [none]

namespace Scanner

/-- The greatest depth of nested collections. -/
def maxDepth : Nat := 10000

/-- Whether the scanner is inside a flow collection. -/
def inFlow (s : Scanner) : Bool :=
  s.keys.length > 1

/-- The scanner with one more token. -/
def emit (s : Scanner) (t : Token) : Scanner :=
  { s with tokens := s.tokens.push t }

/-- The scanner with the innermost possible key replaced. -/
def setKey (s : Scanner) (k : Option PossibleKey) : Scanner :=
  { s with keys := k :: s.keys.tail }

/-- Gives up the innermost possible key, which must not be a required one. -/
def dropKey (s : Scanner) : Except String Scanner :=
  match s.keys.head?.join with
  | some k => if k.required then .error "could not find expected ':'" else .ok (s.setKey none)
  | none => .ok s

/-- Remembers that a key may start here. -/
def saveKey (s : Scanner) : Except String Scanner :=
  if s.keyAllowed then do
    let c := s.cursor
    let s ← s.dropKey
    return s.setKey (some
      { position := s.tokens.size
        required := !s.inFlow && s.indent = c.column
        index := c.index, line := c.line, column := c.column })
  else .ok s

/-- The innermost possible key, if it can still be one: it starts on this line and not more than
1024 characters back. -/
def validKey (s : Scanner) : Except String (Option PossibleKey) :=
  match s.keys.head?.join with
  | none => .ok none
  | some k =>
      if k.line < s.cursor.line || k.index + 1024 < s.cursor.index then
        if k.required then .error "could not find expected ':'" else .ok none
      else .ok (some k)

/-- Opens a block collection at a column right of the current one, with its token at the given
position or at the end. -/
def roll (s : Scanner) (column : Nat) (position : Option Nat) (t : Token) :
    Except String Scanner :=
  if s.inFlow || (column : Int) ≤ s.indent then .ok s
  else if s.indents.length ≥ maxDepth then .error "exceeded max depth of 10000"
  else
    let tokens := match position with
      | some p => s.tokens.insertIdxIfInBounds p t
      | none => s.tokens.push t
    .ok { s with tokens, indent := column, indents := s.indent :: s.indents }

/-- Closes the block collections right of a column. -/
def unroll (s : Scanner) (column : Int) : Scanner :=
  if s.inFlow then s
  else
    let all := s.indent :: s.indents
    let kept := all.dropWhile (fun i => i > column)
    let closed := all.length - kept.length
    { s with
      tokens := s.tokens ++ Array.replicate closed Token.blockEnd
      indent := kept.headD (-1)
      indents := kept.tail }

/-- Past a comment and past the comment lines directly behind it. -/
def skipComments : (fuel : Nat) → Cursor → Cursor
  | 0, c => c
  | fuel + 1, c =>
      let c := c.skipToLineEnd
      let gap := (c.rest.take 512).takeWhile (fun x => isBlank x || isBreak x)
      if (c.rest.drop gap.length).head? == some '#' then
        let lines := (gap.filter isBreak).length
        let last := (gap.reverse.takeWhile (fun x => !isBreak x)).length
        skipComments fuel
          { c with
            rest := c.rest.drop gap.length, index := c.index + gap.length,
            line := c.line + lines, column := last }
      else c

/-- Past blanks, comments and line breaks, to the start of the next token. Tabs count as blanks
only where no key may start. -/
def skipGap : (fuel : Nat) → Scanner → Scanner
  | 0, s => s
  | fuel + 1, s =>
      let c := s.cursor
      let c := if c.column = 0 && c.starts '\uFEFF' then c.advance else c
      let tabs := s.inFlow || !s.keyAllowed
      let c := c.skipWhile (fun x => x = ' ' || (tabs && x = '\t'))
      let c := if c.starts '#' then skipComments c.bound c else c
      if c.sees isBreak then
        skipGap fuel { s with cursor := c.skipBreak, keyAllowed := s.keyAllowed || !s.inFlow }
      else { s with cursor := c }

/-- Reads a number of a version directive. -/
def takeVersionNumber (c : Cursor) : Except String (Nat × Cursor) :=
  let (digits, c) := c.takeWhile Char.isDigit
  if digits.isEmpty then .error "did not find expected version number"
  else if digits.length > 2 then .error "found extremely long version number"
  else .ok (digits.foldl (fun n d => 10 * n + (d.toNat - '0'.toNat)) 0, c)

/-- Whether a character may stand in a tag. -/
def isTagChar (x : Char) : Bool :=
  isNameChar x || ";/?:@&=+$,.!~*'()[]%".toList.contains x

/-- A tag with its escapes undone. -/
def tagText? (text : List Char) : Option String :=
  (Text.percentDecoded? (text.flatMap String.utf8EncodeChar)).bind Text.ofBytes?

/-- Reads the rest of a tag whose start was read as `start`. -/
def takeTagText (start : List Char) (c : Cursor) : Except String (String × Cursor) :=
  let (text, c) := c.takeWhile isTagChar
  if start.isEmpty && text.isEmpty then .error "did not find expected tag URI"
  else match tagText? text with
    | some text => .ok (String.ofList (start.drop 1) ++ text, c)
    | none => .error "did not find URI escaped octet"

/-- Reads a tag handle: an exclamation mark, and a name and a second mark if they are there. -/
def takeTagHandle (directive : Bool) (c : Cursor) : Except String (List Char × Cursor) :=
  if !c.starts '!' then .error "did not find expected '!'"
  else
    let (name, after) := c.advance.takeWhile isNameChar
    if after.starts '!' then .ok ('!' :: name ++ ['!'], after.advance)
    else if directive && !name.isEmpty then .error "did not find expected '!'"
    else .ok ('!' :: name, after)

/-- Reads a tag. -/
def takeTag (c : Cursor) : Except String (Token × Cursor) := do
  let finish (t : Token) (c : Cursor) : Except String (Token × Cursor) :=
    if c.gapAhead 0 then .ok (t, c) else .error "did not find expected whitespace or line break"
  if c.ahead? 1 == some '<' then
    let (text, c) ← takeTagText [] (c.advanceBy 2)
    if !c.starts '>' then throw "did not find the expected '>'"
    finish (.tag "" text) c.advance
  else
    let (handle, c) ← takeTagHandle false c
    if handle.length > 1 && handle.getLast? == some '!' then
      let (text, c) ← takeTagText [] c
      finish (.tag (String.ofList handle) text) c
    else
      let (text, c) ← takeTagText handle c
      finish (if text = "" then .tag "" "!" else .tag "!" text) c

/-- Reads the rest of a directive's line. -/
def takeDirectiveEnd (c : Cursor) : Except String Cursor :=
  let c := c.skipWhile isBlank
  let c := if c.starts '#' then c.skipToLineEnd else c
  if c.atLineEnd then .ok c.skipBreak else .error "did not find expected comment or line break"

/-- Reads a directive. -/
def takeDirective (c : Cursor) : Except String (Token × Cursor) := do
  let (name, c) := c.advance.takeWhile isNameChar
  if name.isEmpty then throw "could not find expected directive name"
  if !c.gapAhead 0 then throw "found unexpected non-alphabetical character"
  if name == "YAML".toList then
    let (major, c) ← takeVersionNumber (c.skipWhile isBlank)
    if !c.starts '.' then throw "did not find expected digit or '.' character"
    let (minor, c) ← takeVersionNumber c.advance
    return (.versionDirective major minor, ← takeDirectiveEnd c)
  else if name == "TAG".toList then
    let (handle, c) ← takeTagHandle true (c.skipWhile isBlank)
    if !c.sees isBlank then throw "did not find expected whitespace"
    let (text, c) ← takeTagText [] (c.skipWhile isBlank)
    if !c.gapAhead 0 then throw "did not find expected whitespace or line break"
    return (.tagDirective (String.ofList handle) text, ← takeDirectiveEnd c)
  else throw "found unknown directive name"

/-- Reads the name of an anchor or an alias. -/
def takeName (c : Cursor) : Except String (String × Cursor) :=
  let (name, c) := c.advance.takeWhile isNameChar
  if name.isEmpty || !(c.gapAhead 0 || c.sees ("?:,]\x7d%@`".toList.contains ·)) then
    .error "did not find expected alphabetic or numeric character"
  else .ok (String.ofList name, c)

/-- Leaves the block context and all keys behind, before a marker at the start of a line. -/
def reset (s : Scanner) : Except String Scanner := do
  let s ← (s.unroll (-1)).dropKey
  return { s with keyAllowed := false }

/-- A token that is one character, after which keys are allowed or not. -/
def single (s : Scanner) (t : Token) (keyAllowed : Bool) : Scanner :=
  { s.emit t with cursor := s.cursor.advance, keyAllowed }

/-- The start of a flow collection. -/
def openFlow (s : Scanner) (t : Token) : Except String Scanner := do
  let s ← s.saveKey
  if s.keys.length > maxDepth then throw "exceeded max depth of 10000"
  return { s.single t true with keys := none :: s.keys }

/-- The end of a flow collection. -/
def closeFlow (s : Scanner) (t : Token) : Except String Scanner := do
  let s ← s.dropKey
  let s := s.single t false
  return if s.inFlow then { s with keys := s.keys.tail } else s

/-- The mark of a sequence entry. -/
def blockEntry (s : Scanner) : Except String Scanner := do
  let s ← if s.inFlow then pure s
    else if s.keyAllowed then s.roll s.cursor.column none .blockSequenceStart
    else throw "block sequence entries are not allowed in this context"
  let s ← s.dropKey
  return s.single .blockEntry true

/-- The mark of a key. -/
def keyMark (s : Scanner) : Except String Scanner := do
  let s ← if s.inFlow then pure s
    else if s.keyAllowed then s.roll s.cursor.column none .blockMappingStart
    else throw "mapping keys are not allowed in this context"
  let s ← s.dropKey
  return s.single .key (!s.inFlow)

/-- The mark of a value. What could be a key before it is one now. -/
def valueMark (s : Scanner) : Except String Scanner := do
  match ← s.validKey with
  | some k =>
      let s := { s with tokens := s.tokens.insertIdxIfInBounds k.position .key }
      let s ← s.roll k.column (some k.position) .blockMappingStart
      return (s.setKey none).single .value false
  | none =>
      let s := s.setKey none
      let s ← if s.inFlow then pure s
        else if s.keyAllowed then s.roll s.cursor.column none .blockMappingStart
        else throw "mapping values are not allowed in this context"
      return s.single .value (!s.inFlow)

/-- A node that is one token and may be a key: an alias, an anchor, a tag or a flow scalar. -/
def keyNode (s : Scanner) (read : Cursor → Except String (Token × Cursor)) :
    Except String Scanner := do
  let s ← s.saveKey
  let (t, cursor) ← read s.cursor
  return { s.emit t with cursor, keyAllowed := false }

/-- A quoted scalar. -/
def quoted (s : Scanner) : Except String Scanner :=
  s.keyNode (fun c => do
    let (text, c) ← quotedScalar c
    return (.scalar (String.ofList text) .quoted, c))

/-- A block scalar. -/
def block (s : Scanner) (folded : Bool) : Except String Scanner := do
  let s ← s.dropKey
  let (text, cursor) ← blockScalar folded s.indent s.cursor
  return { s.emit (.scalar (String.ofList text) .block) with cursor, keyAllowed := true }

/-- A plain scalar. A line break behind it allows a key again. -/
def plain (s : Scanner) : Except String Scanner := do
  let s ← s.saveKey
  let (text, broken, cursor) ← plainScalar s.inFlow (s.indent + 1).toNat s.cursor
  return { s.emit (.scalar (String.ofList text) .plain) with cursor, keyAllowed := broken }

/-- The characters that start no plain scalar. -/
def indicators : List Char :=
  "-?:,[]\x7b\x7d#&*!|>'\"%@`".toList

/-- Reads one token, together with the tokens that indentation puts around it. -/
def next (s : Scanner) : Except String Scanner := do
  let s := skipGap (s.cursor.bound + 1) s
  let s := s.unroll s.cursor.column
  let c := s.cursor
  match c.head? with
  | none =>
      let s := { s with cursor := { c with column := 0, line := c.line + 1 } }
      let s ← s.reset
      return s.emit .streamEnd
  | some x =>
      if c.column = 0 && x = '%' then
        let s ← s.reset
        let (t, cursor) ← takeDirective c
        return { s.emit t with cursor }
      else if c.atDocumentMarker then
        let s ← s.reset
        return { s.emit (if x = '-' then .documentStart else .documentEnd) with
          cursor := c.advanceBy 3 }
      else if x = '[' then s.openFlow .flowSequenceStart
      else if x = '\x7b' then s.openFlow .flowMappingStart
      else if x = ']' then s.closeFlow .flowSequenceEnd
      else if x = '\x7d' then s.closeFlow .flowMappingEnd
      else if x = ',' then
        let s ← s.dropKey
        return s.single .flowEntry true
      else if x = '-' && c.gapAhead 1 then s.blockEntry
      else if x = '?' && (s.inFlow || c.gapAhead 1) then s.keyMark
      else if x = ':' && (s.inFlow || c.gapAhead 1) then s.valueMark
      else if x = '*' then
        s.keyNode (fun c => do let (n, c) ← takeName c; return (.aliasOf n, c))
      else if x = '&' then
        s.keyNode (fun c => do let (n, c) ← takeName c; return (.anchor n, c))
      else if x = '!' then s.keyNode takeTag
      else if x = '|' && !s.inFlow then s.block false
      else if x = '>' && !s.inFlow then s.block true
      else if x = '\'' || x = '"' then s.quoted
      else if (!isBlank x && !indicators.contains x) ||
          (x = '-' && !(c.ahead? 1).any isBlank) ||
          (!s.inFlow && (x = '?' || x = ':') && !c.gapAhead 1) then s.plain
      else throw "found character that cannot start any token"

/-- Reads tokens until the stream ends or one is malformed. Every token but the last takes at
least one character. -/
def run : (fuel : Nat) → Scanner → Array Token × Option String
  | 0, s => (s.tokens, none)
  | fuel + 1, s =>
      if s.tokens.back? == some .streamEnd then (s.tokens, none)
      else match s.next with
        | .ok s => run fuel s
        | .error e => (s.tokens, some e)

end Scanner

/-- The tokens of a text, up to the first malformed one, and what is wrong with that. -/
def tokenize (text : List Char) : Array Token × Option String :=
  let text := if text.head? == some '\uFEFF' then text.drop 1 else text
  if text.all isAllowed then
    Scanner.run (text.length + 2) { cursor := { rest := text, bound := text.length } }
  else (#[.streamStart], some "control characters are not allowed")

end TypedClient.Yaml
