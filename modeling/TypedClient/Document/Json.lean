import TypedClient.Document.Value
import TypedClient.Number.Layout

/-!
# The JSON text of a value

JSON has no text for a number that is not finite, so a value with such a number has none. Line and
paragraph separators are always escaped; the characters that mean something in markup are escaped
on demand.
-/

namespace TypedClient.Json

/-- The hexadecimal digit of a number below 16. -/
def hexDigit (n : Nat) : Char :=
  Nat.digitChar n

/-- A character as a backslash, `u` and four hexadecimal digits. -/
def escapeUnit (c : Char) : List Char :=
  let n := c.toNat
  ['\\', 'u', hexDigit (n / 4096 % 16), hexDigit (n / 256 % 16), hexDigit (n / 16 % 16),
   hexDigit (n % 16)]

/-- Whether a character means something in markup. -/
def isMarkup (c : Char) : Bool :=
  c = '<' || c = '>' || c = '&'

/-- A character inside a JSON text. -/
def escapeChar (markup : Bool) (c : Char) : List Char :=
  if c = '"' then ['\\', '"']
  else if c = '\\' then ['\\', '\\']
  else if c = '\x08' then ['\\', 'b']
  else if c = '\x0c' then ['\\', 'f']
  else if c = '\n' then ['\\', 'n']
  else if c = '\r' then ['\\', 'r']
  else if c = '\t' then ['\\', 't']
  else if c < ' ' || c = '\u2028' || c = '\u2029' || (markup && isMarkup c) then escapeUnit c
  else [c]

/-- A JSON text between its quotes. -/
def quoted (markup : Bool) (s : String) : String :=
  String.ofList ('"' :: s.toList.flatMap (escapeChar markup) ++ ['"'])

/-- How the parts of a list or an object are laid out. -/
structure Style where
  /-- Whether the characters of markup are escaped. -/
  markup : Bool
  /-- What stands in front of each part inside `depth` brackets, and of the bracket that closes
  them. -/
  newline : (depth : Nat) → String
  /-- What stands between a key and its value. -/
  colon : String

/-- All on one line, fit for markup. -/
def compact : Style where
  markup := true
  newline := fun _ => ""
  colon := ":"

/-- Each part on a line of its own, four blanks for each level. -/
def indented : Style where
  markup := false
  newline := fun depth => "\n" ++ String.ofList (List.replicate (4 * depth) ' ')
  colon := ": "

/-- Parts between brackets, the brackets side by side when there are no parts. -/
def bracket (style : Style) (depth : Nat) (first last : String) : List String → String
  | [] => first ++ last
  | parts =>
      let separator := style.newline (depth + 1)
      first ++ separator ++ ("," ++ separator).intercalate parts ++ style.newline depth ++ last

mutual

/-- The JSON text of a value inside `depth` brackets. -/
def text? (style : Style) (depth : Nat) : Value → Option String
  | .null => some "null"
  | .bool b => some (if b then "true" else "false")
  | .int n => some (toString n)
  | .int64 n => some (toString n)
  | .uint n => some (toString n)
  | .float x => if x.isFinite then some (Layout.interchange.number x) else none
  | .text s => some (quoted style.markup s)
  | .list items => (itemTexts? style (depth + 1) items).map (bracket style depth "[" "]")
  | .mapping entries =>
      (entryTexts? style (depth + 1) entries).map (bracket style depth "\x7b" "\x7d")

/-- The JSON texts of the items of a list. -/
def itemTexts? (style : Style) (depth : Nat) : List Value → Option (List String)
  | [] => some []
  | v :: rest => do
      let first ← text? style depth v
      return first :: (← itemTexts? style depth rest)

/-- The JSON texts of the entries of an object. -/
def entryTexts? (style : Style) (depth : Nat) : List (String × Value) → Option (List String)
  | [] => some []
  | (key, v) :: rest => do
      let first ← text? style depth v
      return (quoted style.markup key ++ style.colon ++ first) :: (← entryTexts? style depth rest)

end

end TypedClient.Json
