import TypedClient.Text.Basic

/-!
# Records of separated fields

A record is a line of fields with commas between them. A field may stand between double quotes,
and then hold commas, line breaks and, written twice, quotes.
-/

namespace TypedClient.Separated

/-- A place in a text: a line and a byte of it, both counted from one. -/
structure Spot where
  line : Nat
  column : Nat
deriving DecidableEq, Repr

namespace Spot

/-- The place behind a character of the same line. -/
def right (s : Spot) (c : Char) : Spot :=
  { s with column := s.column + c.utf8Size }

/-- The place behind a character inside quotes. A line break leads to the next line, if there is
one. -/
def next (s : Spot) (c : Char) (more : Bool) : Spot :=
  if c = '\n' && more then ⟨s.line + 1, 1⟩ else s.right c

end Spot

/-- Why a text holds no record. -/
inductive Failure where
  /-- There is nothing but line breaks. -/
  | empty
  /-- A field that does not start with a quote holds one. -/
  | bareQuote (spot : Spot)
  /-- A quoted field goes on behind its closing quote, or has none. -/
  | badQuote (spot : Spot)
deriving DecidableEq, Repr

/-- The words for a failure in a record that starts on the line `start`. -/
def Failure.text (start : Nat) : Failure → String
  | empty => "EOF"
  | bareQuote spot => place spot ++ ": bare \" in non-quoted-field"
  | badQuote spot => place spot ++ ": extraneous or missing \" in quoted-field"
where
  /-- The words for a place. -/
  place (spot : Spot) : String :=
    (if spot.line = start then "" else "record on line " ++ toString start ++ "; ") ++
      "parse error on line " ++ toString spot.line ++ ", column " ++ toString spot.column

/-- Where the reader stands in a field. -/
inductive State where
  /-- In front of a field. -/
  | start
  /-- In a field without quotes. -/
  | plain (read : List Char)
  /-- Inside the quotes of a field. -/
  | quoted (read : List Char)
  /-- Behind a quote of a quoted field, which either closes the field or is half of a quote. -/
  | closing (read : List Char)
deriving DecidableEq, Repr

/-- Reads the fields of a record up to the end of its line. What was read of a field is held
backwards. -/
def fields : State → Spot → List Char → Except Failure (List String)
  | .start, _, [] => .ok [""]
  | .plain read, _, [] => .ok [String.ofList read.reverse]
  | .quoted _, spot, [] => .error (.badQuote spot)
  | .closing read, _, [] => .ok [String.ofList read.reverse]
  | .start, spot, c :: rest =>
      if c = '"' then fields (.quoted []) (spot.right c) rest
      else if c = ',' then (fields .start (spot.right c) rest).map ("" :: ·)
      else if c = '\n' then .ok [""]
      else fields (.plain [c]) (spot.right c) rest
  | .plain read, spot, c :: rest =>
      if c = '"' then .error (.bareQuote spot)
      else if c = ',' then
        (fields .start (spot.right c) rest).map (String.ofList read.reverse :: ·)
      else if c = '\n' then .ok [String.ofList read.reverse]
      else fields (.plain (c :: read)) (spot.right c) rest
  | .quoted read, spot, c :: rest =>
      if c = '"' then fields (.closing read) (spot.right c) rest
      else fields (.quoted (c :: read)) (spot.next c !rest.isEmpty) rest
  | .closing read, spot, c :: rest =>
      if c = '"' then fields (.quoted (c :: read)) (spot.right c) rest
      else if c = ',' then
        (fields .start (spot.right c) rest).map (String.ofList read.reverse :: ·)
      else if c = '\n' then .ok [String.ofList read.reverse]
      else .error (.badQuote { spot with column := spot.column - 1 })

/-- The text with single characters as line breaks, and without a carriage return at its end. -/
def plainBreaks : List Char → List Char
  | [] => []
  | ['\r'] => []
  | '\r' :: '\n' :: rest => '\n' :: plainBreaks rest
  | c :: rest => c :: plainBreaks rest

/-- The fields of the first record of a text, or the words for why there is none. Empty lines in
front of a record are passed over. -/
def read (s : String) : Except String (List String) :=
  let text := plainBreaks s.toList
  let record := text.dropWhile (· = '\n')
  let start := text.length - record.length + 1
  (if record.isEmpty then .error .empty else fields .start ⟨start, 1⟩ record).mapError
    (Failure.text start)

/-- Whether a field is written between quotes. -/
def needsQuotes (field : List Char) : Bool :=
  match field with
  | [] => false
  | first :: _ =>
      field = ['\\', '.'] || field.any (fun c => c = '\n' || c = '\r' || c = '"' || c = ',') ||
        Unicode.isBlank first

/-- The written form of a field. -/
def fieldText (field : String) : String :=
  if needsQuotes field.toList then "\"" ++ Text.replace "\"" "\"\"" field ++ "\"" else field

/-- The written form of a record, without the end of its line. -/
def write (record : List String) : String :=
  ",".intercalate (record.map fieldText)

/-- The fields of a record as they are read back from its written form. -/
def settled (record : List String) : List String :=
  let text := write record
  if text = "" then [] else (read text).toOption.getD []

end TypedClient.Separated
