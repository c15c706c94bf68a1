import TypedClient.Document.Value
import TypedClient.Number.Word
import TypedClient.Text.Basic
import TypedClient.Text.Bytes

/-!
# Pointers into a document

A pointer is a `#` and the escaped keys of a path, each behind a slash. Inside a key `~` is
written `~0` and `/` is written `~1`. The whole fragment may be percent-encoded; it is decoded
before it is split, and taken as it stands when one of its percent signs does not introduce two
hexadecimal digits.

Since a decoded fragment need not be a text, pointers are read as bytes. The keys of a document are
texts, so that a key which is none leads nowhere.
-/

namespace TypedClient.Pointer

/-! ## Keys and their written form -/

/-- The written form of one character of a key. -/
def escapeChar (c : Char) : List Char :=
  if c = '~' then ['~', '0'] else if c = '/' then ['~', '1'] else [c]

/-- A key as it is written in a pointer. -/
def escape (key : String) : String :=
  String.ofList (key.toList.flatMap escapeChar)

/-- The written form of one byte of a key. -/
def escapeByte (b : UInt8) : Bytes :=
  if b = 0x7e then [0x7e, 0x30] else if b = 0x2f then [0x7e, 0x31] else [b]

/-- A key in bytes as it is written in a pointer. -/
def escapeBytes (key : Bytes) : Bytes :=
  key.flatMap escapeByte

/-- Bytes with each tilde in front of a given digit turned, with the digit, into a given byte. -/
def undo (digit original : UInt8) : Bytes → Bytes
  | b :: d :: rest =>
      if b = 0x7e ∧ d = digit then original :: undo digit original rest
      else b :: undo digit original (d :: rest)
  | short => short

/-- The key that a written segment stands for: `~1` is undone before `~0`. -/
def unescape (segment : Bytes) : Bytes :=
  undo 0x30 0x7e (undo 0x31 0x2f segment)

/-! ## Pointers and their keys -/

/-- Whether a pointer is one of this document: it starts with a number sign. -/
def isLocal (pointer : Bytes) : Bool :=
  pointer.head? == some 0x23

/-- What follows the number sign of a pointer; the sign may be missing. -/
def afterSign (pointer : Bytes) : Bytes :=
  if isLocal pointer then pointer.tail else pointer

/-- A fragment after percent-decoding, or as it stands where that is impossible. -/
def decoded (fragment : Bytes) : Bytes :=
  (Text.percentDecoded? fragment).getD fragment

/-- The keys of a decoded fragment, which is empty or starts with a slash. -/
def keysOf? : Bytes → Option (List Bytes)
  | [] => some []
  | b :: rest => if b = 0x2f then some ((rest.splitOn 0x2f).map unescape) else none

/-- The keys that a pointer in bytes names, when it is well formed. -/
def keys? (pointer : Bytes) : Option (List Bytes) :=
  keysOf? (decoded (afterSign pointer))

/-- The keys that a pointer names, when it is well formed and they are texts. -/
def tokens? (pointer : String) : Option (List String) :=
  (keys? (Text.bytes pointer)).bind (·.mapM Text.ofBytes?)

/-- The pointer in bytes that names a path of keys. -/
def ofKeys (keys : List Bytes) : Bytes :=
  0x23 :: keys.flatMap (fun key => 0x2f :: escapeBytes key)

/-- The pointer that names a path of keys. -/
def join (keys : List String) : String :=
  "#" ++ String.join (keys.map (fun key => "/" ++ escape key))

/-- The form that `ofKeys` gives a pointer of this document; any other reference is kept. -/
def canonicalBytes (pointer : Bytes) : Bytes :=
  if isLocal pointer then
    match keys? pointer with
    | some keys => ofKeys keys
    | none => pointer
  else pointer

/-- A pointer in bytes as a text. One that is no text has every byte behind the number sign escaped,
which is the canonical form of no other pointer. -/
def spelled (pointer : Bytes) : String :=
  (Text.ofBytes? pointer).getD ("#" ++ Text.percentEncoded (fun _ => false) (afterSign pointer))

/-- The form that `join` gives a pointer of this document; any other reference is kept. -/
def canonical (pointer : String) : String :=
  spelled (canonicalBytes (Text.bytes pointer))

/-! ## Lookup -/

/-- The whole number that a text of decimal digits with an optional sign stands for, when it fits
64 bits. -/
def index? (s : String) : Option Int :=
  let (negative, digits) := match s.toList with
    | '-' :: rest => (true, rest)
    | '+' :: rest => (false, rest)
    | all => (false, all)
  if digits.isEmpty ∨ digits.any (fun c => !c.isDigit) then none
  else
    let n : Nat := digits.foldl (fun n c => 10 * n + (c.toNat - '0'.toNat)) 0
    if negative then if n ≤ Word.signedBound then some (-n) else none
    else if n < Word.signedBound then some n else none

/-- One step down from a value: a key of a mapping or an index of a list. -/
def step? (v : Value) (key : String) : Option Value :=
  match v with
  | .mapping entries => Dict.get? entries key
  | .list items => do
      let i ← index? key
      if i < 0 then none else items[i.toNat]?
  | _ => none

/-- The value reached from `v` along a path of keys. -/
def descend? (v : Value) (keys : List String) : Option Value :=
  keys.foldlM step? v

/-- The value reached from `v` along a path of keys in bytes. -/
def descendBytes? (v : Value) (keys : List Bytes) : Option Value :=
  keys.foldlM (fun v key => (Text.ofBytes? key).bind (step? v)) v

/-- The value that a pointer of this document in bytes names. -/
def lookupBytes? (doc : Value) (pointer : Bytes) : Option Value :=
  if isLocal pointer then (keys? pointer).bind (descendBytes? doc) else none

/-- The value that a pointer of this document names. -/
def lookup? (doc : Value) (pointer : String) : Option Value :=
  lookupBytes? doc (Text.bytes pointer)

end TypedClient.Pointer
