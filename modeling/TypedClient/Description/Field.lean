import TypedClient.Document.Value

/-!
# Fields of a description object

The keys of an object in a description are matched without regard to letter case. When several
keys match one field the later ones, in key order, count: a text or a flag is the last one that
is not null, and anything else is the last one, null included.

So of two lists under spellings of one key the later one replaces the earlier one, which is what the
decoder of the program promises. There is one thing that is left out here: the decoder reuses the
memory of the earlier list, and an item of the later list that leaves something open can show what
the item at its place in the earlier list said.
-/

namespace TypedClient.Field

/-- A key character as it is matched. Besides the letter case of ASCII this puts the long s and
the Kelvin sign with the letters that they are variants of. -/
def foldChar (c : Char) : Char :=
  if c = 'ſ' then 's' else if c = '\u212a' then 'k' else c.toLower

/-- A key as it is matched. -/
def fold (key : String) : String :=
  String.ofList (key.toList.map foldChar)

/-- Whether a key matches a field. -/
def isFor (name key : String) : Bool :=
  fold key == fold name

variable {α : Type}

/-- The values under the keys that match a field, in key order. -/
def all (name : String) (entries : Dict Value) : List Value :=
  (entries.filter (fun e => isFor name e.1)).map Prod.snd

/-- The value of a field, null when there is none. -/
def value (name : String) (entries : Dict Value) : Value :=
  (all name entries).getLast?.getD .null

/-- The text of a field. -/
def text (name : String) (entries : Dict Value) : String :=
  ((all name entries).filterMap Value.text?).getLast?.getD ""

/-- The flag of a field. -/
def flag (name : String) (entries : Dict Value) : Bool :=
  ((all name entries).filterMap Value.bool?).getLast?.getD false

/-- The items of a field. A later list replaces an earlier one. -/
def list (name : String) (entries : Dict Value) : List Value :=
  (value name entries).list?.getD []

/-- The texts of a field; a null among them is the empty text. -/
def texts (name : String) (entries : Dict Value) : List String :=
  (list name entries).map Value.textOrEmpty

/-- The entries of a field. Entries of several matching keys are put together, and a null forgets
those before it. -/
def dict (name : String) (entries : Dict Value) : Dict Value :=
  (all name entries).foldl (fun d v => match v with
    | .mapping es => es.foldl (fun d e => Dict.insert e.1 e.2 d) d
    | _ => []) []

/-- What a reference object refers to: the text under the exact key `$ref`, unless it is empty. -/
def target? (entries : Dict Value) : Option String :=
  match Dict.get? entries "$ref" with
  | some (.text s) => if s = "" then none else some s
  | _ => none

/-- A value that is null, or read by `f`. -/
def optional (f : Dict Value → α) : Value → Option α
  | .mapping entries => some (f entries)
  | _ => none

end TypedClient.Field
