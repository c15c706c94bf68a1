import TypedClient.Document.Value
import TypedClient.Text.Basic

/-!
# Normal documents

A normal document writes its schema keywords the way version 3.0 does: a list of types becomes
its first proper type and a `nullable` flag, an exclusive bound that is a number is dropped, and
extension keys below `paths` are dropped.
-/

namespace TypedClient.Value

/-- The first non-empty text of a list of types other than `null`. -/
def firstType (types : List Value) : String :=
  ((types.map textOrEmpty).find? (fun s => s != "" && s != "null")).getD ""

/-- The entries of a mapping with a list of types folded into one type and a flag. -/
def foldTypes (entries : Dict Value) : Dict Value :=
  match (Dict.get? entries "type").bind list? with
  | none => entries
  | some types =>
      let flagged := if types.any (fun t => t.textOrEmpty == "null") then
        Dict.insert "nullable" (.bool true) entries else entries
      let picked := firstType types
      if picked = "" then Dict.erase "type" flagged
      else Dict.insert "type" (.text picked) flagged

/-- Whether a value is a number that an exclusive bound is given by. -/
def isBound : Value → Bool
  | .float _ => true
  | .int _ => true
  | _ => false

/-- The entries of a mapping without a number under `key`. -/
def dropBound (key : String) (entries : Dict Value) : Dict Value :=
  match Dict.get? entries key with
  | some v => if v.isBound then Dict.erase key entries else entries
  | none => entries

/-- The entries of a mapping with its own keywords in normal form. -/
def foldKeywords (entries : Dict Value) : Dict Value :=
  dropBound "exclusiveMaximum" (dropBound "exclusiveMinimum" (foldTypes entries))

mutual

/-- A value with the keywords of every mapping in normal form. -/
def fold : Value → Value
  | .list items => .list (foldItems items)
  | .mapping entries => .mapping (foldKeywords (foldEntries entries))
  | .null => .null
  | .bool b => .bool b
  | .int n => .int n
  | .int64 n => .int64 n
  | .uint n => .uint n
  | .float x => .float x
  | .text s => .text s

/-- The items of a list, folded. -/
def foldItems : List Value → List Value
  | [] => []
  | v :: rest => v.fold :: foldItems rest

/-- The entries of a mapping, folded. -/
def foldEntries : List (String × Value) → List (String × Value)
  | [] => []
  | (key, v) :: rest => (key, v.fold) :: foldEntries rest

end

/-- Whether a key belongs to an extension. -/
def isExtensionKey (key : String) : Bool :=
  Text.startsWith "x-" key

/-- A document without extension keys directly below `paths`. -/
def dropPathExtensions (doc : Value) : Value :=
  match doc with
  | .mapping entries =>
      match (Dict.get? entries "paths").bind mapping? with
      | some paths =>
          let kept := paths.filter (fun e => !isExtensionKey e.1)
          .mapping (Dict.insert "paths" (.mapping kept) entries)
      | none => doc
  | _ => doc

/-- The normal form of a document. -/
def normalize (doc : Value) : Value :=
  doc.dropPathExtensions.fold

end TypedClient.Value

/-- The entries of a dictionary whose keys belong to no extension. -/
def TypedClient.Dict.withoutExtensions {α : Type} (d : Dict α) : Dict α :=
  d.filter (fun e => !Value.isExtensionKey e.1)
