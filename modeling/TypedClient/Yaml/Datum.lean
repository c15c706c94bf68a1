import TypedClient.Document.Display
import TypedClient.Yaml.Node
import TypedClient.Yaml.Scalar

/-!
# From nodes to data

A node becomes data: aliases are followed, merge keys bring in the entries of other mappings, and
a mapping is a `record` when all its keys are texts and a `table` otherwise. Reading fails on a
repeated key, on a scalar that does not fit its tag, on an alias inside its own node, and when
almost everything that is read comes from aliases.
-/

namespace TypedClient.Yaml

/-- A value read from a node. -/
inductive Datum where
  | scalar (s : Scalar)
  | list (items : List Datum)
  | record (entries : List (String × Datum))
  | table (entries : List (Scalar × Datum))
deriving Inhabited

/-- How many nodes were read, and how many of them through an alias. -/
structure Effort where
  /-- All nodes. -/
  total : Nat := 0
  /-- The nodes below an alias. -/
  aliased : Nat := 0

namespace Effort

/-- Whether too great a share of the nodes comes from aliases. Up to 400 000 nodes it may be 99
percent, and from 4 000 000 nodes on 10 percent. -/
def isExcessive (e : Effort) : Bool :=
  let allowed : Nat :=
    if e.total ≤ 400000 then 99 * 3600000
    else if e.total ≥ 4000000 then 10 * 3600000
    else 99 * 3600000 - 89 * (e.total - 400000)
  e.aliased > 100 && e.total > 1000 && e.aliased * 100 * 3600000 > allowed * e.total

end Effort

/-- A step of reading data. -/
abbrev DatumM := StateT Effort (Except String)

/-- Counts a node. -/
def countNode (aliased : Bool) : DatumM Unit := do
  let e ← get
  let e : Effort :=
    { total := e.total + 1, aliased := if aliased then e.aliased + 1 else e.aliased }
  if e.isExcessive then throw "document contains excessive aliasing"
  set e

namespace Node

/-- The spelling of a node by which repeated keys are found. -/
def spelling : Node → Nat × String
  | .scalar _ text _ => (0, text)
  | .sequence _ _ => (1, "")
  | .mapping _ _ => (2, "")
  | .aliasOf name _ => (3, name)
  | .cycle name => (3, name)

/-- Whether a node is a merge key. -/
def isMerge : Node → Bool
  | .scalar none "<<" .plain => true
  | .scalar (some "!!merge") "<<" _ => true
  | _ => false

/-- The value of a scalar node. -/
def scalar? (tag : Option String) (text : String) (style : Style) : Option Scalar :=
  match tag, style with
  | some tag, _ => Scalar.ofTagged? tag text
  | none, .plain => some (if text = "<<" then .text text else Scalar.ofPlain true text)
  | none, _ => some (.text text)

/-- Whether a node is a text or a merge key by its tag. -/
def isTextKey : Node → Bool
  | .scalar (some tag) _ _ => tag = "!!str" || tag = "!!merge"
  | .scalar none text .plain => text = "<<" || (Scalar.ofPlain true text).tag = "!!str"
  | .scalar none _ _ => true
  | .aliasOf _ target => target.isTextKey
  | _ => false

/-- Whether all keys of a mapping are texts. -/
def allTextKeys (entries : List (Node × Node)) : Bool :=
  entries.all (fun e => e.1.isTextKey)

/-- Whether two keys of a mapping are spelled alike. -/
def hasRepeatedKey : List (Node × Node) → Bool
  | [] => false
  | (k, _) :: rest => rest.any (fun e => e.1.spelling == k.spelling) || hasRepeatedKey rest

/-- A scalar node, or an alias of one, read as a key. Where keys are `texts` every scalar is taken
as it is spelled, and null is no key. -/
def key (texts aliased : Bool) : Node → DatumM (Option Scalar)
  | .scalar tag text style => do
      countNode aliased
      match scalar? tag text style with
      | none => throw ("cannot decode " ++ text)
      | some s =>
          if !texts then return some s
          else if s = .null then return none
          else if tag = some "!!binary" then return some s
          else return some (.text text)
  | .aliasOf _ target => do
      countNode aliased
      target.key texts true
  | .cycle name => throw ("anchor '" ++ name ++ "' value contains itself")
  | _ => throw "invalid map key"

end Node

/-- A mapping under construction. -/
structure Entries where
  /-- The keys that a merge must leave alone; without them nothing is being merged. -/
  settled : Option (List Scalar) := none
  /-- The entries so far. -/
  list : List (Scalar × Datum) := []

namespace Entries

/-- The entries with a value stored under a key, in place of what was there. -/
def put (e : Entries) (k : Scalar) (v : Datum) : Entries :=
  if e.list.any (fun p => p.1 == k) then
    { e with list := e.list.map (fun p => if p.1 == k then (k, v) else p) }
  else { e with list := e.list ++ [(k, v)] }

/-- Whether a key is settled. -/
def isSettled (e : Entries) (k : Scalar) : Bool :=
  e.settled.any (·.contains k)

/-- The entries with one more settled key, if a merge is going on. -/
def settle (e : Entries) (k : Scalar) : Entries :=
  { e with settled := e.settled.map (k :: ·) }

/-- The entries of a mapping whose keys are texts. -/
def texts (e : Entries) : List (String × Datum) :=
  e.list.filterMap (fun p => match p.1 with
    | .text s => some (s, p.2)
    | _ => none)

end Entries

namespace Node

mutual

/-- Reads a node. -/
def datum (aliased : Bool) : Node → DatumM Datum
  | .scalar tag text style => do
      countNode aliased
      match scalar? tag text style with
      | some s => return .scalar s
      | none => throw ("cannot decode " ++ text)
  | .sequence _ items => do
      countNode aliased
      return .list (← datumItems aliased items)
  | .mapping _ entries => do
      countNode aliased
      if hasRepeatedKey entries then throw "mapping key already defined"
      let texts := allTextKeys entries
      let e ← datumEntries aliased texts {} entries
      let e ← mergeEntries aliased texts (entries.map Prod.fst) e entries
      return if texts then .record e.texts else .table e.list
  | .aliasOf _ target => do
      countNode aliased
      target.datum true
  | .cycle name => throw ("anchor '" ++ name ++ "' value contains itself")

/-- Reads the items of a sequence. -/
def datumItems (aliased : Bool) : List Node → DatumM (List Datum)
  | [] => return []
  | n :: rest => do
      let v ← n.datum aliased
      return v :: (← datumItems aliased rest)

/-- Reads the entries of a mapping other than a merge. A key that is settled already is left out
together with its value. -/
def datumEntries (aliased texts : Bool) (e : Entries) : List (Node × Node) → DatumM Entries
  | [] => return e
  | (k, v) :: rest => do
      if k.isMerge then datumEntries aliased texts e rest
      else
        match ← k.key texts aliased with
        | none => datumEntries aliased texts e rest
        | some key =>
            if e.isSettled key then datumEntries aliased texts e rest
            else
              let d ← v.datum aliased
              datumEntries aliased texts ((e.settle key).put key d) rest

/-- Follows the merge keys of a mapping. The keys of the mapping itself, all of which are given
first, win over those that are merged in. -/
def mergeEntries (aliased texts : Bool) (own : List Node) (e : Entries) :
    List (Node × Node) → DatumM Entries
  | [] => return e
  | (k, v) :: rest => do
      if k.isMerge then
        let settled ← match e.settled with
          | some settled => pure settled
          | none => (·.filterMap id) <$> own.mapM (fun n => n.key texts aliased)
        let merged ← mergeFrom aliased texts { e with settled := some settled } v
        mergeEntries aliased texts own { merged with settled := e.settled } rest
      else mergeEntries aliased texts own e rest

/-- Merges a mapping, an alias of one, or each of a sequence of these. -/
def mergeFrom (aliased texts : Bool) (e : Entries) : Node → DatumM Entries
  | .mapping _ entries => do
      countNode aliased
      if hasRepeatedKey entries then throw "mapping key already defined"
      let e ← datumEntries aliased texts e entries
      mergeEntries aliased texts [] e entries
  | .aliasOf _ target => do
      countNode aliased
      match target with
      | .mapping _ entries =>
          countNode true
          if hasRepeatedKey entries then throw "mapping key already defined"
          let e ← datumEntries true texts e entries
          mergeEntries true texts [] e entries
      | _ => throw "map merge requires map or sequence of maps as the value"
  | .sequence _ items => mergeItems aliased texts e items
  | .cycle name => throw ("anchor '" ++ name ++ "' value contains itself")
  | .scalar _ _ _ => throw "map merge requires map or sequence of maps as the value"

/-- Merges each of a list of mappings, or of aliases of mappings, in turn. -/
def mergeItems (aliased texts : Bool) (e : Entries) : List Node → DatumM Entries
  | [] => return e
  | n :: rest => do
      match n with
      | .sequence _ _ => throw "map merge requires map or sequence of maps as the value"
      | n =>
          let e ← mergeFrom aliased texts e n
          mergeItems aliased texts e rest

end

/-- Reads a mapping node whose keys are all taken as texts; null is an empty one. -/
def asRecord : Node → DatumM (List (String × Datum))
  | .mapping _ entries => do
      countNode false
      if hasRepeatedKey entries then throw "mapping key already defined"
      let e ← datumEntries false true {} entries
      let e ← mergeEntries false true (entries.map Prod.fst) e entries
      return e.texts
  | .scalar tag text style =>
      match scalar? tag text style with
      | some .null => return []
      | _ => throw "cannot unmarshal into a mapping"
  | _ => throw "cannot unmarshal into a mapping"

end Node

/-- The data of the first document of a text; an empty stream is null. -/
def parse (text : String) : Except String Datum := do
  match ← firstDocument text with
  | none => return .scalar .null
  | some n => (n.datum false).run' { total := 1 }

/-- The entries of the first document of a text, which must be a mapping or empty. -/
def parseRecord (text : String) : Except String (List (String × Datum)) := do
  match ← firstDocument text with
  | none => return []
  | some n => n.asRecord.run' { total := 1 }

end TypedClient.Yaml
