import TypedClient.Yaml.Scanner

/-!
# From tokens to nodes

The first document of a stream as a tree. An alias holds the node it stands for; an alias inside
the node that it names is marked as a cycle. A malformed token only matters when the reader comes
within two tokens of it, since it never looks further ahead.
-/

namespace TypedClient.Yaml

/-- A node of a YAML document. Tags are in their short form, without the non-specific one. -/
inductive Node where
  | scalar (tag : Option String) (text : String) (style : Style)
  | sequence (tag : Option String) (items : List Node)
  | mapping (tag : Option String) (entries : List (Node × Node))
  | aliasOf (name : String) (target : Node)
  | cycle (name : String)
deriving Inhabited

/-- An anchored node; without a node while it is being read. -/
structure Anchor where
  /-- The name of the anchor. -/
  name : String
  /-- The token behind which its node starts. -/
  position : Nat
  /-- Its node. -/
  node? : Option Node

/-- The state of reading nodes. -/
structure Reader where
  /-- All tokens. -/
  tokens : Array Token
  /-- What is wrong behind the last token. -/
  problem? : Option String
  /-- The number of tokens read. -/
  position : Nat := 0
  /-- The anchors so far, the latest first. -/
  anchors : List Anchor := []
  /-- The tag handles in force. -/
  handles : List (String × String) := [("!", "!"), ("!!", "tag:yaml.org,2002:")]

/-- A step of reading nodes. -/
abbrev ReadM := StateT Reader (Except String)

namespace ReadM

/-- The next token. -/
def peek : ReadM Token := fun r =>
  match r.problem? with
  | some e => if r.position + 2 < r.tokens.size then
      .ok (r.tokens[r.position]?.getD .streamEnd, r) else .error e
  | none => .ok (r.tokens[r.position]?.getD .streamEnd, r)

/-- Past the next token. -/
def skip : ReadM Unit :=
  modify (fun r => { r with position := r.position + 1 })

/-- Starts the node of an anchor. -/
def openAnchor (name : String) : ReadM Nat := do
  let r ← get
  set { r with anchors := ⟨name, r.position, none⟩ :: r.anchors }
  return r.position

/-- Ends the node of the anchor that was opened at a position. -/
def closeAnchor (position : Nat) (node : Node) : ReadM Unit :=
  modify (fun r => { r with anchors := r.anchors.map (fun a =>
    if a.position = position then { a with node? := some node } else a) })

/-- The node of an alias. -/
def resolveAlias (name : String) : ReadM Node := do
  match (← get).anchors.find? (fun a => a.name = name) with
  | none => throw ("unknown anchor '" ++ name ++ "' referenced")
  | some a => return match a.node? with
    | some n => .aliasOf name n
    | none => .cycle name

/-- The common start of the tags of YAML itself. -/
def standardStart : String := "tag:yaml.org,2002:"

/-- The short form of a tag, or none for the non-specific tag. -/
def shortTag? (tag : String) : Option String :=
  if tag = "" || tag = "!" then none
  else if Text.startsWith standardStart tag then
    some ("!!" ++ Text.dropStart standardStart tag)
  else some tag

/-- The whole tag that a handle and a suffix stand for. -/
def wholeTag (handle suffix : String) : ReadM String := do
  if handle = "" then return suffix
  match (← get).handles.lookup handle with
  | some start => return start ++ suffix
  | none => throw "found undefined tag handle"

/-- The anchor and the tag in front of a node, in either order. -/
def properties : ReadM (Option String × Option String) := do
  match ← peek with
  | .anchor name =>
      skip
      match ← peek with
      | .tag handle suffix => skip; return (some name, some (← wholeTag handle suffix))
      | _ => return (some name, none)
  | .tag handle suffix =>
      skip
      match ← peek with
      | .anchor name => skip; return (some name, some (← wholeTag handle suffix))
      | _ => return (none, some (← wholeTag handle suffix))
  | _ => return (none, none)

/-- A node that is not written down. -/
def emptyNode : Node := .scalar none "" .plain

mutual

/-- Reads a node. In the block context it may be a block collection, and below a key also a
sequence that is not indented. -/
def node (block indentless : Bool) : (fuel : Nat) → ReadM Node
  | 0 => throw "did not find expected node content"
  | fuel + 1 => do
      match ← peek with
      | .aliasOf name => skip; resolveAlias name
      | _ =>
          let (anchor, whole) ← properties
          let tag := whole.bind shortTag?
          let opened ← match anchor with
            | some name => pure (some (← openAnchor name))
            | none => pure none
          let n ← content block indentless (anchor.isSome || whole.any (· != "")) tag fuel
          match opened with
          | some position => closeAnchor position n
          | none => pure ()
          return n

/-- Reads what a node holds, behind its anchor and tag. -/
def content (block indentless bare : Bool) (tag : Option String) : (fuel : Nat) → ReadM Node
  | 0 => throw "did not find expected node content"
  | fuel + 1 => do
      match ← peek, block, indentless with
      | .blockEntry, _, true => return .sequence tag (← looseEntries fuel)
      | .scalar text style, _, _ => skip; return .scalar tag text style
      | .flowSequenceStart, _, _ => skip; return .sequence tag (← flowItems true fuel)
      | .flowMappingStart, _, _ => skip; return .mapping tag (← flowEntries true fuel)
      | .blockSequenceStart, true, _ => skip; return .sequence tag (← blockEntries fuel)
      | .blockMappingStart, true, _ => skip; return .mapping tag (← blockPairs fuel)
      | _, _, _ =>
          if bare then return .scalar tag "" .plain
          else throw "did not find expected node content"

/-- Reads the entries of a block sequence. -/
def blockEntries : (fuel : Nat) → ReadM (List Node)
  | 0 => throw "did not find expected '-' indicator"
  | fuel + 1 => do
      match ← peek with
      | .blockEntry =>
          skip
          let n ← match ← peek with
            | .blockEntry | .blockEnd => pure emptyNode
            | _ => node true false fuel
          return n :: (← blockEntries fuel)
      | .blockEnd => skip; return []
      | _ => throw "did not find expected '-' indicator"

/-- Reads the entries of a sequence that is not indented below its key. -/
def looseEntries : (fuel : Nat) → ReadM (List Node)
  | 0 => return []
  | fuel + 1 => do
      match ← peek with
      | .blockEntry =>
          skip
          let n ← match ← peek with
            | .blockEntry | .key | .value | .blockEnd => pure emptyNode
            | _ => node true false fuel
          return n :: (← looseEntries fuel)
      | _ => return []

/-- Reads the entries of a block mapping. -/
def blockPairs : (fuel : Nat) → ReadM (List (Node × Node))
  | 0 => throw "did not find expected key"
  | fuel + 1 => do
      match ← peek with
      | .key =>
          skip
          let k ← match ← peek with
            | .key | .value | .blockEnd => pure emptyNode
            | _ => node true true fuel
          let v ← match ← peek with
            | .value =>
                skip
                match ← peek with
                | .key | .value | .blockEnd => pure emptyNode
                | _ => node true true fuel
            | _ => pure emptyNode
          return (k, v) :: (← blockPairs fuel)
      | .blockEnd => skip; return []
      | _ => throw "did not find expected key"

/-- Reads the items of a flow sequence. An item may be a mapping of one entry. -/
def flowItems (first : Bool) : (fuel : Nat) → ReadM (List Node)
  | 0 => throw "did not find expected ',' or ']'"
  | fuel + 1 => do
      match ← peek with
      | .flowSequenceEnd => skip; return []
      | t =>
          if !first then
            if t == .flowEntry then skip else throw "did not find expected ',' or ']'"
          match ← peek with
          | .flowSequenceEnd => skip; return []
          | .key =>
              skip
              let entry ← flowPair fuel
              return .mapping none [entry] :: (← flowItems false fuel)
          | _ =>
              let n ← node false false fuel
              return n :: (← flowItems false fuel)

/-- Reads the only entry of a mapping inside a flow sequence. -/
def flowPair : (fuel : Nat) → ReadM (Node × Node)
  | 0 => throw "did not find expected ',' or ']'"
  | fuel + 1 => do
      let k ← match ← peek with
        | .value | .flowEntry | .flowSequenceEnd => skip; pure emptyNode
        | _ => node false false fuel
      let v ← match ← peek with
        | .value =>
            skip
            match ← peek with
            | .flowEntry | .flowSequenceEnd => pure emptyNode
            | _ => node false false fuel
        | _ => pure emptyNode
      return (k, v)

/-- Reads the entries of a flow mapping. A key without a colon has an empty value. -/
def flowEntries (first : Bool) : (fuel : Nat) → ReadM (List (Node × Node))
  | 0 => throw "did not find expected ',' or '\x7d'"
  | fuel + 1 => do
      match ← peek with
      | .flowMappingEnd => skip; return []
      | t =>
          if !first then
            if t == .flowEntry then skip else throw "did not find expected ',' or '\x7d'"
          match ← peek with
          | .flowMappingEnd => skip; return []
          | .key =>
              skip
              let k ← match ← peek with
                | .value | .flowEntry | .flowMappingEnd => pure emptyNode
                | _ => node false false fuel
              let v ← match ← peek with
                | .value =>
                    skip
                    match ← peek with
                    | .flowEntry | .flowMappingEnd => pure emptyNode
                    | _ => node false false fuel
                | _ => pure emptyNode
              return (k, v) :: (← flowEntries false fuel)
          | _ =>
              let k ← node false false fuel
              return (k, emptyNode) :: (← flowEntries false fuel)

end

/-- Reads the directives in front of a document. -/
def directives : (fuel : Nat) → (version : Bool) → (declared : List String) → ReadM Unit
  | 0, _, _ => return
  | fuel + 1, version, declared => do
      match ← peek with
      | .versionDirective major minor =>
          if version then throw "found duplicate %YAML directive"
          if major != 1 || minor != 1 then throw "found incompatible YAML document"
          skip
          directives fuel true declared
      | .tagDirective handle start =>
          if declared.contains handle then throw "found duplicate %TAG directive"
          modify (fun r => { r with handles := (handle, start) :: r.handles })
          skip
          directives fuel version (handle :: declared)
      | _ => return

/-- Reads the first document of a stream; an empty stream has none. -/
def document (fuel : Nat) : ReadM (Option Node) := do
  skip
  match ← peek with
  | .streamEnd => return none
  | .versionDirective _ _ | .tagDirective _ _ | .documentStart =>
      directives fuel false []
      match ← peek with
      | .documentStart =>
          skip
          match ← peek with
          | .versionDirective _ _ | .tagDirective _ _ | .documentStart | .documentEnd
          | .streamEnd => return some emptyNode
          | _ =>
              let n ← node true false fuel
              let _ ← peek
              return some n
      | _ => throw "did not find expected <document start>"
  | _ =>
      let n ← node true false fuel
      let _ ← peek
      return some n

end ReadM

/-- The first document of a text. -/
def firstDocument (text : String) : Except String (Option Node) :=
  let (tokens, problem?) := tokenize text.toList
  (ReadM.document (4 * tokens.size + 8)).run' { tokens, problem? }

end TypedClient.Yaml
