import TypedClient.Document.Value

/-!
# Models

A model describes the values of one type. It is a tree: an interface has a model for each
property, an array or a dictionary has one for its items, and a composition has one for each
member. Leaves are primitive types and references to other models by their target text, so cyclic
types stay finite trees.
-/

namespace TypedClient

/-- What sort of type a model describes. -/
inductive Kind where
  /-- A primitive type. -/
  | generic
  /-- An object with known properties. -/
  | interface
  /-- A choice of literal values. -/
  | enum
  /-- A list of items. -/
  | array
  /-- An object with any keys. -/
  | dictionary
  /-- What all members describe. -/
  | allOf
  /-- What exactly one member describes. -/
  | oneOf
  /-- What some member describes. -/
  | anyOf
  /-- Another model, by its target. -/
  | reference
  /-- A sort without rules of its own. -/
  | other (label : String)
deriving DecidableEq, Inhabited, Repr

namespace Kind

/-- The word for a sort. -/
def label : Kind → String
  | generic => "generic"
  | interface => "interface"
  | enum => "enum"
  | array => "array"
  | dictionary => "dictionary"
  | allOf => "all-of"
  | oneOf => "one-of"
  | anyOf => "any-of"
  | reference => "reference"
  | other label => label

/-- The sorts with a word of their own. -/
def known : List Kind :=
  [generic, interface, enum, array, dictionary, allOf, oneOf, anyOf, reference]

/-- The sort that a word stands for. -/
def ofLabel (word : String) : Kind :=
  (known.find? (fun k => k.label = word)).getD (other word)

/-- Whether a sort puts members together. -/
def isComposition : Kind → Bool
  | allOf | oneOf | anyOf => true
  | _ => false

end Kind

/-- One value of an enum. -/
structure EnumMember where
  /-- The value on the wire. -/
  value : Value := .null
  /-- The name of the member; empty as long as it has none. -/
  name : String := ""
  /-- What the value means. -/
  description : String := ""
deriving Inhabited, Repr

/-- What a model says about itself, apart from the models it is made of. Empty texts mean that
nothing is said. -/
structure Traits where
  /-- The sort of type. -/
  kind : Kind
  /-- The exported name; nested models have none. -/
  name : String := ""
  /-- The name in the description, or one made up from where the model stands. -/
  sourceName : String := ""
  /-- Where the model stands in the description. -/
  pointer : String := ""
  /-- The primitive type. -/
  type : String := ""
  /-- A refinement of the primitive type. -/
  format : String := ""
  /-- What the type is for. -/
  description : String := ""
  /-- Whether use of the type is discouraged. -/
  deprecated : Bool := false
  /-- Whether null is a value too. -/
  nullable : Bool := false
  /-- The value that stands for a missing one. -/
  default : Value := .null
  /-- What a reference refers to: a pointer at first, an exported name once names are given. -/
  target : String := ""
  /-- Whether a reference closes a cycle. -/
  lazy : Bool := false
  /-- Whether the model was lifted out of an operation. -/
  anonymous : Bool := false
  /-- The exported names of the models that the model refers to. -/
  imports : List String := []
  /-- The values of an enum. -/
  enum : List EnumMember := []
deriving Inhabited, Repr

/-- Whether a model is a reference. -/
def Traits.isReference (t : Traits) : Bool :=
  t.kind = .reference

/-- A property of an interface, with the model of its values. -/
structure Property (α : Type) where
  /-- The name on the wire. -/
  name : String := ""
  /-- The key in the generated code. -/
  exportName : String := ""
  /-- Whether every object has the property. -/
  required : Bool := false
  /-- The model of its values. -/
  model : α
deriving Repr

/-- A model, or the absence of one. -/
inductive Model where
  /-- No model. -/
  | absent
  /-- A model with the parts it is made of. -/
  | node (traits : Traits) (properties : List (Property Model)) (items : Model)
      (members : List Model)
deriving Inhabited

namespace Model

/-- A model without parts. -/
def leaf (traits : Traits) : Model :=
  .node traits [] .absent []

/-- A reference to `target` that stands at `pointer`. -/
def referenceTo (target pointer : String) : Model :=
  leaf { kind := .reference, target, pointer }

/-- A primitive type that stands at `pointer`. -/
def primitive (type pointer : String) : Model :=
  leaf { kind := .generic, type, pointer }

/-- What a model says about itself. -/
def traits : Model → Traits
  | absent => { kind := .other "" }
  | node t _ _ _ => t

/-- The properties of a model. -/
def properties : Model → List (Property Model)
  | absent => []
  | node _ ps _ _ => ps

/-- The model of the items of a model. -/
def items : Model → Model
  | absent => .absent
  | node _ _ i _ => i

/-- The members of a model. -/
def members : Model → List Model
  | absent => []
  | node _ _ _ ms => ms

/-- Whether there is no model. -/
def isAbsent : Model → Bool
  | absent => true
  | node _ _ _ _ => false

/-- The sort of a model. -/
abbrev kind (m : Model) : Kind := m.traits.kind

/-- The exported name of a model. -/
abbrev name (m : Model) : String := m.traits.name

/-- Where a model stands in the description. -/
abbrev pointer (m : Model) : String := m.traits.pointer

/-- Whether a model was lifted out of an operation. -/
abbrev anonymous (m : Model) : Bool := m.traits.anonymous

/-- A model with its own traits changed, its parts kept. -/
def modify (f : Traits → Traits) : Model → Model
  | absent => .absent
  | node t ps i ms => .node (f t) ps i ms

mutual

/-- The traits of a model and of every model below it, in reading order: the model itself, its
properties, its items, its members. -/
def nodes : Model → List Traits
  | absent => []
  | node t ps i ms => t :: (nodesOfProperties ps ++ i.nodes ++ nodesOfMembers ms)

/-- The traits of the models of a list of properties. -/
def nodesOfProperties : List (Property Model) → List Traits
  | [] => []
  | ⟨_, _, _, m⟩ :: rest => m.nodes ++ nodesOfProperties rest

/-- The traits of a list of members. -/
def nodesOfMembers : List Model → List Traits
  | [] => []
  | m :: rest => m.nodes ++ nodesOfMembers rest

end

mutual

/-- A model with `f` applied to the traits of every node and `key` giving each property of a node
its key in the generated code. -/
def mapNodes (f : Traits → Traits) (key : Traits → String → String → String) : Model → Model
  | absent => .absent
  | node t ps i ms =>
      .node (f t) (mapProperties f key t ps) (i.mapNodes f key) (mapMembers f key ms)

/-- The properties of a node, mapped. -/
def mapProperties (f : Traits → Traits) (key : Traits → String → String → String) (t : Traits) :
    List (Property Model) → List (Property Model)
  | [] => []
  | ⟨name, exportName, required, m⟩ :: rest =>
      ⟨name, key t name exportName, required, m.mapNodes f key⟩ :: mapProperties f key t rest

/-- The members of a node, mapped. -/
def mapMembers (f : Traits → Traits) (key : Traits → String → String → String) :
    List Model → List Model
  | [] => []
  | m :: rest => m.mapNodes f key :: mapMembers f key rest

end

/-- A model with `f` applied to the traits of every node. -/
def mapTraits (f : Traits → Traits) (m : Model) : Model :=
  m.mapNodes f (fun _ _ exportName => exportName)

/-- The reference nodes of a model, in reading order. -/
def referenceNodes (m : Model) : List Traits :=
  m.nodes.filter Traits.isReference

/-- The targets that a model refers to, in reading order without repetitions. -/
def references (m : Model) : List String :=
  (m.referenceNodes.map Traits.target).eraseDups

end Model

end TypedClient
