import TypedClient.Proofs.Description.Places
import TypedClient.Proofs.Model.Extensions
import TypedClient.Proofs.Model.Nodes

/-!
# Models mirror their schemas

The keywords of a schema overlap, and the first that counts decides the sort of its model:
`Schema.sort` says which. `Mirrors` is what the later stages take for granted of a model. A node of
each sort has the parts of its sort and no others, as many as the schema has, each for one of them
and below its pointer. `ofSchema_mirrors` shows this for the whole model of every schema.
-/

namespace TypedClient

namespace Schema

/-- The sort that the keywords of a schema decide, the earlier before the later. -/
def sort (facts : SchemaFacts) (p : Parts) : Kind :=
  if facts.enum ≠ [] then .enum
  else if p.allOf ≠ [] then .allOf
  else if p.oneOf ≠ [] then .oneOf
  else if p.anyOf ≠ [] then .anyOf
  else if facts.type = "array" ∨ p.items.isMissing = false then .array
  else if p.properties ≠ [] then .interface
  else if p.additional.isMissing = false ∨ facts.type = "object" ∨ facts.unrestricted = true then
    .dictionary
  else .generic

/-- The properties of a schema, and of all schemas inside it, stand in the order of their names,
each name once. -/
inductive Ordered : Schema → Prop where
  /-- Nothing is in order. -/
  | missing : Ordered .missing
  /-- A reference has no properties. -/
  | reference (target : String) : Ordered (.reference target)
  /-- A schema with its own properties in order, and those of the schemas inside it. -/
  | inline {facts : SchemaFacts} {p : Parts} (hsorted : Dict.Sorted p.properties)
      (hparts : ∀ pointer place s, p.Holds pointer place s → Ordered s) :
      Ordered (.ofParts facts p)

theorem Ordered.parts {facts : SchemaFacts} {p : Parts} (h : (ofParts facts p).Ordered) :
    Dict.Sorted p.properties ∧ ∀ pointer place s, p.Holds pointer place s → Ordered s := by
  generalize hwhole : ofParts facts p = whole at h
  cases h with
  | missing => cases hwhole
  | reference => cases hwhole
  | inline hsorted hparts =>
      cases p
      cases hwhole
      exact ⟨hsorted, hparts⟩

/-- The schemas inside a schema do not depend on where it stands. -/
theorem Parts.Holds.elsewhere {p : Parts} {pointer place : String} {s : Schema}
    (h : p.Holds pointer place s) (other : String) : ∃ place, p.Holds other place s := by
  cases h with
  | allOf h => exact ⟨_, .allOf h⟩
  | oneOf h => exact ⟨_, .oneOf h⟩
  | anyOf h => exact ⟨_, .anyOf h⟩
  | items => exact ⟨_, .items⟩
  | property h => exact ⟨_, .property h⟩
  | additional => exact ⟨_, .additional⟩

end Schema

/-- The parts of a schema that stands in a document are in order when those inside it are. -/
theorem Stands.ordered_readParts {root : ObjectKind} {doc : Value} {pointer : String}
    {es : Dict Value} (h : Stands root doc (.object .schema) pointer (.mapping es))
    (hparts : ∀ base place s, (Schema.readParts {} es).Holds base place s →
      (∃ place, Placed root doc place s) → s.Ordered) (facts : SchemaFacts) :
    (Schema.ofParts facts (Schema.readParts {} es)).Ordered := by
  refine .inline ?_ (fun base place s hs => hparts base place s hs ?_)
  · rw [Schema.properties_readParts]
    exact (Field.dict_sorted "properties" es).mapValues _
  · obtain ⟨place, hs⟩ := hs.elsewhere pointer
    exact ⟨place, .of_holds h hs⟩

/-- A schema that is read in a document is in order. -/
theorem Placed.ordered {root : ObjectKind} {doc : Value} {pointer : String} {s : Schema}
    (h : Placed root doc pointer s) : s.Ordered := by
  induction s using Schema.induction_on_parts generalizing pointer with
  | missing => exact .missing
  | reference target => exact .reference target
  | inline facts p ih =>
      obtain ⟨es, hstands, -, rfl⟩ := h.exists_mapping
      exact hstands.ordered_readParts (fun base place s hs ⟨_, hs'⟩ => ih base place s hs hs') facts

/-- Every schema that is read is in order. -/
theorem Schema.ordered_read (v : Value) : (Schema.read v).Ordered := by
  cases v with
  | mapping es =>
      rw [Schema.read]
      split
      · exact .reference _
      · -- the value is a document of its own
        have hwhole : Stands .schema (.mapping es) (.object .schema) "#" (.mapping es) := .whole
        refine hwhole.ordered_readParts (fun _ _ _ _ hs => ?_) _
        obtain ⟨place, hs⟩ := hs
        exact hs.ordered
  | _ =>
      rw [Schema.read]
      exact .missing

namespace Model

/-- A node of a sort that stands at a pointer. Only an enum has values, and only a reference has a
target. -/
structure IsAt (t : Traits) (kind : Kind) (pointer : String) : Prop where
  kind_eq : t.kind = kind
  pointer_eq : t.pointer = pointer
  enum_eq : kind ≠ .enum → t.enum = []
  target_eq : kind ≠ .reference → t.target = ""

/-- The properties of an interface: at least one, with strictly ascending names. -/
structure Ascending (ps : List (Property Model)) : Prop where
  ne_nil : ps ≠ []
  pairwise : ps.Pairwise (fun a b => a.name < b.name)

mutual

/-- A model is what a schema at a pointer asks for: a node of the sort that the keywords decide,
with parts for the parts of the schema. -/
inductive Mirrors : String → Schema → Model → Prop where
  /-- No schema allows anything. -/
  | missing {pointer t} (ht : IsAt t .generic pointer) : Mirrors pointer .missing (.leaf t)
  /-- A reference has the canonical form of its target and no parts. -/
  | reference {pointer target t} (ht : IsAt t .reference pointer)
      (htarget : t.target = Pointer.canonical target) :
      Mirrors pointer (.reference target) (.leaf t)
  /-- A primitive type has no parts. -/
  | generic {pointer facts p t} (hsort : Schema.sort facts p = .generic)
      (ht : IsAt t .generic pointer) : Mirrors pointer (.ofParts facts p) (.leaf t)
  /-- An enum has a member for each value, at least one, and no parts. -/
  | enum {pointer facts p t} (hsort : Schema.sort facts p = .enum) (ht : IsAt t .enum pointer)
      (hvalues : t.enum.map EnumMember.value = facts.enum) (hne : t.enum ≠ []) :
      Mirrors pointer (.ofParts facts p) (.leaf t)
  /-- An array has items. -/
  | array {pointer facts p t i} (hsort : Schema.sort facts p = .array)
      (ht : IsAt t .array pointer) (hi : Mirrors (pointer ++ "/items") p.items i) :
      Mirrors pointer (.ofParts facts p) (.node t [] i [])
  /-- A dictionary has items, for the schema of all other properties. -/
  | dictionary {pointer facts p t i} (hsort : Schema.sort facts p = .dictionary)
      (ht : IsAt t .dictionary pointer)
      (hi : Mirrors (pointer ++ "/additionalProperties") p.additional i) :
      Mirrors pointer (.ofParts facts p) (.node t [] i [])
  /-- An interface has the properties of the schema. -/
  | interface {pointer facts p t ps} (hsort : Schema.sort facts p = .interface)
      (ht : IsAt t .interface pointer)
      (hps : MirrorsProperties pointer facts.required p.properties ps) (hps' : Ascending ps) :
      Mirrors pointer (.ofParts facts p) (.node t ps .absent [])
  /-- A choice of one has a member for each schema, at least one. -/
  | oneOf {pointer facts p t ms} (hsort : Schema.sort facts p = .oneOf)
      (ht : IsAt t .oneOf pointer) (hms : MirrorsMembers (pointer ++ "/oneOf") 0 p.oneOf ms)
      (hne : ms ≠ []) : Mirrors pointer (.ofParts facts p) (.node t [] .absent ms)
  /-- A choice of some has a member for each schema, at least one. -/
  | anyOf {pointer facts p t ms} (hsort : Schema.sort facts p = .anyOf)
      (ht : IsAt t .anyOf pointer) (hms : MirrorsMembers (pointer ++ "/anyOf") 0 p.anyOf ms)
      (hne : ms ≠ []) : Mirrors pointer (.ofParts facts p) (.node t [] .absent ms)
  /-- What all members describe has a member for each schema, at least one. -/
  | allOf {pointer facts p t ms} (hsort : Schema.sort facts p = .allOf)
      (ht : IsAt t .allOf pointer) (hms : MirrorsMembers (pointer ++ "/allOf") 0 p.allOf ms)
      (hne : ms ≠ []) (hnone : p.properties = []) :
      Mirrors pointer (.ofParts facts p) (.node t [] .absent ms)
  /-- When the schema has properties too, an interface with these follows the members. It stands
  where the whole does. -/
  | allOfBeside {pointer facts p t u ms ps} (hsort : Schema.sort facts p = .allOf)
      (ht : IsAt t .allOf pointer) (hms : MirrorsMembers (pointer ++ "/allOf") 0 p.allOf ms)
      (hne : ms ≠ []) (hu : IsAt u .interface pointer)
      (hps : MirrorsProperties pointer facts.required p.properties ps) (hps' : Ascending ps) :
      Mirrors pointer (.ofParts facts p) (.node t [] .absent (ms ++ [.node u ps .absent []]))

/-- Members mirror schemas in turn, the first of which is the `i`-th below a pointer. -/
inductive MirrorsMembers : String → Nat → List Schema → List Model → Prop where
  /-- No schema has no member. -/
  | nil {pointer i} : MirrorsMembers pointer i [] []
  /-- The first schema has the first member. -/
  | cons {pointer i s ss m ms} (hm : Mirrors (pointer ++ "/" ++ toString i) s m)
      (hms : MirrorsMembers pointer (i + 1) ss ms) :
      MirrorsMembers pointer i (s :: ss) (m :: ms)

/-- Properties mirror named schemas in turn. Those are required whose names are listed. -/
inductive MirrorsProperties :
    String → List String → List (String × Schema) → List (Property Model) → Prop where
  /-- No schema has no property. -/
  | nil {pointer required} : MirrorsProperties pointer required [] []
  /-- The first schema has the first property. -/
  | cons {pointer required e es q qs} (hname : q.name = e.1)
      (hrequired : q.required = true ↔ e.1 ∈ required)
      (hq : Mirrors (pointer ++ "/properties/" ++ Pointer.escape e.1) e.2 q.model)
      (hqs : MirrorsProperties pointer required es qs) :
      MirrorsProperties pointer required (e :: es) (q :: qs)

end

variable {doc : Value} {pointer : String} {s : Schema} {m : Model}

/-- What mirrors a schema is a model, where the schema stands. -/
theorem Mirrors.stands (h : Mirrors pointer s m) : m.isAbsent = false ∧ m.pointer = pointer := by
  cases h with
  | missing ht => exact ⟨rfl, ht.pointer_eq⟩
  | reference ht _ => exact ⟨rfl, ht.pointer_eq⟩
  | generic _ ht => exact ⟨rfl, ht.pointer_eq⟩
  | enum _ ht _ _ => exact ⟨rfl, ht.pointer_eq⟩
  | array _ ht _ => exact ⟨rfl, ht.pointer_eq⟩
  | dictionary _ ht _ => exact ⟨rfl, ht.pointer_eq⟩
  | interface _ ht _ _ => exact ⟨rfl, ht.pointer_eq⟩
  | oneOf _ ht _ _ => exact ⟨rfl, ht.pointer_eq⟩
  | anyOf _ ht _ _ => exact ⟨rfl, ht.pointer_eq⟩
  | allOf _ ht _ _ _ => exact ⟨rfl, ht.pointer_eq⟩
  | allOfBeside _ ht _ _ _ _ _ => exact ⟨rfl, ht.pointer_eq⟩

/-- The models of listed schemas mirror them when each does. -/
theorem mirrorsMembers_ofMembers {ss : List Schema} (i : Nat)
    (h : ∀ (j : Nat) s, ss[j]? = some s → ∀ place, Mirrors place s (ofSchema doc place s)) :
    MirrorsMembers pointer i ss (ofMembers doc pointer i ss) := by
  induction ss generalizing i with
  | nil =>
      rw [ofMembers]
      exact .nil
  | cons s rest ih =>
      rw [ofMembers]
      exact .cons (h 0 s rfl _) (ih (i + 1) (fun j s hs => h (j + 1) s hs))

/-- The properties of an object mirror the schemas of the object when each does. -/
theorem mirrorsProperties_ofProperties {es : List (String × Schema)} (required : List String)
    (h : ∀ e ∈ es, ∀ place, Mirrors place e.2 (ofSchema doc place e.2)) :
    MirrorsProperties pointer required es (ofProperties doc pointer required es) := by
  induction es with
  | nil =>
      rw [ofProperties]
      exact .nil
  | cons e rest ih =>
      obtain ⟨he, hrest⟩ := List.forall_mem_cons.1 h
      rw [ofProperties]
      exact .cons rfl List.contains_iff_mem (he _) (ih hrest)

theorem names_ofProperties (doc : Value) (pointer : String) (required : List String)
    (es : List (String × Schema)) :
    (ofProperties doc pointer required es).map Property.name = es.map Prod.fst := by
  induction es with
  | nil => rw [ofProperties]; rfl
  | cons e rest ih => rw [ofProperties, List.map_cons, List.map_cons, ih]

/-- The properties of an object with its schemas in order ascend. -/
theorem ascending_ofProperties (required : List String) {es : Dict Schema} (h : es.Sorted)
    (hne : es ≠ []) : Ascending (ofProperties doc pointer required es) := by
  have hnames := names_ofProperties doc pointer required es
  refine ⟨fun hnil => hne ?_, ?_⟩
  · rw [hnil] at hnames
    exact List.map_eq_nil_iff.1 hnames.symm
  · have hascending : (es.map Prod.fst).Pairwise (· < ·) := List.pairwise_map.2 h
    rw [← hnames] at hascending
    exact List.pairwise_map.1 hascending

section Inline

variable {facts : SchemaFacts} {p : Schema.Parts}

/-- The model of a schema that is written in place mirrors it when those of the schemas inside it
do. -/
theorem mirrors_ofParts (hsorted : Dict.Sorted p.properties)
    (ih : ∀ base place s, p.Holds base place s → ∀ pointer,
      Mirrors pointer s (ofSchema doc pointer s)) (pointer : String) :
    Mirrors pointer (.ofParts facts p) (ofSchema doc pointer (.ofParts facts p)) := by
  have hps : MirrorsProperties pointer facts.required p.properties
      (ofProperties doc pointer facts.required p.properties) :=
    mirrorsProperties_ofProperties _ (fun e he => ih pointer _ e.2 (.property he))
  unfold Schema.ofParts ofSchema
  dsimp only
  split
  case h_1 first rest henum =>
    refine .enum (by simp [Schema.sort, henum]) ⟨rfl, rfl, by simp, fun _ => rfl⟩
      (values_enumMembers _ _ _) (by simp [henum, enumMembers])
  case h_2 first rest henum hallOf =>
    have hsort : Schema.sort facts p = .allOf := by simp [Schema.sort, henum, hallOf]
    have hms : MirrorsMembers (pointer ++ "/allOf") 0 p.allOf
        (ofMembers doc (pointer ++ "/allOf") 0 p.allOf) :=
      mirrorsMembers_ofMembers 0 (fun i s hs => ih pointer _ s (.allOf hs))
    have hne : ofMembers doc (pointer ++ "/allOf") 0 p.allOf ≠ [] := by simp [hallOf, ofMembers]
    split
    case h_1 hnone =>
      rw [List.append_nil]
      exact .allOf hsort ⟨rfl, rfl, fun _ => rfl, fun _ => rfl⟩ hms hne hnone
    case h_2 e es hes =>
      exact .allOfBeside hsort ⟨rfl, rfl, fun _ => rfl, fun _ => rfl⟩ hms hne
        ⟨rfl, rfl, fun _ => rfl, fun _ => rfl⟩ hps
        (ascending_ofProperties _ hsorted (by simp [hes]))
  case h_3 first rest henum hallOf honeOf =>
    exact .oneOf (by simp [Schema.sort, henum, hallOf, honeOf])
      ⟨rfl, rfl, fun _ => rfl, fun _ => rfl⟩
      (mirrorsMembers_ofMembers 0 (fun i s hs => ih pointer _ s (.oneOf hs)))
      (by simp [honeOf, ofMembers])
  case h_4 first rest henum hallOf honeOf hanyOf =>
    exact .anyOf (by simp [Schema.sort, henum, hallOf, honeOf, hanyOf])
      ⟨rfl, rfl, fun _ => rfl, fun _ => rfl⟩
      (mirrorsMembers_ofMembers 0 (fun i s hs => ih pointer _ s (.anyOf hs)))
      (by simp [hanyOf, ofMembers])
  case h_5 henum hallOf honeOf hanyOf =>
    have hsort : Schema.sort facts p =
        if facts.type = "array" ∨ p.items.isMissing = false then .array
        else if p.properties ≠ [] then .interface
        else if p.additional.isMissing = false ∨ facts.type = "object" ∨
          facts.unrestricted = true then .dictionary
        else .generic := by
      simp [Schema.sort, henum, hallOf, honeOf, hanyOf]
    split
    case isTrue h =>
      exact .array (by rw [hsort, if_pos (by simpa using h)])
        ⟨rfl, rfl, fun _ => rfl, fun _ => rfl⟩ (ih pointer _ _ .items _)
    case isFalse h =>
      rw [if_neg (by simpa using h)] at hsort
      split
      case isTrue h =>
        have hne : p.properties ≠ [] := by simpa using h
        exact .interface (by rw [hsort, if_pos hne]) ⟨rfl, rfl, fun _ => rfl, fun _ => rfl⟩ hps
          (ascending_ofProperties _ hsorted hne)
      case isFalse h =>
        rw [if_neg (by simpa using h)] at hsort
        split
        case isTrue h =>
          exact .dictionary (by rw [hsort, if_pos (by simpa [or_assoc] using h)])
            ⟨rfl, rfl, fun _ => rfl, fun _ => rfl⟩ (ih pointer _ _ .additional _)
        case isFalse h =>
          exact .generic (by rw [hsort, if_neg (by simpa [or_assoc] using h)])
            ⟨rfl, rfl, fun _ => rfl, fun _ => rfl⟩

end Inline

/-- The model of a schema in order mirrors it. -/
theorem mirrors_ofSchema (h : s.Ordered) (doc : Value) (pointer : String) :
    Mirrors pointer s (ofSchema doc pointer s) := by
  induction s using Schema.induction_on_parts generalizing pointer with
  | missing =>
      rw [ofSchema]
      exact .missing ⟨rfl, rfl, fun _ => rfl, fun _ => rfl⟩
  | reference target =>
      rw [ofSchema]
      exact .reference ⟨rfl, rfl, fun _ => rfl, fun hne => absurd rfl hne⟩ rfl
  | inline facts p ih =>
      obtain ⟨hsorted, hparts⟩ := h.parts
      exact mirrors_ofParts hsorted
        (fun base place s hs => ih base place s hs (hparts base place s hs)) pointer

/-- Every schema that is read is in order, and the model of a schema in order, wherever it stands,
mirrors the schema. Whatever mirrors a schema is a model, and stands where the schema does: this
holds of the model as a whole and of each model in it. -/
theorem ofSchema_mirrors :
    (∀ v : Value, (Schema.read v).Ordered) ∧
    (∀ (doc : Value) (pointer : String) (s : Schema), s.Ordered →
      Mirrors pointer s (ofSchema doc pointer s)) ∧
    ∀ (pointer : String) (s : Schema) (m : Model), Mirrors pointer s m →
      m.isAbsent = false ∧ m.pointer = pointer :=
  ⟨Schema.ordered_read, fun doc pointer _ h => mirrors_ofSchema h doc pointer,
    fun _ _ _ h => h.stands⟩

/-- A schema with members, one of them null, and properties, one of which is required: the member
for the properties comes last. -/
theorem ofSchema_mirrors_beside :
    let s := Schema.read (.mapping
      [("allOf", .list [.null, .mapping [("$ref", .text "#/definitions/a%20b")]]),
        ("properties", .mapping
          [("id", .mapping [("enum", .list [.int 1, .null])]),
            ("tags", .mapping [("type", .text "array")])]),
        ("required", .list [.text "id"]),
        ("type", .text "array")])
    s.Ordered ∧ Mirrors "#/definitions/Pet" s (ofSchema .null "#/definitions/Pet" s) ∧
      (ofSchema .null "#/definitions/Pet" s).members.length = 3 :=
  ⟨ofSchema_mirrors.1 _, ofSchema_mirrors.2.1 _ _ _ (ofSchema_mirrors.1 _), by decide⟩

end Model

end TypedClient
