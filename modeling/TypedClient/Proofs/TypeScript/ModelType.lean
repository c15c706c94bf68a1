import TypedClient.Proofs.Model.Nodes
import TypedClient.Proofs.TypeScript.LiteralType
import TypedClient.TypeScript.TypeText

/-!
# Types of models

`typeOf` is the type that a model describes, apart from how it is written down. `Complete` says
what a node needs so that it can be written: names, and lists that are not empty. `Grouped` says
when the writing keeps parts together: an added null at the end of a member of an intersection
would take the rest of the intersection with it.
-/

namespace TypedClient

namespace TypeScript

/-- The type of all values. -/
def anyType : TypeExpr :=
  [.word "any"]

/-- The type of a primitive. -/
def primitiveType (type format : String) : TypeExpr :=
  match type with
  | "integer" | "number" => [.word "number"]
  | "string" => if format = "binary" then [.word "Blob"] else [.word "string"]
  | "boolean" => [.word "boolean"]
  | "file" | "binary" => [.word "Blob"]
  | "null" => [.word "null"]
  | "object" => [.applied "Record" [[.word "string"], anyType]]
  | _ => anyType

/-- Whether a type is `any` or `null`, which have null among their values. -/
def holdsNull : TypeExpr → Bool
  | [.word w] => w = "any" || w = "null"
  | _ => false

/-- A type united with null, unless it is `any` or `null`. -/
def withNull (nullable : Bool) (e : TypeExpr) : TypeExpr :=
  if nullable && !holdsNull e then e ++ [.word "null"] else e

@[simp]
theorem withNull_false (e : TypeExpr) : withNull false e = e := rfl

@[simp]
theorem orNull_false (s : String) : orNull false s = s := rfl

/-- The key of a property: a word when its name is an identifier, and a text otherwise. -/
def keyOf (name : String) : Token :=
  if Naming.isIdentifier name then .word name else .text (Text.quote name)

mutual

/-- The type that a model describes. -/
def typeOf : Model → TypeExpr
  | .absent => anyType
  | .node t ps i ms =>
      withNull t.nullable (match t.kind with
        | .reference => [.word t.target]
        | .generic => primitiveType t.type t.format
        | .enum => t.enum.flatMap (fun e => literalType e.value)
        | .array => [.applied "Array" [typeOf i]]
        | .dictionary => [.applied "Record" [[.word "string"], typeOf i]]
        | .allOf => meet (typesOf ms)
        | .oneOf => (typesOf ms).flatten
        | .anyOf => (typesOf ms).flatten
        | .interface => [.object (membersOf ps)]
        | .other _ => anyType)

/-- The types of the members of a composition. -/
def typesOf : List Model → List TypeExpr
  | [] => []
  | m :: rest => typeOf m :: typesOf rest

/-- The members of an object type. -/
def membersOf : List (Property Model) → List (Member TypeExpr)
  | [] => []
  | ⟨name, _, required, m⟩ :: rest => ⟨keyOf name, !required, typeOf m⟩ :: membersOf rest

end

theorem typesOf_eq_map (ms : List Model) : typesOf ms = ms.map typeOf := by
  induction ms with
  | nil => rfl
  | cons m ms ih => rw [typesOf, ih, List.map_cons]

theorem membersOf_eq_map (ps : List (Property Model)) :
    membersOf ps = ps.map (fun p => ⟨keyOf p.name, !p.required, typeOf p.model⟩) := by
  induction ps with
  | nil => rfl
  | cons p ps ih => rw [membersOf, ih, List.map_cons]

theorem memberTexts_eq_map (indent : String) (ms : List Model) :
    memberTexts indent ms = ms.map (typeText indent) := by
  induction ms with
  | nil => rfl
  | cons m ms ih => rw [memberTexts, ih, List.map_cons]

end TypeScript

namespace Model

open TypeScript

/-- A model that null is not added to. -/
def withoutNull (m : Model) : Model :=
  m.modify (fun t => { t with nullable := false })

@[simp]
theorem withoutNull_node (t : Traits) (ps : List (Property Model)) (i : Model) (ms : List Model) :
    (node t ps i ms).withoutNull = node { t with nullable := false } ps i ms := rfl

/-- The models that the type expression of a model is made of. -/
def parts : Model → List Model
  | absent => []
  | node t ps i ms =>
      match t.kind with
      | .array | .dictionary => [i]
      | .allOf | .oneOf | .anyOf => ms
      | .interface => ps.map Property.model
      | _ => []

/-- Induction over the models that type expressions are made of. -/
theorem parts_induction {P : Model → Prop} (h : ∀ m, (∀ k ∈ m.parts, P k) → P m) (m : Model) :
    P m := by
  induction m using induction_on_parts with
  | absent => exact h _ (fun k hk => absurd hk List.not_mem_nil)
  | node t ps i ms hps hi hms =>
      refine h _ (fun k hk => ?_)
      rw [parts] at hk
      split at hk
      · rw [List.mem_singleton.1 hk]
        exact hi
      · rw [List.mem_singleton.1 hk]
        exact hi
      · exact hms k hk
      · exact hms k hk
      · exact hms k hk
      · obtain ⟨p, hp, rfl⟩ := List.mem_map.1 hk
        exact hps p hp
      · exact absurd hk List.not_mem_nil

/-- A model stands in the type expression of another. -/
inductive Within : Model → Model → Prop where
  | self {m} : Within m m
  | part {m n k} : n ∈ m.parts → Within n k → Within m k

/-- What a node needs to be written: a reference has a name, an enum values, all of them finite,
an interface properties with their keys, and a composition members. -/
def Complete : Model → Prop
  | absent => True
  | node t ps _ ms =>
      match t.kind with
      | .reference => Naming.isTypeName t.target = true
      | .enum => t.enum ≠ [] ∧
          ∀ e ∈ t.enum, (Json.text? Json.compact 0 e.value).isSome = true
      | .interface => ps ≠ [] ∧ ∀ p ∈ ps, p.exportName = Naming.propertyKey p.name
      | .allOf | .oneOf | .anyOf => ms ≠ []
      | .generic | .array | .dictionary => True
      | .other _ => False

/-- The type expression of a model ends with a null that was added. -/
inductive EndsInNull : Model → Prop where
  /-- Null is added to the model itself. -/
  | added {m} : m.traits.nullable = true → holdsNull (typeOf m.withoutNull) = false → EndsInNull m
  /-- A composition of one member is written as the member. -/
  | only {t ps i m} : t.kind.isComposition = true → EndsInNull m → EndsInNull (node t ps i [m])

/-- No member of an intersection of several ends with a null that was added. -/
def Grouped (m : Model) : Prop :=
  ∀ n, m.Within n → n.kind = .allOf → 2 ≤ n.members.length → ∀ k ∈ n.members, ¬ k.EndsInNull

/-- What holds everywhere in a type expression holds of the model and in its parts. -/
theorem forall_within_iff {P : Model → Prop} {m : Model} :
    (∀ n, m.Within n → P n) ↔ P m ∧ ∀ k ∈ m.parts, ∀ n, k.Within n → P n := by
  constructor
  · exact fun h => ⟨h m .self, fun k hk n hn => h n (.part hk hn)⟩
  · rintro ⟨hself, hparts⟩ n hn
    cases hn with
    | self => exact hself
    | part hk hn => exact hparts _ hk n hn

theorem grouped_iff {m : Model} : m.Grouped ↔
    (m.kind = .allOf → 2 ≤ m.members.length → ∀ k ∈ m.members, ¬ k.EndsInNull) ∧
      ∀ k ∈ m.parts, k.Grouped :=
  forall_within_iff

theorem parts_of_isComposition {t : Traits} {ps : List (Property Model)} {i : Model}
    {ms : List Model} (h : t.kind.isComposition = true) : (node t ps i ms).parts = ms := by
  cases hkind : t.kind with
  | allOf | oneOf | anyOf => simp only [parts, hkind]
  | _ => simp [hkind, Kind.isComposition] at h

theorem grouped_iff_of_ne {t : Traits} {ps : List (Property Model)} {i : Model} {ms : List Model}
    (h : t.kind ≠ .allOf) :
    (node t ps i ms).Grouped ↔ ∀ k ∈ (node t ps i ms).parts, k.Grouped := by
  rw [grouped_iff]
  exact and_iff_right (fun heq => absurd heq h)

theorem grouped_iff_of_allOf {t : Traits} {ps : List (Property Model)} {i : Model}
    {ms : List Model} (h : t.kind = .allOf) (htwo : 2 ≤ ms.length) :
    (node t ps i ms).Grouped ↔ (∀ k ∈ ms, ¬ k.EndsInNull) ∧ ∀ k ∈ ms, k.Grouped := by
  rw [grouped_iff, parts_of_isComposition (h ▸ rfl)]
  exact and_congr_left (fun _ => ⟨fun hends => hends h htwo, fun hends _ _ => hends⟩)

theorem grouped_withoutNull {m : Model} : m.withoutNull.Grouped ↔ m.Grouped := by
  cases m with
  | absent => rfl
  | node t ps i ms =>
      rw [grouped_iff, grouped_iff]
      rfl

theorem not_endsInNull {m : Model} (hnull : m.traits.nullable = false)
    (hkind : m.kind.isComposition = false) : ¬ m.EndsInNull := by
  intro h
  cases h with
  | added hadded => simp [hnull] at hadded
  | only hcomposition => exact absurd hcomposition (Bool.eq_false_iff.1 hkind)

/-- Without an added null only the one member of a composition can end with null. -/
theorem endsInNull_withoutNull {t : Traits} {ps : List (Property Model)} {i : Model}
    {ms : List Model} : (node t ps i ms).withoutNull.EndsInNull ↔
      t.kind.isComposition = true ∧ ∃ k, ms = [k] ∧ k.EndsInNull := by
  constructor
  · intro h
    generalize hm : (node t ps i ms).withoutNull = m at h
    cases h with
    | added hnull =>
        rw [← hm] at hnull
        cases hnull
    | only hkind hk =>
        cases hm
        exact ⟨hkind, _, rfl, hk⟩
  · rintro ⟨hkind, k, rfl, hk⟩
    exact .only hkind hk

theorem endsInNull_iff {m : Model} : m.EndsInNull ↔
    (m.traits.nullable = true ∧ holdsNull (typeOf m.withoutNull) = false) ∨
      m.withoutNull.EndsInNull := by
  constructor
  · intro h
    cases h with
    | added hnull hholds => exact .inl ⟨hnull, hholds⟩
    | only hkind hk => exact .inr (endsInNull_withoutNull.2 ⟨hkind, _, rfl, hk⟩)
  · rintro (⟨hnull, hholds⟩ | h)
    · exact .added hnull hholds
    · cases m with
      | absent => exact h
      | node t ps i ms =>
          obtain ⟨hkind, k, rfl, hk⟩ := endsInNull_withoutNull.1 h
          exact .only hkind hk

end Model

namespace TypeScript

theorem typeOf_eq_withNull (m : Model) :
    typeOf m = withNull m.traits.nullable (typeOf m.withoutNull) := by
  cases m with
  | absent => rfl
  | node t ps i ms => rw [Model.withoutNull, Model.modify, typeOf, typeOf]; rfl

theorem typeText_eq_orNull (indent : String) (m : Model) :
    typeText indent m = orNull m.traits.nullable (typeText indent m.withoutNull) := by
  cases m with
  | absent => rfl
  | node t ps i ms => rw [Model.withoutNull, Model.modify, typeText, typeText]; rfl

end TypeScript

end TypedClient
