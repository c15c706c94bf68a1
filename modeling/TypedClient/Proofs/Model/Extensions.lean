import TypedClient.Proofs.Description.Places

/-!
# Extension keys of a schema

The keywords of a schema come to its model with the schema, the extension keys by a look-up at the
pointer of the model. `Traits.Honours` says what the two make of a node. `Model.nodeOf_ofParts`
sorts the nodes of the model of a schema: each is the model itself, which honours what stands at its
pointer, or holds the properties beside the members, or belongs to a schema inside. A pointer that
leads to the place of an object finds the extension keys of that object, by
`Located.extensionsAt_eq`.
-/

namespace TypedClient

/-- The text that a mapping lists under a key for an index; the empty one when it lists none. -/
inductive ListedAs (es : Dict Value) (key : String) (i : Nat) : String → Prop where
  /-- There is a list with a text at the index. -/
  | listed {items : List Value} {s : String} (h : Dict.get? es key = some (.list items))
      (hs : items[i]? = some (.text s)) : ListedAs es key i s
  /-- There is no such list. -/
  | unlisted (h : ∀ items s, Dict.get? es key = some (.list items) → items[i]? ≠ some (.text s)) :
      ListedAs es key i ""

/-- A node says of itself what the extension keys of a mapping say: that it is nullable when the
keyword or the extension key says so, and for an enum the values with the listed names and
descriptions. -/
structure Traits.Honours (nullable : Bool) (values : List Value) (es : Dict Value) (t : Traits) :
    Prop where
  nullable_iff : t.nullable = true ↔ nullable = true ∨ Dict.get? es "x-nullable" = some (.bool true)
  isEnum_iff : t.kind = .enum ↔ values ≠ []
  values_eq : t.enum.map EnumMember.value = values
  listed : ∀ i m, t.enum[i]? = some m →
    ListedAs es "x-enum-varnames" i m.name ∧ ListedAs es "x-enum-descriptions" i m.description

/-- The pointer names a path, and there is something at its end. -/
def Pointer.Leads (doc : Value) (pointer : String) (path : List String) : Prop :=
  tokens? pointer = some path ∧ descend? doc path ≠ none

/-- A pointer that leads to the place of an object finds its entries. -/
theorem Located.extensionsAt_eq {root : ObjectKind} {doc v : Value} {form : Form}
    {pointer : String} {path : List String} (h : Located root doc form pointer path v)
    (hdoc : doc.isOrdered = true) (hleads : Pointer.Leads doc pointer path) :
    Model.extensionsAt doc pointer = v.entries := by
  obtain ⟨htokens, hsome⟩ := hleads
  rcases (h.reaches hdoc).2 with hfound | ⟨hnone, -⟩
  · rw [Model.extensionsAt, Pointer.lookup?_eq, if_pos h.startsWith, htokens, Option.bind_some, hfound]
    rfl
  · exact absurd hnone hsome

namespace Model

variable {doc : Value} {pointer : String} {facts : SchemaFacts}

/-- What is taken for an index is what is listed. -/
theorem listedAs_listedText (es : Dict Value) (key : String) (i : Nat) :
    ListedAs es key i (listedText es key i) := by
  by_cases h : ∃ items s, Dict.get? es key = some (.list items) ∧ items[i]? = some (.text s)
  · obtain ⟨items, s, hfound, hs⟩ := h
    have htext : listedText es key i = s := by
      simp [listedText, hfound, Value.list?, hs, Value.textOrEmpty, Value.text?]
    exact htext ▸ .listed hfound hs
  · have hempty : listedText es key i = "" := by
      unfold listedText
      cases hfound : Dict.get? es key with
      | none => rfl
      | some v =>
          cases v with
          | list items =>
              cases hs : items[i]? with
              | none => simp [Value.list?, hs]
              | some w =>
                  cases w with
                  | text s => exact absurd ⟨items, s, hfound, hs⟩ h
                  | _ => simp [Value.list?, hs, Value.textOrEmpty, Value.text?]
          | _ => rfl
    exact hempty ▸ .unlisted (fun items s hfound hs => h ⟨items, s, hfound, hs⟩)

theorem values_enumMembers (es : Dict Value) (i : Nat) (values : List Value) :
    (enumMembers es i values).map EnumMember.value = values := by
  induction values generalizing i with
  | nil => rfl
  | cons v rest ih => rw [enumMembers, List.map_cons, ih]

theorem listedAs_enumMembers {es : Dict Value} {i j : Nat} {values : List Value} {m : EnumMember}
    (h : (enumMembers es i values)[j]? = some m) :
    ListedAs es "x-enum-varnames" (i + j) m.name ∧
      ListedAs es "x-enum-descriptions" (i + j) m.description := by
  induction values generalizing i j with
  | nil => cases h
  | cons v rest ih =>
      cases j with
      | zero =>
          obtain rfl := Option.some.inj h
          exact ⟨listedAs_listedText es _ i, listedAs_listedText es _ i⟩
      | succ j =>
          rw [Nat.add_succ, ← Nat.succ_add]
          exact ih h

/-- A node with the nullability that the keywords and the extension keys give, and with the members
of an enum, honours the extension keys. -/
theorem honours_of_eq {t : Traits}
    (hnullable : t.nullable = (traitsOf doc facts pointer).nullable)
    (hkind : t.kind = .enum ↔ facts.enum ≠ [])
    (henum : t.enum = enumMembers (extensionsAt doc pointer) 0 facts.enum) :
    t.Honours facts.nullable facts.enum (extensionsAt doc pointer) where
  nullable_iff := by
    rw [hnullable, traitsOf, Bool.or_eq_true]
    refine or_congr_right ?_
    cases hfound : Dict.get? (extensionsAt doc pointer) "x-nullable" with
    | none => simp
    | some v => cases v <;> simp [Value.bool?]
  isEnum_iff := hkind
  values_eq := by rw [henum, values_enumMembers]
  listed := by
    intro i m hm
    rw [henum] at hm
    have hlisted := listedAs_enumMembers hm
    rwa [Nat.zero_add] at hlisted

/-! ## The nodes of the model of a schema -/

/-- The model of a member is that of its schema. -/
theorem exists_of_mem_ofMembers {ss : List Schema} {i : Nat} {m : Model}
    (h : m ∈ ofMembers doc pointer i ss) :
    ∃ j s, ss[j]? = some s ∧ m = ofSchema doc (pointer ++ "/" ++ toString (i + j)) s := by
  induction ss generalizing i with
  | nil =>
      rw [ofMembers] at h
      cases h
  | cons s rest ih =>
      rw [ofMembers] at h
      rcases List.mem_cons.1 h with rfl | h
      · exact ⟨0, s, rfl, rfl⟩
      · obtain ⟨j, s', hs', hm⟩ := ih h
        refine ⟨j + 1, s', hs', ?_⟩
        rw [hm, Nat.add_right_comm, Nat.add_assoc]

theorem exists_of_mem_ofProperties {required : List String} {es : List (String × Schema)}
    {p : Property Model} (h : p ∈ ofProperties doc pointer required es) :
    ∃ e ∈ es, p.model = ofSchema doc (pointer ++ "/properties/" ++ Pointer.escape e.1) e.2 := by
  induction es with
  | nil =>
      rw [ofProperties] at h
      cases h
  | cons e rest ih =>
      obtain ⟨name, s⟩ := e
      rw [ofProperties] at h
      rcases List.mem_cons.1 h with rfl | h
      · exact ⟨(name, s), List.mem_cons_self, rfl⟩
      · obtain ⟨e, he, hp⟩ := ih h
        exact ⟨e, List.mem_cons_of_mem _ he, hp⟩

/-- The nodes of the model of a schema that is written in place: the model itself, the properties
beside its members, and the nodes of the models of the schemas inside it. -/
inductive NodeOf (doc : Value) (pointer : String) (facts : SchemaFacts) (p : Schema.Parts)
    (t : Traits) : Prop where
  /-- The model itself. -/
  | top (hpointer : t.pointer = pointer)
      (h : t.Honours facts.nullable facts.enum (extensionsAt doc pointer))
  /-- The properties beside its members. -/
  | beside (hpointer : t.pointer = pointer) (henum : facts.enum = []) (hallOf : p.allOf ≠ [])
      (hkind : t.kind = .interface) (hnullable : t.nullable = false)
  /-- A node of a model inside it. -/
  | inside {place : String} {s : Schema} (hs : p.Holds pointer place s)
      (ht : t ∈ (ofSchema doc place s).nodes)

section NodeOf

variable {p : Schema.Parts} {t : Traits}

/-- The traits of a model that is no enum. -/
theorem nodeOf_top (hvalues : facts.enum = []) (hpointer : t.pointer = pointer)
    (hkind : t.kind ≠ .enum) (hnullable : t.nullable = (traitsOf doc facts pointer).nullable)
    (henum : t.enum = []) : NodeOf doc pointer facts p t := by
  refine .top hpointer (honours_of_eq hnullable ?_ ?_)
  · exact ⟨fun h => absurd h hkind, fun h => absurd hvalues h⟩
  · rw [henum, hvalues, enumMembers]

theorem nodeOf_property {required : List String}
    (ht : t ∈ (ofProperties doc pointer required p.properties).flatMap (fun p => p.model.nodes)) :
    NodeOf doc pointer facts p t := by
  obtain ⟨q, hq, ht⟩ := List.mem_flatMap.1 ht
  obtain ⟨e, he, hmodel⟩ := exists_of_mem_ofProperties hq
  exact .inside (.property he) (hmodel ▸ ht)

theorem nodeOf_member {step : String} {ss : List Schema}
    (hholds : ∀ (i : Nat) s, ss[i]? = some s →
      p.Holds pointer (pointer ++ step ++ "/" ++ toString i) s)
    (ht : t ∈ (ofMembers doc (pointer ++ step) 0 ss).flatMap nodes) :
    NodeOf doc pointer facts p t := by
  obtain ⟨m, hm, ht⟩ := List.mem_flatMap.1 ht
  obtain ⟨i, s, hs, rfl⟩ := exists_of_mem_ofMembers hm
  rw [Nat.zero_add] at ht
  exact .inside (hholds i s hs) ht

/-- The nodes of the model of a schema are of these sorts. -/
theorem nodeOf_ofParts (h : t ∈ (ofSchema doc pointer (.ofParts facts p)).nodes) :
    NodeOf doc pointer facts p t := by
  unfold Schema.ofParts ofSchema at h
  dsimp only at h
  split at h
  case h_1 first rest henum =>
    obtain rfl := List.mem_singleton.1 h
    exact .top rfl (honours_of_eq rfl (by simp [henum]) rfl)
  case h_2 first rest henum hallOf =>
    rw [nodes_node, List.flatMap_append, List.flatMap_nil, List.nil_append] at h
    rcases List.mem_cons.1 h with rfl | h
    · exact nodeOf_top henum rfl (by simp) rfl rfl
    rcases List.mem_append.1 h with h | h
    · cases h
    rcases List.mem_append.1 h with h | h
    · exact nodeOf_member (fun i s hs => .allOf hs) h
    -- the properties stand in a model of their own behind the members
    · split at h
      · cases h
      case h_2 hproperties =>
        rw [List.flatMap_singleton, nodes_node] at h
        rcases List.mem_cons.1 h with rfl | h
        · exact .beside rfl henum (by simp [hallOf]) rfl rfl
        · exact nodeOf_property (by simpa [nodes] using h)
  case h_3 first rest henum hallOf honeOf =>
    rw [nodes_node] at h
    rcases List.mem_cons.1 h with rfl | h
    · exact nodeOf_top henum rfl (by simp) rfl rfl
    · exact nodeOf_member (fun i s hs => .oneOf hs) (by simpa [nodes] using h)
  case h_4 first rest henum hallOf honeOf hanyOf =>
    rw [nodes_node] at h
    rcases List.mem_cons.1 h with rfl | h
    · exact nodeOf_top henum rfl (by simp) rfl rfl
    · exact nodeOf_member (fun i s hs => .anyOf hs) (by simpa [nodes] using h)
  case h_5 henum hallOf honeOf hanyOf =>
    split at h
    · rw [nodes_node] at h
      rcases List.mem_cons.1 h with rfl | h
      · exact nodeOf_top henum rfl (by simp) rfl rfl
      · exact .inside .items (by simpa using h)
    · split at h
      · rw [nodes_node] at h
        rcases List.mem_cons.1 h with rfl | h
        · exact nodeOf_top henum rfl (by simp) rfl rfl
        · exact nodeOf_property (by simpa [nodes] using h)
      · split at h
        · rw [nodes_node] at h
          rcases List.mem_cons.1 h with rfl | h
          · exact nodeOf_top henum rfl (by simp) rfl rfl
          · exact .inside .additional (by simpa using h)
        · obtain rfl := List.mem_singleton.1 h
          exact nodeOf_top henum rfl (by simp [traitsOf]) rfl rfl

end NodeOf

end Model

end TypedClient
