import TypedClient.Draft.Lift
import TypedClient.Model.OfSchema
import TypedClient.Proofs.Document.Pointer

/-!
# The layers of a model

The model of a schema is a number of arrays and dictionaries around a core: a primitive type, a
reference or a model that needs a declaration. `ofSchema_layered` shows this together with where
the layers stand, each below the one around it. What lifting does to a model, and at which
pointers it lifts, follows from the layers alone.
-/

namespace TypedClient.Model

/-- Arrays and dictionaries around a core, where the outermost stands at a pointer and each of the
others below the one around it. -/
inductive Layered : String → Model → Prop where
  /-- A model that needs a declaration. -/
  | declared {pointer : String} {m : Model} (hpointer : m.pointer = pointer)
      (h : m.isDeclared = true) : Layered pointer m
  /-- A primitive type or a reference. -/
  | leaf {pointer : String} {t : Traits} (hpointer : t.pointer = pointer)
      (h : t.kind = .generic ∨ t.kind = .reference) : Layered pointer (.leaf t)
  /-- An array of what stands below it. -/
  | array {pointer : String} {t : Traits} {i : Model} (hpointer : t.pointer = pointer)
      (h : t.kind = .array) (hi : Layered (pointer ++ "/items") i) :
      Layered pointer (.node t [] i [])
  /-- A dictionary of what stands below it. -/
  | dictionary {pointer : String} {t : Traits} {i : Model} (hpointer : t.pointer = pointer)
      (h : t.kind = .dictionary) (hi : Layered (pointer ++ "/additionalProperties") i) :
      Layered pointer (.node t [] i [])

/-- The model of a schema is layered, and the outermost layer stands where the schema does. -/
theorem ofSchema_layered (doc : Value) (pointer : String) (s : Schema) :
    Layered pointer (ofSchema doc pointer s) := by
  refine ofSchema.induct doc (fun pointer s => Layered pointer (ofSchema doc pointer s))
    (fun _ _ _ => True) (fun _ _ _ => True) ?missing ?reference ?enum ?allOf ?oneOf ?anyOf ?array
    ?interface ?dictionary ?generic (fun _ _ => trivial) (fun _ _ _ _ _ _ => trivial)
    (fun _ _ => trivial) (fun _ _ _ _ _ _ _ => trivial) pointer s
  case missing =>
    intro pointer
    exact .leaf rfl (.inl rfl)
  case reference =>
    intro pointer target
    exact .leaf rfl (.inr rfl)
  case enum =>
    intro pointer facts allOf oneOf anyOf items properties additional first rest henum
    rw [ofSchema.eq_3 _ _ _ _ _ _ _ _ _ _ _ henum]
    exact .declared rfl rfl
  case allOf =>
    intro pointer facts oneOf anyOf items properties additional first rest henum _ _
    simp only [ofSchema, henum]
    exact .declared rfl rfl
  case oneOf =>
    intro pointer facts anyOf items properties additional first rest henum _
    simp only [ofSchema, henum]
    exact .declared rfl rfl
  case anyOf =>
    intro pointer facts items properties additional first rest henum _
    simp only [ofSchema, henum]
    exact .declared rfl rfl
  case array =>
    intro pointer facts items properties additional henum harray hitems
    simp only [ofSchema, henum, if_pos harray]
    exact .array rfl rfl hitems
  case interface =>
    intro pointer facts items properties additional henum harray hproperties _
    simp only [ofSchema, henum, if_neg harray, if_pos hproperties]
    exact .declared rfl rfl
  case dictionary =>
    intro pointer facts items properties additional henum harray hproperties hopen hadditional
    simp only [ofSchema, henum, if_neg harray, if_neg hproperties, if_pos hopen]
    exact .dictionary rfl rfl hadditional
  case generic =>
    intro pointer facts items properties additional henum harray hproperties hopen
    simp only [ofSchema, henum, if_neg harray, if_neg hproperties, if_neg hopen]
    exact .leaf rfl (.inl rfl)

/-- A layered model stands where its outermost layer does. -/
theorem Layered.pointer_eq {pointer : String} {m : Model} (h : Layered pointer m) :
    m.pointer = pointer := by
  cases h with
  | declared hpointer _ => exact hpointer
  | leaf hpointer _ => exact hpointer
  | array hpointer _ _ => exact hpointer
  | dictionary hpointer _ _ => exact hpointer

/-- A layered model is a model. -/
theorem Layered.isAbsent_eq {pointer : String} {m : Model} (h : Layered pointer m) :
    m.isAbsent = false := by
  cases h with
  | declared _ h =>
      cases m with
      | absent => cases h
      | node => rfl
  | leaf => rfl
  | array => rfl
  | dictionary => rfl

/-- The model of a schema is not anonymous. -/
theorem anonymous_ofSchema (doc : Value) (pointer : String) (s : Schema) :
    (ofSchema doc pointer s).anonymous = false := by
  cases s with
  | missing => rfl
  | reference target => rfl
  | inline facts allOf oneOf anyOf items properties additional =>
      unfold ofSchema
      dsimp only
      split
      · rfl
      · rfl
      · rfl
      · rfl
      · split
        · rfl
        · split
          · rfl
          · split
            · rfl
            · rfl

/-- Of the schemas with neither members nor properties only an enum needs a declaration. -/
theorem enum_ne_nil_of_isDeclared {doc : Value} {pointer : String} {facts : SchemaFacts}
    {items additional : Schema}
    (h : (ofSchema doc pointer (.inline facts [] [] [] items [] additional)).isDeclared = true) :
    facts.enum ≠ [] := by
  intro henum
  simp only [ofSchema, henum] at h
  split at h
  · cases h
  · split at h
    · contradiction
    · split at h
      · cases h
      · cases h

/-- Whether a model needs a declaration depends on its sort. -/
theorem isDeclared_congr {m n : Model} (h : m.kind = n.kind) : m.isDeclared = n.isDeclared := by
  rw [isDeclared, isDeclared, h]

@[simp] theorem isAbsent_modify (m : Model) (f : Traits → Traits) :
    (m.modify f).isAbsent = m.isAbsent := by
  cases m with
  | absent => rfl
  | node => rfl

theorem isDeclared_modify {m : Model} {f : Traits → Traits} (hkind : ∀ t, (f t).kind = t.kind) :
    (m.modify f).isDeclared = m.isDeclared := by
  cases m with
  | absent => rfl
  | node t ps i ms => exact isDeclared_congr (hkind t)

/-- A change at the top that keeps the sort and the pointer keeps the layers. -/
theorem Layered.modify {pointer : String} {m : Model} {f : Traits → Traits}
    (h : Layered pointer m) (hkind : ∀ t, (f t).kind = t.kind)
    (hpointer : ∀ t, (f t).pointer = t.pointer) : Layered pointer (m.modify f) := by
  cases h with
  | declared hp h =>
      cases m with
      | absent => cases h
      | node t ps i ms =>
          exact .declared ((hpointer t).trans hp) ((isDeclared_modify hkind).trans h)
  | leaf hp h => exact .leaf ((hpointer _).trans hp) (by rwa [hkind])
  | array hp h hi => exact .array ((hpointer _).trans hp) ((hkind _).trans h) hi
  | dictionary hp h hi => exact .dictionary ((hpointer _).trans hp) ((hkind _).trans h) hi

/-- What stands inside the arrays and dictionaries around it. -/
def core : Model → Model
  | absent => .absent
  | node t ps i ms => if t.kind = .array ∨ t.kind = .dictionary then i.core else .node t ps i ms

/-- A model that needs a declaration is its own core. -/
theorem core_of_isDeclared {m : Model} (h : m.isDeclared = true) : m.core = m := by
  cases m with
  | absent => rfl
  | node t ps i ms =>
      have hkind : ¬ (t.kind = .array ∨ t.kind = .dictionary) := by
        rintro (hkind | hkind) <;> simp [isDeclared, kind, traits, hkind, Kind.isComposition] at h
      rw [core, if_neg hkind]

theorem core_leaf {t : Traits} (h : t.kind = .generic ∨ t.kind = .reference) :
    (leaf t).core = leaf t := by
  rw [leaf, core, if_neg]
  rcases h with h | h <;> simp [h]

theorem core_layer {t : Traits} (h : t.kind = .array ∨ t.kind = .dictionary)
    (ps : List (Property Model)) (i : Model) (ms : List Model) :
    (node t ps i ms).core = i.core := by
  rw [core, if_pos h]

/-- A core that stands directly below `section` is the whole model, or the model stands at
`section` itself: layers are written `items` and `additionalProperties`, and neither of these is
the last word of `section`. -/
theorem Layered.core_below {pointer base word key : String} {m : Model} (h : Layered pointer m)
    (hword : '/' ∉ word.toList) (hitems : word ≠ "items")
    (hadditional : word ≠ "additionalProperties") (hkey : '/' ∉ key.toList)
    (hcore : m.core.pointer = base ++ "/" ++ word ++ "/" ++ key) :
    (m.core = m ∧ pointer = base ++ "/" ++ word ++ "/" ++ key) ∨
      pointer = base ++ "/" ++ word := by
  -- a layer below the pointer leaves two places for `section`: the pointer, or the layer
  have hlayer : ∀ {pointer layer step : String}, "/" ++ layer = step → '/' ∉ layer.toList →
      word ≠ layer → pointer ++ step = base ++ "/" ++ word ++ "/" ++ key ∨
        pointer ++ step = base ++ "/" ++ word → pointer = base ++ "/" ++ word := by
    rintro pointer layer _ rfl hslash hne heq
    rw [← String.append_assoc] at heq
    rcases heq with heq | heq
    · exact (Pointer.below_inj hslash hkey heq).1
    · exact absurd (Pointer.below_inj hslash hword heq).2.symm hne
  induction h with
  | declared hp h => exact .inl ⟨core_of_isDeclared h, by rw [← hp, ← hcore, core_of_isDeclared h]⟩
  | leaf hp h =>
      have hself := core_leaf h
      exact .inl ⟨hself, by rw [← hp, ← hcore, hself]; rfl⟩
  | array hp h hi ih =>
      rw [core_layer (.inl h)] at hcore
      exact .inr (hlayer (by decide) (by decide) hitems ((ih hcore).imp_left And.right))
  | dictionary hp h hi ih =>
      rw [core_layer (.inr h)] at hcore
      exact .inr (hlayer (by decide) (by decide) hadditional ((ih hcore).imp_left And.right))

end TypedClient.Model
