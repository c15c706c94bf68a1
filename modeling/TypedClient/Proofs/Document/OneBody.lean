import TypedClient.Proofs.Document.Mending

/-!
# The body that several bodies become

Several bodies of an operation become one, an object with a property for each of them under its
name. `mend_one_body` says what becomes of the bodies of an operation, and when none of them is
lost: exactly when their names are distinct, where a body without a name counts as `field`.
`unnamed_body_lost` shows two bodies without names, of which the first is lost.
-/

namespace TypedClient.BodyMerge

open Value

variable {doc parameter : Value} {operation : Dict Value} {path method : String}
  {bodies : List Value}

/-! ## The parts of the merged body -/

/-- An optional entry behind others is found when it is there. -/
theorem get?_ofEntries_entry {key : String} {entries : List (String × Value)}
    (h : key ∉ entries.map Prod.fst) (o : Option Value) :
    Dict.get? (Dict.ofEntries (entries ++ entry key o)) key = o := by
  cases o with
  | some v => exact Dict.get?_ofEntries_append_cons v entries List.not_mem_nil
  | none =>
      rw [entry, List.append_nil]
      exact (Dict.get?_insertAll_of_not_mem h).trans (Dict.get?_nil key)

/-- Whether a parameter is declared as required. -/
def isRequired (parameter : Value) : Bool :=
  (parameter.field "required").bool? == some true

/-- The properties of the merged body. -/
def propertiesOf (bodies : List Value) : Dict Value :=
  Dict.ofEntries (bodies.map (fun p => (nameOf p, schemaOf p)))

/-- The schema of the merged body is an object with the properties, and with a list of those that
are required unless it would be empty. -/
theorem schema_mergedBody (bodies : List Value) :
    ((mergedBody bodies).field "schema").field "type" = .text "object" ∧
      ((mergedBody bodies).field "schema").field "properties" = .mapping (propertiesOf bodies) ∧
      (((mergedBody bodies).field "schema").field "required").list?.getD [] =
        (bodies.filter isRequired).map (fun p => .text (nameOf p)) := by
  have hother {key name : String} (hne : key ≠ name) (o : Option Value) :
      key ∉ (entry name o).map Prod.fst := fun hmem => hne (mem_entry hmem)
  unfold mergedBody
  extract_lets properties required list schema
  have hschema : (Value.mapping (Dict.ofEntries ([("in", .text "body"), ("name", .text "body"),
      ("schema", schema)] ++ entry "required" (list.map (fun _ => .bool true))))).field "schema" =
      schema :=
    field_mapping (Dict.get?_ofEntries_append_cons schema [("in", _), ("name", _)]
      (hother (by decide) _))
  rw [hschema]
  refine ⟨?_, ?_, ?_⟩
  · refine field_mapping (Dict.get?_ofEntries_append_cons _ [] ?_)
    rw [List.append_eq, List.map_append, List.mem_append, not_or]
    exact ⟨by simp, hother (by decide) _⟩
  · exact field_mapping (Dict.get?_ofEntries_append_cons _ [("type", _)] (hother (by decide) _))
  · have hlist : schema.get? "required" = list := get?_ofEntries_entry (by simp) list
    rw [field, hlist]
    unfold list
    split
    case isTrue hempty => exact (List.isEmpty_iff.1 hempty).symm
    case isFalse => rfl

/-- In each property of the merged body stands the schema of the last body of its name. -/
theorem get?_propertiesOf {before after : List Value} {p : Value}
    (h : ∀ q ∈ after, nameOf q ≠ nameOf p) :
    Dict.get? (propertiesOf (before ++ p :: after)) (nameOf p) = some (schemaOf p) := by
  rw [propertiesOf, List.map_append, List.map_cons]
  refine Dict.get?_ofEntries_append_cons _ _ (fun hmem => ?_)
  rw [List.map_map] at hmem
  obtain ⟨q, hq, hname⟩ := List.mem_map.1 hmem
  exact h q hq hname

/-- Each body has a property when their names are distinct, and only then. -/
theorem propertiesOf_perm_iff :
    (propertiesOf bodies).Perm (bodies.map (fun p => (nameOf p, schemaOf p))) ↔
      (bodies.map nameOf).Nodup := by
  have hkeys : (bodies.map (fun p => (nameOf p, schemaOf p))).map Prod.fst =
      bodies.map nameOf := by
    rw [List.map_map]
    rfl
  constructor
  · intro h
    have hsorted : (propertiesOf bodies).Sorted := Dict.Sorted.insertAll List.Pairwise.nil _
    rw [← hkeys, ← (h.map Prod.fst).nodup_iff]
    exact hsorted.nodup_keys
  · intro h
    exact Dict.ofEntries_perm (hkeys ▸ h)

/-- The schema that a body declares is its schema. -/
theorem schemaOf_of_field {d : Dict Value} (h : parameter.field "schema" = .mapping d) :
    schemaOf parameter = .mapping d := by
  rw [schemaOf, h]
  rfl

/-! ## Bodies that are held -/

/-- A merged body holds each of several bodies: its schema is an object with exactly one property
for each of them, with its schema, and lists without repetition the names of the required ones. -/
structure HoldsEach (bodies : List Value) (merged : Value) : Prop where
  type_eq : (merged.field "schema").field "type" = .text "object"
  properties_perm : ((merged.field "schema").field "properties").entries.Perm
    (bodies.map (fun p => (nameOf p, schemaOf p)))
  required_eq : ∃ names : List String,
    ((merged.field "schema").field "required").list?.getD [] = names.map .text ∧ names.Nodup ∧
      ∀ name, name ∈ names ↔ ∃ p ∈ bodies, (p.field "required").bool? = some true ∧
        nameOf p = name

theorem holdsEach_mergedBody_iff :
    HoldsEach bodies (mergedBody bodies) ↔ (bodies.map nameOf).Nodup := by
  obtain ⟨htype, hproperties, hrequired⟩ := schema_mergedBody bodies
  constructor
  · intro h
    have hperm := h.properties_perm
    rw [hproperties] at hperm
    exact propertiesOf_perm_iff.1 hperm
  · intro h
    refine ⟨htype, ?_, (bodies.filter isRequired).map nameOf, ?_, ?_, fun name => ?_⟩
    · rw [hproperties]
      exact propertiesOf_perm_iff.2 h
    · rw [hrequired, List.map_map]
      rfl
    · exact h.sublist (List.filter_sublist.map nameOf)
    · simp [isRequired, and_assoc]

/-- Where an operation stands in a document, the mended one stands in the mended document. -/
theorem isOperation_mend (h : IsOperation doc path method operation) :
    IsOperation (mend doc) path method (mendOperation operation) := by
  by_cases hneeded : isNeeded doc = true
  · obtain ⟨item, he, hentry, hnames⟩ := h
    refine ⟨mendPathItem item, ?_, ?_, hnames⟩
    · rw [mend, if_pos hneeded, field_mapping (Dict.get?_insert_self "paths" _ doc.entries)]
      exact List.mem_map_of_mem (f := fun e => (e.1, mendPathItem e.2)) he
    · cases item with
      | mapping entries =>
          have hmended : mendedValue method (.mapping operation) =
              .mapping (mendOperation operation) := if_pos hnames
          rw [mendPathItem_mapping, ← hmended]
          exact List.mem_map_of_mem (f := fun e => (e.1, mendedValue e.1 e.2)) hentry
      | _ => cases hentry
  · have hnot : ¬ isOffending operation = true := fun hoffending =>
      hneeded (isNeeded_iff.2 ⟨path, method, operation, h, isOffending_iff.1 hoffending⟩)
    rw [mend, if_neg hneeded, mendOperation, if_neg hnot]
    exact h

/-- The bodies of an operation without a form become one, in front of its other parameters. Each of
its properties has the schema of the last body of its name, and it holds each of them exactly when
no two have one name. -/
theorem mend_one_body (h : IsOperation doc path method operation)
    (hbodies : 1 < bodyCount (parameters operation))
    (hform : hasForm (parameters operation) = false) :
    ∃ mended merged bodies, IsOperation (mend doc) path method mended ∧
      bodies = (parameters operation).filter (isAt "body") ∧
      Dict.get? mended "parameters" = some (.list (merged ::
        (parameters operation).filter (fun p => !isAt "body" p))) ∧
      merged.field "in" = .text "body" ∧
      (∀ before p after, bodies = before ++ p :: after →
        (∀ q ∈ after, nameOf q ≠ nameOf p) →
          ((merged.field "schema").field "properties").get? (nameOf p) = some (schemaOf p)) ∧
      (∀ p ∈ bodies, ∀ d, p.field "schema" = .mapping d → schemaOf p = .mapping d) ∧
      (HoldsEach bodies merged ↔ (bodies.map nameOf).Nodup) := by
  have hoffending : isOffending operation = true :=
    Bool.or_eq_true_iff.2 (.inl (decide_eq_true hbodies))
  have hmended : mendOperation operation = asOneBody operation := by
    rw [mendOperation, if_pos hoffending, hform, if_neg Bool.false_ne_true]
  refine ⟨mendOperation operation, mergedBody ((parameters operation).filter (isAt "body")), _,
    isOperation_mend h, rfl, ?_, field_in_mergedBody _, ?_, fun p _ d hd => schemaOf_of_field hd,
    holdsEach_mergedBody_iff⟩
  · rw [hmended, asOneBody, List.partition_eq_filter_filter]
    exact Dict.get?_insert_self "parameters" _ operation
  · intro before p after hsplit hafter
    rw [(schema_mergedBody _).2.1, hsplit]
    exact get?_propertiesOf hafter

/-- A document whose operation has two required bodies with the given names. -/
def twoBodies (first second : String) : Value :=
  .mapping [("paths", .mapping [("/pets", .mapping [("post", .mapping [("parameters", .list
    [.mapping [("in", .text "body"), ("name", .text first), ("required", .bool true),
      ("schema", .mapping [("type", .text "string")])],
     .mapping [("in", .text "body"), ("name", .text second), ("required", .bool true),
      ("schema", .mapping [("type", .text "integer")])]])])])])]

/-- The operation of `twoBodies`. -/
def twoBodiesOperation (first second : String) : Dict Value :=
  ((((twoBodies first second).field "paths").field "/pets").field "post").entries

/-- What `mend_one_body` says of two bodies with different names: each is held. -/
theorem mend_one_body_named :
    IsOperation (twoBodies "pet" "note") "/pets" "post" (twoBodiesOperation "pet" "note") ∧
      1 < bodyCount (parameters (twoBodiesOperation "pet" "note")) ∧
      hasForm (parameters (twoBodiesOperation "pet" "note")) = false ∧
      ∃ mended merged bodies,
        IsOperation (mend (twoBodies "pet" "note")) "/pets" "post" mended ∧
        bodies.length = 2 ∧ Dict.get? mended "parameters" = some (.list [merged]) ∧
        HoldsEach bodies merged := by
  have hoperation : IsOperation (twoBodies "pet" "note") "/pets" "post"
      (twoBodiesOperation "pet" "note") :=
    ⟨_, List.mem_singleton.2 rfl, List.mem_singleton.2 rfl, by decide +kernel⟩
  have hbodies : 1 < bodyCount (parameters (twoBodiesOperation "pet" "note")) := by decide
  have hform : hasForm (parameters (twoBodiesOperation "pet" "note")) = false := by decide
  obtain ⟨mended, merged, bodies, hmended, rfl, hparameters, -, -, -, hiff⟩ :=
    mend_one_body hoperation hbodies hform
  exact ⟨hoperation, hbodies, hform, mended, merged, _, hmended, by decide, hparameters,
    hiff.2 (by decide)⟩

/-- Of two bodies without names the first is lost: the merged body has one property, with the schema
of the second, and lists its name twice. -/
theorem unnamed_body_lost :
    IsOperation (twoBodies "" "") "/pets" "post" (twoBodiesOperation "" "") ∧
      bodyCount (parameters (twoBodiesOperation "" "")) = 2 ∧
      hasForm (parameters (twoBodiesOperation "" "")) = false ∧
      ∃ mended merged, IsOperation (mend (twoBodies "" "")) "/pets" "post" mended ∧
        Dict.get? mended "parameters" = some (.list [merged]) ∧
        (merged.field "schema").field "properties" =
          .mapping [("field", .mapping [("type", .text "integer")])] ∧
        (merged.field "schema").field "required" = .list [.text "field", .text "field"] := by
  refine ⟨⟨_, List.mem_singleton.2 rfl, List.mem_singleton.2 rfl, by decide +kernel⟩, by decide,
    by decide, _, _, ⟨_, List.mem_singleton.2 rfl, List.mem_singleton.2 rfl, by decide +kernel⟩,
    rfl, rfl, rfl⟩

end TypedClient.BodyMerge
