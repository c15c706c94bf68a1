import TypedClient.Proofs.Draft.Bodies
import TypedClient.Proofs.Draft.Pipeline

/-!
# Signatures of methods

A method declares the parameters of its operation in their order. `ofDocument_declarable` says that
the order is one that a caller can use: what a call may leave out comes behind what it must give.
Merging puts the parameters in that order and is the last thing that happens to them while an
operation is drafted. After that they only get other models and names.
-/

namespace TypedClient

namespace Parameter

/-- The required parameters come first, and those of the path are required. -/
structure Arranged (parameters : List Parameter) : Prop where
  required_first : parameters.Pairwise (fun p q => q.required = true → p.required = true)
  path_required : ∀ p ∈ parameters, p.location = .path → p.required = true

/-- Merging arranges the parameters, whatever comes in. -/
theorem arranged_merge (ofPath own : List Parameter) : Arranged (merge ofPath own) := by
  unfold merge
  generalize hplaced : own.foldl place ofPath = placed
  constructor
  · refine List.pairwise_append.2 ⟨?_, ?_, ?_⟩
    · refine List.pairwise_of_forall_mem_list (fun p hp q _ _ => ?_)
      exact (List.mem_filter.1 hp).2
    · refine List.pairwise_of_forall_mem_list (fun p _ q hq hrequired => ?_)
      simp [hrequired] at hq
    · exact fun p hp q _ _ => (List.mem_filter.1 hp).2
  · intro p hp hpath
    have hmem : p ∈ placed.map settle := by
      rcases List.mem_append.1 hp with hp | hp <;> exact List.mem_of_mem_filter hp
    obtain ⟨q, -, rfl⟩ := List.mem_map.1 hmem
    unfold settle at hpath ⊢
    split
    case isTrue => rfl
    case isFalse hnot =>
      rw [if_neg hnot] at hpath
      exact absurd hpath hnot

end Parameter

/-- Whether parameters are arranged can be seen from what is told of them. -/
theorem Operation.arranged_of_told {op op' : Operation} (htold : op.told = op'.told)
    (h : Parameter.Arranged op.parameters) : Parameter.Arranged op'.parameters := by
  have hiff : ∀ op : Operation, Parameter.Arranged op.told ↔ Parameter.Arranged op.parameters := by
    intro op
    constructor
    · rintro ⟨hfirst, hpath⟩
      exact ⟨List.pairwise_map.1 hfirst,
        fun p hp => hpath p.told (List.mem_map_of_mem (f := Parameter.told) hp)⟩
    · rintro ⟨hfirst, hpath⟩
      refine ⟨List.pairwise_map.2 hfirst, fun p hp => ?_⟩
      obtain ⟨q, hq, rfl⟩ := List.mem_map.1 hp
      exact hpath q hq
  rw [← hiff, ← htold, hiff]
  exact h

namespace V2

theorem arranged_parametersFrom {doc : Value} {consumes : List String}
    {itemPointer pointer : String} {shared own : List (Option Parameter)}
    {ps : List TypedClient.Parameter}
    (h : parametersFrom doc consumes itemPointer pointer shared own = .ok ps) :
    TypedClient.Parameter.Arranged ps := by
  obtain ⟨sharedRoles, -, h⟩ := bind_eq_ok_iff.1 h
  obtain ⟨ownRoles, -, h⟩ := bind_eq_ok_iff.1 h
  dsimp only at h
  split at h
  · cases h
    exact TypedClient.Parameter.arranged_merge _ _
  -- a form is one more parameter to merge
  · obtain ⟨body, -, h⟩ := bind_eq_ok_iff.1 h
    cases h
    exact TypedClient.Parameter.arranged_merge _ _

theorem Document.arranged_operations {doc : Value} {t : Document} {filter : TagFilter}
    {ops : List TypedClient.Operation} (h : t.operations doc filter = .ok ops) :
    ∀ op ∈ ops, TypedClient.Parameter.Arranged op.parameters := by
  rw [Document.operations_eq] at h
  refine forall_mem_draftedPaths (fun path item ops _ hitem op hop => ?_) h
  obtain ⟨⟨settled, pointer⟩, -, hcalls⟩ := bind_eq_ok_iff.1 (PathItem.drafted_eq .. ▸ hitem)
  obtain ⟨c, -, -, hc⟩ := exists_left_of_forall₂ (forall₂_of_mapM hcalls) hop
  obtain ⟨parameters, hparameters, hc⟩ := bind_eq_ok_iff.1 hc
  obtain ⟨responses, -, hc⟩ := bind_eq_ok_iff.1 hc
  obtain rfl := Except.ok.inj hc
  exact arranged_parametersFrom hparameters

end V2

namespace V3

theorem Operation.arranged_draftedParameters {doc : Value} {pointer : String}
    {shared ps : List TypedClient.Parameter} {o : Operation}
    (h : o.draftedParameters doc pointer shared = .ok ps) :
    TypedClient.Parameter.Arranged ps := by
  obtain ⟨own, -, h⟩ := bind_eq_ok_iff.1 h
  split at h
  · cases h
    exact TypedClient.Parameter.arranged_merge _ _
  -- the body of the request is one more parameter to merge
  · obtain ⟨⟨b, place⟩, -, h⟩ := bind_eq_ok_iff.1 h
    obtain ⟨body, -, h⟩ := bind_eq_ok_iff.1 h
    cases h
    exact TypedClient.Parameter.arranged_merge _ _

theorem Document.arranged_operations {doc : Value} {t : Document} {filter : TagFilter}
    {ops : List TypedClient.Operation} (h : t.operations doc filter = .ok ops) :
    ∀ op ∈ ops, TypedClient.Parameter.Arranged op.parameters := by
  rw [Document.operations_eq] at h
  refine forall_mem_draftedPaths (fun path item ops _ hitem op hop => ?_) h
  obtain ⟨⟨settled, pointer⟩, -, hitem⟩ := bind_eq_ok_iff.1 (PathItem.drafted_eq .. ▸ hitem)
  obtain ⟨shared, -, hcalls⟩ := bind_eq_ok_iff.1 hitem
  obtain ⟨c, -, -, hc⟩ := exists_left_of_forall₂ (forall₂_of_mapM hcalls) hop
  obtain ⟨parameters, hparameters, hc⟩ := bind_eq_ok_iff.1 hc
  obtain ⟨responses, -, hc⟩ := bind_eq_ok_iff.1 hc
  obtain rfl := Except.ok.inj hc
  exact Operation.arranged_draftedParameters hparameters

end V3

/-- The operations of a draft have their parameters arranged. -/
theorem Draft.Assembled.arranged {version : Version} {filter : TagFilter} {doc : Value}
    {ops : List Operation} {d : Draft} (h : Assembled version filter doc ops d) :
    ∀ op ∈ d.operations, Parameter.Arranged op.parameters := by
  intro op hop
  obtain ⟨before, hbefore, rfl⟩ := h.mem_operations_iff.1 hop
  have harranged : Parameter.Arranged before.parameters := by
    have hops := h.operations_eq
    cases version with
    | v2 => exact V2.Document.arranged_operations hops before hbefore
    | v3 => exact V3.Document.arranged_operations hops before hbefore
  exact Operation.arranged_of_told (Operation.told_mapModels Model.lifted before).symm harranged

namespace TypeScript

/-- A parameter that is declared with a question mark is not required. -/
theorem required_of_mark {p : Parameter}
    (h : Text.startsWith (p.exportName ++ "?:") (positional p) = true) : p.required = false := by
  have hcolon : ∀ rest : List Char, ¬ "?:".toList <+: ':' :: rest := by
    intro rest hprefix
    exact absurd (List.cons_prefix_cons.1 hprefix).1 (by decide)
  rw [Text.startsWith, List.isPrefixOf_iff_prefix, String.toList_append] at h
  by_contra hrequired
  rw [Bool.not_eq_false] at hrequired
  unfold positional at h
  simp only [hrequired, if_true, String.toList_append, apply_ite String.toList,
    List.append_assoc] at h
  split at h <;> exact hcolon _ ((List.prefix_append_right_inj _).1 h)

/-- A parameter that is declared without a mark and without an initial value is required. -/
theorem required_of_plain {p : Parameter}
    (h : positional p = p.exportName ++ ": " ++ typeText parameterIndent p.model) :
    p.required = true := by
  by_contra hrequired
  rw [Bool.not_eq_true] at hrequired
  have hlists := congrArg String.toList h
  unfold positional at hlists
  split at hlists
  · have hlength := congrArg List.length hlists
    simp at hlength
  · simp [hrequired] at hlists

/-- The object that a method takes apart ends with its default exactly where it has one. -/
theorem endsWith_signature {choices : Choices} {op : Operation}
    (hoptions : choices.useOptions = true) (hparameters : op.parameters ≠ []) :
    Text.endsWith " = \x7b\x7d" (signature choices op) = true ↔
      ∀ p ∈ op.parameters, p.required = false := by
  have hempty : op.parameters.isEmpty = false := by simpa using hparameters
  have hany : op.parameters.any (·.required) = false ↔
      ∀ p ∈ op.parameters, p.required = false := by simp
  rw [← hany, Text.endsWith, List.isSuffixOf_iff_suffix]
  unfold signature
  rw [hempty, hoptions, if_neg Bool.false_ne_true, if_pos rfl, String.toList_append]
  cases op.parameters.any (·.required) with
  | false => exact iff_of_true (List.suffix_append _ _) rfl
  | true =>
      -- without a default the object ends with blanks and a brace
      refine iff_of_false ?_ (by decide)
      rw [if_pos rfl, String.toList_append, List.append_assoc]
      intro hsuffix
      have hblanks := List.suffix_of_suffix_length_le hsuffix (List.suffix_append _ _) (by decide)
      exact absurd hblanks (by decide)

end TypeScript

namespace Operation

open TypeScript

/-- The method of an operation declares its parameters so that a call can leave out what is not
required. -/
structure Declarable (op : Operation) : Prop extends Parameter.Arranged op.parameters where
  /-- The parameters are declared one by one, in their order. -/
  one_by_one : ∀ choices : Choices, choices.useOptions = false → op.parameters ≠ [] →
    signature choices op = "\n" ++ parameterIndent ++
      (",\n" ++ parameterIndent).intercalate (op.parameters.map positional) ++ ",\n    "
  /-- None that is marked as optional stands before one with neither a mark nor a default. -/
  mark_after_plain : op.parameters.Pairwise (fun p q =>
    Text.startsWith (p.exportName ++ "?:") (positional p) = true →
      positional q ≠ q.exportName ++ ": " ++ typeText parameterIndent q.model)
  /-- Where they are taken out of an object, it may be left out exactly if all of them may. -/
  object_default : ∀ choices : Choices, choices.useOptions = true → op.parameters ≠ [] →
    (Text.endsWith " = \x7b\x7d" (signature choices op) = true ↔
      ∀ p ∈ op.parameters, p.required = false)

theorem declarable_of_arranged {op : Operation} (h : Parameter.Arranged op.parameters) :
    op.Declarable where
  toArranged := h
  one_by_one choices hoptions hparameters := by
    have hempty : op.parameters.isEmpty = false := by simpa using hparameters
    unfold signature
    rw [hempty, hoptions, if_neg Bool.false_ne_true, if_neg Bool.false_ne_true]
  mark_after_plain := by
    refine h.required_first.imp (fun {p q} hfirst hmark hplain => ?_)
    have hrequired := hfirst (required_of_plain hplain)
    rw [required_of_mark hmark] at hrequired
    cases hrequired
  object_default _ := endsWith_signature

end Operation

namespace Draft

/-- The operations of a document, as they are drafted and as they stand in the finished client,
have their required parameters first, and their methods declare them so. -/
theorem ofDocument_declarable {filter : TagFilter} {doc : Value} {d : Draft}
    (h : ofDocument filter doc = .ok d) :
    (∀ op ∈ d.operations, op.Declarable) ∧
      ∀ c, Client.ofDocument filter doc = .ok c →
        ∀ s ∈ c.services, ∀ op ∈ s.operations, op.Declarable := by
  obtain ⟨version, ops, -, hassembled⟩ := exists_assembled h
  have harranged := hassembled.arranged
  refine ⟨fun op hop => Operation.declarable_of_arranged (harranged op hop), ?_⟩
  intro c hc s hs op hop
  obtain ⟨d', out, named, hd, hout, hnamed, rfl⟩ := Client.ofDocument_eq_ok_iff.1 hc
  obtain rfl := Except.ok.inj (h.symm.trans hd)
  obtain ⟨before, hbefore, htold⟩ := exists_told hout hnamed hs hop
  exact Operation.declarable_of_arranged
    (Operation.arranged_of_told htold (harranged before hbefore))

/-- A parameter of version 3. -/
def parameterIn (location name : String) (schema more : Dict Value) : Value :=
  .mapping ([("in", .text location), ("name", .text name)] ++ more ++
    [("schema", .mapping schema)])

/-- A document of version 3 with a call that takes parameters from its path, of its own and in a
body. Some that it may leave out are listed before some that it must give. -/
def updating : Value :=
  .mapping
    [("info", .mapping [("title", .text "pets"), ("version", .text "1")]),
     ("openapi", .text "3.0.0"),
     ("paths", .mapping [("/pets/\x7bid\x7d", .mapping
       [("parameters", .list
          [parameterIn "query" "verbose" [("type", .text "boolean")] [],
           parameterIn "path" "id" [("type", .text "string")] []]),
        ("put", .mapping
          [("parameters", .list
             [parameterIn "query" "limit" [("default", .int 10), ("type", .text "integer")] [],
              parameterIn "header" "X-Trace" [("type", .text "string")]
                [("required", .bool true)]]),
           ("requestBody", .mapping
             [("content", .mapping [("application/json", .mapping
                [("schema", .mapping [("type", .text "string")])])]),
              ("required", .bool true)]),
           ("responses", .mapping [("200", .mapping [("description", .text "ok")])]),
           ("tags", .list [.text "pets"])])])])]

/-- The method for `updating` can be declared, as `ofDocument_declarable` says. -/
theorem ofDocument_declarable_updating :
    ∃ d c, ofDocument {} updating = .ok d ∧ Client.ofDocument {} updating = .ok c ∧
      c.services.map (fun s => s.operations.map (fun op =>
          op.parameters.map TypeScript.positional)) =
        [[["id: string", "xTrace: string", "requestBody: string", "verbose?: boolean",
          "limit: number = 10"]]] ∧
      (∀ op ∈ d.operations, op.Declarable) ∧
      ∀ s ∈ c.services, ∀ op ∈ s.operations, op.Declarable := by
  have hall : (Client.ofUnreferenced? {} updating).map (fun c =>
      c.services.map (fun s => s.operations.map (fun op =>
        op.parameters.map TypeScript.positional))) =
      some [[["id: string", "xTrace: string", "requestBody: string", "verbose?: boolean",
        "limit: number = 10"]]] := by decide +kernel
  obtain ⟨c, hc, htexts⟩ := Option.map_eq_some_iff.1 hall
  have hc := Client.ofDocument_of_unreferenced hc
  obtain ⟨d, -, -, hd, -⟩ := Client.ofDocument_eq_ok_iff.1 hc
  obtain ⟨hdrafted, hfinished⟩ := ofDocument_declarable hd
  exact ⟨d, c, hd, hc, htexts, hdrafted, hfinished c hc⟩

end Draft

end TypedClient
