import TypedClient.Proofs.TypeScript.Comment
import TypedClient.Proofs.TypeScript.Rendering

/-!
# Type expressions denote types

The type expression of a model is read back with the grammar of type expressions. `ReadAs` is what
the induction over a model carries, `exists_readAs_node` its step, by the kind of the node, and
`ReadAs.of_withoutNull` adds null. `typeText_denotes` says when the type that is read is the type
of the model, and `added_null_splits_intersection` that it is not always so.
-/

namespace TypedClient.TypeScript

variable {indent s : String} {es : List TypeExpr}

theorem spells_array (h : Spells s (IsUnion · (es.map ([·])))) :
    Spells ("Array<" ++ s ++ ">") (IsOperand · [.applied "Array" [es.flatten]]) := by
  have hopen : Scan.nothing.run "Array<".toList = some ([.word "Array", .mark '<'], .nothing) := by
    decide
  have hclose : Delimits ">" [.mark '>'] := by decide
  obtain ⟨ts, hts, hes⟩ := h
  rw [String.append_assoc, ← unite_operands]
  exact ⟨_, tokens?_closed hopen (tokens?_ended hts hclose), .applied "Array" (.one hes)⟩

theorem spells_record (h : Spells s (IsUnion · (es.map ([·])))) :
    Spells ("Record<string, " ++ s ++ ">")
      (IsOperand · [.applied "Record" [[.word "string"], es.flatten]]) := by
  have hopen : Scan.nothing.run "Record<string, ".toList =
      some ([.word "Record", .mark '<', .word "string", .mark ','], .nothing) := by
    decide
  have hclose : Delimits ">" [.mark '>'] := by decide
  obtain ⟨ts, hts, hes⟩ := h
  rw [String.append_assoc, ← unite_operands]
  exact ⟨_, tokens?_closed hopen (tokens?_ended hts hclose),
    .applied "Record" ((IsOperand.word "string").comma (.one hes))⟩

theorem rendering_any : Rendering "any" anyType [anyType] :=
  rendering_word (by decide)

theorem spells_record_any :
    Spells "Record<string, any>" (IsOperand · [.applied "Record" [[.word "string"], anyType]]) := by
  have htext : "Record<string, any>" = "Record<string, " ++ "any" ++ ">" := by decide
  rw [htext]
  exact spells_record rendering_any.spells

theorem rendering_primitive (type format : String) :
    Rendering (primitiveText type format) (primitiveType type format)
      [primitiveType type format] := by
  unfold primitiveText primitiveType
  split
  · exact rendering_word (by decide)
  · exact rendering_word (by decide)
  · split
    · exact rendering_word (by decide)
    · exact rendering_word (by decide)
  · exact rendering_word (by decide)
  · exact rendering_word (by decide)
  · exact rendering_word (by decide)
  · exact rendering_word (by decide)
  · exact rendering_alternative spells_record_any nofun nofun
  · simpa [*] using rendering_any

/-- The choice of literals is read as the union of them. -/
theorem rendering_choice {members : List EnumMember} (hne : members ≠ [])
    (h : ∀ e ∈ members, (Json.text? Json.compact 0 e.value).isSome = true) :
    Rendering (choiceText members) (members.flatMap (fun e => literalType e.value))
      [members.flatMap (fun e => literalType e.value)] := by
  match members, hne with
  | [e], _ =>
      rw [List.flatMap_singleton]
      exact rendering_literal (h e List.mem_cons_self)
  | e :: e' :: members, _ =>
      have hall := rendering_bars (fun e he => rendering_literal (h e he)) (by simp)
      simp only [List.flatten_singleton] at hall
      exact hall

theorem tokens?_propertyKey (name : String) :
    tokens? (Naming.propertyKey name) = some [keyOf name] := by
  unfold Naming.propertyKey keyOf
  split
  case isTrue hname => exact tokens?_word (isWord_of_isIdentifier hname)
  case isFalse => exact tokens?_of_run (run_quote name)

theorem isKey_keyOf (name : String) : (keyOf name).isKey = true := by
  unfold keyOf
  split <;> rfl

/-- What stands in front of the key of a property holds no tokens. -/
theorem run_propertyStart (hindent : ∀ c ∈ indent.toList, c = ' ') (m : Model) :
    Scan.nothing.run ((if m.isAbsent then ""
      else documentation indent m.traits.description m.traits.deprecated) ++ indent).toList =
        some ([], .nothing) := by
  have hblank : Scan.nothing.run indent.toList = some ([], .nothing) :=
    Scan.run_blanks (by decide) hindent
  rw [String.toList_append]
  split
  · exact hblank
  · rw [Scan.run_append_of_run (run_documentation hindent _ _), hblank]

/-- Properties are read as the members of an object type, and their comments are passed over. -/
theorem spells_properties (hindent : ∀ c ∈ indent.toList, c = ' ')
    {operands : Model → List TypeExpr} {ps : List (Property Model)}
    (hkeys : ∀ p ∈ ps, p.exportName = Naming.propertyKey p.name)
    (h : ∀ p ∈ ps, Spells (typeText indent p.model) (IsUnion · ((operands p.model).map ([·])))) :
    Spells (propertyTexts indent ps) (IsMembers · (ps.map (fun p =>
      ⟨keyOf p.name, !p.required, (operands p.model).flatten⟩))) := by
  induction ps with
  | nil => exact ⟨[], rfl, .nil⟩
  | cons p ps ih =>
      obtain ⟨name, exportName, required, m⟩ := p
      rw [List.forall_mem_cons] at hkeys h
      obtain ⟨hexport : exportName = Naming.propertyKey name, hkeys⟩ := hkeys
      obtain ⟨⟨ts, hts, htype⟩, h⟩ := h
      obtain ⟨us, hus, hrest⟩ := ih hkeys h
      have hkey := tokens?_propertyKey name
      have hname : (if exportName = "" then name else exportName) = Naming.propertyKey name := by
        rw [hexport, if_neg]
        intro hempty
        rw [hempty] at hkey
        cases hkey
      have hmarks : Delimits ((if required then "" else "?") ++ ": ")
          (if required then [.mark ':'] else [.mark '?', .mark ':']) := by
        cases required <;> decide
      have hend : Delimits ";\n" [.mark ';'] := by decide
      have hall := tokens?_closed (run_propertyStart hindent m)
        (tokens?_delimited hkey hmarks (tokens?_delimited hts hend hus))
      simp only [← String.append_assoc] at hall
      rw [propertyTexts, hname]
      refine ⟨_, hall, ?_⟩
      rw [List.map_cons, ← unite_operands]
      cases required with
      | true => exact .more ';' (.inl rfl) (.required (isKey_keyOf name) htype) hrest
      | false => exact .more ';' (.inl rfl) (.optional (isKey_keyOf name) htype) hrest

theorem delimits_closing (hindent : ∀ c ∈ indent.toList, c = ' ') :
    Delimits (indent ++ "\x7d") [.mark '\x7d'] := by
  have hblank : Scan.nothing.run indent.toList = some ([], .nothing) :=
    Scan.run_blanks (by decide) hindent
  have hbrace : Scan.nothing.run "\x7d".toList = some ([.mark '\x7d'], .nothing) := by decide
  refine ⟨?_, ?_⟩
  · rw [String.toList_append, Scan.run_append_of_run hblank, hbrace]
  · rw [String.toList_append]
    cases hlist : indent.toList with
    | nil => decide
    | cons c cs =>
        rw [hlist, List.forall_mem_cons] at hindent
        rw [hindent.1]
        rfl

/-- Properties between braces are read as an object type. -/
theorem spells_object (hindent : ∀ c ∈ indent.toList, c = ' ') {ms : List (Member TypeExpr)}
    (h : Spells s (IsMembers · ms)) :
    Spells ("\x7b\n" ++ s ++ indent ++ "\x7d") (IsOperand · [.object ms]) := by
  have hopen : Scan.nothing.run "\x7b\n".toList = some ([.mark '\x7b'], .nothing) := by decide
  obtain ⟨ts, hts, hms⟩ := h
  have hall := tokens?_closed hopen (tokens?_ended hts (delimits_closing hindent))
  simp only [← String.append_assoc] at hall
  exact ⟨_, hall, .object hms⟩

/-- How the type expression of a model is read: as a union of operands, several only if a null
ends it, which make up the type of the model only if it is grouped. -/
structure ReadAs (indent : String) (m : Model) (es : List TypeExpr) : Prop where
  rendering : Rendering (typeText indent m) (typeOf m) es
  endsInNull_iff : m.EndsInNull ↔ 2 ≤ es.length
  grouped_iff : m.Grouped ↔ typeOf m = es.flatten

/-- Adding null. -/
theorem ReadAs.of_withoutNull {m : Model} (h : ReadAs indent m.withoutNull es) :
    ∃ fs, ReadAs indent m fs := by
  obtain ⟨fs, hfs, hends, hkeeps⟩ := h.rendering.orNull m.traits.nullable
  rw [← typeText_eq_orNull, ← typeOf_eq_withNull] at hfs
  refine ⟨fs, hfs, ?_, ?_⟩
  · rw [Model.endsInNull_iff, h.endsInNull_iff, hends]
  · rw [typeOf_eq_withNull, hkeeps, ← h.grouped_iff, Model.grouped_withoutNull]

open Model

variable {t : Traits} {ps : List (Property Model)} {i : Model} {ms : List Model}

/-- A node that is written as one operand. -/
theorem readAs_operand {e f : TypeExpr} (hclosed : t.kind.isComposition = true → 2 ≤ ms.length)
    (htext : typeText indent (node t ps i ms).withoutNull = if s = "" then "any" else s)
    (htype : typeOf (node t ps i ms).withoutNull = e) (h : Rendering s e [f])
    (hgrouped : (node t ps i ms).Grouped ↔ e = f) :
    ReadAs indent (node t ps i ms).withoutNull [f] := by
  rw [if_neg h.text_ne] at htext
  refine ⟨htext ▸ htype ▸ h, ?_, ?_⟩
  · rw [endsInNull_withoutNull]
    refine iff_of_false ?_ (by simp)
    rintro ⟨hkind, k, rfl, -⟩
    exact absurd (hclosed hkind) (by simp)
  · rw [grouped_withoutNull, hgrouped, htype, List.flatten_singleton]

/-- A composition of one member is written as the member. -/
theorem readAs_only {k : Model} (hkind : t.kind.isComposition = true) (h : ReadAs indent k es) :
    ReadAs indent (node t ps i [k]).withoutNull es := by
  have htext : typeText indent (node t ps i [k]).withoutNull = typeText indent k := by
    cases hk : t.kind with
    | allOf | oneOf | anyOf =>
        simp [typeText, hk, memberTexts, joined, h.rendering.text_ne]
    | _ => simp [hk, Kind.isComposition] at hkind
  have htype : typeOf (node t ps i [k]).withoutNull = typeOf k := by
    cases hk : t.kind with
    | allOf | oneOf | anyOf => simp [typeOf, hk, typesOf, meet]
    | _ => simp [hk, Kind.isComposition] at hkind
  refine ⟨htext ▸ htype ▸ h.rendering, ?_, ?_⟩
  · rw [endsInNull_withoutNull, ← h.endsInNull_iff]
    simp [hkind]
  · rw [htype, ← h.grouped_iff, grouped_withoutNull, Model.grouped_iff,
      parts_of_isComposition hkind, List.forall_mem_singleton]
    exact and_iff_right (fun _ htwo => absurd htwo (by simp [members]))

/-- A choice among several members. -/
theorem exists_readAs_union (hkind : t.kind = .oneOf ∨ t.kind = .anyOf) (htwo : 2 ≤ ms.length)
    (h : ∀ k ∈ ms, ∃ es, ReadAs indent k es) :
    ∃ es, ReadAs indent (node t ps i ms).withoutNull es := by
  choose! operands h using h
  have hcomposition : t.kind.isComposition = true := by
    rcases hkind with hkind | hkind <;> rw [hkind] <;> rfl
  refine ⟨_, readAs_operand (fun _ => htwo) ?_ ?_
    (rendering_bars (fun k hk => (h k hk).rendering) htwo) ?_⟩
  · rcases hkind with hkind | hkind <;>
      simp [typeText, hkind, memberTexts_eq_map]
  · rcases hkind with hkind | hkind <;>
      simp [typeOf, hkind, typesOf_eq_map, List.flatMap_def]
  · have hother : t.kind ≠ .allOf := by rcases hkind with hkind | hkind <;> simp [hkind]
    rw [grouped_iff_of_ne hother, parts_of_isComposition hcomposition,
      flatMap_eq_iff (fun k hk => (h k hk).rendering.length_le)]
    exact forall₂_congr (fun k hk => (h k hk).grouped_iff)

/-- What several members have in common. -/
theorem exists_readAs_intersection (hkind : t.kind = .allOf) (htwo : 2 ≤ ms.length)
    (h : ∀ k ∈ ms, ∃ es, ReadAs indent k es) :
    ∃ es, ReadAs indent (node t ps i ms).withoutNull es := by
  choose! operands h using h
  obtain ⟨f, hf, hmeet⟩ := rendering_ampersands (fun k hk => (h k hk).rendering) htwo
  refine ⟨_, readAs_operand (fun _ => htwo) ?_ ?_ hf ?_⟩
  · simp [typeText, hkind, memberTexts_eq_map]
  · simp [typeOf, hkind, typesOf_eq_map]
  · rw [grouped_iff_of_allOf hkind htwo, hmeet]
    refine and_congr ?_ (forall₂_congr (fun k hk => (h k hk).grouped_iff))
    exact forall₂_congr (fun k hk => not_congr (h k hk).endsInNull_iff)

theorem forall_mem_deeper (hindent : ∀ c ∈ indent.toList, c = ' ') :
    ∀ c ∈ (indent ++ "    ").toList, c = ' ' := by
  simpa [or_imp, forall_and] using hindent

/-- An object type, the lines of which stand further to the right. -/
theorem exists_readAs_interface (hkind : t.kind = .interface) (hne : ps ≠ [])
    (hindent : ∀ c ∈ indent.toList, c = ' ')
    (hkeys : ∀ p ∈ ps, p.exportName = Naming.propertyKey p.name)
    (h : ∀ k ∈ ps.map Property.model, ∃ es, ReadAs (indent ++ "    ") k es) :
    ∃ es, ReadAs indent (node t ps i ms).withoutNull es := by
  choose! operands h using h
  have hproperties := spells_properties (forall_mem_deeper hindent) hkeys
    (fun p hp => (h p.model (List.mem_map_of_mem hp)).rendering.spells)
  have hobject := rendering_alternative (a := .object (membersOf ps))
    (spells_object hindent hproperties) nofun nofun
  refine ⟨_, readAs_operand ?_ ?_ ?_ hobject ?_⟩
  · simp [hkind, Kind.isComposition]
  · simp [typeText, hkind, hne]
  · simp [typeOf, hkind]
  · have hparts : (node t ps i ms).parts = ps.map Property.model := by simp only [parts, hkind]
    rw [grouped_iff_of_ne (by simp [hkind]), hparts, List.singleton_inj, Alternative.object.injEq,
      membersOf_eq_map, List.map_inj_left, List.forall_mem_map]
    refine forall₂_congr (fun p hp => ?_)
    rw [(h p.model (List.mem_map_of_mem hp)).grouped_iff, Member.mk.injEq]
    simp

/-- A composition, of one member or of several. -/
theorem exists_readAs_composition (hkind : t.kind.isComposition = true) (hne : ms ≠ [])
    (h : ∀ k ∈ ms, ∃ es, ReadAs indent k es) :
    ∃ es, ReadAs indent (node t ps i ms).withoutNull es := by
  match ms, hne with
  | [k], _ =>
      obtain ⟨es, hes⟩ := h k List.mem_cons_self
      exact ⟨es, readAs_only hkind hes⟩
  | _ :: _ :: _, _ =>
      cases hk : t.kind with
      | allOf => exact exists_readAs_intersection hk (by simp) h
      | oneOf => exact exists_readAs_union (.inl hk) (by simp) h
      | anyOf => exact exists_readAs_union (.inr hk) (by simp) h
      | _ => simp [hk, Kind.isComposition] at hkind

/-- A node is read as its kind says, when its parts are read as theirs do. -/
theorem exists_readAs_node (hindent : ∀ c ∈ indent.toList, c = ' ')
    (hcomplete : (node t ps i ms).Complete)
    (hparts : ∀ k ∈ (node t ps i ms).parts, ∀ indent : String, (∀ c ∈ indent.toList, c = ' ') →
      ∃ es, ReadAs indent k es) :
    ∃ es, ReadAs indent (node t ps i ms).withoutNull es := by
  cases hkind : t.kind with
  | reference =>
      simp only [Complete, hkind] at hcomplete
      refine ⟨_, readAs_operand ?_ ?_ ?_ (rendering_word (isWord_of_isTypeName hcomplete)) ?_⟩ <;>
        simp [typeText, typeOf, hkind, Kind.isComposition, grouped_iff_of_ne, parts]
  | generic =>
      refine ⟨_, readAs_operand ?_ ?_ ?_ (rendering_primitive t.type t.format) ?_⟩ <;>
        simp [typeText, typeOf, hkind, Kind.isComposition, grouped_iff_of_ne, parts]
  | enum =>
      simp only [Complete, hkind] at hcomplete
      refine ⟨_, readAs_operand ?_ ?_ ?_ (rendering_choice hcomplete.1 hcomplete.2) ?_⟩ <;>
        simp [typeText, typeOf, hkind, Kind.isComposition, grouped_iff_of_ne, parts]
  | array =>
      obtain ⟨es, h⟩ := hparts i (by simp [parts, hkind]) indent hindent
      have harray := rendering_alternative (a := .applied "Array" [typeOf i])
        (spells_array h.rendering.spells) (fun _ => by simp) (fun _ => by simp)
      refine ⟨_, readAs_operand ?_ ?_ ?_ harray ?_⟩ <;>
        simp [typeText, typeOf, hkind, Kind.isComposition, grouped_iff_of_ne, parts, h.grouped_iff]
  | dictionary =>
      obtain ⟨es, h⟩ := hparts i (by simp [parts, hkind]) indent hindent
      have hrecord := rendering_alternative (a := .applied "Record" [[.word "string"], typeOf i])
        (spells_record h.rendering.spells) (fun _ => by simp) (fun _ => by simp)
      refine ⟨_, readAs_operand ?_ ?_ ?_ hrecord ?_⟩ <;>
        simp [typeText, typeOf, hkind, Kind.isComposition, grouped_iff_of_ne, parts, h.grouped_iff]
  | interface =>
      simp only [Complete, hkind] at hcomplete
      refine exists_readAs_interface hkind hcomplete.1 hindent hcomplete.2 (fun k hk => ?_)
      exact hparts k (by simpa only [parts, hkind] using hk) _ (forall_mem_deeper hindent)
  | allOf | oneOf | anyOf =>
      simp only [Complete, hkind] at hcomplete
      have hcomposition : t.kind.isComposition = true := by rw [hkind]; rfl
      rw [parts_of_isComposition hcomposition] at hparts
      exact exists_readAs_composition hcomposition hcomplete
        (fun k hk => hparts k hk indent hindent)
  | other => simp [Complete, hkind] at hcomplete

theorem readAs_absent : ReadAs indent .absent [anyType] := by
  refine ⟨rendering_any, iff_of_false (not_endsInNull rfl rfl) (by simp), iff_of_true ?_ rfl⟩
  rw [Model.grouped_iff]
  simp [members, parts]

/-- The type expression of every complete model is read. -/
theorem exists_readAs (m : Model) (hcomplete : ∀ n, m.Within n → n.Complete) (indent : String)
    (hindent : ∀ c ∈ indent.toList, c = ' ') : ∃ es, ReadAs indent m es := by
  induction m using parts_induction generalizing indent with
  | h m ih =>
      rw [forall_within_iff] at hcomplete
      obtain ⟨hself, hcomplete⟩ := hcomplete
      cases m with
      | absent => exact ⟨_, readAs_absent⟩
      | node t ps i ms =>
          obtain ⟨es, hes⟩ := exists_readAs_node hindent hself
            (fun k hk => ih k hk (hcomplete k hk))
          exact hes.of_withoutNull

/-- The type expression of a complete model denotes one type. That is the type of the model exactly
where no member of an intersection ends with an added null, which has no parentheses of its own. -/
theorem typeText_denotes {indent : String} (hindent : ∀ c ∈ indent.toList, c = ' ') {m : Model}
    (hcomplete : ∀ n, m.Within n → n.Complete) :
    (∃! e, Denotes (typeText indent m) e) ∧
      (Denotes (typeText indent m) (typeOf m) ↔ m.Grouped) := by
  obtain ⟨es, h⟩ := exists_readAs m hcomplete indent hindent
  have hdenotes := h.rendering.denotes
  refine ⟨⟨_, hdenotes, fun f hf => hf.unique hdenotes⟩, ?_⟩
  rw [h.grouped_iff]
  exact ⟨fun hf => hf.unique hdenotes, fun heq => heq ▸ hdenotes⟩

/-- A pet: cat, dog or null, with any number of tags, and an owner with counts. -/
def pet : Model :=
  let sorts := [{ value := .text "cat" }, { value := .text "dog" }]
  let tag := Model.node { kind := .oneOf } [] .absent
    [.leaf { kind := .reference, target := "Tag", nullable := true },
      .leaf { kind := .generic, type := "string" }]
  let owner := Model.node { kind := .allOf, nullable := true } [] .absent
    [.leaf { kind := .reference, target := "Person" },
      .node { kind := .dictionary } [] (.leaf { kind := .generic, type := "integer" }) []]
  .node { kind := .interface }
    [⟨"sort", "sort", true, .leaf { kind := .enum, nullable := true, enum := sorts }⟩,
      ⟨"x-tags", "\"x-tags\"", false, .node { kind := .array } [] tag []⟩,
      ⟨"owner", "owner", false, owner⟩] .absent []

/-- The type of `pet`, in which choices of literals stand beside null and below an array, has one
reading, and that is the type that the model means. -/
theorem typeText_denotes_pet :
    (∀ n, pet.Within n → n.Complete) ∧ pet.Grouped ∧ (∃! e, Denotes (typeText "  " pet) e) ∧
      Denotes (typeText "  " pet) (typeOf pet) := by
  have hkeys : Naming.propertyKey "sort" = "sort" ∧ Naming.propertyKey "owner" = "owner" ∧
      Naming.propertyKey "x-tags" = "\"x-tags\"" := by
    decide
  have hnames : Naming.isTypeName "Tag" = true ∧ Naming.isTypeName "Person" = true := by decide
  have hliterals : ∀ text, (Json.text? Json.compact 0 (.text text)).isSome = true := fun _ => rfl
  have hcomplete : ∀ n, pet.Within n → n.Complete := by
    simp [pet, leaf, forall_within_iff (m := node _ _ _ _), parts, Complete, hkeys, hnames,
      hliterals]
  have hperson : ¬ (node { kind := .reference, target := "Person" } [] absent []).EndsInNull :=
    not_endsInNull rfl rfl
  have hcounts : ¬ (node { kind := .dictionary } []
      (node { kind := .generic, type := "integer" } [] absent []) []).EndsInNull :=
    not_endsInNull rfl rfl
  have hgrouped : pet.Grouped := by
    simp [pet, leaf, Grouped, forall_within_iff (m := node _ _ _ _), parts, members, kind, traits,
      hperson, hcounts]
  have hindent : ∀ c ∈ "  ".toList, c = ' ' := by simp
  obtain ⟨hone, htype⟩ := typeText_denotes hindent hcomplete
  exact ⟨hcomplete, hgrouped, hone, htype.2 hgrouped⟩

/-- What is both a text or null and a number. -/
def textAndNumber : Model :=
  .node { kind := .allOf } [] .absent
    [.leaf { kind := .generic, type := "string", nullable := true },
      .leaf { kind := .generic, type := "number" }]

/-- The text is not part of the intersection that the model describes, and null is. -/
theorem added_null_splits_intersection :
    (∀ n, textAndNumber.Within n → n.Complete) ∧
      typeText "" textAndNumber = "(string | null & number)" ∧
      Denotes (typeText "" textAndNumber)
        [.word "string", .both [[.word "null"], [.word "number"]]] ∧
      ¬ Denotes (typeText "" textAndNumber) (typeOf textAndNumber) := by
  have htype : typeOf textAndNumber =
      [.both [[.word "string", .word "null"], [.word "number"]]] := rfl
  have hdenotes : Denotes (typeText "" textAndNumber)
      [.word "string", .both [[.word "null"], [.word "number"]]] := by
    have htokens : tokens? (typeText "" textAndNumber) = some [.mark '(', .word "string",
        .mark '|', .word "null", .mark '&', .word "number", .mark ')'] := by
      decide
    refine ⟨_, unite_operand _, _, htokens, IsOperand.isUnion ?_⟩
    exact .group (.bar (.one (.word "string"))
      (.one (.ampersand (.word "null") (.one (.word "number")))))
  refine ⟨?_, by decide, hdenotes, fun h => ?_⟩
  · simp [textAndNumber, leaf, forall_within_iff (m := node _ _ _ _), parts, Complete]
  · have heq := h.unique hdenotes
    rw [htype] at heq
    cases heq

end TypedClient.TypeScript
