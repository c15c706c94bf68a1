import TypedClient.Proofs.Document.Ordered
import TypedClient.Proofs.Draft.Spelling
import TypedClient.Proofs.TypeScript.PropertyKey
import TypedClient.Proofs.TypeScript.TypeText
import TypedClient.TypeScript.Method

/-!
# Texts stay in their literals

`mapTexts` changes the texts that a description gives for literals: values of enums, defaults, names
and paths on the wire, and what results mean. Code for the changed texts has the outline of the code
for the texts as they were, so a text can do no more than change what its literal stands for.
-/

namespace TypedClient

/-! ## Changed texts -/

namespace Value

mutual

/-- A value with its texts and its keys changed. -/
def mapTexts (f : String → String) : Value → Value
  | .text s => .text (f s)
  | .list items => .list (mapTextsOfItems f items)
  | .mapping entries => .mapping (mapTextsOfEntries f entries)
  | .null => .null
  | .bool b => .bool b
  | .int n => .int n
  | .int64 n => .int64 n
  | .uint n => .uint n
  | .float x => .float x

/-- The items of a list with their texts changed. -/
def mapTextsOfItems (f : String → String) : List Value → List Value
  | [] => []
  | v :: rest => v.mapTexts f :: mapTextsOfItems f rest

/-- The entries of a mapping with their texts and keys changed. -/
def mapTextsOfEntries (f : String → String) : List (String × Value) → List (String × Value)
  | [] => []
  | (key, v) :: rest => (f key, v.mapTexts f) :: mapTextsOfEntries f rest

end

theorem isNull_mapTexts (f : String → String) (v : Value) : (v.mapTexts f).isNull = v.isNull := by
  cases v <;> rfl

end Value

/-- A member of an enum with its value changed. -/
def EnumMember.mapTexts (f : String → String) (e : EnumMember) : EnumMember :=
  { e with value := e.value.mapTexts f }

/-- Traits with the values of an enum changed. -/
def Traits.mapTexts (f : String → String) (t : Traits) : Traits :=
  { t with enum := t.enum.map (EnumMember.mapTexts f) }

/-- A model with the values of its enums changed, and of those below it. -/
def Model.mapTexts (f : String → String) (m : Model) : Model :=
  m.mapTraits (Traits.mapTexts f)

namespace Model

variable (f : String → String) (m : Model)

theorem isAbsent_mapTexts : (m.mapTexts f).isAbsent = m.isAbsent :=
  isAbsent_mapNodes _ _ m

theorem description_mapTexts : (m.mapTexts f).traits.description = m.traits.description :=
  traits_mapNodes (f := Traits.mapTexts f) _ Traits.description (fun _ => rfl) m

theorem deprecated_mapTexts : (m.mapTexts f).traits.deprecated = m.traits.deprecated :=
  traits_mapNodes (f := Traits.mapTexts f) _ Traits.deprecated (fun _ => rfl) m

end Model

/-- A parameter with its name on the wire, its default and its values changed. -/
def Parameter.mapTexts (f : String → String) (p : Parameter) : Parameter :=
  { p with name := f p.name, default := p.default.mapTexts f, model := p.model.mapTexts f }

/-- A result with its meaning and its values changed. -/
def Result.mapTexts (f : String → String) (r : Result) : Result :=
  { r with description := f r.description, model := r.model.mapTexts f }

/-- An operation with its path and the texts of its parameters and results changed. -/
def Operation.mapTexts (f : String → String) (op : Operation) : Operation :=
  { op with
    path := f op.path
    parameters := op.parameters.map (Parameter.mapTexts f)
    results := op.results.map (Result.mapTexts f) }

namespace TypeScript

variable {f : String → String}

/-- What holds of two images of each item holds of the two lists of images. -/
theorem forall₂_images {α β γ : Type} {S : β → γ → Prop} {g : α → β} {h : α → γ} {items : List α}
    (hall : ∀ a ∈ items, S (g a) (h a)) : List.Forall₂ S (items.map g) (items.map h) := by
  rw [List.forall₂_map_left_iff, List.forall₂_map_right_iff, List.forall₂_same]
  exact hall

/-! ## Literals -/

section Json

theorem rel_bind {α β : Type} {R : α → α → Prop} {S : β → β → Prop} {x x' : Option α}
    {g g' : α → Option β} (hx : Option.Rel R x x')
    (hg : ∀ a a', R a a' → Option.Rel S (g a) (g' a')) :
    Option.Rel S (x.bind g) (x'.bind g') := by
  cases hx with
  | none => exact .none
  | some h => exact hg _ _ h

theorem rel_map {α β : Type} {R : α → α → Prop} {S : β → β → Prop} {x x' : Option α}
    {g g' : α → β} (hx : Option.Rel R x x') (hg : ∀ a a', R a a' → S (g a) (g' a')) :
    Option.Rel S (x.map g) (x'.map g') := by
  cases hx with
  | none => exact .none
  | some h => exact .some (hg _ _ h)

theorem rel_getD {α : Type} {R : α → α → Prop} {x x' : Option α} {a : α}
    (hx : Option.Rel R x x') (ha : R a a) : R (x.getD a) (x'.getD a) := by
  cases hx with
  | none => exact ha
  | some h => exact h

variable {style : Json.Style}

/-- The parts of a list or an object, between their brackets. -/
theorem sameOutline_bracket (hnewline : ∀ depth, IsCode (style.newline depth)) {depth : Nat}
    {first last : String} (hfirst : IsCode first) (hlast : IsCode last)
    {parts parts' : List String} (h : List.Forall₂ SameOutline parts parts') :
    SameOutline (Json.bracket style depth first last parts)
      (Json.bracket style depth first last parts') := by
  have hcomma : IsCode ("," ++ style.newline (depth + 1)) :=
    IsCode.append (by decide) (hnewline (depth + 1))
  cases h with
  | nil => exact .of_isCode (hfirst.append hlast)
  | cons hpart hparts =>
      have hall := SameOutline.intercalate (.of_isCode hcomma) (.cons hpart hparts)
      exact ((hall.behind (hfirst.append (hnewline (depth + 1)))).before (hnewline depth)).before
        hlast

/-- The JSON texts of items are alike when that of each item is. -/
theorem rel_itemTexts? {items : List Value} (h : ∀ v ∈ items, ∀ depth,
      Option.Rel SameOutline (Json.text? style depth v) (Json.text? style depth (v.mapTexts f)))
    (depth : Nat) : Option.Rel (List.Forall₂ SameOutline) (Json.itemTexts? style depth items)
      (Json.itemTexts? style depth (Value.mapTextsOfItems f items)) := by
  induction items with
  | nil => exact .some .nil
  | cons v items ih =>
      rw [List.forall_mem_cons] at h
      exact rel_bind (h.1 depth) (fun _ _ hs =>
        rel_bind (ih h.2) (fun _ _ hrest => .some (.cons hs hrest)))

/-- The JSON texts of entries are alike when that of each value is, whatever the keys are. -/
theorem rel_entryTexts? (hcolon : IsCode style.colon) {entries : List (String × Value)}
    (h : ∀ e ∈ entries, ∀ depth,
      Option.Rel SameOutline (Json.text? style depth e.2) (Json.text? style depth (e.2.mapTexts f)))
    (depth : Nat) : Option.Rel (List.Forall₂ SameOutline) (Json.entryTexts? style depth entries)
      (Json.entryTexts? style depth (Value.mapTextsOfEntries f entries)) := by
  induction entries with
  | nil => exact .some .nil
  | cons e entries ih =>
      rw [List.forall_mem_cons] at h
      have hkey := (sameOutline_jsonQuoted style.markup e.1 (f e.1)).before hcolon
      exact rel_bind (h.1 depth) (fun _ _ hs =>
        rel_bind (ih h.2) (fun _ _ hrest => .some (.cons (hkey.append hs) hrest)))

/-- A value with its texts changed has JSON texts of one outline, or none has one. -/
theorem rel_jsonText? (hnewline : ∀ depth, IsCode (style.newline depth))
    (hcolon : IsCode style.colon) (v : Value) (depth : Nat) :
    Option.Rel SameOutline (Json.text? style depth v) (Json.text? style depth (v.mapTexts f)) := by
  induction v using Value.induction_on_parts generalizing depth with
  | scalar v hlist hmapping =>
      cases v with
      | list => cases hlist
      | mapping => cases hmapping
      | null => exact .some (.of_isCode (by decide))
      | bool b => exact .some (.of_isCode (by cases b <;> decide))
      | int n => exact .some (.of_isCode (isCode_of_isWord (isWord_int n)))
      | int64 n => exact .some (.of_isCode (isCode_of_isWord (isWord_int n)))
      | uint n => exact .some (.of_isCode (isCode_of_isWord (isWord_nat n)))
      | float x =>
          rw [Value.mapTexts, Json.text?]
          split
          · exact .some (.of_isCode (isCode_number _ x))
          · exact .none
      | text s => exact .some (sameOutline_jsonQuoted style.markup s (f s))
  | list items ih =>
      exact rel_map (rel_itemTexts? ih (depth + 1))
        (fun _ _ => sameOutline_bracket hnewline (by decide) (by decide))
  | mapping entries ih =>
      exact rel_map (rel_entryTexts? hcolon ih (depth + 1))
        (fun _ _ => sameOutline_bracket hnewline (by decide) (by decide))

end Json

theorem rel_compact (v : Value) : Option.Rel SameOutline (Json.text? Json.compact 0 v)
    (Json.text? Json.compact 0 (v.mapTexts f)) :=
  rel_jsonText? (fun _ => (by decide : IsCode "")) (by decide) v 0

theorem rel_indented (v : Value) : Option.Rel SameOutline (Json.text? Json.indented 0 v)
    (Json.text? Json.indented 0 (v.mapTexts f)) := by
  refine rel_jsonText? (fun depth => IsCode.append (by decide) (isCode_of_blank (fun c hc => ?_)))
    (by decide) v 0
  rw [String.toList_ofList] at hc
  exact List.eq_of_mem_replicate hc

/-- A literal for another value of the same kind. -/
theorem sameOutline_literal (v : Value) : SameOutline (literal v) (literal (v.mapTexts f)) := by
  have hjson : SameOutline ((Json.text? Json.compact 0 v).getD "undefined")
      ((Json.text? Json.compact 0 (v.mapTexts f)).getD "undefined") :=
    rel_getD (rel_compact v) (.of_isCode (by decide))
  cases v with
  | null => exact .of_isCode (by decide)
  | bool b => exact .of_isCode (by cases b <;> decide)
  | float x => exact .of_isCode (isCode_number _ x)
  | text s => exact sameOutline_quoted s (f s)
  | int | int64 | uint | list | mapping => exact hjson

/-! ## Type expressions -/

section Types

variable {s s' indent : String} {texts texts' : List String}

theorem SameOutline.joined {operator : String} (hoperator : IsCode operator)
    (h : List.Forall₂ SameOutline texts texts') :
    SameOutline (joined operator texts) (joined operator texts') := by
  match texts, texts', h with
  | [], [], _ => exact .of_isCode (by decide : IsCode "any")
  | [_], [_], .cons hs .nil => exact hs
  | _ :: _ :: _, _ :: _ :: _, h =>
      exact ((SameOutline.intercalate (.of_isCode hoperator) h).behind (by decide)).before
        (by decide)

/-- Null is added to both of two type expressions or to none: one that is `any` or `null` can be
told by its outline. -/
theorem SameOutline.orNull (h : SameOutline s s') (nullable : Bool) :
    SameOutline (orNull nullable s) (orNull nullable s') := by
  have hany : (s != "any") = (s' != "any") := by
    rw [Bool.eq_iff_iff, bne_iff_ne, bne_iff_ne]
    exact not_congr (h.eq_iff (by decide))
  have hnull : (s != "null") = (s' != "null") := by
    rw [Bool.eq_iff_iff, bne_iff_ne, bne_iff_ne]
    exact not_congr (h.eq_iff (by decide))
  unfold TypeScript.orNull
  rw [hany, hnull]
  split
  · exact h.before (by decide)
  · exact h

theorem SameOutline.orAny (h : SameOutline s s') :
    SameOutline (if s = "" then "any" else s) (if s' = "" then "any" else s') := by
  by_cases hs : s = ""
  · rw [if_pos hs, if_pos ((h.eq_iff (by decide)).1 hs)]
    exact .of_isCode (by decide)
  · rw [if_neg hs, if_neg (fun hs' => hs ((h.eq_iff (by decide)).2 hs'))]
    exact h

theorem sameOutline_choiceText (members : List EnumMember) :
    SameOutline (choiceText members) (choiceText (members.map (EnumMember.mapTexts f))) := by
  have hliterals : List.Forall₂ SameOutline (members.map (fun e => literal e.value))
      ((members.map (EnumMember.mapTexts f)).map (fun e => literal e.value)) := by
    rw [List.map_map]
    exact forall₂_images (fun e _ => sameOutline_literal e.value)
  unfold choiceText
  generalize members.map (fun e => literal e.value) = texts at hliterals
  generalize (members.map _).map _ = texts' at hliterals
  match texts, texts', hliterals with
  | [], [], _ => exact .empty
  | [_], [_], .cons hs .nil => exact hs
  | _ :: _ :: _, _ :: _ :: _, h =>
      exact ((SameOutline.intercalate (.of_isCode (by decide)) h).behind (by decide)).before
        (by decide)

theorem propertyKey_ne_empty (name : String) : Naming.propertyKey name ≠ "" := by
  unfold Naming.propertyKey
  split
  case isTrue hname =>
    rintro rfl
    exact absurd hname (by decide)
  case isFalse => simp [Text.quote, Text.Quoted.encode]

/-- The key of a property is code, or a literal. -/
theorem sameOutline_propertyKey (name : String) :
    SameOutline (Naming.propertyKey name) (Naming.propertyKey name) := by
  by_cases hname : Naming.isIdentifier name = true
  · rw [Naming.propertyKey, if_pos hname]
    exact .of_isCode (isCode_of_isWord (isWord_of_isIdentifier hname))
  · have hvalue := propertyName?_propertyKey name
    rw [Naming.propertyKey, if_neg hname] at hvalue ⊢
    rw [propertyName?, isMemberName_quote, if_neg Bool.false_ne_true] at hvalue
    exact .of_stringValue? hvalue hvalue rfl

/-- The properties of an object type, with their comments. -/
theorem sameOutline_properties (hindent : ∀ c ∈ indent.toList, c = ' ')
    {ps : List (Property Model)} (hkeys : ∀ p ∈ ps, p.exportName = Naming.propertyKey p.name)
    (h : ∀ p ∈ ps, SameOutline (typeText indent p.model) (typeText indent (p.model.mapTexts f))) :
    SameOutline (propertyTexts indent ps)
      (propertyTexts indent (ps.map (fun p => { p with model := p.model.mapTexts f }))) := by
  induction ps with
  | nil => exact .empty
  | cons p ps ih =>
      rw [List.forall_mem_cons] at hkeys h
      obtain ⟨name, exportName, required, m⟩ := p
      have hcomment : SameOutline
          (if m.isAbsent then ""
            else documentation indent m.traits.description m.traits.deprecated)
          (if (m.mapTexts f).isAbsent then ""
            else documentation indent (m.mapTexts f).traits.description
              (m.mapTexts f).traits.deprecated) := by
        rw [Model.isAbsent_mapTexts, Model.description_mapTexts, Model.deprecated_mapTexts]
        split
        · exact .empty
        · exact sameOutline_documentation hindent _ _
      have hkey : SameOutline (if exportName = "" then name else exportName)
          (if exportName = "" then name else exportName) := by
        obtain rfl : exportName = Naming.propertyKey name := hkeys.1
        rw [if_neg (propertyKey_ne_empty name)]
        exact sameOutline_propertyKey name
      have hmark : IsCode (if required then "" else "?") := by cases required <;> decide
      rw [List.map_cons, propertyTexts, propertyTexts]
      exact (((((((hcomment.before (isCode_of_blank hindent)).append hkey).before hmark).before
        (by decide)).append h.1).before (by decide)).append (ih hkeys.2 h.2))

theorem isCode_primitiveText (type format : String) : IsCode (primitiveText type format) := by
  unfold primitiveText
  split
  case h_3 => split <;> decide
  all_goals decide

theorem forall₂_memberTexts {ms : List Model}
    (h : ∀ m ∈ ms, SameOutline (typeText indent m) (typeText indent (m.mapTexts f))) :
    List.Forall₂ SameOutline (memberTexts indent ms)
      (memberTexts indent (ms.map (Model.mapTexts f))) := by
  rw [memberTexts_eq_map, memberTexts_eq_map, List.map_map]
  exact forall₂_images h

/-- The type expression of a model for other values of its enums. -/
theorem sameOutline_typeText {m : Model} (hm : m.Spelled)
    (hindent : ∀ c ∈ indent.toList, c = ' ') :
    SameOutline (typeText indent m) (typeText indent (m.mapTexts f)) := by
  induction m using Model.parts_induction generalizing indent with
  | h m ih =>
      cases m with
      | absent => exact .of_isCode (by decide : IsCode "any")
      | node t ps i ms =>
          have hpart : ∀ k ∈ (Model.node t ps i ms).parts, ∀ indent : String,
              (∀ c ∈ indent.toList, c = ' ') →
              SameOutline (typeText indent k) (typeText indent (k.mapTexts f)) :=
            fun k hk _ => ih k hk (hm.of_mem_parts hk)
          have hkind : (t.mapTexts f).kind = t.kind := rfl
          rw [Model.mapTexts, Model.mapTraits, Model.mapNodes_node, typeText, typeText, hkind]
          rw [Model.parts] at hpart
          refine .orNull (.orAny ?_) t.nullable
          cases hk : t.kind with
          | reference =>
              have href : t ∈ (Model.node t ps i ms).referenceNodes :=
                List.mem_filter.2 ⟨by rw [Model.nodes]; simp, decide_eq_true hk⟩
              exact .of_isCode (isCode_of_isWord (isWord_of_isTypeName (hm.target t href)))
          | generic => exact .of_isCode (isCode_primitiveText _ _)
          | enum => exact sameOutline_choiceText t.enum
          | array | dictionary =>
              simp only [hk, List.forall_mem_singleton] at hpart
              exact ((hpart indent hindent).behind (by decide)).before (by decide)
          | allOf | oneOf | anyOf =>
              simp only [hk] at hpart
              exact .joined (by decide) (forall₂_memberTexts (fun k hmem => hpart k hmem _ hindent))
          | interface =>
              simp only [hk, List.forall_mem_map] at hpart
              have hproperties := sameOutline_properties (forall_mem_deeper hindent)
                ((Model.keyed_iff.1 hm.keyed).1 hk)
                (fun p hp => hpart p hp _ (forall_mem_deeper hindent))
              dsimp only
              rw [List.isEmpty_map]
              split
              · exact .of_isCode (by decide)
              · exact ((hproperties.behind (by decide)).before (isCode_of_blank hindent)).before
                  (by decide)
          | other label => exact .of_isCode (by decide : IsCode "any")

end Types

/-! ## Methods -/

section Methods

theorem isCode_of_isBindingName {name : String} (h : Naming.isBindingName name = true) :
    IsCode name := by
  obtain ⟨c, tail, hname, hc, htail⟩ := Naming.isShaped_iff.1 (Naming.isBindingName_iff.1 h).1
  rw [IsCode, hname, List.forall_mem_cons]
  exact ⟨isCode_of_test (by decide) hc, fun d hd => isCode_of_test (by decide) (htail d hd)⟩

theorem isBlank_parameterIndent : ∀ c ∈ parameterIndent.toList, c = ' ' := by
  simp [parameterIndent]

variable {p : Parameter} {op : Operation}

theorem sameOutline_positional (hname : IsCode p.exportName) (hmodel : p.model.Spelled) :
    SameOutline (positional p) (positional (p.mapTexts f)) := by
  have htype : SameOutline (typeText parameterIndent p.model)
      (typeText parameterIndent (p.model.mapTexts f)) :=
    sameOutline_typeText hmodel isBlank_parameterIndent
  have hmark : IsCode (if p.required then ": " else "?: ") := by cases p.required <;> decide
  have hnull : (p.mapTexts f).default.isNull = p.default.isNull := Value.isNull_mapTexts f p.default
  unfold positional
  rw [hnull]
  dsimp only [Parameter.mapTexts]
  split
  · exact ((htype.behind (hname.append (by decide))).before (by decide)).append
      (sameOutline_literal p.default)
  · exact htype.behind (hname.append hmark)

theorem sameOutline_destructured (hname : IsCode p.exportName) :
    SameOutline (destructured p) (destructured (p.mapTexts f)) := by
  have hnull : (p.mapTexts f).default.isNull = p.default.isNull := Value.isNull_mapTexts f p.default
  have hdefault : SameOutline (if p.default.isNull then "" else " = " ++ literal p.default)
      (if p.default.isNull then "" else " = " ++ literal (p.default.mapTexts f)) := by
    split
    · exact .empty
    · exact (sameOutline_literal p.default).behind (by decide)
  unfold destructured
  rw [hnull]
  exact (hdefault.behind ((isCode_of_blank isBlank_parameterIndent).append hname)).before
    (by decide)

theorem sameOutline_destructuredType (hname : IsCode p.exportName) (hmodel : p.model.Spelled) :
    SameOutline (destructuredType p) (destructuredType (p.mapTexts f)) := by
  have htype : SameOutline (typeText parameterIndent p.model)
      (typeText parameterIndent (p.model.mapTexts f)) :=
    sameOutline_typeText hmodel isBlank_parameterIndent
  have hmark : IsCode (if p.required then "" else "?") := by cases p.required <;> decide
  have hcomment := sameOutline_documentation isBlank_parameterIndent p.description false
  unfold destructuredType
  exact (((((hcomment.before (isCode_of_blank isBlank_parameterIndent)).before hname).before
    hmark).before (by decide)).append htype).before (by decide)

/-- Texts that are written for the parameters of an operation, one by one. -/
theorem forall₂_parameters {write write' : Parameter → String}
    (h : ∀ p ∈ op.parameters, SameOutline (write p) (write' (p.mapTexts f))) :
    List.Forall₂ SameOutline (op.parameters.map write)
      ((op.mapTexts f).parameters.map write') := by
  rw [Operation.mapTexts, List.map_map]
  exact forall₂_images h

theorem sameOutline_signature (choices : Choices) (hop : op.Spelled) :
    SameOutline (signature choices op) (signature choices (op.mapTexts f)) := by
  have hname : ∀ p ∈ op.parameters, IsCode p.exportName :=
    fun p hp => isCode_of_isBindingName (hop.parameter p hp)
  have hmodel : ∀ p ∈ op.parameters, p.model.Spelled := fun p hp =>
    hop.model p.model (List.mem_append_left _ (List.mem_map_of_mem hp))
  have hempty : (op.mapTexts f).parameters.isEmpty = op.parameters.isEmpty := List.isEmpty_map
  have hany : (op.mapTexts f).parameters.any (·.required) = op.parameters.any (·.required) :=
    List.any_map
  have hnames := SameOutline.join (forall₂_parameters (f := f)
    (fun p hp => sameOutline_destructured (hname p hp)))
  have htypes := SameOutline.join (forall₂_parameters (f := f)
    (fun p hp => sameOutline_destructuredType (hname p hp) (hmodel p hp)))
  have hlist := SameOutline.intercalate (d := ",\n" ++ parameterIndent) (.of_isCode (by decide))
    (forall₂_parameters (f := f) (fun p hp => sameOutline_positional (hname p hp) (hmodel p hp)))
  have hlast : IsCode (if op.parameters.any (·.required) then "" else " = \x7b\x7d") := by
    split <;> decide
  unfold signature
  rw [hempty, hany]
  split
  · exact .empty
  · split
    · exact (((((hnames.behind (by decide)).before (by decide)).append htypes).before
        (by decide)).before hlast)
    · exact (hlist.behind (by decide)).before (by decide)

theorem success?_mapTexts (op : Operation) :
    (op.mapTexts f).success? = op.success?.map (Result.mapTexts f) := by
  rw [Operation.success?, Operation.mapTexts, List.find?_map]
  rfl

theorem sameOutline_resultText (hop : op.Spelled) :
    SameOutline (resultText op) (resultText (op.mapTexts f)) := by
  unfold resultText
  rw [success?_mapTexts]
  cases hsuccess : op.success? with
  | none => exact .of_isCode (by decide)
  | some r =>
      have hmem : r.model ∈ op.models :=
        List.mem_append_right _ (List.mem_map_of_mem (List.mem_of_find?_eq_some hsuccess))
      dsimp only [Option.map_some, Result.mapTexts]
      rw [Model.isAbsent_mapTexts]
      split
      · exact .of_isCode (by decide)
      · exact sameOutline_typeText (hop.model r.model hmem) (by simp)

theorem sameOutline_operationComment (op : Operation) :
    SameOutline (operationComment op) (operationComment (op.mapTexts f)) :=
  sameOutline_comment (by simp) _ _

/-- An object of the request is there for both or for none. -/
theorem sameOutline_requestObject {name : String} (hname : IsCode name)
    {entries entries' : List String} (h : List.Forall₂ SameOutline entries entries') :
    SameOutline (requestObject name entries) (requestObject name entries') := by
  have hlines : List.Forall₂ SameOutline
      (entries.map (fun e => "\n                " ++ e ++ ","))
      (entries'.map (fun e => "\n                " ++ e ++ ",")) := by
    rw [List.forall₂_map_left_iff, List.forall₂_map_right_iff]
    exact h.imp (fun _ _ he => (he.behind (by decide)).before (by decide))
  have hall := ((SameOutline.join hlines).behind
    (((by decide : IsCode "\n            ").append hname).append
      (by decide : IsCode ": \x7b"))).before (by decide : IsCode "\n            \x7d,")
  cases h with
  | nil => exact .empty
  | cons => exact hall

theorem forall₂_located (hop : op.Spelled) (location : Location) :
    List.Forall₂ SameOutline (located op location) (located (op.mapTexts f) location) := by
  have hentries : located (op.mapTexts f) location =
      (op.parameters.filter (fun p => p.location = location)).map (fun p =>
        quoted (f p.name) ++ ": " ++ p.exportName) := by
    rw [located, Operation.mapTexts, List.filter_map, List.map_map]
    rfl
  rw [hentries, located]
  refine forall₂_images (fun p hp => ?_)
  exact ((sameOutline_quoted p.name (f p.name)).before (by decide)).before
    (isCode_of_isBindingName (hop.parameter p (List.mem_filter.1 hp).1))

theorem sameOutline_requestBody (hop : op.Spelled) :
    SameOutline (requestBody op) (requestBody (op.mapTexts f)) := by
  have hfind : (op.mapTexts f).parameters.find? (fun p => p.location = .body) =
      (op.parameters.find? (fun p => p.location = .body)).map (Parameter.mapTexts f) := by
    rw [Operation.mapTexts, List.find?_map]
    rfl
  unfold requestBody
  rw [hfind]
  cases hbody : op.parameters.find? (fun p => p.location = .body) with
  | none => exact .empty
  | some p =>
      have hname := isCode_of_isBindingName (hop.parameter p (List.mem_of_find?_eq_some hbody))
      have hkey : IsCode (if isForm p.mediaType then "formData" else "body") := by split <;> decide
      exact ((sameOutline_quoted p.mediaType p.mediaType).behind
        (((((by decide : IsCode "\n            ").append hkey).append (by decide)).append
          hname).append (by decide))).before (by decide)

theorem forall₂_numberedFailures (op : Operation) :
    List.Forall₂ SameOutline
      ((numberedFailures op).map (fun r => toString r.code ++ ": " ++ template r.description))
      ((numberedFailures (op.mapTexts f)).map (fun r =>
        toString r.code ++ ": " ++ template r.description)) := by
  have hfailures : (op.mapTexts f).failures = op.failures.map (Result.mapTexts f) := by
    rw [Operation.failures, Operation.mapTexts, List.filter_map]
    rfl
  have hcode : ∀ r : Result, (if Text.trim r.description = ""
      then { r with description := statusText r.code } else r).code = r.code := by
    intro r
    split <;> rfl
  unfold numberedFailures
  rw [hfailures, List.filter_map, List.map_map, List.map_map, List.map_map]
  refine forall₂_images (fun r _ => ?_)
  simp only [Function.comp_apply, hcode]
  exact (sameOutline_template _ _).behind
    ((isCode_of_isWord (isWord_int r.code)).append (by decide))

/-- The verb of a request stands between quotes. -/
theorem sameOutline_verb {m : Method} (h : m ∈ Method.known) :
    SameOutline ("            method: '" ++ Text.upper m.label ++ "',\n")
      ("            method: '" ++ Text.upper m.label ++ "',\n") := by
  have hall : ∀ m ∈ Method.known,
      (outline? ("            method: '" ++ Text.upper m.label ++ "',\n")).isSome = true := by
    decide +kernel
  exact .refl (hall m h)

/-- A method, with the line of the verb as one piece. -/
theorem methodText_eq (choices : Choices) (op : Operation) :
    methodText choices op =
      "\n" ++ operationComment op ++ ("    public static " ++ op.name ++ "(") ++
        signature choices op ++ "): CancelablePromise<" ++ resultText op ++
        "> \x7b\n" ++ "        return __request(OpenAPI, \x7b\n" ++
        ("            method: '" ++ Text.upper op.method.label ++ "',\n") ++
        "            url: " ++ quoted op.path ++ "," ++
        requestObject "path" (located op .path) ++ requestObject "cookies" (located op .cookie) ++
        requestObject "headers" (located op .header) ++
        requestObject "query" (located op .query) ++ requestBody op ++
        requestObject "errors" ((numberedFailures op).map (fun r =>
          toString r.code ++ ": " ++ template r.description)) ++
        "\n        \x7d);\n    \x7d" := by
  unfold methodText
  simp only [String.append_assoc]

theorem sameOutline_methodText (choices : Choices) (hop : op.Spelled) :
    SameOutline (methodText choices op) (methodText choices (op.mapTexts f)) := by
  have hname : IsCode ("    public static " ++ op.name ++ "(") :=
    (IsCode.append (by decide) (isCode_of_isBindingName hop.name)).append (by decide)
  have hobject : ∀ (name : String) (location : Location), IsCode name → SameOutline
      (requestObject name (located op location))
      (requestObject name (located (op.mapTexts f) location)) :=
    fun _ location hcode => sameOutline_requestObject hcode (forall₂_located hop location)
  have herrors := sameOutline_requestObject (by decide : IsCode "errors")
    (forall₂_numberedFailures (f := f) op)
  have hsignature := sameOutline_signature (f := f) choices hop
  have hresult := sameOutline_resultText (f := f) hop
  have hstart := ((sameOutline_operationComment (f := f) op).behind
    (by decide : IsCode "\n")).before hname
  have htyped := ((hstart.append hsignature).before
    (by decide : IsCode "): CancelablePromise<")).append hresult
  have hhead := (htyped.before (by decide : IsCode "> \x7b\n")).before
    (by decide : IsCode "        return __request(OpenAPI, \x7b\n")
  have hurl := ((hhead.append (sameOutline_verb hop.method)).before
    (by decide : IsCode "            url: ")).append (sameOutline_quoted op.path (f op.path))
  have hplaces := ((((hurl.before (by decide : IsCode ",")).append
    (hobject "path" .path (by decide))).append (hobject "cookies" .cookie (by decide))).append
    (hobject "headers" .header (by decide))).append (hobject "query" .query (by decide))
  rw [methodText_eq, methodText_eq]
  exact ((hplaces.append (sameOutline_requestBody hop)).append herrors).before (by decide)

end Methods

end TypeScript

end TypedClient
