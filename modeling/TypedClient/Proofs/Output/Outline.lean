import TypedClient.Proofs.Output.Imports
import TypedClient.Proofs.Output.Index
import TypedClient.Proofs.TypeScript.Enclosure

/-!
# Outlines of files

`Client.mapTexts` changes the texts that a client has for literals. The code of the changed client
has the links of the code before and the outlines of all that stands between them, in the same
files, so nothing that a description has for a literal gets out of it.
-/

namespace TypedClient

/-- A service with the texts of its operations changed. -/
def Service.mapTexts (f : String → String) (s : Service) : Service :=
  { s with operations := s.operations.map (Operation.mapTexts f) }

/-- A raw schema with its texts and its keys changed. -/
def RawSchema.mapTexts (f : String → String) (s : RawSchema) : RawSchema :=
  { s with raw := s.raw.mapTexts f }

/-- A client with its texts changed: its version, the address of the server, and those of its
models, services and schemas. -/
def Client.mapTexts (f : String → String) (c : Client) : Client where
  version := f c.version
  server := f c.server
  models := c.models.map (Model.mapTexts f)
  services := c.services.map (Service.mapTexts f)
  schemas := c.schemas.map (RawSchema.mapTexts f)

namespace TypeScript

variable {f : String → String} {choices : Choices}

/-! ## Links -/

/-- Two pieces of files are alike: a link is the same, and other text has one outline. -/
inductive Piece.Alike : Piece → Piece → Prop where
  | plain {s t : String} (h : SameOutline s t) : Alike (.plain s) (.plain t)
  | link (l : Link) : Alike (.link l) (.link l)

/-- A link between files whose place is plain has its quotes in the outline. -/
theorem sameOutline_link {l : Link} (hkeyword : IsCode l.keyword) (hnames : IsCode l.names)
    (hdirectory : IsPlain l.directory) (hfile : IsPlain l.file) :
    SameOutline l.text l.text := by
  have hplace : IsPlain (l.directory ++ "/" ++ l.file) :=
    (hdirectory.append (by decide)).append hfile
  have hvalue := stringValue?_ofList (.inr rfl) (Reading.transduce_plain hplace)
  have hline : l.text = l.keyword ++ " \x7b " ++ l.names ++ " \x7d from " ++
      String.ofList ('\x27' :: (l.directory ++ "/" ++ l.file).toList ++ ['\x27']) ++ ";\n" := by
    apply String.toList_inj.1
    simp [Link.text, exportLine]
  rw [hline]
  exact ((SameOutline.of_stringValue? hvalue hvalue rfl).behind
    (((hkeyword.append (by decide)).append hnames).append (by decide))).before (by decide)

/-- The link to a type that has the name of its file. -/
theorem sameOutline_ofType {directory name : String} (hdirectory : IsPlain directory)
    (hname : Naming.isTypeName name = true) :
    SameOutline (Link.ofType directory name).text (Link.ofType directory name).text :=
  have hword := isWord_of_isTypeName hname
  sameOutline_link (l := .ofType directory name) (by decide : IsCode "import type")
    (isCode_of_isWord hword) hdirectory (isPlain_of_isWord hword)

/-- Files of pieces that are alike have one outline when their links do. -/
theorem sameOutline_textOf {pieces pieces' : List Piece}
    (h : List.Forall₂ Piece.Alike pieces pieces')
    (hlinks : ∀ l, .link l ∈ pieces → SameOutline l.text l.text) :
    SameOutline (Piece.textOf pieces) (Piece.textOf pieces') := by
  induction h with
  | nil => exact .empty
  | cons hpiece _ ih =>
      rw [textOf_cons, textOf_cons]
      refine .append ?_ (ih (fun l hl => hlinks l (List.mem_cons_of_mem _ hl)))
      cases hpiece with
      | plain hs => exact hs
      | link l => exact hlinks l List.mem_cons_self

theorem sameOutline_header : SameOutline header header :=
  .refl (by decide +kernel)

/-! ## Models -/

section Models

variable {m : Model}

theorem name_mapTexts : (m.mapTexts f).name = m.name :=
  Model.traits_mapNodes (f := Traits.mapTexts f) _ Traits.name (fun _ => rfl) m

theorem imports_mapTexts : (m.mapTexts f).traits.imports = m.traits.imports :=
  Model.traits_mapNodes (f := Traits.mapTexts f) _ Traits.imports (fun _ => rfl) m

theorem enum_mapTexts : (m.mapTexts f).traits.enum = m.traits.enum.map (EnumMember.mapTexts f) := by
  cases m <;> rfl

/-- Values that are changed keep their kinds, and an enum its declaration. -/
theorem isEnum_mapTexts : isEnum choices (m.mapTexts f) = isEnum choices m := by
  have hkind : (m.mapTexts f).kind = m.kind :=
    Model.traits_mapNodes (f := Traits.mapTexts f) _ Traits.kind (fun _ => rfl) m
  have hvalue : ∀ v : Value, isEnumValue (v.mapTexts f) = isEnumValue v := fun v => by
    cases v <;> rfl
  simp [isEnum, hkind, enum_mapTexts, EnumMember.mapTexts, hvalue, Function.comp_def]

theorem sameOutline_enumMemberText {e : EnumMember} (hname : IsCode e.name) :
    SameOutline (enumMemberText e) (enumMemberText (e.mapTexts f)) := by
  have hcomment : SameOutline (documentation "    " e.description false)
      (documentation "    " e.description false) := sameOutline_documentation (by simp) _ _
  unfold enumMemberText
  exact ((((hcomment.before (by decide)).before hname).before (by decide)).append
    (sameOutline_literal e.value)).before (by decide)

theorem sameOutline_declaration (hm : m.Declared) :
    SameOutline (declaration choices m) (declaration choices (m.mapTexts f)) := by
  have hname : IsCode m.name := isCode_of_isWord (isWord_of_isTypeName hm.name)
  unfold declaration
  rw [isEnum_mapTexts, name_mapTexts]
  split
  case isTrue henum =>
    have hkind : m.kind = .enum := by simp_all [isEnum]
    have hmembers := SameOutline.join (forall₂_images (h := enumMemberText ∘ EnumMember.mapTexts f)
      (fun e he => sameOutline_enumMemberText (hm.member hkind e he)))
    rw [enum_mapTexts, List.map_map]
    exact (hmembers.behind (((by decide : IsCode "export enum ").append hname).append
      (by decide))).before (by decide)
  case isFalse =>
    exact ((sameOutline_typeText hm.toSpelled (by simp)).behind
      (((by decide : IsCode "export type ").append hname).append (by decide))).before (by decide)

/-- The file of a model has the same links, and the same outline. -/
theorem alike_modelPieces (hm : m.Declared) :
    List.Forall₂ Piece.Alike (modelPieces choices m) (modelPieces choices (m.mapTexts f)) := by
  have hcomment : SameOutline (documentation "" m.traits.description m.traits.deprecated)
      (documentation "" m.traits.description m.traits.deprecated) :=
    sameOutline_documentation (by simp) _ _
  have hdeclaration : SameOutline (declaration choices m) (declaration choices (m.mapTexts f)) :=
    sameOutline_declaration hm
  have hbody := (hcomment.behind (by decide : IsCode "\n")).append hdeclaration
  unfold modelPieces
  rw [imports_mapTexts, Model.description_mapTexts, Model.deprecated_mapTexts]
  exact .cons (.plain sameOutline_header)
    (List.rel_append (forall₂_images (fun name _ => .link _)) (.cons (.plain hbody) .nil))

theorem sameOutline_modelFile (hm : m.Declared) :
    SameOutline (modelFile choices m) (modelFile choices (m.mapTexts f)) := by
  rw [modelFile_eq, modelFile_eq]
  refine sameOutline_textOf (alike_modelPieces hm) (fun l hl => ?_)
  simp only [modelPieces, List.cons_append, List.mem_cons, List.mem_append, List.mem_map,
    reduceCtorEq, Piece.link.injEq, List.not_mem_nil, or_false, false_or] at hl
  obtain ⟨name, hname, rfl⟩ := hl
  exact sameOutline_ofType (by decide) (hm.imported name hname)

end Models

/-! ## Services -/

section Services

variable {s : Service} {modelsPath corePath : String}

/-- The file of a service has the same links, whatever the directories are, and the same outline
between them. -/
theorem alike_servicePieces (hs : s.Spelled) (modelsPath corePath : String) :
    List.Forall₂ Piece.Alike (servicePieces choices modelsPath corePath s)
      (servicePieces choices modelsPath corePath (s.mapTexts f)) := by
  have hname : IsCode s.name := isCode_of_isWord (isWord_of_isTypeName hs.name)
  have hmethods := SameOutline.join (forall₂_images (h := methodText choices ∘ Operation.mapTexts f)
    (fun op hop => sameOutline_methodText choices (hs.operation op hop)))
  rw [← List.map_map] at hmethods
  have hbody := (hmethods.behind (((by decide : IsCode "\nexport class ").append hname).append
    (by decide : IsCode "Service \x7b"))).before (by decide : IsCode "\n\x7d\n")
  -- the links have the user's directories, so they are compared as they are
  exact .cons (.plain sameOutline_header) (List.rel_append (forall₂_images (fun name _ => .link _))
    (.cons (.link _) (.cons (.link _) (.cons (.link _) (.cons (.plain hbody) .nil)))))

/-- In directories whose names are plain, the whole file has the same outline. -/
theorem sameOutline_serviceFile (hs : s.Spelled) (hmodels : IsPlain modelsPath)
    (hcore : IsPlain corePath) :
    SameOutline (serviceFile choices modelsPath corePath s)
      (serviceFile choices modelsPath corePath (s.mapTexts f)) := by
  rw [serviceFile_eq, serviceFile_eq]
  refine sameOutline_textOf (alike_servicePieces hs modelsPath corePath) (fun l hl => ?_)
  simp only [servicePieces, List.cons_append, List.mem_cons, List.mem_append, List.mem_map,
    reduceCtorEq, Piece.link.injEq, List.not_mem_nil, or_false, false_or] at hl
  rcases hl with ⟨name, hname, rfl⟩ | rfl | rfl | rfl
  · exact sameOutline_ofType hmodels (hs.imported name hname)
  · exact sameOutline_ofType hcore (by decide)
  · exact sameOutline_link (by decide : IsCode "import") (by decide : IsCode "OpenAPI") hcore
      (by decide : IsPlain "OpenAPI")
  · exact sameOutline_link (by decide : IsCode "import")
      (by decide : IsCode "request as __request") hcore (by decide : IsPlain "request")

end Services

/-! ## Schemas and settings -/

/-- A schema has a file when it has one with other texts, of the same outline. -/
theorem rel_schemaFile? {s : RawSchema} (hname : Naming.isTypeName s.name = true) :
    Option.Rel SameOutline (schemaFile? s) (schemaFile? (s.mapTexts f)) := by
  have hcode : IsCode s.name := isCode_of_isWord (isWord_of_isTypeName hname)
  have hraw : Option.Rel SameOutline (rawText? s.raw) (rawText? (s.raw.mapTexts f)) := by
    unfold rawText?
    rw [Value.isNull_mapTexts]
    split
    · exact .some (.of_isCode (by decide))
    · exact rel_indented s.raw
  exact rel_map hraw (fun _ _ htext => sameOutline_header.append ((htext.behind
    (((by decide : IsCode "export const $").append hcode).append (by decide))).before (by decide)))

/-- Fixed lines of code have an outline when each of them closes its literals. The characters of a
line are given, as taking them out of a long line is slow. -/
theorem sameOutline_code {lines : List String} (h : ∀ line ∈ lines, ∃ cs,
      line = String.ofList cs ∧
        (transduce Zone.step .code (cs.map bracedChar)).map Prod.snd = some .code) :
    SameOutline (code lines) (code lines) := by
  refine SameOutline.join (forall₂_images (fun line hline => ?_))
  obtain ⟨cs, rfl, hread⟩ := h line hline
  obtain ⟨⟨us, z⟩, hread, hz⟩ := Option.map_eq_some_iff.1 hread
  obtain rfl : z = .code := hz
  have houtline : outline? ((String.ofList cs).map bracedChar) = some us := by
    rw [outline?_eq_some_iff, String.toList_map, String.toList_ofList, hread]
  exact SameOutline.before ⟨us, houtline, houtline⟩ (by decide)

theorem sameOutline_settingsFile (server server' version version' : String) :
    SameOutline (settingsFile server version) (settingsFile server' version') := by
  have htype : SameOutline settingsType settingsType := by
    refine sameOutline_code ?_
    repeat refine List.forall_mem_cons.2 ⟨⟨_, rfl, by decide +kernel⟩, ?_⟩
    exact List.forall_mem_nil _
  have hfixed : SameOutline fixedSettings fixedSettings := by
    refine sameOutline_code ?_
    repeat refine List.forall_mem_cons.2 ⟨⟨_, rfl, by decide +kernel⟩, ?_⟩
    exact List.forall_mem_nil _
  have hbase := ((htype.before (by decide : IsCode "    BASE: ")).append
    (sameOutline_quoted server server')).before (by decide : IsCode ",\n    VERSION: ")
  have hversion := (hbase.append (sameOutline_quoted version version')).before
    (by decide : IsCode ",\n")
  unfold settingsFile headed
  exact sameOutline_header.append (hversion.append hfixed)

end TypeScript

open TypeScript

/-- The code of two clients differs inside of literals and comments only. -/
structure Client.SameCode (choices : Choices) (c c' : Client) : Prop where
  /-- The core files but one are the same. -/
  core : ∀ transport file, file ≠ .settings →
    CoreFile.text transport c' file = CoreFile.text transport c file
  settings : SameOutline (settingsFile c.server c.version) (settingsFile c'.server c'.version)
  model : List.Forall₂ (fun m m' => m'.name = m.name ∧
    SameOutline (modelFile choices m) (modelFile choices m')) c.models c'.models
  schema : List.Forall₂ (fun s s' => s'.name = s.name ∧
    Option.Rel SameOutline (schemaFile? s) (schemaFile? s')) c.schemas c'.schemas
  /-- The links of a service have directories that the user gives, which are between quotes as
  they are. -/
  service : List.Forall₂ (fun s s' => s'.name = s.name ∧ ∀ modelsPath corePath,
    List.Forall₂ Piece.Alike (servicePieces choices modelsPath corePath s)
      (servicePieces choices modelsPath corePath s') ∧
    (IsPlain modelsPath → IsPlain corePath → SameOutline
      (serviceFile choices modelsPath corePath s) (serviceFile choices modelsPath corePath s')))
    c.services c'.services
  index : ∀ exports dirs, indexFile choices exports dirs c' = indexFile choices exports dirs c

/-- The code of a client that is spelled as the code needs it does not depend on its texts. -/
theorem Client.Spelled.sameCode {c : Client} (hc : c.Spelled) (f : String → String)
    (choices : Choices) : c.SameCode choices (c.mapTexts f) where
  core transport file hfile := by
    cases file with
    | settings => exact absurd rfl hfile
    | apiError | apiRequestOptions | apiResult | cancelablePromise | request => rfl
  settings := sameOutline_settingsFile ..
  model := by
    refine List.forall₂_map_right_iff.2 (List.forall₂_same.2 (fun m hm => ?_))
    exact ⟨name_mapTexts, sameOutline_modelFile (hc.model m hm)⟩
  schema := by
    refine List.forall₂_map_right_iff.2 (List.forall₂_same.2 (fun s hs => ?_))
    exact ⟨rfl, rel_schemaFile? (hc.schema s hs)⟩
  service := by
    refine List.forall₂_map_right_iff.2 (List.forall₂_same.2 (fun s hs => ?_))
    have hspelled := hc.service s hs
    exact ⟨rfl, fun modelsPath corePath => ⟨alike_servicePieces hspelled modelsPath corePath,
      sameOutline_serviceFile hspelled⟩⟩
  index exports dirs := by
    have hmodel : modelExport choices dirs.models ∘ Model.mapTexts f =
        modelExport choices dirs.models := by
      funext m
      simp only [Function.comp_apply, modelExport, isEnum_mapTexts, name_mapTexts]
    rw [indexFile, indexFile, Client.mapTexts]
    simp only [List.map_map, hmodel]
    rfl

/-- A quoted text is one string literal for the text, and a template for a text is one template
literal for it, with line feeds for the ends of its lines. In the code of a document other texts
make a difference inside of literals and comments only. -/
theorem texts_stay_in_literals :
    (∀ s, (quoted s).toList.head? = some '\x27' ∧
      stringValue? (quoted s) = some (unitsOf s.toList)) ∧
    (∀ s, templateValue? (template s) = some (unitsOf (lineFeeds s.toList))) ∧
    ∀ filter doc c, Client.ofDocument filter doc = .ok c →
      ∀ f choices, c.SameCode choices (c.mapTexts f) := by
  refine ⟨fun s => ⟨by simp [quoted], stringValue?_quoted s⟩, templateValue?_template, ?_⟩
  intro filter doc c hc f choices
  exact (Client.spelled_ofDocument hc).sameCode f choices

/-- A document of version 3 with quotes of all kinds in its texts. -/
def quoting : Value :=
  .mapping
    [("info", .mapping [("title", .text "notes"), ("version", .text "it's 1")]),
     ("openapi", .text "3.0.0"),
     ("paths", .mapping [("/it's/\x60$", .mapping
       [("get", .mapping
          [("parameters", .list [.mapping
             [("in", .text "query"), ("name", .text "who's"),
              ("schema", .mapping
                [("default", .text "don't\\"), ("type", .text "string")])]]),
           ("responses", .mapping
             [("404", .mapping [("description", .text "no\r\x60$\x7bnote\x7d\x60")])]),
           ("tags", .list [.text "notes"])])])]),
     ("servers", .list [.mapping [("url", .text "https://it's")]])]

/-- No text of `quoting` gets out of its literal, as `texts_stay_in_literals` says. -/
theorem texts_stay_in_literals_quoting :
    ∃ c, Client.ofDocument {} quoting = .ok c ∧
      c.services.map (fun s => s.operations.map (fun op =>
        (quoted op.path :: op.parameters.map (fun p => literal p.default),
          (numberedFailures op).map (fun r => template r.description)))) =
        [[(["'/it\\'s/\x60$'", "'don\\'t\\\\'"], ["\x60no\r\\\x60\\$\x7bnote\x7d\\\x60\x60"])]] ∧
      c.SameCode {} (c.mapTexts (fun _ => "'\x60$\x7b\\\n")) := by
  have hall : (Client.ofUnreferenced? {} quoting).map (fun c =>
      c.services.map (fun s => s.operations.map (fun op =>
        (quoted op.path :: op.parameters.map (fun p => literal p.default),
          (numberedFailures op).map (fun r => template r.description))))) =
      some [[(["'/it\\'s/\x60$'", "'don\\'t\\\\'"],
        ["\x60no\r\\\x60\\$\x7bnote\x7d\\\x60\x60"])]] := by decide +kernel
  obtain ⟨c, hc, htexts⟩ := Option.map_eq_some_iff.1 hall
  have hc := Client.ofDocument_of_unreferenced hc
  exact ⟨c, hc, htexts, texts_stay_in_literals.2.2 {} quoting c hc _ _⟩

end TypedClient
