import TypedClient.Proofs.Output.Files

/-!
# Links between files

A link is a line of a file that imports or exports names of another file. The files of models and
services and the index are printed from pieces, some of which are links. `links_lead_to_files`
says that each link of such a file, followed from the directory of the file, leads to a file of
the plan, and that each model that a type of the file refers to is imported from its own file.
-/

namespace TypedClient

namespace TypeScript

/-- A line that takes names from another file. -/
structure Link where
  /-- What the line does with the names. -/
  keyword : String
  /-- The names, as the line gives them. -/
  names : String
  /-- The directory of the other file, as seen from this one. -/
  directory : String
  /-- The other file, without its extension. -/
  file : String
deriving DecidableEq

namespace Link

/-- The line. -/
def text (l : Link) : String :=
  exportLine l.keyword l.names l.directory l.file

/-- What the line says of the other file. -/
def specifier (l : Link) : String :=
  l.directory ++ "/" ++ l.file

/-- The path that a link in a file of a directory leads to. -/
def target (directory : Path) (l : Link) : Path :=
  directory.descend (l.specifier ++ ".ts")

/-- A link leads through the directory that it gives. -/
theorem target_eq (directory : Path) (l : Link) :
    l.target directory = (directory.descend l.directory).descend (l.file ++ ".ts") := by
  rw [target, specifier, String.append_assoc, Path.descend_append]

/-- The link to a type that is named like its file. -/
def ofType (directory name : String) : Link :=
  ⟨"import type", name, directory, name⟩

end Link

/-- A piece of a file. -/
inductive Piece where
  | plain (text : String)
  | link (l : Link)
deriving DecidableEq

namespace Piece

/-- The text of a piece. -/
def text : Piece → String
  | plain text => text
  | link l => l.text

/-- The text of a list of pieces. -/
def textOf (pieces : List Piece) : String :=
  String.join (pieces.map text)

end Piece

/-- The pieces of the file of a model. -/
def modelPieces (choices : Choices) (m : Model) : List Piece :=
  .plain header :: m.traits.imports.map (fun name => .link (.ofType "." name)) ++
    [.plain ("\n" ++ documentation "" m.traits.description m.traits.deprecated ++
      declaration choices m)]

/-- The pieces of the file of a service. -/
def servicePieces (choices : Choices) (modelsPath corePath : String) (s : Service) : List Piece :=
  .plain header :: s.imports.map (fun name => .link (.ofType modelsPath name)) ++
    [.link (.ofType corePath "CancelablePromise"),
     .link ⟨"import", "OpenAPI", corePath, "OpenAPI"⟩,
     .link ⟨"import", "request as __request", corePath, "request"⟩,
     .plain ("\nexport class " ++ s.name ++ "Service \x7b" ++
       String.join (s.operations.map (methodText choices)) ++ "\n\x7d\n")]

/-- The links of the index to the core files. -/
def coreLinks (directory : String) : List Link :=
  [⟨"export", "ApiError", directory, "ApiError"⟩,
   ⟨"export", "CancelablePromise, CancelError", directory, "CancelablePromise"⟩,
   ⟨"export", "OpenAPI", directory, "OpenAPI"⟩,
   ⟨"export type", "OpenAPIConfig", directory, "OpenAPI"⟩]

/-- The link of the index to a model. -/
def modelLink (choices : Choices) (directory : String) (m : Model) : Link :=
  ⟨if isEnum choices m then "export" else "export type", m.name, directory, m.name⟩

/-- The link of the index to a schema. -/
def schemaLink (directory : String) (s : RawSchema) : Link :=
  ⟨"export", "$" ++ s.name, directory, "$" ++ s.name⟩

/-- The link of the index to a service. -/
def serviceLink (directory : String) (s : Service) : Link :=
  ⟨"export", s.name ++ "Service", directory, s.name ++ "Service"⟩

/-- Links of the index behind a blank line, when they are wanted and there are any. -/
def sectionPieces (wanted : Bool) (links : List Link) : List Piece :=
  if wanted && !links.isEmpty then .plain "\n" :: links.map .link else []

/-- The pieces of the index. -/
def indexPieces (choices : Choices) (exports : Exports) (dirs : Directories) (c : Client) :
    List Piece :=
  .plain header :: sectionPieces exports.core (coreLinks dirs.core) ++
    sectionPieces exports.models (c.models.map (modelLink choices dirs.models)) ++
    sectionPieces exports.schemas (c.schemas.map (schemaLink dirs.schemas)) ++
    sectionPieces exports.services (c.services.map (serviceLink dirs.services))

section Texts

variable {choices : Choices} {exports : Exports} {dirs : Directories} {c : Client}

@[simp] theorem textOf_nil : Piece.textOf [] = "" := rfl

@[simp] theorem textOf_cons (p : Piece) (pieces : List Piece) :
    Piece.textOf (p :: pieces) = p.text ++ Piece.textOf pieces := by
  rw [Piece.textOf, List.map_cons, String.join_cons, Piece.textOf]

@[simp] theorem textOf_append (xs ys : List Piece) :
    Piece.textOf (xs ++ ys) = Piece.textOf xs ++ Piece.textOf ys := by
  induction xs with
  | nil => rw [List.nil_append, textOf_nil, String.empty_append]
  | cons p xs ih => rw [List.cons_append, textOf_cons, textOf_cons, ih, String.append_assoc]

theorem textOf_map_link {α : Type} (link : α → Link) (xs : List α) :
    Piece.textOf (xs.map (fun x => .link (link x))) =
      String.join (xs.map (fun x => (link x).text)) := by
  rw [Piece.textOf, List.map_map]
  rfl

/-- A line that imports a type is the text of its link. -/
theorem text_ofType (directory name : String) :
    (Link.ofType directory name).text = importType directory name := by
  change exportLine "import type" name directory name = _
  unfold exportLine importType
  apply String.toList_inj.1
  simp

/-- The file of a model is printed from its pieces. -/
theorem modelFile_eq (m : Model) : modelFile choices m = Piece.textOf (modelPieces choices m) := by
  have himports := textOf_map_link (Link.ofType ".") m.traits.imports
  simp only [text_ofType] at himports
  simp [modelFile, modelPieces, headed, himports, Piece.text, String.append_assoc]

/-- The file of a service is printed from its pieces. -/
theorem serviceFile_eq (modelsPath corePath : String) (s : Service) :
    serviceFile choices modelsPath corePath s =
      Piece.textOf (servicePieces choices modelsPath corePath s) := by
  have himports := textOf_map_link (Link.ofType modelsPath) s.imports
  simp only [text_ofType] at himports
  apply String.toList_inj.1
  simp only [serviceFile, servicePieces, headed, himports, Piece.text, text_ofType, textOf_cons,
    textOf_append, textOf_nil]
  simp [Link.text, exportLine]

theorem textOf_sectionPieces (wanted : Bool) (links : List Link) :
    Piece.textOf (sectionPieces wanted links) = exportSection wanted (links.map Link.text) := by
  have hlinks := textOf_map_link id links
  simp only [id_eq] at hlinks
  simp only [sectionPieces, exportSection, List.isEmpty_map]
  split
  · rw [textOf_cons, hlinks]
    rfl
  · rfl

/-- The index is printed from its pieces. -/
theorem indexFile_eq : indexFile choices exports dirs c =
    Piece.textOf (indexPieces choices exports dirs c) := by
  simp only [indexFile, indexPieces, headed, textOf_append, textOf_cons, textOf_sectionPieces,
    List.map_map, Piece.text, String.append_assoc]
  rfl

end Texts

/-- A link of the index is one of those of its categories. -/
theorem link_mem_indexPieces {choices : Choices} {exports : Exports} {dirs : Directories}
    {c : Client} {l : Link} (h : .link l ∈ indexPieces choices exports dirs c) :
    l ∈ coreLinks dirs.core ∨ l ∈ c.models.map (modelLink choices dirs.models) ∨
      l ∈ c.schemas.map (schemaLink dirs.schemas) ∨
      l ∈ c.services.map (serviceLink dirs.services) := by
  have hsection : ∀ {wanted : Bool} {links : List Link},
      Piece.link l ∈ sectionPieces wanted links → l ∈ links := by
    intro wanted links hmem
    unfold sectionPieces at hmem
    split at hmem
    · rcases List.mem_cons.1 hmem with heq | hmem
      · cases heq
      · obtain ⟨k, hk, heq⟩ := List.mem_map.1 hmem
        exact Piece.link.inj heq ▸ hk
    · exact absurd hmem List.not_mem_nil
  simp only [indexPieces, List.mem_append, List.mem_cons, reduceCtorEq, false_or] at h
  rcases h with ((h | h) | h) | h
  · exact .inl (hsection h)
  · exact .inr (.inl (hsection h))
  · exact .inr (.inr (.inl (hsection h)))
  · exact .inr (.inr (.inr (hsection h)))

end TypeScript

namespace OutputPlan

open TypeScript

variable {fs : FileSystem} {working : Path} {style : CodeStyle} {o : OutputOptions} {c : Client}
  {plan : OutputPlan}

/-- How a file that is printed from `pieces` in a directory is connected: every link leads to a
file of the plan, and every name is that of a model that is imported, as a type, from its own
file. -/
structure Connects (plan : OutputPlan) (l : OutputLayout) (c : Client) (directory : Path)
    (pieces : List Piece) (names : List String) : Prop where
  leads : ∀ link, .link link ∈ pieces → ∃ f ∈ plan.files, f.path = link.target directory
  imports : ∀ name ∈ names, ∃ m ∈ c.models, m.name = name ∧ ∃ link, .link link ∈ pieces ∧
    link.keyword = "import type" ∧ link.names = name ∧
    link.target directory = (Artifact.model m).path l

section Members

variable {m : Model} {raw : RawSchema} {s : Service}

/-! With all categories written, everything in a client is an artifact. -/

theorem core_mem_all (file : CoreFile) (c : Client) :
    Artifact.core file ∈ Artifact.all ⟨true, true, true, true⟩ c := by
  cases file <;> simp [Artifact.all, CoreFile.all]

theorem model_mem_all (hm : m ∈ c.models) :
    Artifact.model m ∈ Artifact.all ⟨true, true, true, true⟩ c := by
  simp [Artifact.all, hm]

theorem schema_mem_all (hraw : raw ∈ c.schemas) :
    Artifact.schema raw ∈ Artifact.all ⟨true, true, true, true⟩ c := by
  simp [Artifact.all, hraw]

theorem service_mem_all (hs : s ∈ c.services) :
    Artifact.service s ∈ Artifact.all ⟨true, true, true, true⟩ c := by
  simp [Artifact.all, hs]

end Members

section Connections

/-! What connects the files of a layout, when every artifact has a file at its path. -/

variable {l : OutputLayout} {choices : Choices} (h : c.WellNamed) (hl : l.Absolute)
  (hfiles : ∀ a ∈ Artifact.all ⟨true, true, true, true⟩ c, ∃ f ∈ plan.files, f.path = a.path l)

include hfiles in
/-- A link leads to the file of an artifact when it gives the directory and the name of the
artifact. -/
theorem exists_file {a : Artifact} (ha : a ∈ Artifact.all ⟨true, true, true, true⟩ c)
    {link : Link} {base : Path} (hdirectory : base.descend link.directory = a.directory l)
    (hfile : link.file = a.name) : ∃ f ∈ plan.files, f.path = link.target base := by
  obtain ⟨f, hf, hpath⟩ := hfiles a ha
  refine ⟨f, hf, ?_⟩
  rw [hpath, Link.target_eq, hdirectory, hfile, Artifact.path]

include h hfiles in
/-- The file of a model is connected. -/
theorem connects_model {m : Model} (hm : m ∈ c.models) :
    plan.Connects l c l.models (modelPieces choices m)
      ((m.referenceNodes.map Traits.target).filter (· ≠ m.name)) := by
  have htarget : ∀ name ∈ m.traits.imports, ∃ n ∈ c.models, n.name = name := by
    intro name hname
    obtain ⟨t, ht, rfl⟩ := List.mem_map.1 ((h.mem_model_imports m hm name).1 hname).2
    exact h.model_target m hm t ht
  constructor
  · intro link hlink
    simp only [modelPieces, List.mem_append, List.mem_cons, List.mem_map, reduceCtorEq, false_or,
      Piece.link.injEq, List.not_mem_nil, or_false] at hlink
    obtain ⟨name, hname, rfl⟩ := hlink
    obtain ⟨n, hn, rfl⟩ := htarget name hname
    exact exists_file hfiles (model_mem_all hn) Path.descend_dot rfl
  · intro name hname
    obtain ⟨hmem, hother⟩ := List.mem_filter.1 hname
    have himport := (h.mem_model_imports m hm name).2 ⟨of_decide_eq_true hother, hmem⟩
    obtain ⟨n, hn, rfl⟩ := htarget name himport
    refine ⟨n, hn, rfl, .ofType "." n.name, ?_, rfl, rfl, ?_⟩
    · exact List.mem_append_left _ (List.mem_cons_of_mem _ (List.mem_map_of_mem himport))
    · rw [Link.target_eq, Link.ofType, Path.descend_dot]
      rfl

include h hl hfiles in
/-- The file of a service is connected. -/
theorem connects_service {s : Service} (hs : s ∈ c.services) :
    plan.Connects l c l.services
      (servicePieces choices (Path.importText l.services.text l.models.text)
        (Path.importText l.services.text l.core.text) s)
      (s.referenceNodes.map Traits.target) := by
  have hmodels := hl.services.descend_importText hl.models
  have hcore := hl.services.descend_importText hl.core
  have htarget : ∀ name ∈ s.imports, ∃ n ∈ c.models, n.name = name := by
    intro name hname
    obtain ⟨t, ht, rfl⟩ := List.mem_map.1 ((h.mem_service_imports s hs name).1 hname)
    exact h.service_target s hs t ht
  constructor
  · intro link hlink
    simp only [servicePieces, List.mem_append, List.mem_cons, List.mem_map, reduceCtorEq, false_or,
      Piece.link.injEq, List.not_mem_nil, or_false] at hlink
    rcases hlink with ⟨name, hname, rfl⟩ | rfl | rfl | rfl
    · obtain ⟨n, hn, rfl⟩ := htarget name hname
      exact exists_file hfiles (model_mem_all hn) hmodels rfl
    · exact exists_file hfiles (core_mem_all .cancelablePromise c) hcore rfl
    · exact exists_file hfiles (core_mem_all .settings c) hcore rfl
    · exact exists_file hfiles (core_mem_all .request c) hcore rfl
  · intro name hname
    have himport := (h.mem_service_imports s hs name).2 hname
    obtain ⟨n, hn, rfl⟩ := htarget name himport
    refine ⟨n, hn, rfl, .ofType (Path.importText l.services.text l.models.text) n.name, ?_, rfl,
      rfl, ?_⟩
    · exact List.mem_append_left _ (List.mem_cons_of_mem _ (List.mem_map_of_mem himport))
    · rw [Link.target_eq, Link.ofType, hmodels]
      rfl

include hl hfiles in
/-- The index is connected. -/
theorem connects_index (exports : Exports) :
    plan.Connects l c l.root (indexPieces choices exports l.fromIndex c) [] := by
  have hcore := hl.root.descend_importText hl.core
  have hmodels := hl.root.descend_importText hl.models
  have hschemas := hl.root.descend_importText hl.schemas
  have hservices := hl.root.descend_importText hl.services
  refine ⟨fun link hlink => ?_, fun name hname => absurd hname List.not_mem_nil⟩
  rcases link_mem_indexPieces hlink with hlink | hlink | hlink | hlink
  · simp only [coreLinks, List.mem_cons, List.not_mem_nil, or_false] at hlink
    rcases hlink with rfl | rfl | rfl | rfl
    · exact exists_file hfiles (core_mem_all .apiError c) hcore rfl
    · exact exists_file hfiles (core_mem_all .cancelablePromise c) hcore rfl
    · exact exists_file hfiles (core_mem_all .settings c) hcore rfl
    · exact exists_file hfiles (core_mem_all .settings c) hcore rfl
  · obtain ⟨m, hm, rfl⟩ := List.mem_map.1 hlink
    exact exists_file hfiles (model_mem_all hm) hmodels rfl
  · obtain ⟨s, hs, rfl⟩ := List.mem_map.1 hlink
    exact exists_file hfiles (schema_mem_all hs) hschemas rfl
  · obtain ⟨s, hs, rfl⟩ := List.mem_map.1 hlink
    exact exists_file hfiles (service_mem_all hs) hservices rfl

end Connections

/-- The files of the models, of the services and the index are printed from pieces and connected by
them. What a model refers to counts, unless it is the model itself, and what the operations of a
service refer to. -/
structure Linked (fs : FileSystem) (working : Path) (style : CodeStyle) (o : OutputOptions)
    (c : Client) (plan : OutputPlan) : Prop where
  models : ∀ m ∈ c.models, ∃ pieces,
    (Artifact.model m).rendering? fs working style o c = some (Piece.textOf pieces) ∧
    pieces = modelPieces style.choices m ∧
    plan.Connects (OutputLayout.ofOptions working o) c
      ((Artifact.model m).directory (OutputLayout.ofOptions working o)) pieces
      ((m.referenceNodes.map Traits.target).filter (· ≠ m.name))
  services : ∀ s ∈ c.services, ∃ pieces,
    (Artifact.service s).rendering? fs working style o c = some (Piece.textOf pieces) ∧
    pieces = servicePieces style.choices
      (Path.importText (OutputLayout.ofOptions working o).services.text
        (OutputLayout.ofOptions working o).models.text)
      (Path.importText (OutputLayout.ofOptions working o).services.text
        (OutputLayout.ofOptions working o).core.text) s ∧
    plan.Connects (OutputLayout.ofOptions working o) c
      ((Artifact.service s).directory (OutputLayout.ofOptions working o)) pieces
      (s.referenceNodes.map Traits.target)
  index : ∃ pieces,
    Artifact.index.rendering? fs working style o c = some (Piece.textOf pieces) ∧
    pieces = indexPieces style.choices o.exports (OutputLayout.ofOptions working o).fromIndex c ∧
    plan.Connects (OutputLayout.ofOptions working o) c
      (Artifact.index.directory (OutputLayout.ofOptions working o)) pieces []

/-- With all categories of the client of a document written, each link of the files of the models,
of the services and of the index leads from the directory of its file to a file of the plan, and
each model that such a file refers to is imported there from its own file, unless it is the model
of the file. -/
theorem links_lead_to_files {filter : TagFilter} {doc : Value}
    (h : Client.ofDocument filter doc = .ok c) (hworking : working.Absolute)
    (hexports : o.exports = ⟨true, true, true, true⟩)
    (hplan : ofClient fs working style o c = .ok plan) : plan.Linked fs working style o c := by
  have hnamed := Client.wellNamed_ofDocument h
  have hl := OutputLayout.absolute_ofOptions hworking o
  have hfiles : ∀ a ∈ Artifact.all ⟨true, true, true, true⟩ c,
      ∃ f ∈ plan.files, f.path = a.path (OutputLayout.ofOptions working o) := by
    intro a ha
    obtain ⟨-, files, hperm, hpaths⟩ := exists_files hnamed hworking hplan
    rw [hexports] at hpaths
    obtain ⟨f, hf, hpath, -⟩ := exists_left_of_forall₂ hpaths.flip ha
    exact ⟨f, hperm.mem_iff.2 hf, hpath⟩
  constructor
  · intro m hm
    exact ⟨_, congrArg some (modelFile_eq m), rfl, connects_model hnamed hfiles hm⟩
  · intro s hs
    exact ⟨_, congrArg some (serviceFile_eq _ _ s), rfl, connects_service hnamed hl hfiles hs⟩
  · exact ⟨_, congrArg some indexFile_eq, rfl, connects_index hl hfiles o.exports⟩

/-- An output in which the core files are above the services and the models beside the output. -/
def scattered : OutputOptions where
  output := "out"
  core := "out"
  models := "shared/models"
  services := "out/api/services"
  exports := ⟨true, true, true, true⟩

/-- The files of `contested` are linked when they are scattered, as `links_lead_to_files` says. -/
theorem links_lead_to_files_contested :
    ∃ c plan, Client.ofDocument {} contested = .ok c ∧
      ofClient {} ⟨true, ["work"]⟩ {} scattered c = .ok plan ∧
      c.services.map Service.imports = [["PetsService"]] ∧
      Path.importText (OutputLayout.ofOptions ⟨true, ["work"]⟩ scattered).services.text
        (OutputLayout.ofOptions ⟨true, ["work"]⟩ scattered).models.text =
          "../../../shared/models" ∧
      plan.Linked {} ⟨true, ["work"]⟩ {} scattered c := by
  obtain ⟨c, hc, -, hservices, -, htexts⟩ := exists_contested
  have hworking : Path.Absolute ⟨true, ["work"]⟩ := by decide
  obtain ⟨plan, hplan⟩ : ∃ plan, ofClient {} ⟨true, ["work"]⟩ {} scattered c = .ok plan :=
    exists_plan_iff.2 ⟨by decide, Artifact.rendered htexts rfl⟩
  have himports : c.services.map Service.imports = [["PetsService"]] := by
    simpa using congrArg (List.map Prod.snd) hservices
  exact ⟨c, plan, hc, hplan, himports, by decide +kernel,
    links_lead_to_files hc hworking rfl hplan⟩

end OutputPlan

end TypedClient
