import TypedClient.Proofs.Document.Dict
import TypedClient.Proofs.Draft.Pipeline
import TypedClient.Proofs.Output.Path

/-!
# One file for each artifact

An artifact is what one file of the output is made for. `ofClient_keeps_artifacts` says that a
plan gives each artifact of a client a file of its own, whatever directories the categories have:
the base names of all artifacts differ, so their files differ even in one directory, and the way
from the output directory tells them apart.
-/

namespace TypedClient

/-- What a file of the output is made for. -/
inductive Artifact where
  | core (file : TypeScript.CoreFile)
  | model (m : Model)
  | schema (s : RawSchema)
  | service (s : Service)
  | index

namespace Artifact

/-- The artifacts of a client in the categories that are written. -/
def all (exports : TypeScript.Exports) (c : Client) : List Artifact :=
  (if exports.core then TypeScript.CoreFile.all.map core else []) ++
    (if exports.models then c.models.map model else []) ++
    (if exports.schemas then c.schemas.map schema else []) ++
    (if exports.services then c.services.map service else []) ++ [index]

/-- The name of the file of an artifact, without its extension. -/
def name : Artifact → String
  | core file => file.name
  | model m => m.name
  | schema s => "$" ++ s.name
  | service s => s.name ++ "Service"
  | index => "index"

/-- The directory of an artifact. -/
def directory (l : OutputLayout) : Artifact → Path
  | core _ => l.core
  | model _ => l.models
  | schema _ => l.schemas
  | service _ => l.services
  | index => l.root

/-- The path of the file of an artifact. -/
def path (l : OutputLayout) (a : Artifact) : Path :=
  (a.directory l).descend (a.name ++ ".ts")

/-- The text that an artifact is rendered to. A request file that is replaced has the text of the
file that replaces it, if that can be read, and a schema has a text if its numbers are finite. -/
def rendering? (fs : FileSystem) (working : Path) (style : CodeStyle) (o : OutputOptions)
    (c : Client) : Artifact → Option String
  | core file =>
      if file = .request ∧ o.request ≠ "" then (fs.read working o.request).toOption
      else some (file.text style.transport c)
  | model m => some (TypeScript.modelFile style.choices m)
  | schema s => TypeScript.schemaFile? s
  | service s =>
      let l := OutputLayout.ofOptions working o
      some (TypeScript.serviceFile style.choices (Path.importText l.services.text l.models.text)
        (Path.importText l.services.text l.core.text) s)
  | index =>
      some (TypeScript.indexFile style.choices o.exports
        (OutputLayout.ofOptions working o).fromIndex c)

/-- The file of an artifact. -/
def file? (fs : FileSystem) (working : Path) (style : CodeStyle) (o : OutputOptions) (c : Client)
    (a : Artifact) : Option PlannedFile :=
  (a.rendering? fs working style o c).map
    (fun content => ⟨a.path (OutputLayout.ofOptions working o), content⟩)

end Artifact

/-- The text of the file that a plan has on a way from the output directory. -/
def OutputPlan.contentAt? (p : OutputPlan) (way : String) : Option String :=
  (p.files.map (fun f => (p.relativeText f, f.content))).lookup way

section Options

variable {α β ε : Type}

theorem toOption_bind (x : Except ε α) (f : α → Except ε β) :
    (x >>= f).toOption = x.toOption >>= (fun a => (f a).toOption) := by
  cases x with
  | error e => rfl
  | ok a => rfl

theorem toOption_mapM (f : α → Except ε β) (xs : List α) :
    (xs.mapM f).toOption = xs.mapM (fun x => (f x).toOption) := by
  induction xs with
  | nil => rfl
  | cons x xs ih =>
      simp only [List.mapM_cons, toOption_bind, ih]
      rfl

/-- A traversal that succeeds at every item gives the results. -/
theorem mapM_map_of_forall {γ : Type} {f : β → Option γ} {g : α → β} {h : α → γ} {xs : List α}
    (hall : ∀ x ∈ xs, f (g x) = some (h x)) : (xs.map g).mapM f = some (xs.map h) := by
  induction xs with
  | nil => rfl
  | cons x xs ih =>
      rw [List.forall_mem_cons] at hall
      simp only [List.map_cons, List.mapM_cons, hall.1, ih hall.2]
      rfl

/-- A traversal succeeds with the results at the items. -/
theorem mapM_eq_some_iff {f : α → Option β} {xs : List α} {ys : List β} :
    xs.mapM f = some ys ↔ List.Forall₂ (fun x y => f x = some y) xs ys := by
  induction xs generalizing ys with
  | nil => simp [eq_comm]
  | cons x xs ih =>
      simp only [List.mapM_cons, Option.bind_eq_bind, Option.bind_eq_some_iff, ih,
        List.forall₂_cons_left_iff, Option.pure_def, Option.some.injEq]
      constructor
      · rintro ⟨y, hy, rest, hrest, rfl⟩
        exact ⟨y, rest, hy, hrest, rfl⟩
      · rintro ⟨y, rest, hy, hrest, rfl⟩
        exact ⟨y, hy, rest, hrest, rfl⟩

/-- A traversal succeeds when it succeeds at every item. -/
theorem exists_mapM_iff {f : α → Option β} {xs : List α} :
    (∃ ys, xs.mapM f = some ys) ↔ ∀ x ∈ xs, (f x).isSome = true := by
  induction xs with
  | nil => simp
  | cons x xs ih =>
      rw [List.forall_mem_cons, ← ih, Option.isSome_iff_exists]
      simp only [mapM_eq_some_iff, List.forall₂_cons_left_iff]
      constructor
      · rintro ⟨_, y, ys, hy, hys, rfl⟩
        exact ⟨⟨y, hy⟩, ys, hys⟩
      · rintro ⟨⟨y, hy⟩, ys, hys⟩
        exact ⟨_, y, ys, hy, hys, rfl⟩

/-- What agrees at corresponding items agrees on the lists. -/
theorem map_eq_of_forall₂ {γ : Type} {f : α → γ} {g : β → γ} {xs : List α} {ys : List β}
    (h : List.Forall₂ (fun x y => g y = f x) xs ys) : ys.map g = xs.map f := by
  induction h with
  | nil => rfl
  | cons hfirst _ ih => rw [List.map_cons, List.map_cons, hfirst, ih]

end Options

namespace OutputPlan

variable {fs : FileSystem} {working : Path} {style : CodeStyle} {o : OutputOptions} {c : Client}

/-- The text of the request file is what its artifact is rendered to. -/
theorem toOption_requestText :
    (requestText fs working style o.request c).toOption =
      (Artifact.core .request).rendering? fs working style o c := by
  unfold requestText Artifact.rendering?
  by_cases hrequest : o.request = ""
  · simp [hrequest, Except.toOption]
  · cases hread : fs.read working o.request with
    | ok content => simp [hrequest, Except.toOption]
    | error words => simp [hrequest, Except.toOption]

/-- The core files are those of the core artifacts. -/
theorem toOption_coreFiles :
    (coreFiles fs working style o (OutputLayout.ofOptions working o) c).toOption =
      (if o.exports.core then TypeScript.CoreFile.all.map Artifact.core else []).mapM
        (Artifact.file? fs working style o c) := by
  unfold coreFiles
  split
  case isFalse => rfl
  case isTrue =>
    rw [toOption_bind, toOption_requestText]
    cases hrequest : (Artifact.core .request).rendering? fs working style o c with
    | none =>
        -- the request file comes last and has no text
        simp [TypeScript.CoreFile.all, Artifact.file?, hrequest]
    | some request =>
        refine (mapM_map_of_forall (fun file _ => ?_)).symm
        by_cases hfile : file = .request
        · rw [hfile, Artifact.file?, hrequest]
          rfl
        · simp [Artifact.file?, Artifact.rendering?, hfile]
          rfl

/-- The files of the schemas are those of their artifacts. -/
theorem toOption_schemaFiles (fs : FileSystem) (style : CodeStyle) :
    (schemaFiles (OutputLayout.ofOptions working o) c).toOption =
      (c.schemas.map Artifact.schema).mapM (Artifact.file? fs working style o c) := by
  rw [schemaFiles, toOption_mapM, List.mapM_map]
  congr 1
  funext s
  rw [toOption_bind]
  cases htext : TypeScript.schemaFile? s with
  | none => simp [schemaText, htext, Artifact.file?, Artifact.rendering?, Except.toOption]
  | some text =>
      simp [schemaText, htext, Artifact.file?, Artifact.rendering?, Except.toOption]
      rfl

/-- What is generated are the files of the artifacts. -/
theorem toOption_generated :
    (generated fs working style o (OutputLayout.ofOptions working o) c).toOption =
      (Artifact.all o.exports c).mapM (Artifact.file? fs working style o c) := by
  have hmodels : (if o.exports.models then c.models.map Artifact.model else []).mapM
        (Artifact.file? fs working style o c) =
      some (if o.exports.models then c.models.map (fun m =>
        fileIn (OutputLayout.ofOptions working o).models m.name
          (TypeScript.modelFile style.choices m)) else []) := by
    split
    · exact mapM_map_of_forall (fun m _ => rfl)
    · rfl
  have hservices : (if o.exports.services then c.services.map Artifact.service else []).mapM
        (Artifact.file? fs working style o c) =
      some (if o.exports.services then c.services.map (fun s =>
        fileIn (OutputLayout.ofOptions working o).services (s.name ++ "Service")
          (TypeScript.serviceFile style.choices
            (Path.importText (OutputLayout.ofOptions working o).services.text
              (OutputLayout.ofOptions working o).models.text)
            (Path.importText (OutputLayout.ofOptions working o).services.text
              (OutputLayout.ofOptions working o).core.text) s)) else []) := by
    split
    · exact mapM_map_of_forall (fun s _ => rfl)
    · rfl
  have hindex : [Artifact.index].mapM (Artifact.file? fs working style o c) =
      some [fileIn (OutputLayout.ofOptions working o).root "index"
        (TypeScript.indexFile style.choices o.exports
          (OutputLayout.ofOptions working o).fromIndex c)] := rfl
  simp only [generated, Artifact.all, toOption_bind, toOption_coreFiles, List.mapM_append,
    hmodels, hservices, hindex]
  generalize (if o.exports.core then TypeScript.CoreFile.all.map Artifact.core else []).mapM
    (Artifact.file? fs working style o c) = core
  cases core with
  | none => rfl
  | some core =>
      by_cases hschemas : o.exports.schemas = true
      · simp only [hschemas, if_true, Option.bind_eq_bind, Option.bind_some, toOption_bind,
          toOption_schemaFiles fs style]
        generalize (c.schemas.map Artifact.schema).mapM (Artifact.file? fs working style o c) =
          schemas
        cases schemas with
        | none => rfl
        | some schemas => rfl
      · simp only [hschemas]
        rfl

end OutputPlan

namespace Artifact

variable {c : Client} {exports : TypeScript.Exports} {a b : Artifact}

/-- With fewer categories there are fewer artifacts. -/
theorem all_sublist (exports : TypeScript.Exports) (c : Client) :
    (all exports c).Sublist (all ⟨true, true, true, true⟩ c) := by
  have hwanted : ∀ (wanted : Bool) (xs : List Artifact),
      (if wanted then xs else []).Sublist xs := by
    intro wanted xs
    cases wanted with
    | true => exact List.Sublist.refl xs
    | false => exact List.nil_sublist xs
  exact ((((hwanted _ _).append (hwanted _ _)).append (hwanted _ _)).append (hwanted _ _)).append
    (List.Sublist.refl _)

/-- The number of artifacts. -/
theorem length_all (exports : TypeScript.Exports) (c : Client) :
    (all exports c).length =
      1 + (if exports.core then 6 else 0) + (if exports.models then c.models.length else 0) +
        (if exports.schemas then c.schemas.length else 0) +
        (if exports.services then c.services.length else 0) := by
  have hwanted : ∀ (wanted : Bool) (xs : List Artifact),
      (if wanted then xs else []).length = if wanted then xs.length else 0 := by
    intro wanted xs
    cases wanted <;> rfl
  simp only [all, List.length_append, hwanted, List.length_map, List.length_singleton,
    show TypeScript.CoreFile.all.length = 6 from rfl]
  omega

/-- What holds of the artifacts of every category holds of all artifacts. -/
theorem forall_mem_all {P : Artifact → Prop} (hcore : ∀ file, P (core file))
    (hmodel : ∀ m ∈ c.models, P (model m)) (hschema : ∀ s ∈ c.schemas, P (schema s))
    (hservice : ∀ s ∈ c.services, P (service s)) (hindex : P index) :
    ∀ a ∈ all exports c, P a := by
  intro a ha
  have hmem := (all_sublist exports c).subset ha
  simp only [all, if_true, List.mem_append, List.mem_map, List.mem_singleton] at hmem
  rcases hmem with (((⟨file, -, rfl⟩ | ⟨m, hm, rfl⟩) | ⟨s, hs, rfl⟩) | ⟨s, hs, rfl⟩) | rfl
  · exact hcore file
  · exact hmodel m hm
  · exact hschema s hs
  · exact hservice s hs
  · exact hindex

/-- Whether a name starts with a lower case letter of ASCII. -/
def startsLower (name : String) : Bool :=
  name.toList.head?.any Char.isLower

theorem startsLower_of_isTypeName {name : String} (h : Naming.isTypeName name = true) :
    startsLower name = false := by
  rw [Naming.isTypeName] at h
  rw [startsLower]
  cases hchars : name.toList with
  | nil => rfl
  | cons d rest =>
      simp only [hchars, Naming.isNameStart, Bool.and_eq_true, Bool.not_eq_true'] at h
      exact h.1.1.2

/-- What a client exports does not start with a lower case letter. -/
theorem startsLower_of_mem_exports (h : c.WellNamed) {name : String} (hname : name ∈ c.exports) :
    startsLower name = false := by
  simp only [Client.exports, List.mem_append, List.mem_map] at hname
  rcases hname with ((⟨m, hm, rfl⟩ | ⟨s, hs, rfl⟩) | ⟨s, hs, rfl⟩) | hname
  · exact startsLower_of_isTypeName (h.model_name m hm)
  · exact startsLower_of_isTypeName (Naming.isTypeName_class (h.service_name s hs))
  · rw [startsLower, String.toList_append]
    rfl
  · revert name
    decide

/-- The base names of all artifacts are distinct: the request file and the index start with a lower
case letter, and the others are named like what they export. -/
theorem nodup_names (h : c.WellNamed) (exports : TypeScript.Exports) :
    ((all exports c).map name).Nodup := by
  refine List.Nodup.sublist ((all_sublist exports c).map name) ?_
  have hplain : (c.exports ++ ["request", "index"]).Nodup := by
    refine List.nodup_append.2 ⟨h.exports_nodup, by decide, ?_⟩
    rintro name hname other hother rfl
    have hlower : ∀ name ∈ ["request", "index"], startsLower name = true := by decide
    have hnot := startsLower_of_mem_exports h hname
    rw [hlower name hother] at hnot
    exact absurd hnot (by decide)
  have htypes : ["ApiError", "ApiRequestOptions", "ApiResult", "CancelablePromise",
      "OpenAPI"].Sublist runtimeNames := by decide
  have hsub := (htypes.append_left (c.models.map Model.name ++
    c.services.map (fun s => s.name ++ "Service") ++
    c.schemas.map (fun s => "$" ++ s.name))).append_right ["request", "index"]
  have hcore : TypeScript.CoreFile.all.map (name ∘ core) =
      ["ApiError", "ApiRequestOptions", "ApiResult", "CancelablePromise", "OpenAPI"] ++
        ["request"] := rfl
  refine (List.perm_iff_count.2 (fun x => ?_)).nodup_iff.1 (hplain.sublist hsub)
  have hends : ["request", "index"] = ["request"] ++ ["index"] := rfl
  have hmodels : c.models.map (name ∘ model) = c.models.map Model.name := rfl
  have hschemas : c.schemas.map (name ∘ schema) = c.schemas.map (fun s => "$" ++ s.name) := rfl
  have hservices : c.services.map (name ∘ service) =
      c.services.map (fun s => s.name ++ "Service") := rfl
  have hindex : [index].map name = ["index"] := rfl
  simp only [all, if_true, List.map_append, List.map_map, List.count_append, hcore, hends,
    hmodels, hschemas, hservices, hindex]
  omega

/-- A text without a slash names a file. -/
theorem isName_file {name : String} (h : '/' ∉ name.toList) : Path.IsName (name ++ ".ts") := by
  have hlength : 3 ≤ (name ++ ".ts").length := by
    rw [String.length_append]
    exact Nat.le_add_left 3 _
  refine ⟨?_, ?_, ?_, ?_⟩
  · intro heq
    rw [heq] at hlength
    exact absurd hlength (by decide)
  · intro heq
    rw [heq] at hlength
    exact absurd hlength (by decide)
  · intro heq
    rw [heq] at hlength
    exact absurd hlength (by decide)
  · rw [String.toList_append, List.mem_append, not_or]
    exact ⟨h, by decide⟩

/-- The base name of an artifact of a client names a file. -/
theorem isName_name (h : c.WellNamed) :
    ∀ a ∈ all exports c, Path.IsName (a.name ++ ".ts") := by
  have htype : ∀ {name : String}, Naming.isTypeName name = true → '/' ∉ name.toList :=
    fun hname => Naming.not_mem_of_isTypeName hname (by decide)
  refine forall_mem_all (fun file => ?_) (fun m hm => ?_) (fun s hs => ?_) (fun s hs => ?_)
    (isName_file (by decide))
  · cases file <;> exact isName_file (by decide)
  · exact isName_file (htype (h.model_name m hm))
  · refine isName_file ?_
    rw [name, String.toList_append, List.mem_append, not_or]
    exact ⟨by decide, htype (h.schema_name s hs)⟩
  · exact isName_file (htype (Naming.isTypeName_class (h.service_name s hs)))

/-- Every artifact has a text when the schemas have one and the request file is not replaced. -/
theorem rendered {fs : FileSystem} {working : Path} {style : CodeStyle} {o : OutputOptions}
    (hschemas : ∀ s ∈ c.schemas, (TypeScript.schemaFile? s).isSome = true)
    (hrequest : o.request = "") :
    ∀ a ∈ all exports c, (a.rendering? fs working style o c).isSome = true :=
  forall_mem_all (fun _ => by simp [rendering?, hrequest]) (fun _ _ => rfl) hschemas
    (fun _ _ => rfl) rfl

/-- The path of an artifact is a file of its directory. -/
theorem path_eq (h : c.WellNamed) (ha : a ∈ all exports c) (l : OutputLayout) :
    a.path l = { a.directory l with
      segments := (a.directory l).segments ++ [a.name ++ ".ts"] } :=
  Path.descend_name (isName_name h a ha)

/-- Different artifacts of a client have different paths, whatever their directories are. -/
theorem nodup_paths (h : c.WellNamed) (exports : TypeScript.Exports) (l : OutputLayout) :
    ((all exports c).map (path l)).Nodup := by
  have hnames := nodup_names h exports
  refine (List.Nodup.of_map _ hnames).map_on (fun a ha b hb heq => ?_)
  rw [path_eq h ha, path_eq h hb] at heq
  have hlast := congrArg (fun p : Path => p.segments.getLast?) heq
  simp only [List.getLast?_concat, Option.some.injEq] at hlast
  exact List.inj_on_of_nodup_map hnames ha hb ((String.append_left_inj _).1 hlast)

end Artifact

namespace OutputLayout

/-- The directories of a layout in an absolute working directory are absolute. -/
structure Absolute (l : OutputLayout) : Prop where
  root : l.root.Absolute
  core : l.core.Absolute
  models : l.models.Absolute
  schemas : l.schemas.Absolute
  services : l.services.Absolute

theorem absolute_ofOptions {working : Path} (h : working.Absolute) (o : OutputOptions) :
    (ofOptions working o).Absolute := by
  have hroot : (Path.absolute working o.output).Absolute := h.absolute o.output
  have hcategory : ∀ given name : String,
      (if Text.trim given = "" then (Path.absolute working o.output).descend name
        else Path.absolute working given).Absolute := by
    intro given name
    split
    · exact hroot.descend name
    · exact h.absolute given
  refine ⟨hroot, ?_, ?_, ?_, ?_⟩ <;> dsimp only [ofOptions] <;> apply hcategory

theorem Absolute.directory {l : OutputLayout} (h : l.Absolute) (a : Artifact) :
    (a.directory l).Absolute := by
  cases a with
  | core => exact h.core
  | model => exact h.models
  | schema => exact h.schemas
  | service => exact h.services
  | index => exact h.root

theorem Absolute.path {l : OutputLayout} (h : l.Absolute) (a : Artifact) : (a.path l).Absolute :=
  (h.directory a).descend _

end OutputLayout

namespace OutputPlan

variable {fs : FileSystem} {working : Path} {style : CodeStyle} {o : OutputOptions} {c : Client}
  {plan : OutputPlan}

/-- A plan is made of the files of the artifacts, if the output directory is given. -/
theorem ofClient_eq_ok_iff :
    ofClient fs working style o c = .ok plan ↔ Text.trim o.output ≠ "" ∧
      ∃ files, (Artifact.all o.exports c).mapM (Artifact.file? fs working style o c) = some files ∧
        plan = ⟨(OutputLayout.ofOptions working o).root, byPath files⟩ := by
  unfold ofClient
  split
  case isTrue hblank => simp [hblank]
  case isFalse hgiven =>
    rw [← toOption_generated]
    cases hfiles : generated fs working style o (OutputLayout.ofOptions working o) c with
    | error e => simp [hfiles, bind, Except.bind, Except.toOption]
    | ok files =>
        simp [hfiles, hgiven, bind, Except.bind, pure, Except.pure, Except.toOption, eq_comm]

/-- Files at distinct paths of a layout all stay in a plan. -/
theorem byPath_perm {files : List PlannedFile} (hpaths : (files.map PlannedFile.path).Nodup)
    (habsolute : ∀ f ∈ files, f.path.Absolute) : (byPath files).Perm files := by
  have hkeys : ((files.map (fun f => (f.path.text, f))).map Prod.fst).Nodup := by
    rw [List.map_map]
    refine (List.Nodup.of_map _ hpaths).map_on (fun f hf g hg heq => ?_)
    exact List.inj_on_of_nodup_map hpaths hf hg
      ((habsolute f hf).eq_of_text_eq (habsolute g hg) heq)
  have hperm := (Dict.ofEntries_perm hkeys).map Prod.snd
  rw [List.map_map] at hperm
  exact hperm.trans (List.Perm.of_eq (List.map_id files))

/-- A plan gives each artifact a file of its own, at its path and with its text. -/
theorem exists_files (h : c.WellNamed) (hworking : working.Absolute)
    (hplan : ofClient fs working style o c = .ok plan) :
    plan.root = (OutputLayout.ofOptions working o).root ∧
      ∃ files, plan.files.Perm files ∧ List.Forall₂ (fun a f =>
        PlannedFile.path f = Artifact.path (OutputLayout.ofOptions working o) a ∧
          a.rendering? fs working style o c = some f.content) (Artifact.all o.exports c) files := by
  obtain ⟨-, files, hfiles, rfl⟩ := ofClient_eq_ok_iff.1 hplan
  have hfiles : List.Forall₂ (fun a f =>
      PlannedFile.path f = Artifact.path (OutputLayout.ofOptions working o) a ∧
        a.rendering? fs working style o c = some f.content) (Artifact.all o.exports c) files := by
    refine (mapM_eq_some_iff.1 hfiles).imp (fun a f hf => ?_)
    obtain ⟨content, hcontent, rfl⟩ := Option.map_eq_some_iff.1 hf
    exact ⟨rfl, hcontent⟩
  have hpaths : files.map PlannedFile.path =
      (Artifact.all o.exports c).map (Artifact.path (OutputLayout.ofOptions working o)) :=
    map_eq_of_forall₂ (hfiles.imp (fun _ _ hf => hf.1))
  refine ⟨rfl, files, byPath_perm ?_ ?_, hfiles⟩
  · rw [hpaths]
    exact Artifact.nodup_paths h _ _
  · refine List.forall_mem_map.1 (?_ : ∀ p ∈ files.map PlannedFile.path, p.Absolute)
    rw [hpaths]
    exact List.forall_mem_map.2 (fun a _ => (OutputLayout.absolute_ofOptions hworking o).path a)

/-- The ways from the output directory to the files of a plan are distinct. -/
theorem nodup_ways (h : c.WellNamed) (hworking : working.Absolute)
    (hplan : ofClient fs working style o c = .ok plan) :
    (plan.files.map plan.relativeText).Nodup := by
  have habsolute := OutputLayout.absolute_ofOptions hworking o
  obtain ⟨hroot, files, hperm, hfiles⟩ := exists_files h hworking hplan
  refine (hperm.map _).nodup_iff.2 ?_
  have hways : files.map plan.relativeText = (Artifact.all o.exports c).map (fun a =>
      Path.relativeText plan.root.text (a.path (OutputLayout.ofOptions working o)).text) :=
    map_eq_of_forall₂ (hfiles.imp (fun a f hf => by rw [relativeText, hf.1]))
  rw [hways, hroot]
  have hpaths := Artifact.nodup_paths h o.exports (OutputLayout.ofOptions working o)
  refine (List.Nodup.of_map _ hpaths).map_on (fun a ha b hb heq => ?_)
  refine List.inj_on_of_nodup_map hpaths ha hb ?_
  -- a way leads to one path only
  rw [← habsolute.root.descend_relativeText (habsolute.path a), heq,
    habsolute.root.descend_relativeText (habsolute.path b)]

/-- A plan is made when the output directory is given and every artifact has a text. -/
theorem exists_plan_iff : (∃ plan, ofClient fs working style o c = .ok plan) ↔
    Text.trim o.output ≠ "" ∧
      ∀ a ∈ Artifact.all o.exports c, (a.rendering? fs working style o c).isSome = true := by
  have hsome : ∀ a, (Artifact.file? fs working style o c a).isSome =
      (a.rendering? fs working style o c).isSome := fun a => Option.isSome_map
  simp only [ofClient_eq_ok_iff, exists_and_left, ← hsome, ← exists_mapM_iff]
  refine and_congr_right (fun _ => ?_)
  constructor
  · rintro ⟨plan, files, hfiles, rfl⟩
    exact ⟨files, hfiles⟩
  · rintro ⟨files, hfiles⟩
    exact ⟨_, files, hfiles, rfl⟩

/-- The client of a document is planned when the output directory is given and every artifact has a
text. The plan then has one file for each artifact: their number is the number of artifacts, the
ways from the output directory to them are distinct, and on the way to the path of an artifact
stands the text of this artifact. -/
theorem ofClient_keeps_artifacts {filter : TagFilter} {doc : Value}
    (h : Client.ofDocument filter doc = .ok c) (hworking : working.Absolute) (fs : FileSystem)
    (style : CodeStyle) (o : OutputOptions) :
    ((∃ plan, ofClient fs working style o c = .ok plan) ↔ Text.trim o.output ≠ "" ∧
      ∀ a ∈ Artifact.all o.exports c, (a.rendering? fs working style o c).isSome = true) ∧
    ∀ plan, ofClient fs working style o c = .ok plan →
      plan.files.length =
        1 + (if o.exports.core then 6 else 0) + (if o.exports.models then c.models.length else 0) +
          (if o.exports.schemas then c.schemas.length else 0) +
          (if o.exports.services then c.services.length else 0) ∧
      (plan.files.map plan.relativeText).Nodup ∧
      ∀ a ∈ Artifact.all o.exports c,
        plan.contentAt? (Path.relativeText plan.root.text
            (a.path (OutputLayout.ofOptions working o)).text) =
          a.rendering? fs working style o c := by
  have hnamed := Client.wellNamed_ofDocument h
  refine ⟨exists_plan_iff, fun plan hplan => ?_⟩
  obtain ⟨hroot, files, hperm, hfiles⟩ := exists_files hnamed hworking hplan
  have hways := nodup_ways hnamed hworking hplan
  refine ⟨?_, hways, fun a ha => ?_⟩
  · rw [hperm.length_eq, ← hfiles.length_eq, Artifact.length_all]
  · obtain ⟨f, hf, hpath, hcontent⟩ := exists_left_of_forall₂ hfiles.flip ha
    rw [hcontent]
    refine lookup_eq_some_of_mem ?_ (List.mem_map.2 ⟨f, hperm.mem_iff.2 hf, ?_⟩)
    · rwa [List.map_map]
    · rw [relativeText, hpath]

/-- A document of version 2 whose definition asks for the name of the class of its service. -/
def contested : Value :=
  .mapping
    [("definitions", .mapping [("pets-service", .mapping [("type", .text "string")])]),
     ("info", .mapping [("title", .text "pets"), ("version", .text "1")]),
     ("paths", .mapping [("/pets", .mapping [("get", .mapping
       [("responses", .mapping [("200", .mapping
          [("description", .text "ok"),
           ("schema", .mapping [("$ref", .text "#/definitions/pets-service")])])]),
        ("tags", .list [.text "pets"])])])]),
     ("swagger", .text "2.0")]

/-- The client of `contested`. -/
theorem exists_contested :
    ∃ c, Client.ofDocument {} contested = .ok c ∧ c.models.map Model.name = ["PetsService"] ∧
      c.services.map (fun s => (s.name, s.imports)) = [("Pets1", ["PetsService"])] ∧
      c.schemas.length = 1 ∧ ∀ s ∈ c.schemas, (TypeScript.schemaFile? s).isSome = true := by
  have hall : (Client.ofUnreferenced? {} contested).map (fun c =>
      (c.models.map Model.name, c.services.map (fun s => (s.name, s.imports)), c.schemas.length,
        c.schemas.all (fun s => (TypeScript.schemaFile? s).isSome))) =
      some (["PetsService"], [("Pets1", ["PetsService"])], 1, true) := by decide +kernel
  obtain ⟨c, hc, hfacts⟩ := Option.map_eq_some_iff.1 hall
  simp only [Prod.mk.injEq, List.all_eq_true] at hfacts
  exact ⟨c, Client.ofDocument_of_unreferenced hc, hfacts⟩

/-- An output in which all categories have the output directory. -/
def together : OutputOptions where
  output := "out"
  core := "out"
  models := "out"
  schemas := "out"
  services := "./out"
  exports := ⟨true, true, true, true⟩

/-- The files of `contested` stay apart in one directory, as `ofClient_keeps_artifacts` says. -/
theorem ofClient_keeps_artifacts_contested :
    ∃ c plan, Client.ofDocument {} contested = .ok c ∧
      ofClient {} ⟨true, ["work"]⟩ {} together c = .ok plan ∧ plan.files.length = 10 ∧
      (plan.files.map plan.relativeText).Nodup ∧
      ∀ a ∈ Artifact.all together.exports c,
        plan.contentAt? (Path.relativeText plan.root.text
            (a.path (OutputLayout.ofOptions ⟨true, ["work"]⟩ together)).text) =
          a.rendering? {} ⟨true, ["work"]⟩ {} together c := by
  obtain ⟨c, hc, hmodels, hservices, hschemas, htexts⟩ := exists_contested
  have hworking : Path.Absolute ⟨true, ["work"]⟩ := by decide
  obtain ⟨hplans, hkeeps⟩ := ofClient_keeps_artifacts hc hworking {} {} together
  obtain ⟨plan, hplan⟩ := hplans.2 ⟨by decide, Artifact.rendered htexts rfl⟩
  obtain ⟨hlength, hways, hcontents⟩ := hkeeps plan hplan
  have hmodels : c.models.length = 1 := by simpa using congrArg List.length hmodels
  have hservices : c.services.length = 1 := by simpa using congrArg List.length hservices
  rw [hmodels, hschemas, hservices] at hlength
  exact ⟨c, plan, hc, hplan, hlength, hways, hcontents⟩

end OutputPlan

end TypedClient
