import TypedClient.Proofs.FileSystem
import TypedClient.Proofs.Output.Files

/-!
# Writing files

The files of a plan are written one after the other. `writeAll_cases` says when all of them can be
written and what stands where afterwards; when one of them cannot be written, all that was there
still is, but for files that were written over. Without force nothing below the output directory
is written over, as `Client.emit_spares_output` says.
-/

namespace TypedClient

namespace OutputPlan

variable {fs fs' written after : FileSystem} {files rest : List PlannedFile} {f : PlannedFile}
  {q : List String} {e : FileEntry}

/-- Whether files can all be written: each at its path, and none in the way of another. -/
structure Fits (fs : FileSystem) (files : List PlannedFile) : Prop where
  writable : ∀ f ∈ files, fs.Writable f.path.segments
  apart : ∀ f ∈ files, ∀ g ∈ files,
    f.path.segments <+: g.path.segments → f.path.segments = g.path.segments

/-- What stands where after files were written. All paths above a file are directories, since a
tree is left. -/
structure Written (files : List PlannedFile) (fs written : FileSystem) : Prop where
  isTree : written.IsTree
  holds : ∀ f ∈ files, written.entry? f.path.segments = some (.file f.content)
  other : ∀ q, (∀ f ∈ files, ¬ q <+: f.path.segments) → written.entry? q = fs.entry? q

/-- What was there still is as it was, or was a file and holds the text of one of `files` now. -/
def Keeps (files : List PlannedFile) (fs after : FileSystem) : Prop :=
  ∀ q e, fs.entry? q = some e → after.entry? q = some e ∨
    ∃ f ∈ files, f.path.segments = q ∧ e ≠ .directory ∧ after.entry? q = some (.file f.content)

theorem keeps_refl (files : List PlannedFile) (fs : FileSystem) : Keeps files fs fs :=
  fun _ _ he => .inl he

theorem Keeps.trans (h : Keeps files fs fs') (h' : Keeps rest fs' after) :
    Keeps (files ++ rest) fs after := by
  intro q e he
  rcases h q e he with hmid | ⟨f, hf, hpath, hfile, hmid⟩
  · refine (h' q e hmid).imp_right ?_
    rintro ⟨g, hg, hrest⟩
    exact ⟨g, List.mem_append_right _ hg, hrest⟩
  · rcases h' q _ hmid with hafter | ⟨g, hg, hpath, -, hafter⟩
    · exact .inr ⟨f, List.mem_append_left _ hf, hpath, hfile, hafter⟩
    · exact .inr ⟨g, List.mem_append_right _ hg, hpath, hfile, hafter⟩

/-- Writing one file changes no other. -/
theorem keeps_write (h : fs.IsTree) (hpath : f.path.Absolute) :
    (fs.write f.path f.content).1.IsTree ∧ Keeps [f] fs (fs.write f.path f.content).1 := by
  rcases h.write_cases hpath f.content with
    ⟨hwritable, written, hwrite, htree, hentry⟩ | ⟨-, made, words, hwrite, htree, hkept⟩
  case inr =>
    rw [hwrite]
    exact ⟨htree, fun q e he => .inl (hkept q e he)⟩
  case inl =>
    obtain ⟨hfree, hat⟩ := FileSystem.writable_iff.1 hwritable
    rw [hwrite]
    refine ⟨htree, fun q e he => ?_⟩
    by_cases hq : q = f.path.segments
    · refine .inr ⟨f, List.mem_singleton_self f, hq.symm, fun hdirectory => ?_, ?_⟩
      · exact hat (by rw [← hq, he, hdirectory])
      · rw [hentry, if_pos hq]
    · rw [hentry, if_neg hq]
      split
      case isFalse => exact .inl he
      case isTrue habove =>
        -- a file above the path would have been in the way
        cases e with
        | directory => exact .inl rfl
        | file content => exact absurd he (hfree q content habove hq)

/-- Whatever becomes of a run, all that was there still is, but for files that are written over. -/
theorem keeps_writeAll (h : fs.IsTree) (hpaths : ∀ f ∈ files, f.path.Absolute) (root : Path) :
    (writeAll root fs files).1.IsTree ∧ Keeps files fs (writeAll root fs files).1 := by
  induction files generalizing fs with
  | nil => exact ⟨h, keeps_refl [] fs⟩
  | cons f rest ih =>
      rw [List.forall_mem_cons] at hpaths
      obtain ⟨htree, hkeeps⟩ := keeps_write h hpaths.1
      unfold writeAll
      split
      case h_1 written hwrite =>
        rw [hwrite] at htree hkeeps
        obtain ⟨hend, hrest⟩ := ih htree hpaths.2
        exact ⟨hend, hkeeps.trans hrest⟩
      case h_2 made words hwrite =>
        rw [hwrite] at htree hkeeps
        exact ⟨htree, hkeeps.trans (keeps_refl rest made)⟩

/-- After a file was written, another can be written when it could be before and neither file is in
the way of the other. -/
theorem writable_of_write {p : List String} (hp : fs.Writable p) {content : String}
    (hentry : ∀ q, written.entry? q =
      if q = p then some (.file content) else if q <+: p then some .directory else fs.entry? q)
    (hne : q ≠ p) :
    written.Writable q ↔ fs.Writable q ∧ ¬ p <+: q ∧ ¬ q <+: p := by
  rw [FileSystem.writable_iff] at hp
  simp only [FileSystem.writable_iff]
  constructor
  · rintro ⟨hfree, hat⟩
    have hnot : ¬ q <+: p := fun hq => hat (by rw [hentry, if_neg hne, if_pos hq])
    refine ⟨⟨fun r old hr hrq hfile => ?_, ?_⟩, fun hpq => ?_, hnot⟩
    · by_cases hrp : r = p
      · exact hfree r content hr hrq (by rw [hentry, if_pos hrp])
      · by_cases habove : r <+: p
        · exact hp.1 r old habove hrp hfile
        · exact hfree r old hr hrq (by rw [hentry, if_neg hrp, if_neg habove, hfile])
    · rwa [hentry, if_neg hne, if_neg hnot] at hat
    · exact hfree p content hpq hne.symm (by rw [hentry, if_pos rfl])
  · rintro ⟨⟨hfree, hat⟩, hbelow, habove⟩
    refine ⟨fun r old hr hrq hfile => ?_, ?_⟩
    · rw [hentry] at hfile
      split at hfile
      case isTrue hrp => exact hbelow (hrp ▸ hr)
      case isFalse =>
        split at hfile
        case isTrue => cases hfile
        case isFalse => exact hfree r old hr hrq hfile
    · rwa [hentry, if_neg hne, if_neg habove]

/-- After the first of some files was written, the others fit when all did. -/
theorem fits_cons_iff (hf : fs.Writable f.path.segments)
    (hentry : ∀ q, written.entry? q =
      if q = f.path.segments then some (.file f.content)
      else if q <+: f.path.segments then some .directory else fs.entry? q)
    (hnew : ∀ g ∈ rest, g.path.segments ≠ f.path.segments) :
    Fits written rest ↔ Fits fs (f :: rest) := by
  constructor
  · rintro ⟨hwritable, hapart⟩
    have hall : ∀ g ∈ rest, fs.Writable g.path.segments ∧
        ¬ f.path.segments <+: g.path.segments ∧ ¬ g.path.segments <+: f.path.segments :=
      fun g hg => (writable_of_write hf hentry (hnew g hg)).1 (hwritable g hg)
    refine ⟨List.forall_mem_cons.2 ⟨hf, fun g hg => (hall g hg).1⟩, ?_⟩
    intro g hg k hk hgk
    rcases List.mem_cons.1 hg with hgf | hgrest <;> rcases List.mem_cons.1 hk with hkf | hkrest
    · rw [hgf, hkf]
    · exact absurd (hgf ▸ hgk) (hall k hkrest).2.1
    · exact absurd (hkf ▸ hgk) (hall g hgrest).2.2
    · exact hapart g hgrest k hkrest hgk
  · rintro ⟨hwritable, hapart⟩
    refine ⟨fun g hg => ?_, fun g hg k hk =>
      hapart g (List.mem_cons_of_mem _ hg) k (List.mem_cons_of_mem _ hk)⟩
    refine (writable_of_write hf hentry (hnew g hg)).2
      ⟨hwritable g (List.mem_cons_of_mem _ hg), fun hfg => ?_, fun hgf => ?_⟩
    · exact hnew g hg (hapart f List.mem_cons_self g (List.mem_cons_of_mem _ hg) hfg).symm
    · exact hnew g hg (hapart g (List.mem_cons_of_mem _ hg) f List.mem_cons_self hgf)

/-- Files at distinct paths are all written when they fit, and not otherwise. -/
theorem writeAll_cases (h : fs.IsTree) (hpaths : ∀ f ∈ files, f.path.Absolute)
    (hnodup : (files.map (fun f => f.path.segments)).Nodup) (root : Path) :
    (Fits fs files ∧ ∃ written, writeAll root fs files = (written, .ok ()) ∧
      Written files fs written) ∨
    ¬ Fits fs files ∧ ∃ made fault, writeAll root fs files = (made, .error fault) := by
  induction files generalizing fs with
  | nil =>
      refine .inl ⟨⟨?_, ?_⟩, fs, rfl, h, ?_, fun _ _ => rfl⟩ <;> exact fun f hf => by cases hf
  | cons f rest ih =>
      rw [List.forall_mem_cons] at hpaths
      rw [List.map_cons, List.nodup_cons] at hnodup
      have hnew : ∀ g ∈ rest, g.path.segments ≠ f.path.segments :=
        fun g hg heq => hnodup.1 (List.mem_map.2 ⟨g, hg, heq⟩)
      rcases h.write_cases hpaths.1 f.content with
        ⟨hf, written, hwrite, htree, hentry⟩ | ⟨hf, made, words, hwrite, -, -⟩
      case inr =>
        exact .inr ⟨fun hfits => hf (hfits.writable f List.mem_cons_self), made, _,
          by rw [writeAll, hwrite]⟩
      case inl =>
        have hstep : writeAll root fs (f :: rest) = writeAll root written rest := by
          rw [writeAll, hwrite]
        rw [hstep, ← fits_cons_iff hf hentry hnew]
        refine (ih htree hpaths.2 hnodup.2).imp_left ?_
        rintro ⟨hfits, final, hfinal, hrest⟩
        refine ⟨hfits, final, hfinal, hrest.isTree, List.forall_mem_cons.2 ⟨?_, hrest.holds⟩, ?_⟩
        · have hkept := hrest.other f.path.segments (fun g hg hfg =>
            ((writable_of_write hf hentry (hnew g hg)).1 (hfits.writable g hg)).2.1 hfg)
          rw [hkept, hentry, if_pos rfl]
        · intro q hq
          rw [List.forall_mem_cons] at hq
          have hne : q ≠ f.path.segments := fun heq => hq.1 (heq ▸ List.prefix_refl _)
          rw [hrest.other q hq.2, hentry, if_neg hne, if_neg hq.1]

/-- What a run that succeeds has written. -/
theorem written_of_writeAll (h : fs.IsTree) (hpaths : ∀ f ∈ files, f.path.Absolute)
    (hnodup : (files.map (fun f => f.path.segments)).Nodup) {root : Path}
    (hwrite : writeAll root fs files = (written, .ok ())) :
    Fits fs files ∧ Written files fs written := by
  rcases writeAll_cases h hpaths hnodup root with
    ⟨hfits, made, hall, hwritten⟩ | ⟨-, made, fault, hfails⟩
  · rw [hall] at hwrite
    cases hwrite
    exact ⟨hfits, hwritten⟩
  · rw [hfails] at hwrite
    cases hwrite

/-- Files that fit are written. -/
theorem exists_written (h : fs.IsTree) (hpaths : ∀ f ∈ files, f.path.Absolute)
    (hnodup : (files.map (fun f => f.path.segments)).Nodup) (root : Path) (hfits : Fits fs files) :
    ∃ written, writeAll root fs files = (written, .ok ()) ∧ Written files fs written :=
  ((writeAll_cases h hpaths hnodup root).resolve_right (fun hnot => hnot.1 hfits)).2

/-! ## The files of a plan -/

theorem mem_entries_byPath {x : String × PlannedFile}
    (h : x ∈ Dict.ofEntries (files.map (fun f => (f.path.text, f)))) :
    x.2 ∈ files ∧ x.2.path.text = x.1 := by
  obtain ⟨f, hf, rfl⟩ := List.mem_map.1 (Dict.mem_of_mem_ofEntries h)
  exact ⟨hf, rfl⟩

theorem mem_of_mem_byPath (h : f ∈ byPath files) : f ∈ files := by
  obtain ⟨x, hx, rfl⟩ := List.mem_map.1 h
  exact (mem_entries_byPath hx).1

/-- The texts of the paths of a plan ascend. -/
theorem byPath_ascends (files : List PlannedFile) :
    (byPath files).Pairwise (fun f g => f.path.text < g.path.text) := by
  have hsorted : (Dict.ofEntries (files.map (fun f => (f.path.text, f)))).Sorted :=
    Dict.Sorted.insertAll List.Pairwise.nil _
  refine List.pairwise_map.2 (hsorted.imp_of_mem (fun hx hy hlt => ?_))
  rwa [(mem_entries_byPath hx).2, (mem_entries_byPath hy).2]

variable {working : Path} {style : CodeStyle} {o : OutputOptions} {c : Client} {plan : OutputPlan}

/-- Everything in a plan has an absolute path. -/
theorem absolute_plan (hworking : working.Absolute)
    (hplan : ofClient fs working style o c = .ok plan) :
    plan.root.Absolute ∧ ∀ f ∈ plan.files, f.path.Absolute := by
  have hl := OutputLayout.absolute_ofOptions hworking o
  obtain ⟨-, files, hfiles, rfl⟩ := ofClient_eq_ok_iff.1 hplan
  refine ⟨hl.root, fun f hf => ?_⟩
  obtain ⟨a, -, ha⟩ := exists_left_of_forall₂ (mapM_eq_some_iff.1 hfiles) (mem_of_mem_byPath hf)
  obtain ⟨content, -, rfl⟩ := Option.map_eq_some_iff.1 ha
  exact hl.path a

/-- Different files of a plan have different paths. -/
theorem nodup_plan (hworking : working.Absolute)
    (hplan : ofClient fs working style o c = .ok plan) :
    (plan.files.map (fun f => f.path.segments)).Nodup := by
  obtain ⟨-, habsolute⟩ := absolute_plan hworking hplan
  obtain ⟨-, files, -, rfl⟩ := ofClient_eq_ok_iff.1 hplan
  refine List.pairwise_map.2 ((byPath_ascends files).imp_of_mem (fun hf hg hlt heq => ?_))
  rw [(habsolute _ hf).eq_of_segments_eq (habsolute _ hg) heq] at hlt
  exact String.lt_irrefl _ hlt

/-! ## The guard of the output directory -/

/-- Nothing stands below an output directory that is not occupied. -/
theorem entry?_below_unoccupied (h : fs.IsTree) {root : Path} (hroot : root.Absolute)
    (hfree : isOccupied fs root = false) (hq : root.segments <+: q) (hne : q ≠ root.segments) :
    fs.entry? q = none := by
  by_contra hsome
  obtain ⟨e, hsome⟩ := Option.ne_none_iff_exists'.1 hsome
  obtain ⟨rest, rfl⟩ := hq
  cases rest with
  | nil => simp at hne
  | cons name rest =>
      have hdirectory : fs.entry? root.segments = some .directory :=
        h.directory_of_isPrefix (List.prefix_append _ _) hne.symm hsome
      obtain ⟨child, hchild⟩ : ∃ child, fs.entry? (root.segments ++ [name]) = some child := by
        rw [List.append_cons] at hsome
        by_cases hend : root.segments ++ [name] = root.segments ++ [name] ++ rest
        · exact ⟨e, hend ▸ hsome⟩
        · exact ⟨_, h.directory_of_isPrefix (List.prefix_append _ _) hend hsome⟩
      have hmem := h.mem_children.2 hchild
      rcases h.walk_root hroot.isName with ⟨e', he', hwalk⟩ | ⟨hnone, -⟩
      · rw [hdirectory] at he'
        cases he'
        rw [isOccupied, hwalk] at hfree
        cases hchildren : fs.children root.segments with
        | nil => rw [hchildren] at hmem; cases hmem
        | cons => simp [hchildren] at hfree
      · rw [hnone] at hdirectory
        cases hdirectory

/-- Whether a path lies below a directory. -/
def Below (directory : Path) (q : List String) : Prop :=
  directory.segments <+: q ∧ q ≠ directory.segments

/-- Without force, what a run writes over is a file of the plan that is not below the output
directory. -/
theorem commit_spares (h : fs.IsTree) (hroot : plan.root.Absolute)
    (hpaths : ∀ f ∈ plan.files, f.path.Absolute) (isCancelled : Bool) (exported : List Path)
    (he : fs.entry? q = some e) :
    FileSystem.entry? (plan.commit isCancelled false exported fs).1 q = some e ∨
      ∃ f ∈ plan.files, f.path.segments = q ∧ ¬ Below plan.root q ∧ e ≠ .directory ∧
        FileSystem.entry? (plan.commit isCancelled false exported fs).1 q =
          some (.file f.content) := by
  cases hoccupied : isOccupied fs plan.root with
  | true => exact .inl (by simpa [commit, hoccupied] using he)
  | false =>
      cases isCancelled with
      | true => exact .inl (by simpa [commit, hoccupied] using he)
      | false =>
          have hcommit : (plan.commit false false exported fs).1 =
              (writeAll plan.root fs plan.files).1 := by
            simp only [commit, hoccupied]
            rcases writeAll plan.root fs plan.files with ⟨written, fault | ⟨⟩⟩ <;> rfl
          rw [hcommit]
          refine ((keeps_writeAll h hpaths plan.root).2 q e he).imp_right ?_
          rintro ⟨f, hf, hpath, hfile, hafter⟩
          refine ⟨f, hf, hpath, fun hbelow => ?_, hfile, hafter⟩
          rw [entry?_below_unoccupied h hroot hoccupied hbelow.1 hbelow.2] at he
          cases he

/-- When a run succeeds: the output directory may be written to, nothing calls the run off, all
files are written, and with force the stale files are removed. -/
theorem commit_eq_ok_iff {isCancelled force : Bool} {exported : List Path} :
    plan.commit isCancelled force exported fs = (after, .ok ()) ↔
      (force = true ∨ isOccupied fs plan.root = false) ∧ isCancelled = false ∧
      ∃ written, writeAll plan.root fs plan.files = (written, .ok ()) ∧
        (if force then sweepAll (plan.files.map PlannedFile.path) written exported.eraseDups
          else (written, .ok ())) = (after, .ok ()) := by
  cases force <;> cases hoccupied : isOccupied fs plan.root <;> cases isCancelled <;>
    rcases hwrite : writeAll plan.root fs plan.files with ⟨written, fault | ⟨⟩⟩ <;>
    simp [commit, hoccupied, hwrite]

end OutputPlan

namespace Client

open OutputPlan

variable {s : Source.Surroundings} {style : CodeStyle} {o : OutputOptions} {c : Client}
  {after : FileSystem} {plan : OutputPlan}

/-- A run that does not write has its plan and changes nothing. -/
theorem emit_of_not_write (hwrite : o.write = false)
    (hplan : OutputPlan.ofClient s.files s.directory style o c = .ok plan) :
    c.emit s style o = (s.files, .ok plan) := by
  simp [emit, hplan, hwrite]

/-- What writing a client does is what its plan does. -/
theorem emit_of_write (hwrite : o.write = true)
    (hplan : OutputPlan.ofClient s.files s.directory style o c = .ok plan) :
    c.emit s style o =
      ((plan.commit s.cancelled o.force
        ((OutputLayout.ofOptions s.directory o).exported o.exports) s.files).1,
       (plan.commit s.cancelled o.force
        ((OutputLayout.ofOptions s.directory o).exported o.exports) s.files).2.map
          (fun _ => plan)) := by
  simp only [emit, hplan, hwrite, if_true]
  rcases plan.commit s.cancelled o.force
    ((OutputLayout.ofOptions s.directory o).exported o.exports) s.files with ⟨fs, fault | ⟨⟩⟩
  · rfl
  · rfl

/-- A client is written when its plan is made and carried out. -/
theorem emit_eq_ok_iff (hwrite : o.write = true) : c.emit s style o = (after, .ok plan) ↔
    OutputPlan.ofClient s.files s.directory style o c = .ok plan ∧
      plan.commit s.cancelled o.force
        ((OutputLayout.ofOptions s.directory o).exported o.exports) s.files = (after, .ok ()) := by
  constructor
  · intro h
    cases hplan : OutputPlan.ofClient s.files s.directory style o c with
    | error fault => simp [emit, hplan] at h
    | ok made =>
        rw [emit_of_write hwrite hplan] at h
        rcases hcommit : made.commit s.cancelled o.force
          ((OutputLayout.ofOptions s.directory o).exported o.exports) s.files with ⟨fs, fault | ⟨⟩⟩
        · rw [hcommit] at h
          cases h
        · rw [hcommit] at h
          cases h
          exact ⟨rfl, hcommit⟩
  · rintro ⟨hplan, hcommit⟩
    rw [emit_of_write hwrite hplan, hcommit]
    rfl

/-- Without force nothing is removed, and a file is written over only if it is a file of the plan
that is not below the output directory. A run that succeeds has made the files of the plan and the
directories above them, and nothing else. -/
theorem emit_spares_output (htree : s.files.IsTree) (hdirectory : s.directory.Absolute)
    (hwrite : o.write = true) (hforce : o.force = false) {result : Except Fault OutputPlan}
    (h : c.emit s style o = (after, result)) :
    (∀ q e, s.files.entry? q = some e → after.entry? q = some e ∨
      ∃ plan, OutputPlan.ofClient s.files s.directory style o c = .ok plan ∧
        ∃ f ∈ plan.files, f.path.segments = q ∧ ¬ Below plan.root q ∧ e ≠ .directory ∧
          after.entry? q = some (.file f.content)) ∧
    ∀ plan, result = .ok plan →
      OutputPlan.ofClient s.files s.directory style o c = .ok plan ∧
        Written plan.files s.files after := by
  constructor
  · intro q e he
    cases hplan : OutputPlan.ofClient s.files s.directory style o c with
    | error fault =>
        simp only [emit, hplan, Prod.mk.injEq] at h
        exact .inl (h.1 ▸ he)
    | ok plan =>
        obtain ⟨hroot, hpaths⟩ := absolute_plan hdirectory hplan
        rw [emit_of_write hwrite hplan, hforce] at h
        obtain ⟨hafter, -⟩ := Prod.mk.inj h
        rw [← hafter]
        refine (commit_spares htree hroot hpaths s.cancelled _ he).imp_right ?_
        exact fun hover => ⟨plan, rfl, hover⟩
  · rintro plan rfl
    obtain ⟨hplan, hcommit⟩ := (emit_eq_ok_iff hwrite).1 h
    obtain ⟨-, hpaths⟩ := absolute_plan hdirectory hplan
    obtain ⟨-, -, written, hwritten, hafter⟩ := commit_eq_ok_iff.1 hcommit
    rw [hforce] at hafter
    cases hafter
    exact ⟨hplan, (written_of_writeAll htree hpaths (nodup_plan hdirectory hplan) hwritten).2⟩

/-- Files in a working directory, one of them where a model of the same name would go. -/
def shelf : Source.Surroundings where
  files := ⟨[(["work"], .directory), (["work", "shared"], .directory),
    (["work", "shared", "Pet.ts"], .file "mine"), (["work", "shared", "notes.md"], .file "notes")]⟩
  directory := ⟨true, ["work"]⟩

/-- A client with one model. -/
def keeper : Client where
  models := [.leaf { kind := .generic, type := "string", name := "Pet" }]

/-- An output whose models stand beside the output directory. -/
def beside : OutputOptions where
  output := "out"
  models := "shared"
  exports := { models := true }
  write := true

/-- The run of `keeper` on `shelf` succeeds and writes two files. -/
theorem exists_beside : ∃ after plan, keeper.emit shelf {} beside = (after, .ok plan) ∧
    plan.files.map (fun f => f.path.segments) =
      [["work", "out", "index.ts"], ["work", "shared", "Pet.ts"]] ∧
    after.entry? ["work", "shared", "Pet.ts"] =
      some (.file (TypeScript.headed "\nexport type Pet = string;\n")) := by
  have hplan : (keeper.emit shelf {} beside).2.toOption.map
      (fun plan => plan.files.map (fun f => f.path.segments)) =
        some [["work", "out", "index.ts"], ["work", "shared", "Pet.ts"]] := by decide +kernel
  have hfile : FileSystem.entry? (keeper.emit shelf {} beside).1 ["work", "shared", "Pet.ts"] =
      some (.file (TypeScript.headed "\nexport type Pet = string;\n")) := by decide +kernel
  obtain ⟨plan, hok, hpaths⟩ := Option.map_eq_some_iff.1 hplan
  exact ⟨_, plan, Prod.ext rfl (eq_ok_of_toOption hok), hpaths, hfile⟩

/-- What `emit_spares_output` says of `keeper` on `shelf`: the notes stay, as they are no file of
the plan. -/
theorem emit_spares_output_shelf : ∃ after plan, keeper.emit shelf {} beside = (after, .ok plan) ∧
    after.entry? ["work", "shared", "notes.md"] = some (.file "notes") ∧
    Written plan.files shelf.files after := by
  obtain ⟨after, plan, hrun, hpaths, -⟩ := exists_beside
  obtain ⟨hspared, hwritten⟩ := emit_spares_output (by decide) (by decide) rfl rfl hrun
  obtain ⟨hplan, hfiles⟩ := hwritten plan rfl
  refine ⟨after, plan, hrun, (hspared _ _ rfl).resolve_right ?_, hfiles⟩
  rintro ⟨other, hother, f, hf, hpath, -⟩
  obtain rfl : plan = other := Except.ok.inj (hplan.symm.trans hother)
  have hmem := List.mem_map_of_mem (f := fun f : PlannedFile => f.path.segments) hf
  rw [hpaths, hpath] at hmem
  exact absurd hmem (by decide)

/-- Without force a file that was there before is written over: it is a file of the plan, and not
below the output directory. -/
theorem file_beside_output_replaced : ∃ after plan,
    keeper.emit shelf {} beside = (after, .ok plan) ∧
    shelf.files.IsTree ∧ shelf.directory.Absolute ∧ beside.write = true ∧ beside.force = false ∧
    ¬ ∀ q content, shelf.files.entry? q = some (.file content) →
      after.entry? q = some (.file content) := by
  obtain ⟨after, plan, hrun, -, hfile⟩ := exists_beside
  refine ⟨after, plan, hrun, by decide, by decide, rfl, rfl, fun hall => ?_⟩
  have hsame := hall ["work", "shared", "Pet.ts"] "mine" rfl
  rw [hfile] at hsame
  exact absurd hsame (by decide +kernel)

end Client

end TypedClient
