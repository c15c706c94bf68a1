import TypedClient.Proofs.Output.Writing

/-!
# Removing stale files

With force, the files of the generated kind that the plan does not hold are removed from the
directories of the written categories. `sweep_cases` says what one directory loses and
`swept_sweepAll` what all of them lose. `Client.emit_settles` joins this with what writing does:
it says exactly what stands where after a run, and that a second run changes nothing as long as
the first has left the file in place of the request file alone.
-/

namespace TypedClient

/-- The directories of the written categories are absolute. -/
theorem OutputLayout.Absolute.exported {l : OutputLayout} (h : l.Absolute)
    (exports : TypeScript.Exports) : ∀ d ∈ l.exported exports, d.Absolute := by
  have hwanted : ∀ {wanted : Bool} {d e : Path}, e.Absolute →
      d ∈ (if wanted then [e] else []) → d.Absolute := by
    intro wanted d e he hd
    split at hd
    · exact List.mem_singleton.1 hd ▸ he
    · cases hd
  intro d hd
  simp only [OutputLayout.exported, List.mem_append] at hd
  rcases hd with ((hd | hd) | hd) | hd
  · exact hwanted h.core hd
  · exact hwanted h.models hd
  · exact hwanted h.schemas hd
  · exact hwanted h.services hd

namespace OutputPlan

variable {fs fs' swept after : FileSystem} {kept directories rest : List Path} {directory : Path}
  {q : List String} {e : FileEntry}

/-- Whether an entry is a file of the generated kind directly inside one of some directories. -/
def CodeIn (directories : List Path) (q : List String) (e : FileEntry) : Prop :=
  ∃ directory ∈ directories, ∃ name content, q = directory.segments ++ [name] ∧
    Path.extension name = ".ts" ∧ e = .file content

theorem codeIn_iff : CodeIn directories q e ↔ ∃ directory ∈ directories,
    q.dropLast = directory.segments ∧ q.getLast?.map Path.extension = some ".ts" ∧
      e ≠ .directory := by
  constructor
  · rintro ⟨directory, hdirectory, name, content, rfl, hname, rfl⟩
    exact ⟨directory, hdirectory, by simp, by simp [hname], by simp⟩
  · rintro ⟨directory, hdirectory, hdrop, hlast, hfile⟩
    obtain ⟨name, hlast, hname⟩ := Option.map_eq_some_iff.1 hlast
    cases e with
    | directory => exact absurd rfl hfile
    | file content =>
        refine ⟨directory, hdirectory, name, content, ?_, hname, rfl⟩
        rw [← hdrop, List.dropLast_append_getLast? name hlast]

instance : Decidable (CodeIn directories q e) := decidable_of_iff _ codeIn_iff.symm

/-- Whether an entry is such a file and none of those that are kept. -/
def Stale (kept directories : List Path) (q : List String) (e : FileEntry) : Prop :=
  CodeIn directories q e ∧ ∀ p ∈ kept, p.segments ≠ q

/-- What stands where after the stale files were removed from directories. -/
structure Swept (kept directories : List Path) (fs swept : FileSystem) : Prop where
  isTree : swept.IsTree
  gone : ∀ q e, fs.entry? q = some e → Stale kept directories q e → swept.entry? q = none
  other : ∀ q, (∀ e, fs.entry? q = some e → ¬ Stale kept directories q e) →
    swept.entry? q = fs.entry? q

/-- Files of a directory are erased one after the other. -/
theorem entry?_eraseAll (h : fs.IsTree) (directory : List String)
    (entries : List (String × FileEntry))
    (hfiles : ∀ x ∈ entries, fs.entry? (directory ++ [x.1]) ≠ some .directory) :
    (entries.foldl (fun fs x => fs.erase (directory ++ [x.1])) fs).IsTree ∧
      ∀ q, FileSystem.entry? (entries.foldl (fun fs x => fs.erase (directory ++ [x.1])) fs) q =
        if q ∈ entries.map (fun x => directory ++ [x.1]) then none else fs.entry? q := by
  induction entries generalizing fs with
  | nil => exact ⟨h, fun q => by simp⟩
  | cons x entries ih =>
      rw [List.forall_mem_cons] at hfiles
      have hentry := fs.entry?_erase (p := directory ++ [x.1]) (by simp)
      have hrest : ∀ y ∈ entries,
          FileSystem.entry? (fs.erase (directory ++ [x.1])) (directory ++ [y.1]) ≠
            some .directory := by
        intro y hy
        rw [hentry]
        split
        · simp
        · exact hfiles.2 y hy
      obtain ⟨htree, hall⟩ := ih (h.erase hfiles.1) hrest
      refine ⟨htree, fun q => ?_⟩
      rw [List.foldl_cons, hall, hentry, List.map_cons]
      by_cases hq : q = directory ++ [x.1]
      · simp [hq]
      · simp only [List.mem_cons, hq, false_or, if_false]

/-- What is stale in a directory of a tree. -/
theorem isStale_iff (h : fs.IsTree) (hdirectory : directory.Absolute)
    (hkept : ∀ p ∈ kept, p.Absolute) {name : String}
    (he : fs.entry? (directory.segments ++ [name]) = some e) :
    isStale kept directory name e = true ↔
      Stale kept [directory] (directory.segments ++ [name]) e := by
  have hname : Path.IsName name :=
    h.isName _ (FileSystem.mem_entries_of_found (by simp) he) name (by simp)
  have hdescend := Path.descend_name (p := directory) hname
  have hcontains : directory.descend name ∈ kept ↔
      ∃ p ∈ kept, p.segments = directory.segments ++ [name] := by
    constructor
    · exact fun hmem => ⟨_, hmem, by rw [hdescend]⟩
    · rintro ⟨p, hp, hsegments⟩
      have heq : p = directory.descend name :=
        (hkept p hp).eq_of_segments_eq (hdirectory.descend name) (by rw [hsegments, hdescend])
      exact heq ▸ hp
  cases e with
  | directory => simp [isStale, Stale, CodeIn]
  | file content => simp [isStale, Stale, CodeIn, hcontains]

/-- The stale children of a directory are removed. -/
theorem swept_children (h : fs.IsTree) (hdirectory : directory.Absolute)
    (hkept : ∀ p ∈ kept, p.Absolute) :
    Swept kept [directory] fs (((fs.children directory.segments).filter
      (fun (name, e) => isStale kept directory name e)).foldl
        (fun fs (name, _) => fs.erase (directory.segments ++ [name])) fs) := by
  have hmem : ∀ x ∈ (fs.children directory.segments).filter
      (fun (name, e) => isStale kept directory name e),
      fs.entry? (directory.segments ++ [x.1]) = some x.2 ∧
        Stale kept [directory] (directory.segments ++ [x.1]) x.2 := by
    intro x hx
    obtain ⟨hchild, hstale⟩ := List.mem_filter.1 hx
    have he := h.mem_children.1 hchild
    exact ⟨he, (isStale_iff h hdirectory hkept he).1 hstale⟩
  obtain ⟨htree, hentry⟩ := entry?_eraseAll h directory.segments
    ((fs.children directory.segments).filter (fun (name, e) => isStale kept directory name e))
    (fun x hx => by
      obtain ⟨he, ⟨_, _, _, content, -, -, hfile⟩, -⟩ := hmem x hx
      rw [he, hfile]
      simp)
  refine ⟨htree, fun q e he hstale => (hentry q).trans (if_pos ?_),
    fun q hlive => (hentry q).trans (if_neg ?_)⟩
  · obtain ⟨⟨d, hd, name, content, rfl, -⟩, -⟩ := id hstale
    rw [List.mem_singleton.1 hd] at he hstale ⊢
    exact List.mem_map.2 ⟨(name, e), List.mem_filter.2
      ⟨h.mem_children.2 he, (isStale_iff h hdirectory hkept he).2 hstale⟩, rfl⟩
  · intro hgone
    obtain ⟨x, hx, rfl⟩ := List.mem_map.1 hgone
    exact hlive x.2 (hmem x hx).1 (hmem x hx).2

/-- One directory loses its stale files, unless a file blocks the way to it. -/
theorem sweep_cases (h : fs.IsTree) (hdirectory : directory.Absolute)
    (hkept : ∀ p ∈ kept, p.Absolute) :
    (¬ fs.Blocked directory.segments ∧ ∃ swept, sweep kept fs directory = .ok swept ∧
      Swept kept [directory] fs swept) ∨
    fs.Blocked directory.segments ∧ ∃ fault, sweep kept fs directory = .error fault := by
  rcases h.walk_root hdirectory.isName with
    ⟨e, he, hwalk⟩ | ⟨hnone, ⟨hfree, hwalk⟩ | ⟨hblocked, hwalk⟩⟩
  · cases e with
    | file content =>
        exact .inr ⟨⟨_, content, List.prefix_refl _, he⟩, _,
          by rw [sweep, FileSystem.list, hwalk]⟩
    | directory =>
        have hlist : fs.list directory = .ok (some (fs.children directory.segments)) := by
          rw [FileSystem.list, hwalk]
        exact .inl ⟨h.not_blocked_of_directory he, _, by rw [sweep, hlist],
          swept_children h hdirectory hkept⟩
  · -- there is no such directory, and nothing in it
    refine .inl ⟨hfree, fs, by rw [sweep, FileSystem.list, hwalk], h, ?_, fun _ _ => rfl⟩
    rintro q e he ⟨⟨d, hd, name, content, rfl, -⟩, -⟩
    rw [List.mem_singleton.1 hd] at he
    rw [h.directory_above he] at hnone
    cases hnone
  · exact .inr ⟨hblocked, _, by rw [sweep, FileSystem.list, hwalk]⟩

/-- What is stale in one of several directories. -/
theorem stale_cons_iff : Stale kept (directory :: rest) q e ↔
    Stale kept [directory] q e ∨ Stale kept rest q e := by
  simp only [Stale, CodeIn, List.exists_mem_cons_iff, List.not_mem_nil, false_and, exists_false,
    or_false, or_and_right]

/-- What is left was there before and is not stale. -/
theorem Swept.live (h : Swept kept directories fs swept) (he : swept.entry? q = some e) :
    fs.entry? q = some e ∧ ¬ Stale kept directories q e := by
  by_cases hlive : ∀ e, fs.entry? q = some e → ¬ Stale kept directories q e
  · rw [h.other q hlive] at he
    exact ⟨he, hlive e he⟩
  · push Not at hlive
    obtain ⟨e', he', hstale⟩ := hlive
    rw [h.gone q e' he' hstale] at he
    cases he

/-- Directories that lose their stale files in turn. -/
theorem Swept.cons (h : Swept kept [directory] fs fs') (h' : Swept kept rest fs' swept) :
    Swept kept (directory :: rest) fs swept := by
  refine ⟨h'.isTree, fun q e he hstale => ?_, fun q hlive => ?_⟩
  · cases hmid : fs'.entry? q with
    | none => rw [h'.other q (fun e' he' => by rw [hmid] at he'; cases he'), hmid]
    | some e' =>
        obtain ⟨he', hlive⟩ := h.live hmid
        obtain rfl : e = e' := Option.some.inj (he.symm.trans he')
        exact h'.gone q e hmid ((stale_cons_iff.1 hstale).resolve_left hlive)
  · have hfirst := h.other q (fun e he hstale => hlive e he (stale_cons_iff.2 (.inl hstale)))
    rw [h'.other q (fun e he hstale => hlive e (hfirst ▸ he) (stale_cons_iff.2 (.inr hstale))),
      hfirst]

/-- Removing files blocks no way. -/
theorem Swept.not_blocked (h : Swept kept directories fs swept) {p : List String}
    (hfree : ¬ fs.Blocked p) : ¬ swept.Blocked p := by
  rintro ⟨q, content, hq, hfile⟩
  exact hfree ⟨q, content, hq, (h.live hfile).1⟩

/-- A run over directories that succeeds has removed their stale files, and no file blocks the way
to any of them. -/
theorem swept_sweepAll (h : fs.IsTree) (hdirectories : ∀ d ∈ directories, d.Absolute)
    (hkept : ∀ p ∈ kept, p.Absolute) (hsweep : sweepAll kept fs directories = (after, .ok ())) :
    Swept kept directories fs after ∧ ∀ d ∈ directories, ¬ after.Blocked d.segments := by
  induction directories generalizing fs with
  | nil =>
      cases hsweep
      refine ⟨⟨h, fun q e _ hstale => ?_, fun _ _ => rfl⟩, fun d hd => by cases hd⟩
      obtain ⟨⟨d, hd, -⟩, -⟩ := hstale
      cases hd
  | cons directory rest ih =>
      rw [List.forall_mem_cons] at hdirectories
      rcases sweep_cases h hdirectories.1 hkept with
        ⟨hfree, swept, hok, hswept⟩ | ⟨-, fault, herror⟩
      · rw [sweepAll, hok] at hsweep
        obtain ⟨hrest, hothers⟩ := ih hswept.isTree hdirectories.2 hsweep
        refine ⟨hswept.cons hrest, List.forall_mem_cons.2 ⟨?_, hothers⟩⟩
        exact hrest.not_blocked (hswept.not_blocked hfree)
      · rw [sweepAll, herror] at hsweep
        cases hsweep

/-- A run over directories succeeds when no file blocks the way to any of them. -/
theorem exists_sweepAll (h : fs.IsTree) (hdirectories : ∀ d ∈ directories, d.Absolute)
    (hkept : ∀ p ∈ kept, p.Absolute) (hfree : ∀ d ∈ directories, ¬ fs.Blocked d.segments) :
    ∃ after, sweepAll kept fs directories = (after, .ok ()) := by
  induction directories generalizing fs with
  | nil => exact ⟨fs, rfl⟩
  | cons directory rest ih =>
      rw [List.forall_mem_cons] at hdirectories hfree
      rcases sweep_cases h hdirectories.1 hkept with
        ⟨-, swept, hok, hswept⟩ | ⟨hblocked, -⟩
      · rw [sweepAll, hok]
        exact ih hswept.isTree hdirectories.2 (fun d hd => hswept.not_blocked (hfree.2 d hd))
      · exact absurd hblocked hfree.1

/-! ## A whole run -/

variable {plan : OutputPlan} {before : FileSystem}

/-- What stands where after a run that removes stale files. A path that the plan does not hold has
disappeared exactly if it was a file of the generated kind directly inside one of the exported
directories; whatever else was there is as it was, and nothing appears but the files of the plan and
the directories above them. -/
structure Settled (plan : OutputPlan) (exported : List Path) (before after : FileSystem) :
    Prop where
  planned : ∀ f ∈ plan.files, after.entry? f.path.segments = some (.file f.content)
  gone : ∀ q e, before.entry? q = some e → (∀ f ∈ plan.files, f.path.segments ≠ q) →
    (after.entry? q = none ↔ CodeIn exported q e)
  kept : ∀ q e, before.entry? q = some e → (∀ f ∈ plan.files, f.path.segments ≠ q) →
    ¬ CodeIn exported q e → after.entry? q = some e
  new : ∀ q e, before.entry? q = none → after.entry? q = some e →
    ∃ f ∈ plan.files, q <+: f.path.segments

/-- What writing and removing do together. -/
theorem settled_of_swept {written : FileSystem} {exported : List Path}
    (hkeeps : Keeps plan.files before written) (hwritten : Written plan.files before written)
    (hswept : Swept (plan.files.map PlannedFile.path) exported written after) :
    Settled plan exported before after := by
  have hlive : ∀ q e, (∀ f ∈ plan.files, f.path.segments ≠ q) →
      (Stale (plan.files.map PlannedFile.path) exported q e ↔ CodeIn exported q e) := by
    intro q e hq
    exact and_iff_left (List.forall_mem_map.2 hq)
  have hmid : ∀ q e, before.entry? q = some e → (∀ f ∈ plan.files, f.path.segments ≠ q) →
      written.entry? q = some e := by
    intro q e he hq
    refine (hkeeps q e he).resolve_right ?_
    rintro ⟨f, hf, hpath, -⟩
    exact hq f hf hpath
  have hkept : ∀ q e, before.entry? q = some e → (∀ f ∈ plan.files, f.path.segments ≠ q) →
      ¬ CodeIn exported q e → after.entry? q = some e := by
    intro q e he hq hcode
    rw [hswept.other q ?_, hmid q e he hq]
    intro e' he'
    rw [hmid q e he hq, Option.some.injEq] at he'
    rwa [hlive q e' hq, ← he']
  refine ⟨fun f hf => ?_, fun q e he hq => ⟨fun hnone => ?_, fun hcode => ?_⟩, hkept,
    fun q e hnone he => ?_⟩
  · have hplanned : f.path ∈ plan.files.map PlannedFile.path := List.mem_map_of_mem hf
    rw [hswept.other _ (fun e _ hstale => hstale.2 f.path hplanned rfl), hwritten.holds f hf]
  · by_contra hcode
    rw [hkept q e he hq hcode] at hnone
    cases hnone
  · exact hswept.gone q e (hmid q e he hq) ((hlive q e hq).2 hcode)
  · by_contra hapart
    push Not at hapart
    have hthere := (hswept.live he).1
    rw [hwritten.other q hapart, hnone] at hthere
    cases hthere

theorem stale_eraseDups_iff :
    Stale kept directories.eraseDups q e ↔ Stale kept directories q e := by
  simp only [Stale, CodeIn, List.mem_eraseDups]

/-- What a forced run that succeeds has done: all files are written, then what is stale is removed,
and no file blocks the way to a directory. -/
theorem exists_of_commit (h : before.IsTree) (hpaths : ∀ f ∈ plan.files, f.path.Absolute)
    (hnodup : (plan.files.map (fun f => f.path.segments)).Nodup) {isCancelled : Bool}
    {exported : List Path} (hexported : ∀ d ∈ exported, d.Absolute)
    (hcommit : plan.commit isCancelled true exported before = (after, .ok ())) :
    isCancelled = false ∧ ∃ written,
      Keeps plan.files before written ∧ Written plan.files before written ∧
      Swept (plan.files.map PlannedFile.path) exported written after ∧
      ∀ d ∈ exported, ¬ after.Blocked d.segments := by
  obtain ⟨-, hcancelled, written, hwrite, hsweep⟩ := commit_eq_ok_iff.1 hcommit
  rw [if_pos rfl] at hsweep
  have hkeeps := (keeps_writeAll h hpaths plan.root).2
  rw [hwrite] at hkeeps
  have hwritten := (written_of_writeAll h hpaths hnodup hwrite).2
  obtain ⟨hswept, hfree⟩ := swept_sweepAll hwritten.isTree
    (fun d hd => hexported d (List.mem_eraseDups.1 hd)) (List.forall_mem_map.2 hpaths) hsweep
  refine ⟨hcancelled, written, hkeeps, hwritten, ⟨hswept.isTree, ?_, ?_⟩,
    fun d hd => hfree d (List.mem_eraseDups.2 hd)⟩
  · exact fun q e he hstale => hswept.gone q e he (stale_eraseDups_iff.2 hstale)
  · exact fun q hlive => hswept.other q (fun e he hstale =>
      hlive e he (stale_eraseDups_iff.1 hstale))

/-- A forced run that succeeds leaves the directories that were there. -/
theorem directories_stay {written : FileSystem} {exported : List Path}
    (hkeeps : Keeps plan.files before written)
    (hswept : Swept (plan.files.map PlannedFile.path) exported written after)
    (hq : before.entry? q = some .directory) : after.entry? q = some .directory := by
  have hwritten : written.entry? q = some .directory := by
    refine (hkeeps q _ hq).resolve_right ?_
    rintro ⟨f, -, -, hfile, -⟩
    exact hfile rfl
  rw [hswept.other q ?_, hwritten]
  rintro e he ⟨⟨d, -, name, content, -, -, rfl⟩, -⟩
  rw [hwritten] at he
  cases he

/-- Files can be written where there are files. -/
theorem fits_of_held {files : List PlannedFile} (h : fs.IsTree)
    (hheld : ∀ f ∈ files, ∃ content, fs.entry? f.path.segments = some (.file content)) :
    Fits fs files := by
  have habove : ∀ f ∈ files, ∀ q content, q <+: f.path.segments →
      fs.entry? q = some (.file content) → q = f.path.segments := by
    intro f hf q content hq hfile
    by_contra hne
    obtain ⟨_, hthere⟩ := hheld f hf
    rw [h.directory_of_isPrefix hq hne hthere] at hfile
    cases hfile
  refine ⟨fun f hf => FileSystem.writable_iff.2 ⟨fun q content hq hne hfile => ?_, ?_⟩,
    fun f hf g hg hfg => ?_⟩
  · exact hne (habove f hf q content hq hfile)
  · obtain ⟨content, hthere⟩ := hheld f hf
    rw [hthere]
    simp
  · obtain ⟨content, hthere⟩ := hheld f hf
    exact habove g hg _ content hfg hthere

/-- Writing where there are files changes nothing else. -/
theorem Written.other_of_held {files : List PlannedFile} (h : Written files fs swept)
    (htree : fs.IsTree)
    (hheld : ∀ f ∈ files, ∃ content, fs.entry? f.path.segments = some (.file content))
    (hq : ∀ f ∈ files, f.path.segments ≠ q) : swept.entry? q = fs.entry? q := by
  by_cases hapart : ∀ f ∈ files, ¬ q <+: f.path.segments
  · exact h.other q hapart
  · push Not at hapart
    obtain ⟨f, hf, hprefix⟩ := hapart
    obtain ⟨content, hthere⟩ := hheld f hf
    rw [h.isTree.directory_of_isPrefix hprefix (hq f hf).symm (h.holds f hf),
      htree.directory_of_isPrefix hprefix (hq f hf).symm hthere]

/-- A second forced run with files at the same paths succeeds, and writes these files alone. -/
theorem commit_after {plan' : OutputPlan} (h : before.IsTree)
    (hpaths : ∀ f ∈ plan.files, f.path.Absolute)
    (hnodup : (plan.files.map (fun f => f.path.segments)).Nodup)
    (hsame : plan'.files.map PlannedFile.path = plan.files.map PlannedFile.path)
    {isCancelled : Bool} {exported : List Path} (hexported : ∀ d ∈ exported, d.Absolute)
    (hcommit : plan.commit isCancelled true exported before = (after, .ok ())) :
    ∃ again, plan'.commit isCancelled true exported after = (again, .ok ()) ∧
      (∀ f ∈ plan'.files, again.entry? f.path.segments = some (.file f.content)) ∧
      ∀ q, (∀ f ∈ plan'.files, f.path.segments ≠ q) → again.entry? q = after.entry? q := by
  obtain ⟨hcancelled, mid, hkeeps, hmid, hswept, hfree⟩ :=
    exists_of_commit h hpaths hnodup hexported hcommit
  have hpaths' : ∀ p ∈ plan'.files.map PlannedFile.path, p.Absolute :=
    hsame ▸ List.forall_mem_map.2 hpaths
  have hnodup' : (plan'.files.map (fun f => f.path.segments)).Nodup := by
    have hsegments := congrArg (List.map Path.segments) hsame
    rw [List.map_map, List.map_map] at hsegments
    exact hsegments ▸ hnodup
  have hheld : ∀ f ∈ plan'.files, ∃ content,
      after.entry? f.path.segments = some (.file content) := by
    intro f hf
    obtain ⟨g, hg, hpath⟩ := List.mem_map.1 (hsame ▸ List.mem_map_of_mem hf)
    exact ⟨_, hpath ▸ (settled_of_swept hkeeps hmid hswept).planned g hg⟩
  obtain ⟨written, hwrite, hwritten⟩ := exists_written hswept.isTree
    (List.forall_mem_map.1 hpaths') hnodup' plan'.root (fits_of_held hswept.isTree hheld)
  have hother := fun q => hwritten.other_of_held (q := q) hswept.isTree hheld
  have hlive : ∀ q e, written.entry? q = some e →
      ¬ Stale (plan'.files.map PlannedFile.path) exported.eraseDups q e := by
    rintro q e he ⟨hcode, hkept⟩
    rw [hother q (fun f hf => hkept f.path (List.mem_map_of_mem hf))] at he
    exact (hswept.live he).2 (stale_eraseDups_iff.1 ⟨hcode, hsame ▸ hkept⟩)
  have hfree' : ∀ d ∈ exported.eraseDups, ¬ written.Blocked d.segments := by
    rintro d hd ⟨q, content, hq, hfile⟩
    refine hfree d (List.mem_eraseDups.1 hd) ?_
    by_cases hapart : ∀ f ∈ plan'.files, f.path.segments ≠ q
    · exact ⟨q, content, hq, hother q hapart ▸ hfile⟩
    · push Not at hapart
      obtain ⟨f, hf, rfl⟩ := hapart
      obtain ⟨content', hthere⟩ := hheld f hf
      exact ⟨_, content', hq, hthere⟩
  have hexported' : ∀ d ∈ exported.eraseDups, d.Absolute :=
    fun d hd => hexported d (List.mem_eraseDups.1 hd)
  obtain ⟨again, hsweep⟩ := exists_sweepAll hwritten.isTree hexported' hpaths' hfree'
  have hswept' := (swept_sweepAll hwritten.isTree hexported' hpaths' hsweep).1
  have hsweeps : ∀ q, again.entry? q = written.entry? q := fun q => hswept'.other q (hlive q)
  refine ⟨again, commit_eq_ok_iff.2 ⟨.inl rfl, hcancelled, written, hwrite, ?_⟩,
    fun f hf => (hsweeps _).trans (hwritten.holds f hf),
    fun q hq => (hsweeps q).trans (hother q hq)⟩
  rw [if_pos rfl, hsweep]

/-- A plan depends on the files only by what takes the place of the request file. -/
theorem ofClient_congr {working : Path} {style : CodeStyle} {o : OutputOptions} {c : Client}
    (h : o.exports.core = true → o.request ≠ "" →
      fs'.read working o.request = fs.read working o.request) :
    ofClient fs' working style o c = ofClient fs working style o c := by
  have hcore : ∀ l, coreFiles fs' working style o l c = coreFiles fs working style o l c := by
    intro l
    unfold coreFiles
    split
    case isFalse => rfl
    case isTrue hexports =>
      have hrequest : requestText fs' working style o.request c =
          requestText fs working style o.request c := by
        unfold requestText
        split
        case isTrue => rfl
        case isFalse hgiven => rw [h hexports hgiven]
      rw [hrequest]
  simp only [ofClient, generated, hcore]

/-- What takes the place of the request file can be read when there is a plan. -/
theorem exists_read {working : Path} {style : CodeStyle} {o : OutputOptions} {c : Client}
    (hplan : ofClient fs working style o c = .ok plan) (hexports : o.exports.core = true)
    (hrequest : o.request ≠ "") : ∃ content, fs.read working o.request = .ok content := by
  have hmem : Artifact.core .request ∈ Artifact.all o.exports c := by
    simp [Artifact.all, hexports, TypeScript.CoreFile.all]
  have hsome := (exists_plan_iff.1 ⟨plan, hplan⟩).2 _ hmem
  obtain ⟨content, hcontent⟩ := Option.isSome_iff_exists.1 hsome
  refine ⟨content, eq_ok_of_toOption ?_⟩
  simpa [Artifact.rendering?, hrequest] using hcontent

end OutputPlan

namespace Client

open OutputPlan

variable {s : Source.Surroundings} {style : CodeStyle} {o : OutputOptions} {c : Client}
  {after : FileSystem} {plan : OutputPlan}

/-- Whether the file that takes the place of the request file holds what the plan has for it, if it
is itself a file of the plan. -/
def OverrideStays (s : Source.Surroundings) (o : OutputOptions) (plan : OutputPlan) : Prop :=
  o.exports.core = true → o.request ≠ "" →
    ∀ p content, s.files.find s.directory o.request = .ok (p, .file content) →
      ∀ f ∈ plan.files, f.path.segments = p → f.content = content

/-- What takes the place of the request file is the same after a run, if it can still be read. -/
theorem read_settled {exported : List Path} (hsettled : Settled plan exported s.files after)
    (hstay : ∀ q, s.files.entry? q = some .directory → after.entry? q = some .directory)
    (hoverride : OverrideStays s o plan) (hexports : o.exports.core = true)
    (hrequest : o.request ≠ "") {content content' : String}
    (h : s.files.read s.directory o.request = .ok content)
    (h' : after.read s.directory o.request = .ok content') : content' = content := by
  obtain ⟨p, hfind⟩ := FileSystem.read_eq_ok_iff.1 h
  obtain ⟨p', hfind'⟩ := FileSystem.read_eq_ok_iff.1 h'
  obtain ⟨he, he'⟩ := FileSystem.find_of_directories hstay hfind hfind'
  by_cases hplanned : ∀ f ∈ plan.files, f.path.segments ≠ p
  · by_cases hcode : CodeIn exported p (.file content)
    · rw [(hsettled.gone p _ he hplanned).2 hcode] at he'
      cases he'
    · rw [hsettled.kept p _ he hplanned hcode] at he'
      cases he'
      rfl
  · push Not at hplanned
    obtain ⟨f, hf, hpath⟩ := hplanned
    rw [← hpath, hsettled.planned f hf] at he'
    cases he'
    exact hoverride hexports hrequest p content hfind f hf hpath

/-- After a run there is the same plan, unless what takes the place of the request file can no
longer be read. -/
theorem ofClient_settled {exported : List Path} (hsettled : Settled plan exported s.files after)
    (hstay : ∀ q, s.files.entry? q = some .directory → after.entry? q = some .directory)
    (hoverride : OverrideStays s o plan)
    (hplan : OutputPlan.ofClient s.files s.directory style o c = .ok plan) :
    OutputPlan.ofClient after s.directory style o c = .ok plan ∨
      (∃ fault, OutputPlan.ofClient after s.directory style o c = .error fault) ∧
        ∃ words, after.read s.directory o.request = .error words := by
  have hsame : (o.exports.core = true → o.request ≠ "" →
      ∃ content, after.read s.directory o.request = .ok content) →
      OutputPlan.ofClient after s.directory style o c = .ok plan := by
    intro hreads
    rw [ofClient_congr (fun hexports hrequest => ?_), hplan]
    obtain ⟨content, hcontent⟩ := exists_read hplan hexports hrequest
    obtain ⟨content', hcontent'⟩ := hreads hexports hrequest
    rw [hcontent', hcontent,
      read_settled hsettled hstay hoverride hexports hrequest hcontent hcontent']
  cases hagain : OutputPlan.ofClient after s.directory style o c with
  | ok made =>
      rw [← hagain]
      exact .inl (hsame (exists_read hagain))
  | error fault =>
      refine .inr ⟨⟨fault, rfl⟩, ?_⟩
      cases hread : after.read s.directory o.request with
      | error words => exact ⟨words, rfl⟩
      | ok content =>
          rw [hsame (fun _ _ => ⟨content, hread⟩)] at hagain
          cases hagain

/-- What a forced run that succeeds leaves. -/
theorem settled_of_emit (htree : s.files.IsTree) (hdirectory : s.directory.Absolute)
    (hwrite : o.write = true) (hforce : o.force = true)
    (h : c.emit s style o = (after, .ok plan)) :
    Settled plan ((OutputLayout.ofOptions s.directory o).exported o.exports) s.files after ∧
      ∀ q, s.files.entry? q = some .directory → after.entry? q = some .directory := by
  obtain ⟨hplan, hcommit⟩ := (emit_eq_ok_iff hwrite).1 h
  obtain ⟨-, hpaths⟩ := absolute_plan hdirectory hplan
  rw [hforce] at hcommit
  obtain ⟨-, written, hkeeps, hwritten, hswept, -⟩ :=
    exists_of_commit htree hpaths (nodup_plan hdirectory hplan)
      ((OutputLayout.absolute_ofOptions hdirectory o).exported o.exports) hcommit
  exact ⟨settled_of_swept hkeeps hwritten hswept, fun q => directories_stay hkeeps hswept⟩

/-- A second forced run whose plan has the same paths succeeds, and writes its files alone. -/
theorem emit_after {plan' : OutputPlan} (htree : s.files.IsTree) (hdirectory : s.directory.Absolute)
    (hwrite : o.write = true) (hforce : o.force = true)
    (h : c.emit s style o = (after, .ok plan))
    (hplan' : OutputPlan.ofClient after s.directory style o c = .ok plan')
    (hsame : plan'.files.map PlannedFile.path = plan.files.map PlannedFile.path) :
    ∃ again, c.emit { s with files := after } style o = (again, .ok plan') ∧
      (∀ f ∈ plan'.files, again.entry? f.path.segments = some (.file f.content)) ∧
      ∀ q, (∀ f ∈ plan'.files, f.path.segments ≠ q) → again.entry? q = after.entry? q := by
  obtain ⟨hplan, hcommit⟩ := (emit_eq_ok_iff hwrite).1 h
  obtain ⟨-, hpaths⟩ := absolute_plan hdirectory hplan
  rw [hforce] at hcommit
  obtain ⟨again, hcommit', hafter⟩ := commit_after htree hpaths (nodup_plan hdirectory hplan) hsame
    ((OutputLayout.absolute_ofOptions hdirectory o).exported o.exports) hcommit
  rw [← hforce] at hcommit'
  exact ⟨again, (emit_eq_ok_iff hwrite).2 ⟨hplan', hcommit'⟩, hafter⟩

/-- A forced run that succeeds leaves exactly the files of the plan, the directories above them and
what was there and is not stale. A run that does not write has the same plan and changes nothing.
A second run changes nothing either when what takes the place of the request file stays, and it has
the same plan as long as that file can be read. -/
theorem emit_settles (htree : s.files.IsTree) (hdirectory : s.directory.Absolute)
    (hwrite : o.write = true) (hforce : o.force = true)
    (h : c.emit s style o = (after, .ok plan)) :
    Settled plan ((OutputLayout.ofOptions s.directory o).exported o.exports) s.files after ∧
    c.emit s style { o with write := false } = (s.files, .ok plan) ∧
    (OverrideStays s o plan → ∀ again result,
      c.emit { s with files := after } style o = (again, result) →
        (∀ q, again.entry? q = after.entry? q) ∧
        (result = .ok plan ∨ ∃ words, after.read s.directory o.request = .error words)) := by
  obtain ⟨hsettled, hstay⟩ := settled_of_emit htree hdirectory hwrite hforce h
  have hplan := ((emit_eq_ok_iff hwrite).1 h).1
  refine ⟨hsettled, emit_of_not_write rfl hplan, fun hoverride again result hagain => ?_⟩
  rcases ofClient_settled hsettled hstay hoverride hplan with
    hplan' | ⟨⟨fault, hfault⟩, hread⟩
  · obtain ⟨fs, hrun, hplanned, hother⟩ :=
      emit_after htree hdirectory hwrite hforce h hplan' rfl
    rw [hrun] at hagain
    cases hagain
    refine ⟨fun q => ?_, .inl rfl⟩
    by_cases hq : ∀ f ∈ plan.files, f.path.segments ≠ q
    · exact hother q hq
    · push Not at hq
      obtain ⟨f, hf, rfl⟩ := hq
      rw [hplanned f hf, hsettled.planned f hf]
  · have hrun : c.emit { s with files := after } style o = (after, .error fault) := by
      simp only [emit, hfault]
    rw [hrun] at hagain
    cases hagain
    exact ⟨fun _ => rfl, .inr hread⟩

/-- A forced run succeeds when its files can be written and the exported directories are there. -/
theorem exists_emit (htree : s.files.IsTree) (hdirectory : s.directory.Absolute)
    (hcancelled : s.cancelled = false) (hwrite : o.write = true) (hforce : o.force = true)
    (hplan : OutputPlan.ofClient s.files s.directory style o c = .ok plan)
    (hall : (writeAll plan.root s.files plan.files).2 = .ok ())
    (hthere : ∀ d ∈ (OutputLayout.ofOptions s.directory o).exported o.exports,
      FileSystem.entry? (writeAll plan.root s.files plan.files).1 d.segments = some .directory) :
    ∃ after, c.emit s style o = (after, .ok plan) := by
  obtain ⟨-, hpaths⟩ := absolute_plan hdirectory hplan
  have htree' := (keeps_writeAll htree hpaths plan.root).1
  obtain ⟨after, hsweep⟩ := exists_sweepAll htree'
    (fun d hd => (OutputLayout.absolute_ofOptions hdirectory o).exported o.exports d
      (List.mem_eraseDups.1 hd)) (List.forall_mem_map.2 hpaths)
    (fun d hd => htree'.not_blocked_of_directory (hthere d (List.mem_eraseDups.1 hd)))
  refine ⟨after, (emit_eq_ok_iff hwrite).2 ⟨hplan, commit_eq_ok_iff.2
    ⟨.inl hforce, hcancelled, _, Prod.ext rfl hall, ?_⟩⟩⟩
  rw [if_pos hforce, hsweep]

/-- A working directory with a file to take the place of the request file, and an output from
before. -/
def littered : Source.Surroundings where
  files := ⟨[(["work"], .directory), (["work", "own.ts"], .file "own"),
    (["work", "out"], .directory), (["work", "out", "index.ts"], .file ""),
    (["work", "out", "models"], .directory),
    (["work", "out", "models", "Old.ts"], .file "old"),
    (["work", "out", "models", "notes.md"], .file "notes")]⟩
  directory := ⟨true, ["work"]⟩

/-- An output that is written over, with a file in place of the request file. -/
def overwriting (request : String) : OutputOptions where
  output := "out"
  request := request
  exports := { core := true, models := true }
  write := true
  force := true

/-- The files that `keeper` has when its core and its models are written. -/
def keeperPaths : List Path :=
  [["core", "ApiError.ts"], ["core", "ApiRequestOptions.ts"], ["core", "ApiResult.ts"],
    ["core", "CancelablePromise.ts"], ["core", "OpenAPI.ts"], ["core", "request.ts"],
    ["index.ts"], ["models", "Pet.ts"]].map (fun q => ⟨true, "work" :: "out" :: q⟩)

/-- The directories of the core files and of the models. -/
theorem exported_overwriting (request : String) :
    (OutputLayout.ofOptions littered.directory (overwriting request)).exported
      (overwriting request).exports =
        [⟨true, ["work", "out", "core"]⟩, ⟨true, ["work", "out", "models"]⟩] := by
  have hsame : (OutputLayout.ofOptions littered.directory (overwriting request)).exported
      (overwriting request).exports =
      (OutputLayout.ofOptions littered.directory (overwriting "")).exported
        (overwriting "").exports := rfl
  rw [hsame]
  decide

/-- The run of `keeper` on `littered` succeeds. -/
theorem exists_overwriting (request : String) (h : request ∈ ["own.ts", "out/index.ts"]) :
    ∃ after plan, keeper.emit littered {} (overwriting request) = (after, .ok plan) ∧
      plan.files.map PlannedFile.path = keeperPaths := by
  have hruns : ∀ request ∈ ["own.ts", "out/index.ts"],
      ∃ plan ∈ (OutputPlan.ofClient littered.files littered.directory {} (overwriting request)
        keeper).toOption,
      plan.files.map PlannedFile.path = keeperPaths ∧
        (writeAll plan.root littered.files plan.files).2.toOption = some () ∧
        ∀ d ∈ [["work", "out", "core"], ["work", "out", "models"]],
          FileSystem.entry? (writeAll plan.root littered.files plan.files).1 d =
            some .directory := by
    decide +kernel
  obtain ⟨plan, hplan, hpaths, hall, hthere⟩ := hruns request h
  obtain ⟨after, hrun⟩ := exists_emit (by decide) (by decide) rfl rfl rfl (eq_ok_of_toOption hplan)
    (eq_ok_of_toOption hall) (by
      rw [exported_overwriting]
      exact fun d hd => hthere d.segments (List.mem_map_of_mem hd))
  exact ⟨after, plan, hrun, hpaths⟩

/-- What `emit_settles` says of `keeper` on `littered`: the old model is gone, the notes beside it
and the given request file stay, and a second run changes nothing. -/
theorem emit_settles_littered : ∃ after plan,
    keeper.emit littered {} (overwriting "own.ts") = (after, .ok plan) ∧
    after.entry? ["work", "out", "models", "Old.ts"] = none ∧
    after.entry? ["work", "out", "models", "notes.md"] = some (.file "notes") ∧
    after.entry? ["work", "own.ts"] = some (.file "own") ∧
    ∀ q, FileSystem.entry?
      (keeper.emit { littered with files := after } {} (overwriting "own.ts")).1 q =
        after.entry? q := by
  obtain ⟨after, plan, hrun, hpaths⟩ := exists_overwriting "own.ts" (by decide)
  have hapart : ∀ q, (∀ p ∈ keeperPaths, p.segments ≠ q) → ∀ f ∈ plan.files,
      f.path.segments ≠ q := by
    intro q hq f hf
    exact hq f.path (hpaths ▸ List.mem_map_of_mem hf)
  obtain ⟨hsettled, -, hagain⟩ := emit_settles (by decide) (by decide) rfl rfl hrun
  rw [exported_overwriting] at hsettled
  refine ⟨after, plan, hrun, ?_, ?_, ?_, fun q => (hagain ?_ _ _ rfl).1 q⟩
  · exact (hsettled.gone _ (.file "old") rfl (hapart _ (by decide))).2 (by decide)
  · exact hsettled.kept _ (.file "notes") rfl (hapart _ (by decide)) (by decide)
  · exact hsettled.kept _ (.file "own") rfl (hapart _ (by decide)) (by decide)
  · intro _ _ p content hfind f hf hpath
    have howns : littered.files.find littered.directory "own.ts" =
        .ok (["work", "own.ts"], .file "own") := by decide
    cases hfind.symm.trans howns
    exact absurd hpath (hapart _ (by decide) f hf)

/-- The text of the index of `keeper`. -/
def keeperIndex : String :=
  TypeScript.indexFile {} (overwriting "").exports
    (OutputLayout.ofOptions littered.directory (overwriting "")).fromIndex keeper

/-- The files of `littered` after the index was written. -/
def replaced : FileSystem :=
  littered.files.put ["work", "out", "index.ts"] (.file keeperIndex)

/-- Where `keeper` has its request file. -/
def requestPath : Path :=
  ⟨true, ["work", "out", "core", "request.ts"]⟩

/-- Where `keeper` has its index. -/
def indexPath : Path :=
  ⟨true, ["work", "out", "index.ts"]⟩

/-- With the index in place of the request file, the plan of `keeper` has what the index held. -/
theorem contents_overwriting :
    (∀ plan ∈ (OutputPlan.ofClient littered.files littered.directory {}
        (overwriting "out/index.ts") keeper).toOption,
      ⟨requestPath, ""⟩ ∈ plan.files ∧ ⟨indexPath, keeperIndex⟩ ∈ plan.files) ∧
    ∃ plan ∈ (OutputPlan.ofClient replaced littered.directory {}
        (overwriting "out/index.ts") keeper).toOption,
      plan.files.map PlannedFile.path = keeperPaths ∧ ⟨requestPath, keeperIndex⟩ ∈ plan.files := by
  decide +kernel

/-- The index is read where it was written. -/
theorem read_index (hwork : after.entry? ["work"] = some .directory)
    (hout : after.entry? ["work", "out"] = some .directory)
    (hindex : after.entry? indexPath.segments = some (.file keeperIndex)) :
    after.read littered.directory "out/index.ts" = .ok keeperIndex := by
  have hsplit : Text.splitOn '/' "out/index.ts" = ["out", "index.ts"] := by decide
  have hfind : after.find littered.directory "out/index.ts" =
      .ok (indexPath.segments, .file keeperIndex) := by
    simp only [indexPath] at hindex
    simp [FileSystem.find, hsplit, FileSystem.walk, littered, Text.startsWith, indexPath, hwork,
      hout, hindex]
  rw [FileSystem.read, hfind]

/-- A second run changes a file that the first has written: the index takes the place of the request
file, and the first run has written it over. -/
theorem second_run_replaces_request : ∃ after plan,
    keeper.emit littered {} (overwriting "out/index.ts") = (after, .ok plan) ∧
    littered.files.IsTree ∧ littered.directory.Absolute ∧
    ¬ ∀ q, FileSystem.entry?
      (keeper.emit { littered with files := after } {} (overwriting "out/index.ts")).1 q =
        after.entry? q := by
  obtain ⟨after, plan, hrun, hpaths⟩ := exists_overwriting "out/index.ts" (by decide)
  obtain ⟨hsettled, hstay⟩ := settled_of_emit (by decide) (by decide) rfl rfl hrun
  have hplan := ((emit_eq_ok_iff rfl).1 hrun).1
  obtain ⟨hfirst, plan', hmem, hpaths', hrequest'⟩ := contents_overwriting
  obtain ⟨hrequest, hindex⟩ := hfirst plan (by rw [hplan]; rfl)
  have hread := read_index (hstay _ rfl) (hstay _ rfl) (hsettled.planned _ hindex)
  have hplan' : OutputPlan.ofClient after littered.directory {} (overwriting "out/index.ts")
      keeper = .ok plan' := by
    have hsame : replaced.read littered.directory "out/index.ts" = .ok keeperIndex :=
      eq_ok_of_toOption (by decide +kernel)
    rw [ofClient_congr (fun _ _ => hread.trans hsame.symm)]
    exact eq_ok_of_toOption hmem
  obtain ⟨again, hagain, hplanned, -⟩ := emit_after (by decide) (by decide) rfl rfl hrun hplan'
    (hpaths'.trans hpaths.symm)
  refine ⟨after, plan, hrun, by decide, by decide, fun hall => ?_⟩
  have hsame := hall requestPath.segments
  rw [hagain, hplanned _ hrequest', hsettled.planned _ hrequest] at hsame
  exact absurd hsame (by decide +kernel)

end Client

end TypedClient
