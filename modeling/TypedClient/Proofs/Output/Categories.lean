import TypedClient.Proofs.Output.Imports
import TypedClient.Proofs.Output.Index
import TypedClient.Proofs.Output.Stale

/-!
# Switching off a category

Without one of its categories a client has the same plan less the files of that category, and an
index without its section. `Client.emit_without_category` says this of every run that succeeds, for
all directories of the categories, whether they lie apart or in one another.
-/

namespace TypedClient

open TypeScript (Category indexText)

/-- The other categories that are written. -/
def TypeScript.Exports.without (exports : TypeScript.Exports) : Category → TypeScript.Exports
  | .core => { exports with core := false }
  | .models => { exports with models := false }
  | .schemas => { exports with schemas := false }
  | .services => { exports with services := false }

/-- The same options with a category switched off. -/
def OutputOptions.without (o : OutputOptions) (k : Category) : OutputOptions :=
  { o with exports := o.exports.without k }

@[simp] theorem OutputOptions.exports_without (o : OutputOptions) (k : Category) :
    (o.without k).exports = o.exports.without k := rfl

@[simp] theorem OutputOptions.force_without (o : OutputOptions) (k : Category) :
    (o.without k).force = o.force := rfl

@[simp] theorem OutputLayout.ofOptions_without (working : Path) (o : OutputOptions) (k : Category) :
    ofOptions working (o.without k) = ofOptions working o := rfl

theorem TypeScript.Category.isIn_without (exports : TypeScript.Exports) (j k : Category) :
    j.isIn (exports.without k) = (decide (j ≠ k) && j.isIn exports) := by
  cases k <;> cases j <;> simp [TypeScript.Exports.without, Category.isIn]

theorem TypeScript.Category.enabled_without (exports : TypeScript.Exports) (k : Category) :
    Category.enabled (exports.without k) = (Category.enabled exports).filter (· ≠ k) := by
  simp only [Category.enabled, List.filter_filter, Category.isIn_without]

theorem OutputLayout.exported_without (l : OutputLayout) (exports : TypeScript.Exports)
    (k : Category) : l.exported (exports.without k) ⊆ l.exported exports := by
  intro d hd
  cases k <;> simp only [OutputLayout.exported, TypeScript.Exports.without, List.mem_append,
    Bool.false_eq_true, if_false, List.not_mem_nil, false_or, or_false] at hd ⊢ <;> tauto

namespace Artifact

variable {c : Client} {exports : TypeScript.Exports} {a : Artifact}

/-- The category of an artifact; the index has none. -/
def category? : Artifact → Option Category
  | core _ => some .core
  | model _ => some .models
  | schema _ => some .schemas
  | service _ => some .services
  | index => none

/-- The paths of the files of a category. -/
def pathsOf (l : OutputLayout) (exports : TypeScript.Exports) (c : Client) (k : Category) :
    List Path :=
  ((all exports c).filter (fun a => a.category? = some k)).map (path l)

/-- Without a category there are the artifacts of the others. -/
theorem all_without (exports : TypeScript.Exports) (c : Client) (k : Category) :
    all (exports.without k) c = (all exports c).filter (fun a => a.category? ≠ some k) := by
  have hpart : ∀ {α : Type} (items : List α) (make : α → Artifact) (j : Category),
      (∀ x, (make x).category? = some j) →
      (if j.isIn exports then items.map make else []).filter (fun a => a.category? ≠ some k) =
        if j.isIn (exports.without k) then items.map make else [] := by
    intro α items make j hcategory
    rw [Category.isIn_without]
    by_cases hjk : j = k
    · simp only [hjk, ne_eq, not_true_eq_false, decide_false, Bool.false_and, Bool.false_eq_true,
        if_false]
      split <;> simp [hcategory, hjk]
    · simp only [ne_eq, hjk, not_false_eq_true, decide_true, Bool.true_and]
      split <;> simp [hcategory, hjk]
  have hindex : [index].filter (fun a => a.category? ≠ some k) = [index] := rfl
  rw [all, all, List.filter_append, List.filter_append, List.filter_append, List.filter_append,
    hindex]
  exact congrArg₂ (· ++ ·) (congrArg₂ (· ++ ·) (congrArg₂ (· ++ ·) (congrArg₂ (· ++ ·)
    (hpart _ core .core (fun _ => rfl)).symm (hpart _ model .models (fun _ => rfl)).symm)
    (hpart _ schema .schemas (fun _ => rfl)).symm) (hpart _ service .services (fun _ => rfl)).symm)
    rfl

theorem index_mem_all : index ∈ all exports c := by
  simp [all]

/-- The path of an artifact tells whether it is of a category. -/
theorem path_mem_pathsOf (h : c.WellNamed) (l : OutputLayout) (ha : a ∈ all exports c)
    (k : Category) : a.path l ∈ pathsOf l exports c k ↔ a.category? = some k := by
  constructor
  · intro hmem
    obtain ⟨b, hb, hpath⟩ := List.mem_map.1 hmem
    obtain ⟨hb, hcategory⟩ := List.mem_filter.1 hb
    rw [← List.inj_on_of_nodup_map (nodup_paths h exports l) hb ha hpath]
    exact of_decide_eq_true hcategory
  · intro hcategory
    exact List.mem_map_of_mem (List.mem_filter.2 ⟨ha, decide_eq_true hcategory⟩)

/-- The path of an artifact tells whether it is the index. -/
theorem path_eq_index (h : c.WellNamed) (l : OutputLayout) (ha : a ∈ all exports c) :
    a.path l = index.path l ↔ a = index :=
  ⟨fun heq => List.inj_on_of_nodup_map (nodup_paths h exports l) ha index_mem_all heq,
    fun heq => heq ▸ rfl⟩

/-- The file of an artifact stands at its path. -/
theorem path_of_file? {fs : FileSystem} {working : Path} {style : CodeStyle} {o : OutputOptions}
    {f : PlannedFile} (h : file? fs working style o c a = some f) :
    f.path = a.path (OutputLayout.ofOptions working o) := by
  obtain ⟨content, -, rfl⟩ := Option.map_eq_some_iff.1 h
  rfl

/-- Only the index knows which categories are written. -/
theorem file?_without (fs : FileSystem) (working : Path) (style : CodeStyle) (o : OutputOptions)
    (k : Category) (ha : a ≠ index) :
    file? fs working style (o.without k) c a = file? fs working style o c a := by
  cases a with
  | index => exact absurd rfl ha
  | _ => rfl

end Artifact

/-- Items that stand side by side stay so when the same of them are left out. -/
theorem forall₂_filter_map {α β γ : Type} {R : α → β → Prop} {S : α → γ → Prop} {p : α → Bool}
    {q : β → Bool} {g : β → γ} {xs : List α} {ys : List β} (h : List.Forall₂ R xs ys)
    (hpq : ∀ x ∈ xs, ∀ y, R x y → q y = p x)
    (hS : ∀ x ∈ xs, ∀ y, R x y → p x = true → S x (g y)) :
    List.Forall₂ S (xs.filter p) ((ys.filter q).map g) := by
  induction h with
  | nil => exact List.Forall₂.nil
  | @cons x y xs ys hxy _ ih =>
      rw [List.forall_mem_cons] at hpq hS
      rw [List.filter_cons, List.filter_cons, hpq.1 y hxy]
      split
      case isTrue hp => exact List.Forall₂.cons (hS.1 y hxy hp) (ih hpq.2 hS.2)
      case isFalse => exact ih hpq.2 hS.2

namespace OutputPlan

variable {fs : FileSystem} {working : Path} {style : CodeStyle} {o : OutputOptions} {c : Client}
  {plan rest : OutputPlan}

/-- A file of a plan, with another text if it is the index. -/
def withIndex (l : OutputLayout) (text : String) (f : PlannedFile) : PlannedFile :=
  if f.path = Artifact.index.path l then ⟨f.path, text⟩ else f

theorem path_withIndex (l : OutputLayout) (text : String) (f : PlannedFile) :
    (withIndex l text f).path = f.path := by
  unfold withIndex
  split <;> rfl

/-- Files of a plan without those of a category, and with the index of the other categories. -/
def filesWithout (l : OutputLayout) (choices : TypeScript.Choices) (exports : TypeScript.Exports)
    (c : Client) (k : Category) (files : List PlannedFile) : List PlannedFile :=
  (files.filter (fun f => f.path ∉ Artifact.pathsOf l exports c k)).map (withIndex l
    (indexText choices l.fromIndex c ((Category.enabled exports).filter (· ≠ k))))

/-- How a plan without a category comes from the plan with it: the files of the category are left
out, the index has one section less, and all else is the same. Whatever the directories are called,
the lines of an index export the names of its categories and no others, each from where it was;
where the directories need no escapes, this is also what is read of its text. -/
structure Drops (l : OutputLayout) (choices : TypeScript.Choices) (exports : TypeScript.Exports)
    (c : Client) (k : Category) (plan rest : OutputPlan) : Prop where
  root : rest.root = plan.root
  files : rest.files = filesWithout l choices exports c k plan.files
  dropped : ∀ p ∈ Artifact.pathsOf l exports c k, p ∈ plan.files.map PlannedFile.path
  index : ⟨Artifact.index.path l, indexText choices l.fromIndex c (Category.enabled exports)⟩ ∈
    plan.files
  index_without : ⟨Artifact.index.path l,
    indexText choices l.fromIndex c ((Category.enabled exports).filter (· ≠ k))⟩ ∈ rest.files
  lines :
    TypeScript.IsIndex (indexText choices l.fromIndex c (Category.enabled exports))
      ((Category.enabled exports).flatMap (Category.exported l.fromIndex c)) ∧
    TypeScript.IsIndex
      (indexText choices l.fromIndex c ((Category.enabled exports).filter (· ≠ k)))
      (((Category.enabled exports).filter (· ≠ k)).flatMap (Category.exported l.fromIndex c))
  reads : (∀ j ∈ Category.enabled exports, TypeScript.IsPlain (j.directory l.fromIndex)) →
    TypeScript.exports? (indexText choices l.fromIndex c (Category.enabled exports)) =
      some ((Category.enabled exports).flatMap (Category.exported l.fromIndex c)) ∧
    TypeScript.exports?
        (indexText choices l.fromIndex c ((Category.enabled exports).filter (· ≠ k))) =
      some (((Category.enabled exports).filter (· ≠ k)).flatMap (Category.exported l.fromIndex c))

/-- What is left out of files and what is written over keeps a plan in order. -/
theorem byPath_map_filter {files : List PlannedFile} (hnodup : (files.map PlannedFile.path).Nodup)
    (habsolute : ∀ f ∈ files, f.path.Absolute) {q : PlannedFile → Bool}
    {g : PlannedFile → PlannedFile} (hg : ∀ f, (g f).path = f.path) :
    byPath ((files.filter q).map g) = ((byPath files).filter q).map g := by
  have hpaths : ((files.filter q).map g).map PlannedFile.path =
      (files.filter q).map PlannedFile.path := by
    rw [List.map_map]
    exact List.map_congr_left (fun f _ => hg f)
  have hperm : (byPath ((files.filter q).map g)).Perm ((files.filter q).map g) := by
    refine byPath_perm ?_ (List.forall_mem_map.2 (fun f hf => ?_))
    · rw [hpaths]
      exact hnodup.sublist (List.filter_sublist.map _)
    · rw [hg]
      exact habsolute f (List.mem_of_mem_filter hf)
  have hperm' := (((byPath_perm hnodup habsolute).filter q).map g).symm
  refine (hperm.trans hperm').eq_of_pairwise (fun _ _ _ _ hlt hgt => absurd hgt (lt_asymm hlt))
    (byPath_ascends _) ?_
  refine List.pairwise_map.2 ?_
  simp only [hg]
  exact (byPath_ascends files).filter q

/-- The artifacts of the other categories have the files that they had, and the index has one
section less. -/
theorem forall₂_filesWithout (h : c.WellNamed) {files : List PlannedFile}
    (hfiles : List.Forall₂ (fun a f => Artifact.file? fs working style o c a = some f)
      (Artifact.all o.exports c) files) (k : Category) :
    List.Forall₂ (fun a f => Artifact.file? fs working style (o.without k) c a = some f)
      (Artifact.all (o.without k).exports c)
      (filesWithout (OutputLayout.ofOptions working o) style.choices o.exports c k files) := by
  rw [OutputOptions.exports_without, Artifact.all_without]
  refine forall₂_filter_map hfiles (fun a ha f hf => ?_) (fun a ha f hf _ => ?_)
  · simp only [Artifact.path_of_file? hf, Artifact.path_mem_pathsOf h _ ha, ne_eq]
  · by_cases hindex : a = .index
    · rw [withIndex, Artifact.path_of_file? hf, hindex, if_pos rfl, ← Category.enabled_without,
        ← TypeScript.indexFile_eq_indexText]
      rfl
    · rw [withIndex, Artifact.path_of_file? hf,
        if_neg (mt (Artifact.path_eq_index h _ ha).1 hindex),
        Artifact.file?_without fs working style o k hindex, hf]

/-- Without a category there is a plan if there is one with it. -/
theorem exists_without (h : c.WellNamed) (hworking : working.Absolute)
    (hplan : ofClient fs working style o c = .ok plan) (k : Category) :
    ∃ rest, ofClient fs working style (o.without k) c = .ok rest ∧
      Drops (OutputLayout.ofOptions working o) style.choices o.exports c k plan rest := by
  obtain ⟨hgiven, files, hfiles, rfl⟩ := ofClient_eq_ok_iff.1 hplan
  have hall := mapM_eq_some_iff.1 hfiles
  have hpaths : files.map PlannedFile.path =
      (Artifact.all o.exports c).map (Artifact.path (OutputLayout.ofOptions working o)) :=
    map_eq_of_forall₂ (hall.imp (fun _ _ => Artifact.path_of_file?))
  have hnodup : (files.map PlannedFile.path).Nodup := hpaths ▸ Artifact.nodup_paths h _ _
  have habsolute : ∀ f ∈ files, f.path.Absolute := by
    refine List.forall_mem_map.1 (?_ : ∀ p ∈ files.map PlannedFile.path, p.Absolute)
    rw [hpaths]
    exact List.forall_mem_map.2 (fun a _ => (OutputLayout.absolute_ofOptions hworking o).path a)
  have hperm := byPath_perm hnodup habsolute
  have hfilesWithout : byPath (filesWithout (OutputLayout.ofOptions working o) style.choices
      o.exports c k files) = filesWithout (OutputLayout.ofOptions working o) style.choices
      o.exports c k (byPath files) := byPath_map_filter hnodup habsolute (path_withIndex _ _)
  have hindex : ⟨Artifact.index.path (OutputLayout.ofOptions working o),
      indexText style.choices (OutputLayout.ofOptions working o).fromIndex c
        (Category.enabled o.exports)⟩ ∈ byPath files := by
    obtain ⟨f, hf, hfile⟩ := exists_left_of_forall₂ hall.flip (Artifact.index_mem_all (c := c))
    rw [hperm.mem_iff, ← TypeScript.indexFile_eq_indexText]
    cases hfile
    exact hf
  refine ⟨_, ofClient_eq_ok_iff.2
    ⟨hgiven, _, mapM_eq_some_iff.2 (forall₂_filesWithout h hall k), rfl⟩, ?_⟩
  constructor
  case root => rfl
  case files => exact hfilesWithout
  case dropped =>
    intro p hp
    rw [(hperm.map PlannedFile.path).mem_iff, hpaths]
    exact (List.filter_sublist.map _).subset hp
  case index => exact hindex
  case index_without =>
    have hkept : Artifact.index.path (OutputLayout.ofOptions working o) ∉
        Artifact.pathsOf (OutputLayout.ofOptions working o) o.exports c k := by
      rw [Artifact.path_mem_pathsOf h _ Artifact.index_mem_all]
      exact nofun
    refine hfilesWithout ▸ List.mem_map.2
      ⟨_, List.mem_filter.2 ⟨hindex, decide_eq_true hkept⟩, ?_⟩
    rw [withIndex, if_pos rfl]
  case lines => exact ⟨TypeScript.isIndex_indexText .., TypeScript.isIndex_indexText ..⟩
  case reads =>
    exact fun hplain => ⟨TypeScript.exports?_indexText h _ hplain,
      TypeScript.exports?_indexText h _ (fun j hj => hplain j (List.mem_of_mem_filter hj))⟩

/-- Fewer files can be written where more could. -/
theorem Fits.of_paths {files others : List PlannedFile} (h : Fits fs files)
    (hfewer : ∀ f ∈ others, ∃ g ∈ files, g.path = f.path) : Fits fs others := by
  refine ⟨fun f hf => ?_, fun f hf f' hf' => ?_⟩
  · obtain ⟨g, hg, hpath⟩ := hfewer f hf
    exact hpath ▸ h.writable g hg
  · obtain ⟨g, hg, hpath⟩ := hfewer f hf
    obtain ⟨g', hg', hpath'⟩ := hfewer f' hf'
    exact hpath ▸ hpath' ▸ h.apart g hg g' hg'

/-- A plan with fewer files is carried out where one with more was, as long as no file is in the way
of a directory that is cleared. -/
theorem exists_commit_fewer {before after : FileSystem} (htree : before.IsTree)
    (hworking : working.Absolute) {o' : OutputOptions} {c' : Client}
    (hplan : ofClient fs working style o c = .ok plan)
    (hrest : ofClient fs working style o' c' = .ok rest) (hroot : rest.root = plan.root)
    (hfewer : ∀ f ∈ rest.files, ∃ g ∈ plan.files, g.path = f.path) {isCancelled force : Bool}
    {exported exported' : List Path} (hexported : ∀ d ∈ exported, d.Absolute)
    (hsubset : exported' ⊆ exported)
    (hfree : force = true → ∀ d ∈ exported', ¬ before.Blocked d.segments)
    (hcommit : plan.commit isCancelled force exported before = (after, .ok ())) :
    ∃ after', rest.commit isCancelled force exported' before = (after', .ok ()) := by
  obtain ⟨-, hpaths⟩ := absolute_plan hworking hplan
  obtain ⟨-, hpaths'⟩ := absolute_plan hworking hrest
  obtain ⟨hguard, hcancelled, written, hwrite, -⟩ := commit_eq_ok_iff.1 hcommit
  obtain ⟨hfits, -⟩ := written_of_writeAll htree hpaths (nodup_plan hworking hplan) hwrite
  obtain ⟨written', hwrite', hwritten'⟩ := exists_written htree hpaths'
    (nodup_plan hworking hrest) rest.root (hfits.of_paths hfewer)
  cases force with
  | false =>
      exact ⟨written', commit_eq_ok_iff.2 ⟨hroot ▸ hguard, hcancelled, written', hwrite', rfl⟩⟩
  | true =>
      obtain ⟨-, mid, hkeeps, hmid, hswept, hclear⟩ :=
        exists_of_commit htree hpaths (nodup_plan hworking hplan) hexported hcommit
      have hplanned := (settled_of_swept hkeeps hmid hswept).planned
      have hfree' : ∀ d ∈ exported'.eraseDups, ¬ written'.Blocked d.segments := by
        rintro d hd ⟨q, content, hq, hfile⟩
        rw [List.mem_eraseDups] at hd
        by_cases hapart : ∀ f ∈ rest.files, ¬ q <+: f.path.segments
        · exact hfree rfl d hd ⟨q, content, hq, hwritten'.other q hapart ▸ hfile⟩
        push Not at hapart
        obtain ⟨f, hf, hprefix⟩ := hapart
        by_cases hqf : q = f.path.segments
        · -- the run with more files has written this one too
          obtain ⟨g, hg, hpath⟩ := hfewer f hf
          exact hclear d (hsubset hd) ⟨q, g.content, hq, hqf ▸ hpath ▸ hplanned g hg⟩
        · rw [hwritten'.isTree.directory_of_isPrefix hprefix hqf (hwritten'.holds f hf)] at hfile
          cases hfile
      obtain ⟨after', hsweep⟩ := exists_sweepAll hwritten'.isTree
        (fun d hd => hexported d (hsubset (List.mem_eraseDups.1 hd)))
        (List.forall_mem_map.2 hpaths') hfree'
      refine ⟨after', commit_eq_ok_iff.2 ⟨hroot ▸ hguard, hcancelled, written', hwrite', ?_⟩⟩
      rw [if_pos rfl, hsweep]

end OutputPlan

namespace Client

open OutputPlan

variable {s : Source.Surroundings} {style : CodeStyle} {o : OutputOptions} {c : Client}
  {after : FileSystem} {plan : OutputPlan}

/-- A run that succeeds has the plan of the client. -/
theorem ofClient_of_emit (h : c.emit s style o = (after, .ok plan)) :
    OutputPlan.ofClient s.files s.directory style o c = .ok plan := by
  cases hwrite : o.write with
  | true => exact ((emit_eq_ok_iff hwrite).1 h).1
  | false =>
      cases hplan : OutputPlan.ofClient s.files s.directory style o c with
      | error fault => simp [emit, hplan] at h
      | ok made =>
          rw [emit_of_not_write hwrite hplan] at h
          exact (Prod.mk.inj h).2

/-- Where a run of the client of a document succeeds, there is a plan without any of its categories.
It has the same files less those of the category, with an index that exports the names of the
other categories as before. A run has this plan, and succeeds if no file is in the way of a
directory that it clears. -/
theorem emit_without_category {filter : TagFilter} {doc : Value}
    (h : Client.ofDocument filter doc = .ok c) (htree : s.files.IsTree)
    (hdirectory : s.directory.Absolute) (hrun : c.emit s style o = (after, .ok plan))
    (k : Category) :
    ∃ rest, OutputPlan.ofClient s.files s.directory style (o.without k) c = .ok rest ∧
      Drops (OutputLayout.ofOptions s.directory o) style.choices o.exports c k plan rest ∧
      c.emit s style { o.without k with write := false } = (s.files, .ok rest) ∧
      ((o.write = true → o.force = true →
        ∀ d ∈ (OutputLayout.ofOptions s.directory o).exported (o.exports.without k),
          ¬ s.files.Blocked d.segments) →
        ∃ after', c.emit s style (o.without k) = (after', .ok rest)) := by
  have hplan := ofClient_of_emit hrun
  obtain ⟨rest, hrest, hdrops⟩ := exists_without (wellNamed_ofDocument h) hdirectory hplan k
  refine ⟨rest, hrest, hdrops, emit_of_not_write rfl hrest, fun hfree => ?_⟩
  cases hwrite : o.write with
  | false => exact ⟨s.files, emit_of_not_write hwrite hrest⟩
  | true =>
      have hfewer : ∀ f ∈ rest.files, ∃ g ∈ plan.files, g.path = f.path := by
        rw [hdrops.files]
        refine List.forall_mem_map.2 (fun f hf => ?_)
        exact ⟨f, List.mem_of_mem_filter hf, (path_withIndex _ _ f).symm⟩
      obtain ⟨after', hcommit⟩ := exists_commit_fewer htree hdirectory hplan hrest hdrops.root
        hfewer ((OutputLayout.absolute_ofOptions hdirectory o).exported o.exports)
        (OutputLayout.exported_without _ o.exports k) (hfree hwrite)
        ((emit_eq_ok_iff hwrite).1 hrun).2
      have hwrite' : (o.without k).write = true := hwrite
      refine ⟨after', (emit_eq_ok_iff hwrite').2 ⟨hrest, ?_⟩⟩
      rw [OutputOptions.force_without, OutputLayout.ofOptions_without,
        OutputOptions.exports_without]
      exact hcommit

/-- A working directory without files. -/
def bare : Source.Surroundings where
  files := ⟨[(["work"], .directory)]⟩
  directory := ⟨true, ["work"]⟩

/-- What `emit_without_category` says of `contested` when it is scattered: without its models the
run succeeds with the other files, and the index exports the class of the service as before. -/
theorem emit_without_category_contested : ∃ c plan rest exported,
    Client.ofDocument {} contested = .ok c ∧
    c.emit bare {} scattered = (bare.files, .ok plan) ∧
    Drops (OutputLayout.ofOptions bare.directory scattered) {} scattered.exports c .models plan
      rest ∧
    c.emit bare {} (scattered.without .models) = (bare.files, .ok rest) ∧
    TypeScript.exports? (indexText {} (OutputLayout.ofOptions bare.directory scattered).fromIndex c
      [.core, .schemas, .services]) = some exported ∧
    ("Pets1Service", "./api/services/Pets1Service") ∈ exported := by
  obtain ⟨c, hc, -, hservices, -, htexts⟩ := exists_contested
  obtain ⟨plan, hplan⟩ : ∃ plan, OutputPlan.ofClient bare.files bare.directory {} scattered c =
      .ok plan := exists_plan_iff.2 ⟨by decide, Artifact.rendered htexts rfl⟩
  have hrun := emit_of_not_write (s := bare) rfl hplan
  obtain ⟨rest, hrest, hdrops, -, hsucceeds⟩ :=
    emit_without_category hc (by decide) (by decide) hrun .models
  have hplain : ∀ j ∈ Category.enabled scattered.exports, TypeScript.IsPlain
      (j.directory (OutputLayout.ofOptions bare.directory scattered).fromIndex) := by
    decide +kernel
  obtain ⟨after, hafter⟩ := hsucceeds (fun hwrite => absurd hwrite (by decide))
  have hfiles : after = bare.files :=
    congrArg Prod.fst (hafter.symm.trans (emit_of_not_write rfl hrest))
  have hnames : c.services.map Service.name = ["Pets1"] := by
    simpa using congrArg (List.map Prod.fst) hservices
  have hway : (OutputLayout.ofOptions bare.directory scattered).fromIndex.services =
      "./api/services" := by decide +kernel
  refine ⟨c, plan, rest, _, hc, hrun, hdrops, hfiles ▸ hafter, (hdrops.reads hplain).2, ?_⟩
  obtain ⟨service, hmem, hname⟩ := List.mem_map.1 (hnames ▸ List.mem_singleton_self "Pets1")
  refine List.mem_flatMap.2 ⟨.services, by decide, List.mem_map.2
    ⟨_, List.mem_map_of_mem hmem, ?_⟩⟩
  rw [Category.directory, hway, hname]
  rfl

end Client

end TypedClient
