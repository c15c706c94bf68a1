import Mathlib.Data.List.Infix
import TypedClient.FileSystem
import TypedClient.Proofs.Document.Dict
import TypedClient.Proofs.Output.Path

/-!
# Trees of files

In a tree of files every entry stands in a directory and under a name. What an operation does is
told by what stands at each path afterwards: `walk_cases` says what is found on the way down a
path, and `write_cases` says when a file can be written and what has changed then. The operations
keep trees.
-/

namespace TypedClient.FileSystem

variable {fs : FileSystem} {p q : List String} {e : FileEntry}

/-! ## One path -/

theorem lookup_filter_ne (entries : List (List String × FileEntry)) (p q : List String) :
    (entries.filter (fun x => x.1 != p)).lookup q = if q = p then none else entries.lookup q := by
  induction entries with
  | nil => simp
  | cons x entries ih =>
      obtain ⟨r, e⟩ := x
      by_cases hq : q = r
      · subst hq
        by_cases hp : q = p
        · simpa [hp] using ih
        · simp [hp]
      · have hne : (q == r) = false := beq_eq_false_iff_ne.2 hq
        by_cases hp : r = p
        · subst hp
          simpa [List.lookup_cons, hne] using ih
        · simp [hp, List.lookup_cons, hne, ih]

@[simp] theorem entry?_nil (fs : FileSystem) : fs.entry? [] = some .directory := rfl

/-- A change concerns one path. -/
theorem entry?_put (fs : FileSystem) (hp : p ≠ []) (e : FileEntry) (q : List String) :
    entry? (fs.put p e) q = if q = p then some e else fs.entry? q := by
  by_cases hq : q = []
  · simp [hq, hp.symm]
  · by_cases hqp : q = p
    · simp [put, entry?, hqp, hp]
    · have hne : (q == p) = false := beq_eq_false_iff_ne.2 hqp
      simp [put, entry?, hq, hqp, List.lookup_cons, hne, lookup_filter_ne]

/-- A removal concerns one path. -/
theorem entry?_erase (fs : FileSystem) (hp : p ≠ []) (q : List String) :
    entry? (fs.erase p) q = if q = p then none else fs.entry? q := by
  by_cases hq : q = []
  · simp [hq, hp.symm]
  · simp [erase, entry?, hq, lookup_filter_ne]

/-! ## Trees -/

/-- Every path has at most one entry, which stands in a directory and under a name. -/
structure IsTree (fs : FileSystem) : Prop where
  nodup : (fs.entries.map Prod.fst).Nodup
  isName : ∀ x ∈ fs.entries, ∀ s ∈ x.1, Path.IsName s
  above : ∀ x ∈ fs.entries, fs.entry? x.1.dropLast = some .directory

instance (fs : FileSystem) : Decidable fs.IsTree :=
  decidable_of_iff ((fs.entries.map Prod.fst).Nodup ∧
      (∀ x ∈ fs.entries, ∀ s ∈ x.1, Path.IsName s) ∧
      ∀ x ∈ fs.entries, fs.entry? x.1.dropLast = some .directory)
    ⟨fun h => ⟨h.1, h.2.1, h.2.2⟩, fun h => ⟨h.1, h.2, h.3⟩⟩

theorem mem_entries_of_found (hp : p ≠ []) (h : fs.entry? p = some e) : (p, e) ∈ fs.entries := by
  unfold entry? at h
  rw [if_neg hp] at h
  obtain ⟨before, after, hsplit, -⟩ := List.lookup_eq_some_iff.1 h
  exact hsplit ▸ List.mem_append_cons_self

namespace IsTree

theorem entry?_of_mem (h : fs.IsTree) (hp : p ≠ []) (hmem : (p, e) ∈ fs.entries) :
    fs.entry? p = some e := by
  unfold entry?
  rw [if_neg hp]
  exact lookup_eq_some_of_mem h.nodup hmem

/-- What stands somewhere stands in a directory. -/
theorem directory_above (h : fs.IsTree) {name : String} (he : fs.entry? (p ++ [name]) = some e) :
    fs.entry? p = some .directory := by
  have habove := h.above _ (mem_entries_of_found (by simp) he)
  rwa [List.dropLast_concat] at habove

/-- All paths above an entry are directories. -/
theorem directory_of_isPrefix (h : fs.IsTree) (hq : q <+: p) (hne : q ≠ p)
    (he : fs.entry? p = some e) : fs.entry? q = some .directory := by
  induction p using List.reverseRecOn generalizing e with
  | nil => exact absurd (List.prefix_nil.1 hq) hne
  | append_singleton r name ih =>
      have habove := h.directory_above he
      rcases List.prefix_concat_iff.1 hq with rfl | hq
      · exact absurd rfl hne
      · by_cases hqr : q = r
        · rw [hqr, habove]
        · exact ih hq hqr habove

/-- A new entry keeps the tree when it stands under a name in a directory, and what it replaces is
no directory. -/
theorem put (h : fs.IsTree) (hp : p ≠ []) (hnames : ∀ s ∈ p, Path.IsName s)
    (habove : fs.entry? p.dropLast = some .directory)
    (he : e = .directory ∨ fs.entry? p ≠ some .directory) : (fs.put p e).IsTree := by
  have hsub := List.filter_sublist (p := fun x => x.1 != p) (l := fs.entries)
  refine ⟨?_, ?_, ?_⟩
  · refine List.nodup_cons.2 ⟨fun hmem => ?_, h.nodup.sublist (hsub.map Prod.fst)⟩
    obtain ⟨x, hx, hxp⟩ := List.mem_map.1 hmem
    exact absurd hxp (by simpa using (List.mem_filter.1 hx).2)
  · intro x hx
    rcases List.mem_cons.1 hx with rfl | hx
    · exact hnames
    · exact h.isName x (hsub.subset hx)
  · intro x hx
    rw [entry?_put fs hp]
    split
    case isTrue hdrop =>
      rcases List.mem_cons.1 hx with rfl | hx
      · exact absurd (congrArg List.length hdrop)
          (by have := List.length_pos_iff.2 hp; simp; omega)
      · have hold := h.above x (hsub.subset hx)
        rw [hdrop] at hold
        rw [he.resolve_right (not_not_intro hold)]
    case isFalse =>
      rcases List.mem_cons.1 hx with rfl | hx
      · exact habove
      · exact h.above x (hsub.subset hx)

/-- A tree without one of its files is a tree. -/
theorem erase (h : fs.IsTree) (hp : fs.entry? p ≠ some .directory) : (fs.erase p).IsTree := by
  have hsub := List.filter_sublist (p := fun x => x.1 != p) (l := fs.entries)
  have hne : p ≠ [] := fun hnil => hp (by rw [hnil, entry?_nil])
  refine ⟨h.nodup.sublist (hsub.map Prod.fst), fun x hx => h.isName x (hsub.subset hx), ?_⟩
  intro x hx
  have hold := h.above x (hsub.subset hx)
  have hother : x.1.dropLast ≠ p := fun hdrop => hp (hdrop ▸ hold)
  rw [entry?_erase fs hne, if_neg hother, hold]

/-- Nothing stands below what is no directory. -/
theorem entry?_eq_none_below (h : fs.IsTree) (hq : q <+: p) (hne : q ≠ p)
    (hno : fs.entry? q ≠ some .directory) : fs.entry? p = none := by
  by_contra hsome
  obtain ⟨e, hsome⟩ := Option.ne_none_iff_exists'.1 hsome
  exact hno (h.directory_of_isPrefix hq hne hsome)

end IsTree

/-! ## On the way down -/

/-- Whether a file stands at a path or above it. -/
def Blocked (fs : FileSystem) (p : List String) : Prop :=
  ∃ q content, q <+: p ∧ fs.entry? q = some (.file content)

/-- The way is blocked by files alone. -/
theorem blocked_congr {fs' : FileSystem}
    (h : ∀ q content, fs'.entry? q = some (.file content) ↔ fs.entry? q = some (.file content)) :
    fs'.Blocked p ↔ fs.Blocked p := by
  simp only [Blocked, h]

/-- No file stands above a directory. -/
theorem IsTree.not_blocked_of_directory (h : fs.IsTree) (hp : fs.entry? p = some .directory) :
    ¬ fs.Blocked p := by
  rintro ⟨q, content, hq, hfile⟩
  by_cases hqp : q = p
  · rw [hqp, hp] at hfile
    cases hfile
  · rw [h.directory_of_isPrefix hq hqp hp] at hfile
    cases hfile

/-- A name leads one step down from a directory. -/
theorem walk_name {path rest : List String} {name : String} (hname : Path.IsName name)
    (hpath : fs.entry? path = some .directory) :
    fs.walk path (name :: rest) = fs.walk (path ++ [name]) rest := by
  simp [walk, hpath, hname.ne_empty, hname.ne_dot, hname.ne_up]

/-- Where a way down a tree ends, no file blocks it. -/
theorem IsTree.not_blocked_of_end (h : fs.IsTree) {path : List String}
    (hpath : ∀ q, q <+: path → q ≠ path → fs.entry? q = some .directory)
    (hend : fs.entry? path = none) (rest : List String) : ¬ fs.Blocked (path ++ rest) := by
  rintro ⟨q, content, hq, hfile⟩
  by_cases heq : q = path
  · rw [heq, hend] at hfile
    cases hfile
  · rcases List.prefix_or_prefix_of_prefix hq (List.prefix_append path rest) with hqp | hpq
    · rw [hpath q hqp heq] at hfile
      cases hfile
    · rw [h.directory_of_isPrefix hpq (Ne.symm heq) hfile] at hend
      cases hend

/-- Names lead down a tree to what stands at their path. Where nothing stands, the way is blocked
by a file or ends. -/
theorem IsTree.walk_cases (h : fs.IsTree) {segments : List String}
    (hnames : ∀ s ∈ segments, Path.IsName s) (path : List String)
    (hpath : ∀ q, q <+: path → q ≠ path → fs.entry? q = some .directory) :
    (∃ e, fs.entry? (path ++ segments) = some e ∧
      fs.walk path segments = .ok (path ++ segments, e)) ∨
    fs.entry? (path ++ segments) = none ∧
      (¬ fs.Blocked (path ++ segments) ∧ fs.walk path segments = .error .notFound ∨
        fs.Blocked (path ++ segments) ∧ fs.walk path segments = .error .notDirectory) := by
  induction segments generalizing path with
  | nil =>
      cases he : fs.entry? path with
      | some e => exact .inl ⟨e, by simp [he], by simp [walk, he]⟩
      | none =>
          exact .inr ⟨by simp [he], .inl ⟨h.not_blocked_of_end hpath he [], by simp [walk, he]⟩⟩
  | cons name rest ih =>
      rw [List.forall_mem_cons] at hnames
      have hbelow : path <+: path ++ name :: rest := List.prefix_append _ _
      have hnone := h.entry?_eq_none_below hbelow (by simp)
      cases he : fs.entry? path with
      | none =>
          exact .inr ⟨hnone (by simp [he]),
            .inl ⟨h.not_blocked_of_end hpath he _, by simp [walk, he]⟩⟩
      | some e =>
          cases e with
          | file content =>
              exact .inr ⟨hnone (by simp [he]),
                .inr ⟨⟨path, content, hbelow, he⟩, by simp [walk, he]⟩⟩
          | directory =>
              rw [walk_name hnames.1 he, List.append_cons]
              refine ih hnames.2 _ (fun q hq hne => ?_)
              rcases List.prefix_concat_iff.1 hq with rfl | hq
              · exact absurd rfl hne
              · by_cases hqp : q = path
                · rw [hqp, he]
                · exact hpath q hq hqp

/-- From the root the names of a path lead to what stands there. -/
theorem IsTree.walk_root (h : fs.IsTree) (hnames : ∀ s ∈ p, Path.IsName s) :
    (∃ e, fs.entry? p = some e ∧ fs.walk [] p = .ok (p, e)) ∨
    fs.entry? p = none ∧ (¬ fs.Blocked p ∧ fs.walk [] p = .error .notFound ∨
      fs.Blocked p ∧ fs.walk [] p = .error .notDirectory) :=
  h.walk_cases hnames [] (fun _ hq hne => absurd (List.prefix_nil.1 hq) hne)

/-- Where directories stay, a text leads to the same path as before. -/
theorem walk_of_directories {after : FileSystem}
    (hstay : ∀ q, fs.entry? q = some .directory → after.entry? q = some .directory)
    {path segments : List String} {e e' : FileEntry} {p' : List String}
    (h : fs.walk path segments = .ok (p, e)) (h' : after.walk path segments = .ok (p', e')) :
    fs.entry? p = some e ∧ after.entry? p = some e' := by
  induction segments generalizing path with
  | nil =>
      simp only [walk] at h h'
      cases he : fs.entry? path with
      | none => simp [he] at h
      | some found =>
          cases he' : after.entry? path with
          | none => simp [he'] at h'
          | some found' =>
              simp only [he, he', Except.ok.injEq, Prod.mk.injEq] at h h'
              obtain ⟨rfl, rfl⟩ := h
              obtain ⟨-, rfl⟩ := h'
              exact ⟨he, he'⟩
  | cons segment rest ih =>
      simp only [walk] at h h'
      cases he : fs.entry? path with
      | none => simp [he] at h
      | some found =>
          cases found with
          | file content => simp [he] at h
          | directory =>
              simp only [he, hstay path he] at h h'
              split at h
              case isTrue hstep =>
                rw [if_pos hstep] at h'
                exact ih h h'
              case isFalse hstep =>
                rw [if_neg hstep] at h'
                split at h
                case isTrue hup =>
                  rw [if_pos hup] at h'
                  exact ih h h'
                case isFalse hup =>
                  rw [if_neg hup] at h'
                  exact ih h h'

theorem find_of_directories {after : FileSystem}
    (hstay : ∀ q, fs.entry? q = some .directory → after.entry? q = some .directory)
    {working : Path} {text : String} {e' : FileEntry} {p' : List String}
    (h : fs.find working text = .ok (p, e)) (h' : after.find working text = .ok (p', e')) :
    fs.entry? p = some e ∧ after.entry? p = some e' := by
  simp only [find] at h h'
  split at h
  case isTrue => cases h
  case isFalse hne =>
    rw [if_neg hne] at h'
    exact walk_of_directories hstay h h'

/-- What is read from a text is the content of the file that it leads to. -/
theorem read_eq_ok_iff {working : Path} {text content : String} :
    fs.read working text = .ok content ↔ ∃ p, fs.find working text = .ok (p, .file content) := by
  unfold read
  rcases fs.find working text with trouble | ⟨p, content' | _⟩ <;> simp

/-- The children of a path are what stands one name below it. -/
theorem IsTree.mem_children (h : fs.IsTree) {directory : List String} {name : String} :
    (name, e) ∈ fs.children directory ↔ fs.entry? (directory ++ [name]) = some e := by
  have hchild : ∀ path, childName? directory path = some name ↔ path = directory ++ [name] := by
    intro path
    cases path using List.reverseRecOn with
    | nil => simp [childName?]
    | append_singleton front last => simp [childName?, eq_comm]
  simp only [children, List.mem_mergeSort, List.mem_filterMap, Option.map_eq_some_iff,
    Prod.mk.injEq]
  constructor
  · rintro ⟨⟨path, e'⟩, hmem, _, hname, rfl, rfl⟩
    obtain rfl := (hchild path).1 hname
    exact h.entry?_of_mem (by simp) hmem
  · intro he
    exact ⟨_, mem_entries_of_found (by simp) he, name, (hchild _).2 rfl, rfl, rfl⟩

/-! ## Making directories and writing files -/

/-- Directories are made along the names below a directory, unless a file blocks the way. -/
theorem IsTree.makeBelow_cases (h : fs.IsTree) {path : List String} (segments : List String)
    (hpath : fs.entry? path = some .directory) (hnames : ∀ s ∈ path ++ segments, Path.IsName s) :
    (¬ fs.Blocked (path ++ segments) ∧ ∃ made, fs.makeBelow path segments = .ok made ∧
      made.IsTree ∧ ∀ q, made.entry? q =
        if q <+: path ++ segments then some .directory else fs.entry? q) ∨
    fs.Blocked (path ++ segments) ∧ ∃ blocked, fs.makeBelow path segments = .error blocked := by
  induction segments generalizing fs path with
  | nil =>
      rw [List.append_nil]
      refine .inl ⟨h.not_blocked_of_directory hpath, fs, rfl, h, fun q => ?_⟩
      split
      case isTrue hq =>
        by_cases hqp : q = path
        · rw [hqp, hpath]
        · exact h.directory_of_isPrefix hq hqp hpath
      case isFalse => rfl
  | cons name rest ih =>
      rw [List.append_cons] at hnames ⊢
      cases he : fs.entry? (path ++ [name]) with
      | none =>
          have hmade : (fs.put (path ++ [name]) .directory).IsTree :=
            h.put (by simp) (fun s hs => hnames s (List.mem_append_left _ hs))
              (by rwa [List.dropLast_concat]) (.inl rfl)
          have hentry := entry?_put fs (p := path ++ [name]) (by simp) .directory
          have hblocked : (fs.put (path ++ [name]) .directory).Blocked (path ++ [name] ++ rest) ↔
              fs.Blocked (path ++ [name] ++ rest) := by
            refine blocked_congr (fun q content => ?_)
            rw [hentry]
            split
            case isTrue hq => simp [hq, he]
            case isFalse => exact Iff.rfl
          have hstep : fs.makeBelow path (name :: rest) =
              (fs.put (path ++ [name]) .directory).makeBelow (path ++ [name]) rest := by
            simp [makeBelow, he]
          rw [hstep, ← hblocked]
          refine (ih hmade (by simp [hentry]) hnames).imp_left ?_
          rintro ⟨hfree, made, hok, htree, hall⟩
          refine ⟨hfree, made, hok, htree, fun q => ?_⟩
          rw [hall, hentry]
          split
          case isTrue => rfl
          case isFalse hq =>
            rw [if_neg]
            rintro rfl
            exact hq (List.prefix_append _ _)
      | some e =>
          cases e with
          | file content =>
              refine .inr ⟨⟨path ++ [name], content, List.prefix_append _ _, he⟩,
                path ++ [name], ?_⟩
              simp [makeBelow, he]
          | directory =>
              rw [makeBelow, he]
              exact ih h he hnames

/-- A directory is made with all above it, unless a file is in the way. -/
theorem IsTree.makeDirectory_cases (h : fs.IsTree) {path : Path} (hpath : path.Absolute) :
    (¬ fs.Blocked path.segments ∧ ∃ made, fs.makeDirectory path = .ok made ∧ made.IsTree ∧
      ∀ q, made.entry? q = if q <+: path.segments then some .directory else fs.entry? q) ∨
    fs.Blocked path.segments ∧ ∃ words, fs.makeDirectory path = .error words := by
  rcases h.makeBelow_cases path.segments fs.entry?_nil hpath.isName with
    ⟨hfree, made, hmade, htree, hentry⟩ | ⟨hblocked, blocked, herror⟩
  · exact .inl ⟨hfree, made, by rw [makeDirectory, hmade], htree, hentry⟩
  · exact .inr ⟨hblocked, _, by rw [makeDirectory, herror]⟩

/-- Making directories changes nothing that is there. -/
theorem entry?_of_made {made : FileSystem} (hfree : ¬ fs.Blocked p)
    (hmade : ∀ q, made.entry? q = if q <+: p then some .directory else fs.entry? q)
    (he : fs.entry? q = some e) : made.entry? q = some e := by
  rw [hmade]
  split
  case isTrue hq =>
    cases e with
    | directory => rfl
    | file content => exact absurd ⟨q, content, hq, he⟩ hfree
  case isFalse => exact he

/-- Whether a file can be written at a path: no file is in the way and no directory has the path. -/
def Writable (fs : FileSystem) (p : List String) : Prop :=
  ¬ fs.Blocked p.dropLast ∧ fs.entry? p ≠ some .directory

theorem isPrefix_dropLast_iff (hp : p ≠ []) : q <+: p.dropLast ↔ q <+: p ∧ q ≠ p := by
  cases p using List.reverseRecOn with
  | nil => exact absurd rfl hp
  | append_singleton front last =>
      rw [List.dropLast_concat, List.prefix_concat_iff]
      constructor
      · intro hq
        refine ⟨.inr hq, fun heq => ?_⟩
        have hlength := hq.length_le
        rw [heq, List.length_append, List.length_singleton] at hlength
        omega
      · rintro ⟨hq, hne⟩
        exact hq.resolve_left hne

/-- A file can be written when no file stands above it and no directory has the path. -/
theorem writable_iff : fs.Writable p ↔
    (∀ q content, q <+: p → q ≠ p → fs.entry? q ≠ some (.file content)) ∧
      fs.entry? p ≠ some .directory := by
  by_cases hp : p = []
  · simp [Writable, hp]
  · simp only [Writable, Blocked, isPrefix_dropLast_iff hp, not_exists, not_and, and_imp]

/-- A file is written where it can be, in directories that are made for it. Nothing else changes,
and nothing that is there changes when it cannot be written. -/
theorem IsTree.write_cases (h : fs.IsTree) {path : Path} (hpath : path.Absolute)
    (content : String) :
    (fs.Writable path.segments ∧ ∃ written, fs.write path content = (written, .ok ()) ∧
      written.IsTree ∧ ∀ q, written.entry? q =
        if q = path.segments then some (.file content)
        else if q <+: path.segments then some .directory else fs.entry? q) ∨
    ¬ fs.Writable path.segments ∧ ∃ made words, fs.write path content = (made, .error words) ∧
      made.IsTree ∧ ∀ q e, fs.entry? q = some e → made.entry? q = some e := by
  have hparent : path.parent.Absolute :=
    ⟨hpath.rooted, fun s hs => hpath.isName s (List.mem_of_mem_dropLast hs)⟩
  rcases h.makeDirectory_cases hparent with
    ⟨hfree, made, hmade, htree, hentry⟩ | ⟨hblocked, words, herror⟩
  case inr =>
    exact .inr ⟨fun hwritable => hwritable.1 hblocked, fs, words, by rw [write, herror], h,
      fun _ _ he => he⟩
  case inl =>
    rw [Path.parent] at hfree hentry
    by_cases hat : fs.entry? path.segments = some .directory
    · have hthere := entry?_of_made hfree hentry hat
      refine .inr ⟨fun hwritable => hwritable.2 hat, made,
        "rename " ++ path.text ++ ": " ++ Trouble.fileExists.text, ?_, htree,
        fun q e => entry?_of_made hfree hentry⟩
      rw [write, hmade]
      simp [place, hthere]
    · have hne : path.segments ≠ [] := fun hnil => hat (by rw [hnil, entry?_nil])
      have hthere : made.entry? path.segments ≠ some .directory := by
        rwa [hentry, if_neg (fun hq => ((isPrefix_dropLast_iff hne).1 hq).2 rfl)]
      have hplace : made.place path content = .ok (made.put path.segments (.file content)) := by
        unfold place
        split
        case h_1 hdirectory => exact absurd hdirectory hthere
        case h_2 => rfl
      refine .inl ⟨⟨hfree, hat⟩, made.put path.segments (.file content), ?_, ?_, fun q => ?_⟩
      · rw [write, hmade]
        simp [hplace]
      · exact htree.put hne hpath.isName (by rw [hentry, if_pos (List.prefix_refl _)])
          (.inr hthere)
      · rw [entry?_put made hne, hentry]
        by_cases hq : q = path.segments
        · simp [hq]
        · simp [hq, isPrefix_dropLast_iff hne]

end TypedClient.FileSystem
