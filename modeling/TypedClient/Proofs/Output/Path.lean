import TypedClient.Path

/-!
# Ways between directories

An absolute path is one from the root in its shortest form. Its text leads back to it, and the way
from one absolute path to another leads there: `descend_relativeText` follows the way that
`relativeText` gives, so different targets have different ways. `descend_importText` is the same
for the form in which the generated code imports from a directory.
-/

namespace TypedClient

namespace Text

/-- Texts that are put together at a separator are split there. -/
theorem splitOn_append (sep : Char) (a b : String) :
    splitOn sep (a ++ String.singleton sep ++ b) = splitOn sep a ++ splitOn sep b := by
  have hsplit := List.splitOn_append_cons_self (a := sep) a.toList b.toList
  simp [splitOn, hsplit]

/-- A text without the separator is not split. -/
theorem splitOn_of_not_mem {sep : Char} {s : String} (h : sep ∉ s.toList) :
    splitOn sep s = [s] := by
  simp [splitOn, List.splitOn_eq_singleton h]

/-- Parts without the separator are read back from the text they are put together to. -/
theorem splitOn_intercalate {sep : Char} {parts : List String} (hne : parts ≠ [])
    (h : ∀ part ∈ parts, sep ∉ part.toList) :
    splitOn sep ((String.singleton sep).intercalate parts) = parts := by
  have hsplit : ([sep].intercalate (parts.map String.toList)).splitOn sep =
      parts.map String.toList :=
    List.splitOn_intercalate sep (List.forall_mem_map.2 h) (by simpa using hne)
  simp [splitOn, hsplit]

/-- The parts of a text do not hold the separator. -/
theorem not_mem_of_mem_splitOn {sep : Char} {s part : String} (h : part ∈ splitOn sep s) :
    sep ∉ part.toList := by
  obtain ⟨cs, hcs, rfl⟩ := List.mem_map.1 h
  rw [String.toList_ofList]
  clear h
  generalize s.toList = chars at hcs
  induction chars generalizing cs with
  | nil =>
      obtain rfl : cs = [] := by simpa using hcs
      exact List.not_mem_nil
  | cons c chars ih =>
      rw [List.splitOn_cons_eq_if_modifyHead] at hcs
      split at hcs
      case isTrue =>
        rcases List.mem_cons.1 hcs with rfl | hcs
        · exact List.not_mem_nil
        · exact ih cs hcs
      case isFalse hne =>
        cases hsplit : chars.splitOn sep with
        | nil => exact absurd hsplit (List.splitOn_ne_nil sep chars)
        | cons first rest =>
            rw [hsplit, List.modifyHead_cons] at hcs
            rcases List.mem_cons.1 hcs with rfl | hcs
            · have hfirst := ih first (hsplit ▸ List.mem_cons_self)
              rw [List.mem_cons, not_or]
              exact ⟨fun heq => hne (by simp [heq]), hfirst⟩
            · exact ih cs (hsplit ▸ List.mem_cons_of_mem first hcs)

end Text

namespace Path

/-- A segment that names something in a directory. -/
structure IsName (segment : String) : Prop where
  ne_empty : segment ≠ ""
  ne_dot : segment ≠ "."
  ne_up : segment ≠ ".."
  slash_not_mem : '/' ∉ segment.toList

instance (segment : String) : Decidable (IsName segment) :=
  decidable_of_iff (segment ≠ "" ∧ segment ≠ "." ∧ segment ≠ ".." ∧ '/' ∉ segment.toList)
    ⟨fun h => ⟨h.1, h.2.1, h.2.2.1, h.2.2.2⟩, fun h => ⟨h.1, h.2, h.3, h.4⟩⟩

/-- A path from the root whose segments all name something. -/
structure Absolute (p : Path) : Prop where
  rooted : p.rooted = true
  isName : ∀ s ∈ p.segments, IsName s

instance (p : Path) : Decidable p.Absolute :=
  decidable_of_iff (p.rooted = true ∧ ∀ s ∈ p.segments, IsName s)
    ⟨fun h => ⟨h.1, h.2⟩, fun h => ⟨h.1, h.2⟩⟩

section Steps

variable {rooted : Bool} {segments : List String} {segment : String}

theorem step_dot : step rooted segments "." = segments := by
  simp [step]

theorem step_empty : step rooted segments "" = segments := by
  simp [step]

/-- A name goes down. -/
theorem step_name (h : IsName segment) : step rooted segments segment = segments ++ [segment] := by
  simp [step, h.ne_empty, h.ne_dot, h.ne_up]

/-- Two points undo a name. -/
theorem step_up (h : IsName segment) : step rooted (segments ++ [segment]) ".." = segments := by
  simp [step, h.ne_up]

/-- From the root a step leads to names. -/
theorem isName_of_mem_step (h : ∀ s ∈ segments, IsName s) (hsegment : '/' ∉ segment.toList) :
    ∀ s ∈ step true segments segment, IsName s := by
  unfold step
  split
  case isTrue => exact h
  case isFalse hplain =>
    rw [not_or] at hplain
    split
    case isTrue =>
      split
      · exact fun s hs => absurd hs List.not_mem_nil
      case h_2 last hlast =>
        rw [if_neg (h last (List.mem_of_getLast? hlast)).ne_up]
        exact fun s hs => h s ((List.dropLast_sublist _).subset hs)
    case isFalse hup =>
      intro s hs
      rcases List.mem_append.1 hs with hs | hs
      · exact h s hs
      · rw [List.mem_singleton.1 hs]
        exact ⟨hplain.1, hplain.2, hup, hsegment⟩

/-- Names go down one after the other. -/
theorem foldl_step_names {names : List String} (h : ∀ s ∈ names, IsName s) :
    names.foldl (step rooted) segments = segments ++ names := by
  induction names generalizing segments with
  | nil => simp
  | cons name names ih =>
      rw [List.forall_mem_cons] at h
      rw [List.foldl_cons, step_name h.1, ih h.2, List.append_assoc, List.singleton_append]

/-- As many times two points undo as many names. -/
theorem foldl_step_up {names : List String} (h : ∀ s ∈ names, IsName s) :
    (List.replicate names.length "..").foldl (step rooted) (segments ++ names) = segments := by
  induction names generalizing segments with
  | nil => simp
  | cons name names ih =>
      rw [List.forall_mem_cons] at h
      rw [List.length_cons, List.replicate_succ', List.foldl_append, ← List.singleton_append,
        ← List.append_assoc, ih h.2, List.foldl_cons, step_up h.1, List.foldl_nil]

end Steps

section Descend

variable {p : Path} {a b text name : String}

theorem descend_dot : p.descend "." = p := by
  have hsplit : Text.splitOn '/' "." = ["."] := Text.splitOn_of_not_mem (by decide)
  rw [descend, hsplit, List.foldl_cons, step_dot, List.foldl_nil]

theorem descend_empty : p.descend "" = p := by
  have hsplit : Text.splitOn '/' "" = [""] := Text.splitOn_of_not_mem (by decide)
  rw [descend, hsplit, List.foldl_cons, step_empty, List.foldl_nil]

/-- The two parts of a text lead on from one another. -/
theorem descend_append : p.descend (a ++ "/" ++ b) = (p.descend a).descend b := by
  have hsplit := Text.splitOn_append '/' a b
  rw [descend, descend, descend]
  dsimp only
  rw [← List.foldl_append, ← hsplit]
  rfl

/-- A name leads one segment down. -/
theorem descend_name (h : IsName name) :
    p.descend name = { p with segments := p.segments ++ [name] } := by
  rw [descend, Text.splitOn_of_not_mem h.slash_not_mem, List.foldl_cons, step_name h,
    List.foldl_nil]

/-- Segments without slashes are followed one after the other. -/
theorem descend_intercalate {segments : List String} (h : ∀ s ∈ segments, '/' ∉ s.toList) :
    p.descend ("/".intercalate segments) =
      { p with segments := segments.foldl (step p.rooted) p.segments } := by
  by_cases hne : segments = []
  · subst hne
    exact descend_empty
  · have hsplit := Text.splitOn_intercalate hne h
    rw [descend]
    exact congrArg (fun parts : List String =>
      ({ p with segments := parts.foldl (step p.rooted) p.segments } : Path)) hsplit

/-- A text leads from an absolute path to another. -/
theorem Absolute.descend (h : p.Absolute) (text : String) : (p.descend text).Absolute := by
  refine ⟨h.rooted, ?_⟩
  have hparts : ∀ part ∈ Text.splitOn '/' text, '/' ∉ part.toList :=
    fun _ hpart => Text.not_mem_of_mem_splitOn hpart
  rw [Path.descend, h.rooted]
  generalize Text.splitOn '/' text = parts at hparts
  have hsegments := h.isName
  generalize p.segments = segments at hsegments
  induction parts generalizing segments with
  | nil => exact hsegments
  | cons part parts ih =>
      rw [List.forall_mem_cons] at hparts
      exact ih hparts.2 _ (isName_of_mem_step hsegments hparts.1)

/-- A text that starts with a slash stands for an absolute path. -/
theorem absolute_ofText (h : Text.startsWith "/" text = true) : (ofText text).Absolute := by
  have hroot : (⟨Text.startsWith "/" text, []⟩ : Path).Absolute :=
    ⟨h, fun _ hs => absurd hs List.not_mem_nil⟩
  exact hroot.descend text

/-- In an absolute directory every text stands for an absolute path. -/
theorem Absolute.absolute (h : p.Absolute) (text : String) : (Path.absolute p text).Absolute := by
  unfold Path.absolute
  split
  case isTrue hslash => exact absolute_ofText hslash
  case isFalse => exact h.descend text

/-- An absolute path is read back from its text. -/
theorem Absolute.ofText_text (h : p.Absolute) : ofText p.text = p := by
  obtain ⟨rooted, segments⟩ := p
  obtain rfl : rooted = true := h.rooted
  have htext : text ⟨true, segments⟩ = "" ++ "/" ++ "/".intercalate segments := by
    simp [text]
  have hslash : Text.startsWith "/" (text ⟨true, segments⟩) = true := by
    simp [Text.startsWith, htext]
  rw [ofText, hslash, htext, descend_append, descend_empty,
    descend_intercalate (fun s hs => (h.isName s hs).slash_not_mem)]
  simp [foldl_step_names h.isName]

end Descend

section Relative

variable {base target : Path}

/-- Two lists are what remains of them behind a common front. -/
theorem exists_of_parting {xs ys up down : List String} (h : parting xs ys = (up, down)) :
    ∃ common, xs = common ++ up ∧ ys = common ++ down := by
  fun_induction parting xs ys with
  | case1 xs x ys ih =>
      obtain ⟨common, hxs, hys⟩ := ih h
      exact ⟨x :: common, by rw [hxs]; rfl, by rw [hys]; rfl⟩
  | case2 x xs y ys =>
      cases h
      exact ⟨[], rfl, rfl⟩
  | case3 xs ys =>
      cases h
      exact ⟨[], rfl, rfl⟩

/-- The way between absolute paths goes up to a common path and down from there. -/
theorem Absolute.relative?_eq (hbase : base.Absolute) (htarget : target.Absolute) :
    ∃ common up down, base.segments = common ++ up ∧ target.segments = common ++ down ∧
      relative? base target = some ⟨false, List.replicate up.length ".." ++ down⟩ := by
  obtain ⟨common, hup, hdown⟩ := exists_of_parting
    (rfl : parting base.segments target.segments = (_, _))
  refine ⟨common, _, _, hup, hdown, ?_⟩
  have hhead : (parting base.segments target.segments).1.head? ≠ some ".." := by
    intro hhead
    have hmem : ".." ∈ base.segments := by
      rw [hup]
      exact List.mem_append_right _ (List.mem_of_mem_head? hhead)
    exact (hbase.isName _ hmem).ne_up rfl
  rw [relative?, if_pos (hbase.rooted.trans htarget.rooted.symm)]
  exact if_neg hhead

/-- The text of a way leads as its segments do. -/
theorem descend_text {segments : List String} (hne : ∀ s ∈ segments, s ≠ "")
    (hslash : ∀ s ∈ segments, '/' ∉ s.toList) (p : Path) :
    p.descend (text ⟨false, segments⟩) =
      { p with segments := segments.foldl (step p.rooted) p.segments } := by
  have htext : text ⟨false, segments⟩ =
      if "/".intercalate segments = "" then "." else "/".intercalate segments := rfl
  rw [htext]
  split
  case isTrue hempty =>
    have hnil : segments = [] := by
      cases segments with
      | nil => rfl
      | cons s rest =>
          refine absurd ?_ (hne s List.mem_cons_self)
          cases rest with
          | nil => simpa using hempty
          | cons t rest =>
              rw [String.intercalate_cons_cons] at hempty
              have hlength := congrArg String.length hempty
              simp at hlength
    rw [hnil]
    exact descend_dot
  case isFalse => exact descend_intercalate hslash

/-- The way from one absolute path to another leads there. -/
theorem Absolute.descend_relativeText (hbase : base.Absolute) (htarget : target.Absolute) :
    base.descend (relativeText base.text target.text) = target := by
  obtain ⟨common, up, down, hup, hdown, hway⟩ := hbase.relative?_eq htarget
  have hups : ∀ s ∈ up, IsName s := fun s hs =>
    hbase.isName s (hup ▸ List.mem_append_right common hs)
  have hdowns : ∀ s ∈ down, IsName s := fun s hs =>
    htarget.isName s (hdown ▸ List.mem_append_right common hs)
  have hsegments : ∀ s ∈ List.replicate up.length ".." ++ down, s = ".." ∨ IsName s := by
    intro s hs
    rcases List.mem_append.1 hs with hs | hs
    · exact .inl (List.eq_of_mem_replicate hs)
    · exact .inr (hdowns s hs)
  rw [relativeText, hbase.ofText_text, htarget.ofText_text, hway, Option.map_some,
    Option.getD_some, descend_text, List.foldl_append, hup, foldl_step_up hups,
    foldl_step_names hdowns, ← hdown]
  · rw [hbase.rooted, ← htarget.rooted]
  · rintro s hs rfl
    exact (hsegments "" hs).elim (by decide) (fun h => h.ne_empty rfl)
  · intro s hs
    rcases hsegments s hs with rfl | h
    · decide
    · exact h.slash_not_mem

/-- Different absolute paths have different texts. -/
theorem Absolute.eq_of_text_eq (hbase : base.Absolute) (htarget : target.Absolute)
    (h : base.text = target.text) : base = target := by
  rw [← hbase.ofText_text, h, htarget.ofText_text]

/-- An absolute path is known by its segments. -/
theorem Absolute.eq_of_segments_eq (hbase : base.Absolute) (htarget : target.Absolute)
    (h : base.segments = target.segments) : base = target := by
  obtain ⟨rooted, segments⟩ := base
  obtain ⟨rooted', segments'⟩ := target
  obtain rfl : rooted = true := hbase.rooted
  obtain rfl : rooted' = true := htarget.rooted
  exact congrArg (Path.mk true) h

/-- The form in which code imports from a directory leads to the directory. -/
theorem Absolute.descend_importText (hbase : base.Absolute) (htarget : target.Absolute) :
    base.descend (importText base.text target.text) = target := by
  have hway := hbase.descend_relativeText htarget
  unfold importText
  dsimp only
  split
  case isTrue => exact hway
  case isFalse =>
    have hdot : "./" ++ relativeText base.text target.text =
        "." ++ "/" ++ relativeText base.text target.text := rfl
    rw [hdot, descend_append, descend_dot, hway]

end Relative

end Path

end TypedClient
