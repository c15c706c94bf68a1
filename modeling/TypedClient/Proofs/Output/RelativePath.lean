import Mathlib.Data.Set.Function
import TypedClient.Proofs.Output.Path

/-!
# Relative paths in shortest form

The way that `relativeText` gives between two texts is the way between the paths that they stand
for, so superfluous segments on either side do not matter. `importText_joins` says what comes of
it: the form in which code imports from a directory is a way that starts at the directory, and put
behind the text of the directory it is a text for the same path. A path is known from the way to
it.
-/

namespace TypedClient.Path

/-- The text of a path in its shortest form. -/
def clean (text : String) : String :=
  (ofText text).text

/-- A way behind the text of the directory that it starts at, in the shortest form. -/
def join (base way : String) : String :=
  clean (base ++ "/" ++ way)

variable {base target root way : String}

/-- A way that follows the text of a directory starts at the directory. -/
theorem ofText_append (h : Text.startsWith "/" base = true) :
    ofText (base ++ "/" ++ way) = (ofText base).descend way := by
  have hrooted : Text.startsWith "/" (base ++ "/" ++ way) = true :=
    Text.startsWith_append (Text.startsWith_append h _) _
  rw [ofText, hrooted, descend_append, ofText, h]

/-- The way between two absolute texts is the way between their shortest forms. -/
theorem relativeText_clean (hbase : Text.startsWith "/" base = true)
    (htarget : Text.startsWith "/" target = true) :
    relativeText base target = relativeText (clean base) (clean target) := by
  have hfrom := absolute_ofText hbase
  have hto := absolute_ofText htarget
  obtain ⟨common, up, down, -, -, hway⟩ := hfrom.relative?_eq hto
  simp only [relativeText, clean, hfrom.ofText_text, hto.ofText_text, hway, Option.map_some,
    Option.getD_some]

/-- The same for the form in which code imports from a directory. -/
theorem importText_clean (hbase : Text.startsWith "/" base = true)
    (htarget : Text.startsWith "/" target = true) :
    importText base target = importText (clean base) (clean target) := by
  rw [importText, importText, relativeText_clean hbase htarget]

/-- A directory is imported from as a way that starts at it. -/
theorem importText_cases (base target : String) :
    importText base target = "." ∨ importText base target = ".." ∨
      Text.startsWith "./" (importText base target) = true ∨
      Text.startsWith "../" (importText base target) = true := by
  unfold importText
  dsimp only
  split
  case isTrue h =>
    simp only [Bool.or_eq_true, decide_eq_true_eq] at h
    rcases h with (h | h) | h
    · exact .inl h
    · exact .inr (.inl h)
    · exact .inr (.inr (.inr h))
  case isFalse => exact .inr (.inr (.inl (Text.startsWith_append (by decide) _)))

/-- From a directory that is not absolute no way to an absolute path can be told. -/
theorem relativeText_of_not_rooted (h : Text.startsWith "/" root = false)
    (htarget : Text.startsWith "/" target = true) : relativeText root target = target := by
  have hne : (ofText root).rooted ≠ (ofText target).rooted := by
    rw [(absolute_ofText htarget).rooted]
    exact fun heq => Bool.false_ne_true (h.symm.trans heq)
  rw [relativeText, relative?, if_neg hne, Option.map_none, Option.getD_none]

/-- Between absolute texts the form in which code imports from a directory is a single point, two
points or a way that starts with one of them, and it leads from the directory to the target. The
ways from one directory tell all absolute paths apart. -/
theorem importText_joins :
    (∀ base target, Text.startsWith "/" base = true → Text.startsWith "/" target = true →
      (importText base target = "." ∨ importText base target = ".." ∨
        Text.startsWith "./" (importText base target) = true ∨
        Text.startsWith "../" (importText base target) = true) ∧
      join base (importText base target) = clean target) ∧
    ∀ root, Set.InjOn (relativeText root)
      {path | Text.startsWith "/" path = true ∧ clean path = path} := by
  constructor
  · intro base target hbase htarget
    refine ⟨importText_cases base target, ?_⟩
    have hleads := (absolute_ofText hbase).descend_importText (absolute_ofText htarget)
    rw [join, clean, ofText_append hbase, importText_clean hbase htarget]
    exact congrArg text hleads
  · rintro root p ⟨hp, hpclean⟩ q ⟨hq, hqclean⟩ hway
    by_cases hroot : Text.startsWith "/" root = true
    · have hfrom := absolute_ofText hroot
      rw [relativeText_clean hroot hp, relativeText_clean hroot hq] at hway
      have hpaths : ofText p = ofText q :=
        (hfrom.descend_relativeText (absolute_ofText hp)).symm.trans
          ((congrArg (ofText root).descend hway).trans
            (hfrom.descend_relativeText (absolute_ofText hq)))
      rw [← hpclean, ← hqclean, clean, hpaths, clean]
    · rw [Bool.not_eq_true] at hroot
      rwa [relativeText_of_not_rooted hroot hp, relativeText_of_not_rooted hroot hq] at hway

/-- `importText_joins` for a directory whose text is the start of that of the target, and for one
whose name starts with two points. -/
theorem importText_joins_beside :
    Text.startsWith "/" "/out/a" = true ∧ Text.startsWith "/" "/out//b/../a.b/" = true ∧
      join "/out/a" (importText "/out/a" "/out//b/../a.b/") = clean "/out//b/../a.b/" ∧
      importText "/out/a" "/out//b/../a.b/" = "../a.b" ∧
      relativeText "/" "/..x" ≠ relativeText "/" "/x" := by
  have hbase : Text.startsWith "/" "/out/a" = true := by decide
  have htarget : Text.startsWith "/" "/out//b/../a.b/" = true := by decide
  obtain ⟨hleads, hinjective⟩ := importText_joins
  refine ⟨hbase, htarget, (hleads _ _ hbase htarget).2, by decide +kernel, fun hway => ?_⟩
  have heq : "/..x" = "/x" :=
    hinjective "/" ⟨by decide, by decide +kernel⟩ ⟨by decide, by decide +kernel⟩ hway
  exact absurd heq (by decide)

end TypedClient.Path
