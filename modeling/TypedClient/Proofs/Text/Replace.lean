import TypedClient.Text.Basic

/-!
# Replacing in a text

What `replaceChars` does with the first character of a text, in the three cases that there are.
-/

namespace TypedClient.Text

variable {first c : Char} {old new s rest : List Char}

@[simp] theorem replaceChars_nil : replaceChars first old new [] = [] := by rw [replaceChars]

/-- A character that starts no occurrence stays. -/
theorem replaceChars_of_ne (h : c ≠ first) :
    replaceChars first old new (c :: s) = c :: replaceChars first old new s := by
  rw [replaceChars, if_neg h]

/-- A character that is not followed by the rest of the text stays. -/
theorem replaceChars_of_none (h : afterStart? old s = none) :
    replaceChars first old new (first :: s) = first :: replaceChars first old new s := by
  rw [replaceChars, if_pos rfl]
  split
  · simp_all
  · rfl

/-- An occurrence is replaced. -/
theorem replaceChars_of_some (h : afterStart? old s = some rest) :
    replaceChars first old new (first :: s) = new ++ replaceChars first old new rest := by
  rw [replaceChars, if_pos rfl]
  split
  · simp_all
  · simp_all

/-- Occurrences in a text are replaced character by character. -/
theorem replace_ofList {old new : String} (h : old.toList = first :: rest) :
    replace old new (String.ofList s) =
      String.ofList (replaceChars first rest new.toList s) := by
  simp only [replace, h, String.toList_ofList]

end TypedClient.Text
