import TypedClient.Proofs.TypeScript.Comment
import TypedClient.TypeScript.Method

/-!
# Comments close once

A documentation comment is put together from an indentation, texts of the description and, on a
method, names and the type of its result. `comments_close_once` says that it closes at its end and
nowhere before, whatever those are: inside a line the slash of a closing mark is set apart from its
star, and lines are told from each other and from the marks around them by the ends of lines.
-/

namespace TypedClient.TypeScript

/-- Whether a text is one documentation comment behind its indentation: it opens with `/**`, and
the mark that closes it stands at its end and nowhere else. -/
def IsComment (indent s : String) : Prop :=
  ∃ body, s = indent ++ "/**" ++ body ++ "*/\n" ∧
    ∀ before after, s = before ++ "*/" ++ after →
      before = indent ++ "/**" ++ body ∧ after = "\n"

variable {indent : String} {xs ys before after : List Char}

/-- The end of a line stands between a star and a slash. -/
theorem KeepsOpen.append_line (hxs : KeepsOpen xs) (hys : KeepsOpen ys) :
    KeepsOpen (xs ++ '\n' :: ys) := by
  refine List.isChain_append.2 ⟨hxs, hys.cons (by decide), fun a _ b hb _ => ?_⟩
  obtain rfl := Option.some.inj hb
  decide

/-- A text that is open up to its last star is closed there and nowhere else. -/
theorem KeepsOpen.closed_eq (h : KeepsOpen (xs ++ ['*']))
    (heq : xs ++ ['*', '/', '\n'] = before ++ '*' :: '/' :: after) :
    before = xs ∧ after = ['\n'] := by
  rcases List.append_eq_append_iff.1 heq with ⟨gap, rfl, hgap⟩ | ⟨gap, rfl, hgap⟩
  · match gap with
    | [] => exact ⟨List.append_nil xs, by simpa using hgap.symm⟩
    | [a] => simp at hgap
    | [a, b] => simp at hgap
    | a :: b :: c :: gap => simp at hgap
  · match gap with
    | [] => exact ⟨(List.append_nil before).symm, by simpa using hgap⟩
    | [a] => simp at hgap
    | a :: b :: gap =>
        -- the mark would stand inside the part that is open
        simp only [List.cons_append, List.cons.injEq] at hgap
        obtain ⟨rfl, rfl, -⟩ := hgap
        rw [List.append_assoc] at h
        obtain ⟨hclosed, -⟩ := List.isChain_cons_cons.1 (List.isChain_append.1 h).2.1
        exact absurd rfl (hclosed rfl)

/-- The lines of a comment leave it open. -/
theorem keepsOpen_commentLines (hindent : '*' ∉ indent.toList) (lines : List String)
    (h : KeepsOpen xs) :
    KeepsOpen ((String.join (lines.map (commentLine indent))).toList ++ xs) := by
  induction lines with
  | nil => exact h
  | cons line lines ih =>
      obtain ⟨cs, hline, hcs⟩ := exists_commentLine hindent line
      rw [List.map_cons, String.join_cons, String.toList_append, hline, List.append_assoc,
        List.append_assoc, List.singleton_append]
      exact hcs.append_line ih

/-- What is open up to its last star is one comment. -/
theorem isComment_of_keepsOpen {body : String}
    (h : KeepsOpen ((indent ++ "/**" ++ body).toList ++ ['*'])) :
    IsComment indent (indent ++ "/**" ++ body ++ "*/\n") := by
  refine ⟨body, rfl, fun before after heq => ?_⟩
  have hlists : (indent ++ "/**" ++ body).toList ++ ['*', '/', '\n'] =
      before.toList ++ '*' :: '/' :: after.toList := by
    simpa [String.toList_append] using congrArg String.toList heq
  obtain ⟨hbefore, hafter⟩ := h.closed_eq hlists
  exact ⟨String.toList_injective hbefore, String.toList_injective hafter⟩

/-- A comment closes once, whatever its lines are. -/
theorem isComment_comment (hindent : '*' ∉ indent.toList) (lines : List String) :
    IsComment indent (comment indent lines) := by
  have hstart : KeepsOpen (indent.toList ++ "/**".toList) :=
    KeepsOpen.append_left (by simp [KeepsOpen]) hindent
  have hend : KeepsOpen (indent.toList ++ " *".toList) :=
    KeepsOpen.append_left (by simp [KeepsOpen]) hindent
  have hopen := hstart.append_line (keepsOpen_commentLines hindent lines hend)
  have htext : comment indent lines = indent ++ "/**" ++
      ("\n" ++ String.join (lines.map (commentLine indent)) ++ indent ++ " ") ++ "*/\n" := by
    apply String.toList_injective
    simp [comment, String.toList_append]
  rw [htext]
  exact isComment_of_keepsOpen (by simpa [String.toList_append] using hopen)

/-- There is no star among blanks. -/
theorem star_not_mem_of_isBlank (h : Text.isBlank indent = true) : '*' ∉ indent.toList :=
  fun hstar => absurd (List.all_eq_true.1 h _ hstar) (by decide)

theorem IsComment.ne_empty {s : String} (h : IsComment indent s) : s ≠ "" := by
  obtain ⟨body, rfl, -⟩ := h
  intro hempty
  have hlength := congrArg String.length hempty
  simp at hlength

/-- What documents something is left out when there is nothing to say, and a comment otherwise. -/
theorem documentation_cases (indent description : String) (deprecated : Bool) :
    ((Text.trim description = "" ∧ deprecated = false) ∧
      documentation indent description deprecated = "") ∨
    (¬ (Text.trim description = "" ∧ deprecated = false) ∧
      ∃ lines, documentation indent description deprecated = comment indent lines) := by
  have hlines : ∀ lines : List String, lines ≠ [] →
      (if lines.isEmpty then "" else comment indent lines) = comment indent lines := by
    intro lines hne
    exact if_neg (by simpa using hne)
  by_cases htext : Text.trim description = ""
  · cases deprecated with
    | false => exact .inl ⟨⟨htext, rfl⟩, by simp [documentation, htext]⟩
    | true => exact .inr ⟨by simp, _, hlines _ (by simp)⟩
  · refine .inr ⟨fun h => htext h.1, _, hlines _ ?_⟩
    simp [htext, Text.splitOn, List.splitOn_ne_nil]

/-- What documents something closes once, behind any indentation of blanks; it is left out exactly
when there is nothing to say. The comment on a method closes once. -/
theorem comments_close_once :
    (∀ indent, Text.isBlank indent = true → ∀ description deprecated,
      (documentation indent description deprecated = "" ↔
        Text.trim description = "" ∧ deprecated = false) ∧
      (documentation indent description deprecated = "" ∨
        IsComment indent (documentation indent description deprecated))) ∧
    ∀ op, IsComment "    " (operationComment op) := by
  refine ⟨fun indent hindent description deprecated => ?_,
    fun op => isComment_comment (by decide) _⟩
  have hstar := star_not_mem_of_isBlank hindent
  rcases documentation_cases indent description deprecated with ⟨hnone, hempty⟩ | ⟨hsome, lines, hlines⟩
  · exact ⟨iff_of_true hempty hnone, .inl hempty⟩
  · have hcomment := isComment_comment hstar lines
    rw [hlines]
    exact ⟨iff_of_false hcomment.ne_empty hsome, .inr hcomment⟩

/-- `comments_close_once` for a text with a closing mark between stars and slashes, and with a star
at the end of a line. -/
theorem comments_close_once_marks :
    Text.isBlank "\t" = true ∧
      documentation "\t" "a **//\n*" true =
        "\t/**\n\t * a **\\//\n\t * *\n\t * @deprecated\n\t */\n" ∧
      (documentation "\t" "a **//\n*" true = "" ∨
        IsComment "\t" (documentation "\t" "a **//\n*" true)) := by
  have hblank : Text.isBlank "\t" = true := by decide
  exact ⟨hblank, by decide +kernel, (comments_close_once.1 _ hblank _ _).2⟩

end TypedClient.TypeScript
