import Mathlib.Data.List.Chain
import TypedClient.Proofs.Text.Replace
import TypedClient.Proofs.TypeScript.Token
import TypedClient.TypeScript.Comment

/-!
# Comments hold no tokens

A comment goes on until a slash follows a star. In the text of a description every such slash is
set apart from its star, so a comment ends where it should, and `run_documentation` says that what
stands behind it is read as if the comment were not there.
-/

namespace TypedClient.TypeScript

/-- No star stands right before a slash. -/
def KeepsOpen (cs : List Char) : Prop :=
  cs.IsChain (fun a b => a = '*' → b ≠ '/')

/-- A slash that comes first was there before. -/
theorem head?_replaceChars {cs : List Char}
    (h : (Text.replaceChars '*' ['/'] ['*', '\\', '/'] cs).head? = some '/') :
    cs.head? = some '/' := by
  cases cs with
  | nil => simp at h
  | cons c cs =>
      by_cases hstar : c = '*'
      · subst hstar
        cases hslash : Text.afterStart? ['/'] cs with
        | none =>
            rw [Text.replaceChars_of_none hslash] at h
            exact h
        | some rest =>
            rw [Text.replaceChars_of_some hslash] at h
            cases h
      · rw [Text.replaceChars_of_ne hstar] at h
        exact h

/-- Where every slash behind a star is set apart from it, none is left. -/
theorem keepsOpen_replaceChars (cs : List Char) :
    KeepsOpen (Text.replaceChars '*' ['/'] ['*', '\\', '/'] cs) := by
  induction hn : cs.length using Nat.strong_induction_on generalizing cs with
  | _ n ih =>
      subst hn
      cases cs with
      | nil => simp [KeepsOpen]
      | cons c cs =>
          have hrest := ih cs.length (by simp) cs rfl
          by_cases hstar : c = '*'
          · subst hstar
            cases cs with
            | nil =>
                rw [Text.replaceChars_of_none rfl]
                simp [KeepsOpen]
            | cons d rest =>
                by_cases hslash : d = '/'
                · subst hslash
                  have hafter := ih rest.length (by simp only [List.length_cons]; omega) rest rfl
                  rw [Text.replaceChars_of_some rfl, KeepsOpen]
                  refine List.isChain_cons_cons.2 ⟨by simp, List.isChain_cons_cons.2 ⟨by simp, ?_⟩⟩
                  exact List.isChain_cons.2 ⟨by simp, hafter⟩
                · have hnone : Text.afterStart? ['/'] (d :: rest) = none := by
                    simp [Text.afterStart?, Ne.symm hslash]
                  rw [Text.replaceChars_of_none hnone]
                  refine List.isChain_cons.2 ⟨fun y hy _ heq => ?_, hrest⟩
                  subst heq
                  have hhead := head?_replaceChars hy
                  exact hslash (Option.some.inj hhead)
          · rw [Text.replaceChars_of_ne hstar]
            exact List.isChain_cons.2 ⟨fun _ _ heq => absurd heq hstar, hrest⟩

/-- Any character but a star may be put in front. -/
theorem KeepsOpen.cons {c : Char} {cs : List Char} (h : KeepsOpen cs) (hc : c ≠ '*') :
    KeepsOpen (c :: cs) :=
  List.isChain_cons.2 ⟨fun _ _ heq => absurd heq hc, h⟩

/-- So may characters among which there is no star. -/
theorem KeepsOpen.append_left {xs cs : List Char} (h : KeepsOpen cs) (hxs : '*' ∉ xs) :
    KeepsOpen (xs ++ cs) := by
  induction xs with
  | nil => exact h
  | cons c xs ih =>
      rw [List.mem_cons, not_or] at hxs
      exact (ih hxs.2).cons (Ne.symm hxs.1)

/-- The text of a line, as it is written. -/
theorem keepsOpen_replace (line : String) : KeepsOpen (Text.replace "*/" "*\\/" line).toList := by
  have hold : "*/".toList = '*' :: ['/'] := by decide
  have hnew : "*\\/".toList = ['*', '\\', '/'] := by decide
  simp only [Text.replace, hold, hnew, String.toList_ofList]
  exact keepsOpen_replaceChars _

theorem KeepsOpen.dropEndWhile {cs : List Char} (h : KeepsOpen cs) (p : Char → Bool) :
    KeepsOpen (Text.dropEndWhile p cs) := by
  obtain ⟨dropped, hdropped⟩ := List.dropWhile_suffix p (l := cs.reverse)
  have hsplit := congrArg List.reverse hdropped
  rw [List.reverse_append, List.reverse_reverse] at hsplit
  rw [← hsplit] at h
  exact (List.isChain_append.1 h).1

/-- A line of a comment is a text that keeps it open, and the end of the line. -/
theorem exists_commentLine {indent : String} (hindent : '*' ∉ indent.toList) (line : String) :
    ∃ cs, (commentLine indent line).toList = cs ++ ['\n'] ∧ KeepsOpen cs := by
  have htext := (keepsOpen_replace line).dropEndWhile
    (fun c => c = ' ' || c = '\t' || c = '\r')
  unfold commentLine
  dsimp only
  generalize Text.dropEndWhile _ _ = text at htext ⊢
  have hstar : ∀ cs, KeepsOpen cs → cs.head? ≠ some '/' →
      KeepsOpen (indent.toList ++ ' ' :: '*' :: cs) := by
    intro cs hcs hslash
    refine KeepsOpen.append_left (KeepsOpen.cons ?_ (by decide)) hindent
    exact List.isChain_cons.2 ⟨fun y hy _ heq => hslash (heq ▸ hy), hcs⟩
  split
  · exact ⟨_, by simp, hstar [] List.isChain_nil (by simp)⟩
  · exact ⟨_, by simp, hstar (' ' :: text) (htext.cons (by decide)) (by simp)⟩

namespace Scan

/-- Blanks pass by where one does. -/
theorem run_blanks {q : Scan} (hq : q.step ' ' = some ([], q)) {cs : List Char}
    (h : ∀ c ∈ cs, c = ' ') : q.run cs = some ([], q) := by
  induction cs with
  | nil => rfl
  | cons c cs ih =>
      rw [List.forall_mem_cons] at h
      rw [h.1, run, hq, Option.bind_some, ih h.2]
      rfl

/-- A comment goes on through characters that keep it open. Behind a star the first of them must
not be a slash. -/
theorem run_remark {cs : List Char} (h : KeepsOpen cs) :
    (∃ q, (q = remark ∨ q = star) ∧ remark.run cs = some ([], q)) ∧
      (cs.head? ≠ some '/' → ∃ q, (q = remark ∨ q = star) ∧ star.run cs = some ([], q)) := by
  induction cs with
  | nil => exact ⟨⟨remark, .inl rfl, rfl⟩, fun _ => ⟨star, .inr rfl, rfl⟩⟩
  | cons c cs ih =>
      obtain ⟨hhead, htail⟩ := List.isChain_cons.1 h
      obtain ⟨hremark, hstar⟩ := ih htail
      -- a star leads to where a slash would close the comment, and any other character away
      have hnext : ∃ q, (q = remark ∨ q = star) ∧
          (if c = '*' then star else remark).run cs = some ([], q) := by
        split
        case isTrue heq => exact hstar (fun hslash => hhead '/' hslash heq rfl)
        case isFalse => exact hremark
      obtain ⟨q, hq, hrun⟩ := hnext
      refine ⟨⟨q, hq, ?_⟩, fun hslash => ⟨q, hq, ?_⟩⟩
      · simp only [run, step, Option.bind_some, hrun, Option.map_some, List.nil_append]
      · have hc : c ≠ '/' := fun heq => hslash (by rw [heq]; rfl)
        simp only [run, step, if_neg hc, Option.bind_some, hrun, Option.map_some, List.nil_append]

/-- The end of a line leads away from a star. -/
theorem run_remark_line {cs : List Char} (h : KeepsOpen cs) :
    remark.run (cs ++ ['\n']) = some ([], .remark) := by
  obtain ⟨q, hq, hrun⟩ := (run_remark h).1
  rw [run_append_of_run hrun]
  rcases hq with rfl | rfl <;> decide

end Scan

open Scan

variable {indent : String}

/-- A line of a comment leaves it open. -/
theorem run_commentLine (hindent : ∀ c ∈ indent.toList, c = ' ') (line : String) :
    remark.run (commentLine indent line).toList = some ([], .remark) := by
  have hstar : '*' ∉ indent.toList := fun h => absurd (hindent _ h) (by decide)
  obtain ⟨cs, hline, hopen⟩ := exists_commentLine hstar line
  rw [hline]
  exact run_remark_line hopen

/-- A comment holds no tokens. -/
theorem run_comment (hindent : ∀ c ∈ indent.toList, c = ' ') (lines : List String) :
    nothing.run (comment indent lines).toList = some ([], .nothing) := by
  have hlines : remark.run (String.join (lines.map (commentLine indent))).toList =
      some ([], .remark) := by
    induction lines with
    | nil => rfl
    | cons line lines ih =>
        rw [List.map_cons, String.join_cons, String.toList_append,
          run_append_of_run (run_commentLine hindent line), ih]
  have hstart : nothing.run "/**\n".toList = some ([], .remark) := by decide
  have hend : remark.run " */\n".toList = some ([], .nothing) := by decide
  simp only [comment, String.toList_append]
  rw [List.append_assoc, List.append_assoc, List.append_assoc,
    run_append_of_run (run_blanks (by decide) hindent), run_append_of_run hstart,
    run_append_of_run hlines, run_append_of_run (run_blanks (by decide) hindent), hend]

/-- What documents a property holds no tokens. -/
theorem run_documentation (hindent : ∀ c ∈ indent.toList, c = ' ') (description : String)
    (deprecated : Bool) :
    nothing.run (documentation indent description deprecated).toList = some ([], .nothing) := by
  have hall : ∀ lines : List String, nothing.run
      (if lines.isEmpty then "" else comment indent lines).toList = some ([], .nothing) := by
    intro lines
    split
    · rfl
    · exact run_comment hindent lines
  exact hall _

end TypedClient.TypeScript
