import TypedClient.Proofs.TypeScript.StringLiteral

/-!
# The values of template literals

A text between backticks is cooked by the rules of ECMAScript: its escapes are those of a string
literal, but ends of lines may stand in it as they are, a carriage return is read as a line feed,
together with a line feed behind it, and a brace behind a dollar sign would start a substitution.
`templateValue?_template` says that the line feeds are all that happens to the text.
-/

namespace TypedClient.TypeScript

/-- What the characters of a template literal leave unfinished. -/
inductive Cooking where
  | inside
  /-- A dollar sign. -/
  | dollar
  /-- A carriage return, which a line feed behind it belongs to. -/
  | carriage
  /-- An escape, which is read as in a string literal. -/
  | escape (r : Reading)
  | ended
deriving DecidableEq

namespace Cooking

/-- A character that nothing in front of it waits for. -/
def cook (c : Char) : List Nat × Cooking :=
  if c = '\x60' then ([], ended)
  else if c = '\\' then ([], escape .escaped)
  else if c = '\r' then ([10], carriage)
  else (codeUnits c.toNat, if c = '$' then dollar else inside)

/-- Where an escape leads. -/
def behind : Reading → Cooking
  | .inside => inside
  | r => escape r

/-- One more character, with the code units that it finishes. -/
def step : Cooking → Char → Option (List Nat × Cooking)
  | inside, c => some (cook c)
  | dollar, c => if c = '\x7b' then none else some (cook c)
  | carriage, c => if c = '\n' then some ([], inside) else some (cook c)
  | escape .zero, c => if c.isDigit then none else some (cook c)
  | escape .carriage, c => if c = '\n' then some ([], inside) else some (cook c)
  | escape r, c => (Reading.step '\x60' r c).map (fun p => (p.1, behind p.2))
  | ended, _ => none

end Cooking

/-- The value of a template literal without substitutions. -/
def templateValue? (written : String) : Option (List Nat) :=
  match written.toList with
  | [] => none
  | quote :: cs =>
      if quote = '\x60' then
        match transduce Cooking.step .inside cs with
        | some (us, .ended) => some us
        | _ => none
      else none

/-- Characters with a line feed for each carriage return, alone or with its line feed. -/
def lineFeeds : List Char → List Char
  | [] => []
  | '\r' :: '\n' :: rest => '\n' :: lineFeeds rest
  | c :: rest => (if c = '\r' then '\n' else c) :: lineFeeds rest

/-- Characters without a line feed in front. -/
def dropLineFeed : List Char → List Char
  | '\n' :: rest => rest
  | cs => cs

theorem dropLineFeed_of_ne {c : Char} (h : c ≠ '\n') (cs : List Char) :
    dropLineFeed (c :: cs) = c :: cs := by
  rw [dropLineFeed]
  exact fun rest heq => h (List.cons.inj heq).1

theorem lineFeeds_carriage (cs : List Char) :
    lineFeeds ('\r' :: cs) = '\n' :: lineFeeds (dropLineFeed cs) := by
  unfold dropLineFeed
  split
  · rw [lineFeeds]
  · rename_i hne
    rw [lineFeeds, if_pos rfl]
    exact fun rest _ heq => hne rest heq

theorem lineFeeds_of_ne {c : Char} (h : c ≠ '\r') (cs : List Char) :
    lineFeeds (c :: cs) = c :: lineFeeds cs := by
  rw [lineFeeds, if_neg h]
  exact fun rest heq _ => h heq

namespace Cooking

/-- Where no escape is left unfinished in front of characters: a dollar sign must not have a brace
behind it. -/
inductive Free : Cooking → List Char → Prop where
  | inside {cs} : Free inside cs
  | dollar {cs} : cs.head? ≠ some '\x7b' → Free dollar cs
  | carriage {cs} : Free carriage cs

/-- The characters that are left to be read: a line feed behind a carriage return was read with
it. -/
def left : Cooking → List Char → List Char
  | carriage, cs => dropLineFeed cs
  | _, cs => cs

variable {q : Cooking} {c : Char} {cs : List Char}

/-- A character that was not read with one in front of it is cooked. -/
theorem Free.step_eq (h : Free q (c :: cs)) (hline : q = .carriage → c ≠ '\n') :
    q.step c = some (cook c) := by
  cases h with
  | inside => rfl
  | dollar hbrace => exact if_neg (fun heq => hbrace (by rw [heq]; rfl))
  | carriage => exact if_neg (hline rfl)

theorem Free.step_backslash (h : Free q cs) : q.step '\\' = some ([], escape .escaped) := by
  cases h with
  | inside | dollar | carriage => decide

theorem left_of_ne (hline : q = .carriage → c ≠ '\n') : q.left (c :: cs) = c :: cs := by
  cases q with
  | carriage => exact dropLineFeed_of_ne (hline rfl) cs
  | _ => rfl

theorem templateChars_cons (h : c = '$' → cs.head? ≠ some '\x7b') :
    templateChars (c :: cs) =
      (if c = '\\' || c = '\x60' then ['\\', c] else [c]) ++ templateChars cs := by
  rw [templateChars]
  · split <;> rfl
  · rintro rest rfl rfl
    exact h rfl rfl

/-- The first characters of a text between backticks, as they are written and as they are read: what
is written for them leads from `q` to `next`, where `rest` is to come. -/
structure Group (q : Cooking) (cs : List Char) (next : Cooking) (rest : List Char) : Prop where
  shorter : rest.length < cs.length
  free : Free next rest
  read : ∃ written us, templateChars cs = written ++ templateChars rest ∧
    transduce step q written = some (us, next) ∧
    unitsOf (lineFeeds (q.left cs)) = us ++ unitsOf (lineFeeds (next.left rest))

/-- A dollar sign that would start a substitution is escaped, and the brace is read behind it. -/
theorem group_substitution (h : Free q ('$' :: '\x7b' :: cs)) :
    Group q ('$' :: '\x7b' :: cs) inside cs := by
  have hescaped : transduce step (escape .escaped) ['$', '\x7b'] = some ([36, 123], inside) := by
    decide
  refine ⟨by simp only [List.length_cons]; omega, .inside,
    ['\\', '$', '\x7b'], [36, 123], by rw [templateChars]; rfl, ?_, ?_⟩
  · rw [transduce_cons h.step_backslash, hescaped]
  · rw [left_of_ne (fun _ => by decide), lineFeeds_of_ne (by decide), lineFeeds_of_ne (by decide)]
    rfl

/-- A backslash or a backtick is escaped. -/
theorem group_escaped (h : Free q (c :: cs)) (hc : c = '\\' ∨ c = '\x60') :
    Group q (c :: cs) inside cs := by
  have hkept : transduce step (escape .escaped) [c] = some (unitsOf [c], inside) ∧
      c ≠ '\n' ∧ c ≠ '\r' ∧ c ≠ '$' := by
    rcases hc with rfl | rfl <;> decide
  obtain ⟨hescaped, hline, hreturn, hdollar⟩ := hkept
  refine ⟨by simp, .inside, ['\\', c], unitsOf [c], ?_, ?_, ?_⟩
  · rw [templateChars_cons (fun heq => absurd heq hdollar), if_pos (by simpa using hc)]
  · rw [transduce_cons h.step_backslash, hescaped]
  · rw [left_of_ne (fun _ => hline), lineFeeds_of_ne hreturn]
    exact unitsOf_append [c] _

/-- Where a character leads that is cooked, and what it adds to what is read. -/
theorem exists_cook (hslash : c ≠ '\\') (hquote : c ≠ '\x60')
    (hdollar : c = '$' → cs.head? ≠ some '\x7b') :
    ∃ us next, cook c = (us, next) ∧ Free next cs ∧
      unitsOf (lineFeeds (c :: cs)) = us ++ unitsOf (lineFeeds (next.left cs)) := by
  by_cases hreturn : c = '\r'
  · subst hreturn
    exact ⟨[10], .carriage, rfl, .carriage, by rw [lineFeeds_carriage]; rfl⟩
  · have hcook : cook c = (codeUnits c.toNat, if c = '$' then .dollar else inside) := by
      rw [cook, if_neg hquote, if_neg hslash, if_neg hreturn]
    have hunits : unitsOf (lineFeeds (c :: cs)) = codeUnits c.toNat ++ unitsOf (lineFeeds cs) := by
      rw [lineFeeds_of_ne hreturn]
      rfl
    split at hcook
    case isTrue heq => exact ⟨_, _, hcook, .dollar (hdollar heq), hunits⟩
    case isFalse => exact ⟨_, _, hcook, .inside, hunits⟩

/-- Any other character stands for itself, except that a carriage return is read as a line feed,
and so is the line feed behind it. -/
theorem exists_group_plain (h : Free q (c :: cs)) (hslash : c ≠ '\\') (hquote : c ≠ '\x60')
    (hdollar : c = '$' → cs.head? ≠ some '\x7b') : ∃ next, Group q (c :: cs) next cs := by
  have hwritten : templateChars (c :: cs) = [c] ++ templateChars cs := by
    rw [templateChars_cons hdollar, if_neg (by simp [hslash, hquote])]
  have hshorter : cs.length < (c :: cs).length := by simp
  have hone : ∀ {us next}, q.step c = some (us, next) →
      transduce step q [c] = some (us, next) := by
    intro us next hstep
    rw [transduce, hstep]
    simp [transduce]
  by_cases hread : q = .carriage ∧ c = '\n'
  · obtain ⟨rfl, rfl⟩ := hread
    exact ⟨inside, hshorter, .inside, ['\n'], [], hwritten, hone rfl, rfl⟩
  · have hline : q = .carriage → c ≠ '\n' := fun hq hc => hread ⟨hq, hc⟩
    obtain ⟨us, next, hcook, hfree, hunits⟩ := exists_cook hslash hquote hdollar
    refine ⟨next, hshorter, hfree, [c], us, hwritten, hone ?_, ?_⟩
    · rw [h.step_eq hline, hcook]
    · rw [left_of_ne hline, hunits]

theorem exists_group (h : Free q (c :: cs)) : ∃ next rest, Group q (c :: cs) next rest := by
  by_cases hescaped : c = '\\' ∨ c = '\x60'
  · exact ⟨_, _, group_escaped h hescaped⟩
  by_cases hdollar : c = '$' → cs.head? ≠ some '\x7b'
  · obtain ⟨hslash, hquote⟩ := not_or.1 hescaped
    obtain ⟨next, hnext⟩ := exists_group_plain h hslash hquote hdollar
    exact ⟨next, cs, hnext⟩
  · simp only [not_forall, not_not] at hdollar
    obtain ⟨rfl, hbrace⟩ := hdollar
    obtain ⟨rest, rfl⟩ := List.head?_eq_some_iff.1 hbrace
    exact ⟨_, _, group_substitution h⟩

/-- What is written for characters between backticks is read as those characters with line feeds
for their carriage returns. -/
theorem exists_transduce_templateChars (h : Free q cs) :
    ∃ last, Free last [] ∧ transduce step q (templateChars cs) =
      some (unitsOf (lineFeeds (q.left cs)), last) := by
  induction hn : cs.length using Nat.strong_induction_on generalizing q cs with
  | _ n ih =>
      subst hn
      cases cs with
      | nil => exact ⟨q, h, by cases h <;> rfl⟩
      | cons c cs =>
          obtain ⟨next, rest, hshorter, hfree, written, us, hwritten, hread, hunits⟩ :=
            exists_group h
          obtain ⟨last, hlast, hrest⟩ := ih _ hshorter hfree rfl
          refine ⟨last, hlast, ?_⟩
          rw [hwritten, transduce_append hread, hrest, hunits]
          rfl

end Cooking

/-- The value of a text between backticks is the text with line feeds for its carriage returns. -/
theorem templateValue?_template (s : String) :
    templateValue? (template s) = some (unitsOf (lineFeeds s.toList)) := by
  have hstart : Cooking.Free .inside s.toList := .inside
  obtain ⟨q, hq, hread⟩ := Cooking.exists_transduce_templateChars hstart
  have hend : transduce Cooking.step .inside (templateChars s.toList ++ ['\x60']) =
      some (unitsOf (lineFeeds s.toList), .ended) := by
    have hquote : q.step '\x60' = some ([], .ended) := by
      cases hq with
      | inside | dollar | carriage => decide
    rw [transduce_append hread, transduce_cons hquote]
    simp [transduce, Cooking.left]
  rw [templateValue?, template, String.toList_ofList]
  simp only [List.cons_append, if_pos, hend]

end TypedClient.TypeScript
