import TypedClient.Proofs.Naming.Alphabet

/-!
# Tokens of type expressions

A type expression is read in two steps, and this is the first: its characters make up words, texts
between quotes, and marks of one character. Blanks and comments stand between tokens and are no
part of any. The characters are taken one by one, so the tokens of a text that is put together
from parts are those of the parts, as `tokens?_append` and `tokens?_closed` say, as long as no
word is cut in two.
-/

namespace TypedClient.TypeScript

/-- The smallest part of a type expression. -/
inductive Token where
  /-- A name, a keyword or a number. -/
  | word (written : String)
  /-- A text with its quotes, as it is written. -/
  | text (written : String)
  /-- A character that means something by itself. -/
  | mark (c : Char)
deriving DecidableEq, Repr

/-- Whether a character is part of a word. -/
def isWordPart (c : Char) : Bool :=
  Naming.isNameChar c || c = '$' || c = '.' || c = '+' || c = '-'

/-- The characters that mean something by themselves. -/
def marks : List Char :=
  ['(', ')', '[', ']', '\x7b', '\x7d', '<', '>', '|', '&', ',', ';', ':', '?']

/-- What the characters so far leave unfinished. -/
inductive Scan where
  | nothing
  | word (seen : List Char)
  | text (quote : Char) (seen : List Char)
  /-- A text behind a backslash. -/
  | escape (quote : Char) (seen : List Char)
  /-- A slash that has to start a comment. -/
  | slash
  /-- A comment. -/
  | remark
  /-- A comment behind a star. -/
  | star
deriving DecidableEq

namespace Scan

/-- The first character of something. -/
def first (c : Char) : Option (List Token × Scan) :=
  if c = ' ' || c = '\n' || c = '\t' || c = '\r' then some ([], .nothing)
  else if isWordPart c then some ([], .word [c])
  else if c = '\x27' || c = '"' then some ([], .text c [c])
  else if c = '/' then some ([], .slash)
  else if marks.contains c then some ([.mark c], .nothing)
  else none

/-- One more character, with the tokens that it finishes. -/
def step : Scan → Char → Option (List Token × Scan)
  | nothing, c => first c
  | word seen, c =>
      if isWordPart c then some ([], .word (seen ++ [c]))
      else (first c).map (fun r => (.word (String.ofList seen) :: r.1, r.2))
  | text quote seen, c =>
      if c = quote then some ([.text (String.ofList (seen ++ [c]))], .nothing)
      else if c = '\\' then some ([], .escape quote (seen ++ [c]))
      else if c = '\n' || c = '\r' then none
      else some ([], .text quote (seen ++ [c]))
  | escape quote seen, c =>
      if c = '\n' || c = '\r' then none else some ([], .text quote (seen ++ [c]))
  | slash, c => if c = '*' then some ([], .remark) else none
  | remark, c => some ([], if c = '*' then .star else .remark)
  | star, c => some ([], if c = '/' then .nothing else if c = '*' then .star else .remark)

/-- The tokens of characters, with what they leave unfinished. -/
def run : Scan → List Char → Option (List Token × Scan)
  | q, [] => some ([], q)
  | q, c :: cs => (step q c).bind (fun r => (run r.2 cs).map (fun r' => (r.1 ++ r'.1, r'.2)))

/-- The last token; only a word may be left unfinished. -/
def rest? : Scan → Option (List Token)
  | nothing => some []
  | word seen => some [.word (String.ofList seen)]
  | _ => none

end Scan

/-- The tokens of characters, if that is what they make up. -/
def tokensFrom (q : Scan) (cs : List Char) : Option (List Token) :=
  (q.run cs).bind (fun r => r.2.rest?.map (fun ts => r.1 ++ ts))

/-- The tokens of a text. -/
def tokens? (s : String) : Option (List Token) :=
  tokensFrom .nothing s.toList

namespace Scan

theorem run_append (q : Scan) (cs ds : List Char) :
    q.run (cs ++ ds) = (q.run cs).bind (fun r => (r.2.run ds).map (fun r' =>
      (r.1 ++ r'.1, r'.2))) := by
  induction cs generalizing q with
  | nil => simp [run]
  | cons c cs ih =>
      rw [List.cons_append, run, run]
      cases q.step c with
      | none => rfl
      | some r =>
          rw [Option.bind_some, Option.bind_some, ih]
          cases r.2.run cs with
          | none => rfl
          | some r' => simp [Option.map_map, Function.comp_def]

/-- Characters that finish no token and leave something unfinished. -/
theorem run_append_of_run {q q' : Scan} {cs : List Char} (h : q.run cs = some ([], q'))
    (ds : List Char) : q.run (cs ++ ds) = q'.run ds := by
  rw [run_append, h]
  simp

/-- A character that is no part of a word finishes the word in front of it. -/
theorem tokensFrom_of_rest? {q : Scan} {ts : List Token} (h : q.rest? = some ts) {c : Char}
    (hc : isWordPart c = false) (cs : List Char) :
    tokensFrom q (c :: cs) = (tokensFrom .nothing (c :: cs)).map (ts ++ ·) := by
  cases q with
  | nothing =>
      cases h
      simp
  | word seen =>
      cases h
      simp only [tokensFrom, run, step, hc, Bool.false_eq_true, if_false]
      cases first c with
      | none => rfl
      | some r =>
          simp only [Option.map_some, Option.bind_some]
          cases r.2.run cs with
          | none => rfl
          | some r' => simp [Option.map_map, Function.comp_def]
  | _ => cases h

end Scan

/-- A text continues where its first part stops, when no word goes on there. -/
theorem tokens?_append {s t : String} {ts us : List Token} (hs : tokens? s = some ts)
    (ht : tokens? t = some us) (hword : ∀ c ∈ t.toList.head?, isWordPart c = false) :
    tokens? (s ++ t) = some (ts ++ us) := by
  obtain ⟨⟨finished, q⟩, hrun, hs⟩ := Option.bind_eq_some_iff.1 hs
  obtain ⟨last, hlast, rfl⟩ := Option.map_eq_some_iff.1 hs
  rw [tokens?, String.toList_append]
  rw [tokens?] at ht
  have hsplit : tokensFrom .nothing (s.toList ++ t.toList) =
      (tokensFrom q t.toList).map (finished ++ ·) := by
    rw [tokensFrom, Scan.run_append, hrun, Option.bind_some, tokensFrom]
    cases q.run t.toList with
    | none => rfl
    | some r => simp [Option.map_map, Function.comp_def]
  rw [hsplit]
  cases hlist : t.toList with
  | nil =>
      rw [hlist] at ht
      cases ht
      simp [tokensFrom, Scan.run, hlast]
  | cons c cs =>
      rw [hlist] at ht hword
      rw [Scan.tokensFrom_of_rest? hlast (hword c rfl), ht]
      simp

/-- What leaves nothing unfinished may be followed by anything. -/
theorem tokens?_closed {s t : String} {ts us : List Token}
    (hs : Scan.nothing.run s.toList = some (ts, .nothing)) (ht : tokens? t = some us) :
    tokens? (s ++ t) = some (ts ++ us) := by
  rw [tokens?, tokensFrom] at ht
  rw [tokens?, tokensFrom, String.toList_append, Scan.run_append, hs, Option.bind_some]
  cases hrun : Scan.nothing.run t.toList with
  | none =>
      rw [hrun] at ht
      cases ht
  | some r =>
      rw [hrun, Option.bind_some] at ht
      obtain ⟨last, hlast, rfl⟩ := Option.map_eq_some_iff.1 ht
      simp [hlast]

/-- The tokens of a text that leaves nothing unfinished. -/
theorem tokens?_of_run {s : String} {ts : List Token}
    (h : Scan.nothing.run s.toList = some (ts, .nothing)) : tokens? s = some ts := by
  rw [tokens?, tokensFrom, h]
  simp [Scan.rest?]

namespace Scan

/-- The characters of a word are taken together. -/
theorem run_word (seen cs : List Char) (h : ∀ c ∈ cs, isWordPart c = true) :
    (word seen).run cs = some ([], .word (seen ++ cs)) := by
  induction cs generalizing seen with
  | nil => simp [run]
  | cons c cs ih =>
      rw [run, step, if_pos (h c List.mem_cons_self), Option.bind_some,
        ih _ (fun d hd => h d (List.mem_cons_of_mem c hd))]
      simp

theorem first_of_isWordPart {c : Char} (h : isWordPart c = true) :
    first c = some ([], .word [c]) := by
  have hblank : (c = ' ' || c = '\n' || c = '\t' || c = '\r') = false := by
    rw [Bool.eq_false_iff]
    intro hmem
    simp only [Bool.or_eq_true, decide_eq_true_eq] at hmem
    rcases hmem with ((rfl | rfl) | rfl) | rfl <;> exact absurd h (by decide)
  simp [first, hblank, h]

end Scan

/-- Whether a text is a word. -/
def isWord (s : String) : Bool :=
  !s.toList.isEmpty && s.toList.all isWordPart

theorem tokens?_word {s : String} (h : isWord s = true) : tokens? s = some [.word s] := by
  simp only [isWord, Bool.and_eq_true, Bool.not_eq_true', List.all_eq_true] at h
  cases hlist : s.toList with
  | nil => simp [hlist] at h
  | cons c cs =>
      rw [hlist] at h
      have hrun : Scan.nothing.run (c :: cs) = some ([], .word (c :: cs)) := by
        rw [Scan.run, Scan.step, Scan.first_of_isWordPart (h.2 c List.mem_cons_self),
          Option.bind_some, Scan.run_word _ _ (fun d hd => h.2 d (List.mem_cons_of_mem c hd))]
        rfl
      rw [tokens?, tokensFrom, hlist, hrun]
      simp [Scan.rest?, ← hlist]

/-- A text that separates what stands around it, with the tokens that it is. -/
def Delimits (d : String) (ts : List Token) : Prop :=
  Scan.nothing.run d.toList = some (ts, .nothing) ∧
    d.toList.head?.any (fun c => !isWordPart c) = true

instance (d : String) (ts : List Token) : Decidable (Delimits d ts) :=
  inferInstanceAs (Decidable (_ ∧ _))

/-- The tokens of two texts with a delimiter between them. -/
theorem tokens?_delimited {s d t : String} {ts us vs : List Token} (hs : tokens? s = some ts)
    (hd : Delimits d us) (ht : tokens? t = some vs) :
    tokens? (s ++ (d ++ t)) = some (ts ++ (us ++ vs)) := by
  refine tokens?_append hs (tokens?_closed hd.1 ht) ?_
  obtain ⟨-, hhead⟩ := hd
  rw [String.toList_append]
  cases hlist : d.toList with
  | nil => simp [hlist] at hhead
  | cons c cs => simpa [hlist] using hhead

/-- The tokens of a text in front of a delimiter. -/
theorem tokens?_ended {s d : String} {ts us : List Token} (hs : tokens? s = some ts)
    (hd : Delimits d us) : tokens? (s ++ d) = some (ts ++ us) := by
  have hempty : tokens? "" = some [] := rfl
  have hall := tokens?_delimited hs hd hempty
  rwa [String.append_empty, List.append_nil] at hall

/-- The tokens of a text satisfy `P`. -/
def Spells (s : String) (P : List Token → Prop) : Prop :=
  ∃ ts, tokens? s = some ts ∧ P ts

/-- The tokens of texts with a delimiter between them. `P` relates the tokens of one text to what
it is, and `Q` those of several. -/
theorem spells_intercalate {α : Type} {d : String} {c : Char} (hd : Delimits d [.mark c])
    {P : List Token → α → Prop} {Q : List Token → List α → Prop}
    (hone : ∀ {ts a}, P ts a → Q ts [a])
    (hcons : ∀ {ts us a as}, P ts a → Q us as → Q (ts ++ .mark c :: us) (a :: as))
    {texts : List String} {as : List α} (h : List.Forall₂ (fun s a => Spells s (P · a)) texts as)
    (hne : texts ≠ []) : Spells (d.intercalate texts) (Q · as) := by
  induction h with
  | nil => exact absurd rfl hne
  | @cons s a texts as hs hrest ih =>
      obtain ⟨ts, hts, ha⟩ := hs
      cases texts with
      | nil =>
          cases hrest
          rw [String.intercalate_singleton]
          exact ⟨ts, hts, hone ha⟩
      | cons t texts =>
          obtain ⟨us, hus, has⟩ := ih (List.cons_ne_nil t texts)
          rw [String.intercalate_cons_cons, String.append_assoc]
          exact ⟨_, tokens?_delimited hts hd hus, hcons ha has⟩

end TypedClient.TypeScript
