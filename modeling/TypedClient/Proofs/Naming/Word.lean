import TypedClient.Draft.Naming
import TypedClient.Proofs.Naming.Namespace
import TypedClient.Proofs.Unicode.Case

/-!
# What names are made of

Words hold nothing but letters and digits, and the first word of a name starts with a letter. So
what is to be shown of the characters of a name needs to be shown of letters, digits and their
title case forms only. `Alphabet` says what is to be shown; from it follow the looks of a text in
`PascalCase`, of the name that a model or a service asks for, and of a name with a number.
-/

namespace TypedClient.Naming

/-- Words hold nothing but the characters of words. -/
theorem isWordChar_of_mem_words {s w : List Char} {c : Char} (hw : w ∈ words s) (hc : c ∈ w) :
    isWordChar c = true := by
  fun_induction words s generalizing w with
  | case1 => exact absurd hw List.not_mem_nil
  | case2 d hd =>
      obtain rfl := List.mem_singleton.1 hw
      rw [List.mem_singleton.1 hc]
      exact hd
  | case3 d hd e tail _ hwords _ =>
      rw [hwords] at hw
      obtain rfl := List.mem_singleton.1 hw
      rw [List.mem_singleton.1 hc]
      exact hd
  | case4 d hd e tail _ v ws hwords ih =>
      rw [hwords] at hw
      rcases List.mem_cons.1 hw with rfl | hw
      · rcases List.mem_cons.1 hc with rfl | hc
        · exact hd
        · exact ih (hwords ▸ List.mem_cons_self) hc
      · exact ih (hwords ▸ List.mem_cons_of_mem v hw) hc
  | case5 d hd e tail _ ih =>
      rcases List.mem_cons.1 hw with rfl | hw
      · rw [List.mem_singleton.1 hc]
        exact hd
      · exact ih hw hc
  | case6 d tail _ ih => exact ih hw hc

/-- A text that starts with a character of a word starts with a word. -/
theorem words_cons {c : Char} (rest : List Char) (h : isWordChar c = true) :
    ∃ w ws, words (c :: rest) = (c :: w) :: ws := by
  unfold words
  rw [if_pos h]
  split
  · exact ⟨[], [], rfl⟩
  · split
    · split
      · exact ⟨[], [], rfl⟩
      case h_2 w ws _ => exact ⟨w, ws, rfl⟩
    · exact ⟨[], _, rfl⟩

variable {P : Char → Prop}

/-- A property of the characters of words and of their title case forms is one of the characters
of names. -/
theorem forall_mem_pascalChars (htitle : ∀ d, isWordChar d = true → ∀ c ∈ Unicode.title d, P c)
    (hword : ∀ c, isWordChar c = true → P c) (s : List Char) : ∀ c ∈ pascalChars s, P c := by
  intro c hc
  obtain ⟨w, hw, hc⟩ := List.mem_flatten.1 hc
  obtain ⟨v, hv, rfl⟩ := List.mem_map.1 hw
  cases v with
  | nil => exact absurd hc List.not_mem_nil
  | cons d v =>
      rcases List.mem_append.1 hc with hc | hc
      · exact htitle d (isWordChar_of_mem_words hv List.mem_cons_self) c hc
      · exact hword c (isWordChar_of_mem_words hv (List.mem_cons_of_mem d hc))

/-- A name starts with the title case form of a letter. -/
theorem head_pascalChars
    (h : ∀ d, Unicode.isLetter d = true → ∃ c rest, Unicode.title d = c :: rest ∧ P c)
    {s : List Char} {c : Char} {rest : List Char} (hs : pascalChars s = c :: rest) : P c := by
  rw [pascalChars] at hs
  cases hletters : s.dropWhile (fun c => !Unicode.isLetter c) with
  | nil =>
      rw [hletters] at hs
      exact absurd hs (by simp [words])
  | cons d tail =>
      have hletter : Unicode.isLetter d = true := by
        have hhead := List.head?_dropWhile_not (fun c => !Unicode.isLetter c) s
        simpa [hletters] using hhead
      have hword : isWordChar d = true := by rw [isWordChar, hletter, Bool.true_or]
      obtain ⟨w, ws, hwords⟩ := words_cons tail hword
      obtain ⟨e, more, htitle, he⟩ := h d hletter
      rw [hletters, hwords, List.map_cons, List.flatten_cons, capitalize, htitle,
        List.cons_append, List.cons_append] at hs
      exact (List.cons.inj hs).1 ▸ he

/-- Whether a text starts with a character that passes one test and goes on with characters that
pass another one. -/
def isShaped (start rest : Char → Bool) (name : String) : Bool :=
  match name.toList with
  | [] => false
  | c :: tail => start c && tail.all rest

variable {start rest : Char → Bool} {base name more : String}

theorem isShaped_iff :
    isShaped start rest name = true ↔
      ∃ c tail, name.toList = c :: tail ∧ start c = true ∧ ∀ d ∈ tail, rest d = true := by
  unfold isShaped
  cases name.toList with
  | nil => simp
  | cons c tail => simp

/-- A shaped text keeps its shape when characters that may stand in it are added. -/
theorem isShaped_append (h : isShaped start rest name = true)
    (hmore : ∀ c ∈ more.toList, rest c = true) : isShaped start rest (name ++ more) = true := by
  obtain ⟨c, tail, hname, hstart, htail⟩ := isShaped_iff.1 h
  refine isShaped_iff.2 ⟨c, tail ++ more.toList, ?_, hstart, ?_⟩
  · rw [String.toList_append, hname, List.cons_append]
  · exact fun d hd => (List.mem_append.1 hd).elim (htail d) (hmore d)

/-- A number keeps the shape of a name that digits may stand in. -/
theorem NumberedFrom.isShaped (h : NumberedFrom base name)
    (hdigit : ∀ c : Char, c.isDigit = true → rest c = true)
    (hbase : isShaped start rest base = true) : Naming.isShaped start rest name = true := by
  obtain ⟨more, rfl, hmore⟩ := h.exists_digits
  exact isShaped_append hbase (fun c hc => hdigit c (hmore c hc))

/-- An identifier is not empty, and each of its characters may stand behind the first one. -/
theorem exists_of_isIdentifier (h : isIdentifier name = true) :
    ∃ c tail, name.toList = c :: tail ∧ ∀ d ∈ c :: tail, isIdentifierRest d = true := by
  obtain ⟨c, tail, hname, hstart, htail⟩ :=
    isShaped_iff.1 (show isShaped isIdentifierStart isIdentifierRest name = true from h)
  refine ⟨c, tail, hname, List.forall_mem_cons.2 ⟨?_, htail⟩⟩
  simp only [isIdentifierStart, isIdentifierRest, Char.isAlphanum, Bool.or_eq_true] at hstart ⊢
  exact hstart.imp_left (.imp_left .inl)

/-- What two tests on characters need so that the names of types have the shape that they give. -/
structure Alphabet (start rest : Char → Bool) : Prop where
  head : ∀ c, Unicode.isLetter c = true → ∃ d tail, Unicode.title c = d :: tail ∧ start d = true
  title : ∀ c, isWordChar c = true → ∀ d ∈ Unicode.title c, rest d = true
  word : ∀ c, isWordChar c = true → rest c = true
  underscore : rest '_' = true

namespace Alphabet

/-- A text of the description gives a shaped name or nothing. -/
theorem isShaped_pascal (h : Alphabet start rest) {s : String} (hs : pascal s ≠ "") :
    isShaped start rest (pascal s) = true := by
  cases hsplit : pascalChars s.toList with
  | nil => exact absurd (by rw [pascal, hsplit]) hs
  | cons c tail =>
      refine isShaped_iff.2 ⟨c, tail, ?_, ?_, ?_⟩
      · rw [pascal, String.toList_ofList, hsplit]
      · exact head_pascalChars (P := fun c => start c = true) h.head hsplit
      · have hall := forall_mem_pascalChars (P := fun c => rest c = true) h.title h.word s.toList
        rw [hsplit] at hall
        exact fun d hd => hall d (List.mem_cons_of_mem c hd)

/-- An underscore behind a reserved word keeps the shape. -/
theorem isShaped_escapeReserved (h : Alphabet start rest)
    (hname : isShaped start rest name = true) :
    isShaped start rest (escapeReserved name) = true := by
  unfold escapeReserved
  split
  · refine isShaped_append hname (fun c hc => ?_)
    obtain rfl : c = '_' := List.mem_singleton.1 hc
    exact h.underscore
  · exact hname

/-- A name that is asked for has the shape of what it is taken from, or is the fallback. -/
theorem isShaped_orElse (h : Alphabet start rest) {fallback : String}
    (hname : name ≠ "" → isShaped start rest name = true)
    (hfallback : isShaped start rest fallback = true) :
    isShaped start rest (orElse (escapeReserved name) fallback) = true := by
  unfold orElse
  split
  case isTrue => exact hfallback
  case isFalse hne =>
    refine h.isShaped_escapeReserved (hname ?_)
    rintro rfl
    exact hne (by decide)

/-- The name that a model or a service asks for is shaped. -/
theorem isShaped_typeBase (h : Alphabet start rest) {fallback : String} (sourceName : String)
    (hfallback : isShaped start rest fallback = true) :
    isShaped start rest (typeBase sourceName fallback) = true :=
  h.isShaped_orElse h.isShaped_pascal hfallback

end Alphabet

end TypedClient.Naming
