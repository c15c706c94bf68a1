import TypedClient.Proofs.Number.Layout
import TypedClient.Proofs.Text.Quoted
import TypedClient.Proofs.TypeScript.Token
import TypedClient.TypeScript.Literal

/-!
# Literals are tokens

Each of the three ways to put a text between quotes gives one token, since what it writes for a
character keeps the text open. A number is one word, and so is a property name that needs no
quotes.
-/

namespace TypedClient.TypeScript

namespace Scan

/-- Whether a character stands for itself inside a text. -/
def isPlain (quote c : Char) : Bool :=
  c ≠ quote && c ≠ '\\' && c ≠ '\n' && c ≠ '\r'

/-- Whether characters keep a text open. -/
def Stays (quote : Char) (cs : List Char) : Prop :=
  ∀ seen, (text quote seen).run cs = some ([], .text quote (seen ++ cs))

variable {quote : Char} {cs ds : List Char}

theorem stays_nil : Stays quote [] := fun seen => by simp [run]

theorem Stays.append (hcs : Stays quote cs) (hds : Stays quote ds) : Stays quote (cs ++ ds) := by
  intro seen
  rw [run_append_of_run (hcs seen), hds, List.append_assoc]

theorem stays_plain (h : ∀ c ∈ cs, isPlain quote c = true) : Stays quote cs := by
  induction cs with
  | nil => exact stays_nil
  | cons c cs ih =>
      rw [List.forall_mem_cons] at h
      have hplain := h.1
      simp only [isPlain, Bool.and_eq_true, decide_eq_true_eq] at hplain
      have hfirst : Stays quote [c] := fun seen => by simp [run, step, hplain]
      exact hfirst.append (ih h.2)

/-- A backslash keeps a text open, whatever character comes behind it on the line. -/
theorem stays_escape {c : Char} (hquote : quote ≠ '\\') (hc : c ≠ '\n' ∧ c ≠ '\r')
    (hcs : ∀ c ∈ cs, isPlain quote c = true) : Stays quote ('\\' :: c :: cs) := by
  have hfirst : Stays quote ['\\', c] := fun seen => by simp [run, step, hquote.symm, hc]
  exact hfirst.append (stays_plain hcs)

theorem stays_flatMap {write : Char → List Char} (h : ∀ c, Stays quote (write c))
    (cs : List Char) : Stays quote (cs.flatMap write) := by
  induction cs with
  | nil => exact stays_nil
  | cons c cs ih => exact (h c).append ih

/-- What stays open between two quotes is one token. -/
theorem run_text (hquote : quote = '\x27' ∨ quote = '"') (h : Stays quote cs) :
    nothing.run (quote :: cs ++ [quote]) =
      some ([.text (String.ofList (quote :: cs ++ [quote]))], .nothing) := by
  have hfirst : first quote = some ([], .text quote [quote]) := by
    rcases hquote with rfl | rfl <;> decide
  have hbody : nothing.run (quote :: cs) = some ([], .text quote (quote :: cs)) := by
    rw [run, step, hfirst, Option.bind_some, h]
    rfl
  rw [run_append_of_run hbody]
  simp [run, step]

/-- A digit stands for itself inside a text. -/
theorem isPlain_digitChar {n : Nat} (h : n < 16) : isPlain '"' (Nat.digitChar n) = true := by
  have hall : ∀ k < 16, isPlain '"' (Nat.digitChar k) = true := by decide
  exact hall n h

theorem isPlain_of_mem_toDigits {n : Nat} {c : Char} (h : c ∈ Nat.toDigits 16 n) :
    isPlain '"' c = true := by
  induction n using Nat.strong_induction_on with
  | _ n ih =>
      rw [Nat.toDigits_eq_if (by decide)] at h
      split at h
      · rw [List.mem_singleton.1 h]
        exact isPlain_digitChar ‹_›
      · rcases List.mem_append.1 h with h | h
        · exact ih (n / 16) (by omega) h
        · rw [List.mem_singleton.1 h]
          exact isPlain_digitChar (Nat.mod_lt n (by decide))

theorem isPlain_of_mem_hex {width n : Nat} {c : Char} (h : c ∈ Text.Quoted.hex width n) :
    isPlain '"' c = true := by
  rcases List.mem_append.1 h with h | h
  · rw [List.eq_of_mem_replicate h]
    decide
  · exact isPlain_of_mem_toDigits h

/-- A printable character is plain between double quotes unless it has to be escaped. -/
theorem isPlain_of_isPrintable {c : Char} (hquote : c ≠ '"') (hslash : c ≠ '\\')
    (h : Unicode.isPrintable c = true) : isPlain '"' c = true := by
  -- neither end of a line is printable
  have hends : c ≠ '\n' ∧ c ≠ '\r' := by
    constructor <;> rintro rfl <;> exact absurd h (by decide)
  simp [isPlain, hquote, hslash, hends]

end Scan

open Scan

/-- A text between single quotes is one token. -/
theorem run_quoted (s : String) :
    nothing.run (quoted s).toList = some ([.text (quoted s)], .nothing) := by
  have hchar : ∀ c, Stays '\x27' (quotedChar c) := by
    intro c
    unfold quotedChar
    split_ifs
    case neg hslash hquote hline hreturn =>
      refine stays_plain (fun d hd => ?_)
      rw [List.mem_singleton.1 hd]
      simp [isPlain, hslash, hquote, hline, hreturn]
    all_goals exact stays_escape (by decide) (by decide) (by simp)
  rw [quoted, String.toList_ofList]
  exact run_text (.inl rfl) (stays_flatMap hchar _)

/-- A text of JSON is one token. -/
theorem run_jsonQuoted (markup : Bool) (s : String) :
    nothing.run (Json.quoted markup s).toList =
      some ([.text (Json.quoted markup s)], .nothing) := by
  have hchar : ∀ c, Stays '"' (Json.escapeChar markup c) := by
    intro c
    unfold Json.escapeChar
    split_ifs with hquote hslash _ _ hline hreturn
    case neg =>
      refine stays_plain (fun d hd => ?_)
      rw [List.mem_singleton.1 hd]
      simp [isPlain, hslash, hquote, hline, hreturn]
    on_goal 8 =>
      refine stays_escape (by decide) (by decide) (fun d hd => ?_)
      simp only [List.mem_cons, List.not_mem_nil, or_false] at hd
      rcases hd with rfl | rfl | rfl | rfl <;> exact isPlain_digitChar (Nat.mod_lt _ (by decide))
    all_goals exact stays_escape (by decide) (by decide) (by simp)
  rw [Json.quoted, String.toList_ofList]
  exact run_text (.inr rfl) (stays_flatMap hchar _)

/-- A text between double quotes is one token. -/
theorem run_quote (s : String) :
    nothing.run (Text.quote s).toList = some ([.text (Text.quote s)], .nothing) := by
  have hchar : ∀ c, Stays '"' (Text.Quoted.encodeChar c) := by
    intro c
    generalize hwritten : Text.Quoted.encodeChar c = written
    cases hwritten ▸ Text.Quoted.encoded_encodeChar c with
    | mark h => exact stays_escape (by decide) (by rcases h with rfl | rfl <;> decide) (by simp)
    | plain hquote hslash hprint =>
        exact stays_plain (List.forall_mem_singleton.2
          (isPlain_of_isPrintable hquote hslash hprint))
    | short hprint h =>
        have hends : ∀ p ∈ Text.Quoted.shortEscapes, p.2 ≠ '\n' ∧ p.2 ≠ '\r' := by decide
        exact stays_escape (by decide) (hends _ h) (by simp)
    | ascii | basic | beyond =>
        exact stays_escape (by decide) (by decide) (fun d hd => isPlain_of_mem_hex hd)
  rw [Text.quote, String.toList_ofList]
  exact run_text (.inr rfl) (stays_flatMap hchar _)

theorem isWordPart_of_isDigit {c : Char} (h : c.isDigit = true) : isWordPart c = true := by
  have hname := Naming.isNameChar_of_isAlphanum (c := c) (by simp [Char.isAlphanum, h])
  simp [isWordPart, hname]

/-- What starts with a part of a word and goes on with such parts is a word. -/
theorem isWord_of_toList {s : String} {c : Char} {cs : List Char} (hlist : s.toList = c :: cs)
    (h : ∀ d ∈ c :: cs, isWordPart d = true) : isWord s = true := by
  rw [isWord, hlist, Bool.and_eq_true]
  exact ⟨rfl, List.all_eq_true.2 h⟩

theorem isWord_nat (n : Nat) : isWord (toString n) = true := by
  obtain ⟨c, rest, hcons, hdigits⟩ := Layout.exists_cons_toDigits n
  have hlist : (toString n).toList = c :: rest := by
    rw [Nat.toString_eq_repr, Nat.toList_repr, hcons]
  exact isWord_of_toList hlist (fun d hd => isWordPart_of_isDigit (hdigits d hd))

theorem isWord_int (n : Int) : isWord (toString n) = true := by
  have hnat := isWord_nat
  simp only [Nat.toString_eq_repr] at hnat
  rw [Int.toString_eq_repr, Int.repr_eq_if]
  split
  · exact hnat _
  · have hdigits := hnat (-n).toNat
    simp only [isWord, Bool.and_eq_true, List.all_eq_true] at hdigits
    have hlist : ("-" ++ (-n).toNat.repr).toList = '-' :: (-n).toNat.repr.toList := by simp
    exact isWord_of_toList hlist (List.forall_mem_cons.2 ⟨by decide, hdigits.2⟩)

/-- The text of a decimal holds nothing that ends a word. -/
theorem isWordPart_of_mem_decimal {l : Layout} {d : Decimal} {c : Char} (h : c ∈ l.decimal d) :
    isWordPart c = true := by
  have hdigits : ∀ n, ∀ c ∈ Nat.toDigits 10 n, isWordPart c = true := fun n c hc =>
    isWordPart_of_isDigit (Nat.isDigit_of_mem_toDigits (by decide) (by decide) hc)
  rcases l.decimal_cases d with ⟨-, htext⟩ | htext | htext
  · rw [htext, List.mem_singleton] at h
    rw [h]
    decide
  · rw [htext] at h
    rcases Layout.mem_byPosition h with h | rfl | rfl
    · exact hdigits _ c h
    · decide
    · decide
  · rw [htext, Layout.byExponent] at h
    simp only [List.mem_append, List.mem_cons, List.mem_replicate] at h
    rcases h with (h | h) | rfl | rfl | ⟨-, rfl⟩ | h
    · exact hdigits _ c (List.mem_of_mem_take h)
    · split at h
      · cases h
      · rename_i hdrop
        rcases List.mem_cons.1 h with rfl | h
        · decide
        · exact hdigits _ c (List.mem_of_mem_drop h)
    · decide
    · split <;> decide
    · decide
    · exact hdigits _ c h

theorem isWord_number (l : Layout) {x : Binary64} (h : x.isFinite = true) :
    isWord (l.number x) = true := by
  obtain ⟨c, cs, hcons, -⟩ := l.exists_cons_decimal x.shortest
  have htext := l.toList_number h
  have hparts : ∀ d ∈ c :: cs, isWordPart d = true :=
    fun d hd => isWordPart_of_mem_decimal (hcons ▸ hd)
  rw [hcons] at htext
  cases hnegative : x.isNegative with
  | false =>
      rw [hnegative] at htext
      exact isWord_of_toList htext hparts
  | true =>
      rw [hnegative] at htext
      exact isWord_of_toList htext (List.forall_mem_cons.2 ⟨by decide, hparts⟩)

/-- A name of a type is a word. -/
theorem isWord_of_isTypeName {name : String} (h : Naming.isTypeName name = true) :
    isWord name = true := by
  unfold Naming.isTypeName at h
  cases hlist : name.toList with
  | nil => simp [hlist] at h
  | cons c rest =>
      simp only [hlist, Bool.and_eq_true, List.all_eq_true] at h
      refine isWord_of_toList hlist (List.forall_mem_cons.2 ⟨?_, fun d hd => ?_⟩)
      · simp [isWordPart, Naming.isNameChar_of_isNameStart h.1]
      · simp [isWordPart, h.2 d hd]

/-- A plain identifier is a word. -/
theorem isWord_of_isIdentifier {name : String} (h : Naming.isIdentifier name = true) :
    isWord name = true := by
  have hparts : ∀ c, Naming.isIdentifierRest c = true → isWordPart c = true := by
    intro c hc
    simp only [Naming.isIdentifierRest, Bool.or_eq_true, decide_eq_true_eq] at hc
    rcases hc with (hc | rfl) | rfl
    · simp [isWordPart, Naming.isNameChar_of_isAlphanum hc]
    · decide
    · decide
  obtain ⟨c, rest, hlist, hall⟩ := Naming.exists_of_isIdentifier h
  exact isWord_of_toList hlist (fun d hd => hparts d (hall d hd))

end TypedClient.TypeScript
