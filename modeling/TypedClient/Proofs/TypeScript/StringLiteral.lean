import TypedClient.Proofs.Text.Quoted
import TypedClient.Proofs.TypeScript.Literal

/-!
# The values of string literals

What a text between quotes stands for in the generated code, by the rules of ECMAScript in strict
mode. The characters are taken one by one. A character stands for itself, an escape for what its
letter and its digits say, and a backslash in front of any other character for that character. The
value is a sequence of UTF-16 code units, since an escape can write one half of a pair. The texts
that the generated code has between single quotes and in JSON stand for themselves, as
`stringValue?_quoted` and `stringValue?_jsonQuoted` say.
-/

namespace TypedClient.TypeScript

open Text.Quoted (hexDigit? hexFrom?)

/-- The code units of a code point. -/
def codeUnits (n : Nat) : List Nat :=
  if n < 0x10000 then [n]
  else [0xD800 + (n - 0x10000) / 0x400, 0xDC00 + (n - 0x10000) % 0x400]

/-- The code units of characters. -/
def unitsOf (cs : List Char) : List Nat :=
  cs.flatMap (fun c => codeUnits c.toNat)

theorem codeUnits_of_lt {n : Nat} (h : n < 0x10000) : codeUnits n = [n] := by
  rw [codeUnits, if_pos h]

theorem unitsOf_append (cs ds : List Char) : unitsOf (cs ++ ds) = unitsOf cs ++ unitsOf ds :=
  List.flatMap_append

/-! ## Reading character by character -/

section Transduce

variable {σ : Type} {step : σ → Char → Option (List Nat × σ)} {q q' : σ} {cs : List Char}
  {us : List Nat}

/-- What characters are read as, with the state behind them, when `step` reads one. -/
def transduce (step : σ → Char → Option (List Nat × σ)) : σ → List Char → Option (List Nat × σ)
  | q, [] => some ([], q)
  | q, c :: cs => (step q c).bind (fun r =>
      (transduce step r.2 cs).map (fun r' => (r.1 ++ r'.1, r'.2)))

theorem transduce_append (h : transduce step q cs = some (us, q')) (ds : List Char) :
    transduce step q (cs ++ ds) = (transduce step q' ds).map (fun r => (us ++ r.1, r.2)) := by
  induction cs generalizing q us with
  | nil =>
      cases h
      simp
  | cons c cs ih =>
      obtain ⟨r, hr, hrest⟩ := Option.bind_eq_some_iff.1 h
      obtain ⟨⟨vs, q''⟩, hvs, heq⟩ := Option.map_eq_some_iff.1 hrest
      obtain ⟨rfl, rfl⟩ := Prod.mk.inj heq
      rw [List.cons_append, transduce, hr, Option.bind_some, ih hvs, Option.map_map]
      simp only [Function.comp_def, List.append_assoc]

/-- A character of which nothing is read leaves the rest to be read from where it leads. -/
theorem transduce_cons {c : Char} (h : step q c = some ([], q')) (cs : List Char) :
    transduce step q (c :: cs) = transduce step q' cs := by
  rw [transduce, h, Option.bind_some]
  simp

/-- What is read one character after the other is read together, when the state stays. -/
theorem transduce_flatMap {write : Char → List Char} {value : Char → List Nat}
    (h : ∀ c ∈ cs, transduce step q (write c) = some (value c, q)) :
    transduce step q (cs.flatMap write) = some (cs.flatMap value, q) := by
  induction cs with
  | nil => rfl
  | cons c cs ih =>
      rw [List.forall_mem_cons] at h
      rw [List.flatMap_cons, transduce_append h.1, ih h.2]
      rfl

end Transduce

/-! ## String literals -/

/-- What the characters of a string literal leave unfinished. -/
inductive Reading where
  | inside
  /-- A backslash. -/
  | escaped
  /-- An escape by code: the digits that the next one leaves to come, and the value so far. -/
  | digits (more value : Nat)
  /-- An escape by code of which nothing was read but its letter. -/
  | point
  /-- A code between braces, which may have any number of digits. -/
  | braced (value : Option Nat)
  /-- The escape of zero, which no digit may follow. -/
  | zero
  /-- An escaped carriage return, which belongs to a line feed behind it. -/
  | carriage
  | ended
deriving DecidableEq

namespace Reading

/-- The letters that stand for control characters. -/
def controls : List (Char × Nat) :=
  [('b', 8), ('t', 9), ('n', 10), ('v', 11), ('f', 12), ('r', 13)]

/-- A character that no backslash escapes. -/
def bare (quote c : Char) : Option (List Nat × Reading) :=
  if c = quote then some ([], ended)
  else if c = '\\' then some ([], escaped)
  else if c = '\n' || c = '\r' then none
  else some (codeUnits c.toNat, inside)

/-- A character behind a backslash. At the end of a line there is nothing to be read. -/
def letter (c : Char) : Option (List Nat × Reading) :=
  match controls.lookup c with
  | some n => some ([n], inside)
  | none =>
      if c = 'x' then some ([], digits 1 0)
      else if c = 'u' then some ([], point)
      else if c = '0' then some ([0], zero)
      else if c.isDigit then none
      else if c = '\r' then some ([], carriage)
      else if c = '\n' || c = '\u2028' || c = '\u2029' then some ([], inside)
      else some (codeUnits c.toNat, inside)

/-- A digit of a code. -/
def digit (more value : Nat) (c : Char) : Option (List Nat × Reading) :=
  (hexDigit? c).map (fun d => match more with
    | 0 => ([16 * value + d], inside)
    | more + 1 => ([], digits more (16 * value + d)))

/-- One more character, with the code units that it finishes. -/
def step (quote : Char) : Reading → Char → Option (List Nat × Reading)
  | inside, c => bare quote c
  | escaped, c => letter c
  | digits more value, c => digit more value c
  | point, c => if c = '\x7b' then some ([], braced none) else digit 3 0 c
  | braced value, c =>
      if c = '\x7d' then value.map (fun n => (codeUnits n, inside))
      else (hexDigit? c).bind (fun d =>
        let n := 16 * value.getD 0 + d
        if n ≤ 0x10FFFF then some ([], braced (some n)) else none)
  | zero, c => if c.isDigit then none else bare quote c
  | carriage, c => if c = '\n' then some ([], inside) else bare quote c
  | ended, _ => none

end Reading

open Reading

/-- The value of a string literal between single or double quotes. -/
def stringValue? (written : String) : Option (List Nat) :=
  match written.toList with
  | [] => none
  | quote :: cs =>
      if quote = '"' ∨ quote = '\x27' then
        match transduce (step quote) inside cs with
        | some (us, .ended) => some us
        | _ => none
      else none

/-- What leaves nothing unfinished between two quotes is a literal. -/
theorem stringValue?_ofList {quote : Char} {cs : List Char} {us : List Nat}
    (hquote : quote = '"' ∨ quote = '\x27')
    (h : transduce (step quote) inside cs = some (us, inside)) :
    stringValue? (String.ofList (quote :: cs ++ [quote])) = some us := by
  have hend : transduce (step quote) inside (cs ++ [quote]) = some (us, ended) := by
    rw [transduce_append h]
    simp [transduce, step, bare]
  rw [stringValue?, String.toList_ofList]
  simp only [List.cons_append, if_pos hquote, hend]

namespace Reading

variable {quote : Char}

/-- A character that is plain between quotes stands for itself. -/
theorem transduce_plain {cs : List Char} (h : ∀ c ∈ cs, Scan.isPlain quote c = true) :
    transduce (step quote) inside cs = some (unitsOf cs, inside) := by
  have hone : ∀ c ∈ cs, transduce (step quote) inside [c] = some (codeUnits c.toNat, inside) := by
    intro c hc
    have hplain := h c hc
    simp only [Scan.isPlain, Bool.and_eq_true, decide_eq_true_eq] at hplain
    simp [transduce, step, bare, hplain]
  have hall := transduce_flatMap hone
  rwa [List.flatMap_singleton'] at hall

/-- The digits of a code are read together. -/
theorem transduce_digits {more value n : Nat} {cs : List Char} (hlen : cs.length = more + 1)
    (h : hexFrom? value cs = some n) :
    transduce (step quote) (digits more value) cs = some ([n], inside) := by
  induction more generalizing value cs with
  | zero =>
      obtain ⟨c, rfl⟩ := List.length_eq_one_iff.1 hlen
      obtain ⟨d, hd, hn⟩ := Option.bind_eq_some_iff.1 h
      obtain rfl := Option.some.inj hn
      simp [transduce, step, digit, hd]
  | succ more ih =>
      cases cs with
      | nil => cases hlen
      | cons c cs =>
          obtain ⟨d, hd, hn⟩ := Option.bind_eq_some_iff.1 h
          simp [transduce, step, digit, hd, ih (Nat.succ.inj hlen) hn]

/-- The first digit of a code of four may stand for the code behind its letter. -/
theorem transduce_point {n : Nat} {cs : List Char} (hlen : cs.length = 4)
    (h : hexFrom? 0 cs = some n) :
    transduce (step quote) point cs = some ([n], inside) := by
  have hdigits : transduce (step quote) (digits 3 0) cs = some ([n], inside) :=
    transduce_digits hlen h
  rw [← hdigits]
  cases cs with
  | nil => cases hlen
  | cons c cs =>
      obtain ⟨d, hd, -⟩ := Option.bind_eq_some_iff.1 h
      have hbrace : c ≠ '\x7b' := by
        rintro rfl
        have hnone : hexDigit? '\x7b' = none := by decide
        rw [hnone] at hd
        cases hd
      simp only [transduce, step, if_neg hbrace]

/-- What is written for a character between single quotes is read as that character. -/
theorem transduce_quotedChar (c : Char) :
    transduce (step '\x27') inside (quotedChar c) = some (codeUnits c.toNat, inside) := by
  unfold quotedChar
  split_ifs with hslash hquote hline hreturn
  case neg =>
    have hplain : ∀ d ∈ [c], Scan.isPlain '\x27' d = true := by
      simp [Scan.isPlain, hslash, hquote, hline, hreturn]
    rw [transduce_plain hplain, unitsOf, List.flatMap_singleton]
  all_goals
    subst c
    decide

/-- The digits that JSON writes for a character are its code. -/
theorem transduce_escapeUnit {c : Char} (h : c.toNat < 0x10000) :
    transduce (step '"') inside (Json.escapeUnit c) = some (codeUnits c.toNat, inside) := by
  have hdigit : ∀ n, hexDigit? (Nat.digitChar (n % 16)) = some (n % 16) :=
    fun n => Text.Quoted.hexDigit?_digitChar (Nat.mod_lt n (by decide))
  have hcode : hexFrom? 0 ((Json.escapeUnit c).drop 2) = some c.toNat := by
    simp only [Json.escapeUnit, Json.hexDigit, List.drop_succ_cons, List.drop_zero, hexFrom?, hdigit,
      Option.bind_some, Option.some.injEq]
    omega
  rw [codeUnits_of_lt h, ← transduce_point rfl hcode, Json.escapeUnit, transduce_cons rfl,
    transduce_cons rfl]
  rfl

/-- What JSON has for a character is read as that character. -/
theorem transduce_escapeChar (markup : Bool) (c : Char) :
    transduce (step '"') inside (Json.escapeChar markup c) = some (codeUnits c.toNat, inside) := by
  unfold Json.escapeChar
  split_ifs with hquote hslash hbell hfeed hline hreturn htab hunit
  on_goal 8 =>
    refine transduce_escapeUnit ?_
    -- all that is written by its code lies in the basic plane
    simp only [Bool.or_eq_true, Bool.and_eq_true, decide_eq_true_eq, Json.isMarkup] at hunit
    rcases hunit with ((hcontrol | rfl) | rfl) | ⟨-, (rfl | rfl) | rfl⟩
    · exact Nat.lt_trans hcontrol (by decide)
    all_goals decide
  on_goal 8 =>
    have hplain : ∀ d ∈ [c], Scan.isPlain '"' d = true := by
      simp [Scan.isPlain, hslash, hquote, hline, hreturn]
    rw [transduce_plain hplain, unitsOf, List.flatMap_singleton]
  all_goals
    subst c
    decide

end Reading

/-- The value of a text between single quotes is the text. -/
theorem stringValue?_quoted (s : String) : stringValue? (quoted s) = some (unitsOf s.toList) :=
  stringValue?_ofList (.inr rfl) (transduce_flatMap (fun c _ => transduce_quotedChar c))

/-- The value of a text of JSON is the text. -/
theorem stringValue?_jsonQuoted (markup : Bool) (s : String) :
    stringValue? (Json.quoted markup s) = some (unitsOf s.toList) :=
  stringValue?_ofList (.inl rfl) (transduce_flatMap (fun c _ => transduce_escapeChar markup c))

end TypedClient.TypeScript
