import TypedClient.Unicode.Letter
import TypedClient.Unicode.Digit
import TypedClient.Unicode.Case
import TypedClient.Unicode.Title
import TypedClient.Text.Basic

/-!
# Words and letter case

Names from a description are split into words at every character that is neither a letter nor a
digit, and joined again in `PascalCase` for types and services or `camelCase` for methods and
their parameters. Only the first character of a word changes.
-/

namespace TypedClient.Naming

/-- Whether a character is part of a word. -/
def isWordChar (c : Char) : Bool :=
  Unicode.isLetter c || Unicode.isDigit c

/-- The maximal runs of word characters. -/
def words : List Char → List (List Char)
  | [] => []
  | c :: rest =>
      if isWordChar c then
        match rest with
        | [] => [[c]]
        | d :: _ =>
            if isWordChar d then
              match words rest with
              | [] => [[c]]
              | w :: ws => (c :: w) :: ws
            else [c] :: words rest
      else words rest

/-- A word with its first character in title case. -/
def capitalize : List Char → List Char
  | [] => []
  | c :: rest => Unicode.title c ++ rest

/-- The capitalized words of `s` from its first letter on, put together. -/
def pascalChars (s : List Char) : List Char :=
  ((words (s.dropWhile (fun c => !Unicode.isLetter c))).map capitalize).flatten

/-- `s` as the name of a type: `pet-category` becomes `PetCategory`. -/
def pascal (s : String) : String :=
  String.ofList (pascalChars s.toList)

/-- A text with its first character in lower case. -/
def uncapitalize : List Char → List Char
  | [] => []
  | c :: rest => Unicode.lower c :: rest

/-- `s` as the name of a method or a parameter: `list_pets` becomes `listPets`. -/
def camel (s : String) : String :=
  String.ofList (uncapitalize (pascalChars s.toList))

/-- The text up to the next closing brace on the same line, and the text behind it. -/
def untilBrace? : List Char → Option (List Char × List Char)
  | [] => none
  | '\x7d' :: rest => some ([], rest)
  | c :: rest => if c = '\n' then none else (untilBrace? rest).map (fun p => (c :: p.1, p.2))

/-- The text behind a closing brace is shorter. -/
theorem length_untilBrace?_lt {s inner rest : List Char} (h : untilBrace? s = some (inner, rest)) :
    rest.length < s.length := by
  induction s generalizing inner with
  | nil => simp [untilBrace?] at h
  | cons c s ih =>
      unfold untilBrace? at h
      split at h
      · simp at h
      · simp_all
      · rename_i heq
        obtain ⟨rfl, rfl⟩ := List.cons.inj heq
        split at h
        · simp at h
        · obtain ⟨p, hp, he⟩ := Option.map_eq_some_iff.1 h
          obtain ⟨q, r⟩ := p
          simp only [Prod.mk.injEq] at he
          obtain ⟨_, rfl⟩ := he
          have := ih hp
          simp
          omega

/-- A path in which every placeholder between braces reads `by-` and its name. -/
def spellPlaceholders : List Char → List Char
  | [] => []
  | c :: rest =>
      if c = '\x7b' then
        match _h : untilBrace? rest with
        | some (inner, after) => 'b' :: 'y' :: '-' :: inner ++ spellPlaceholders after
        | none => c :: spellPlaceholders rest
      else c :: spellPlaceholders rest
termination_by s => s.length
decreasing_by
  all_goals simp_wf
  have := length_untilBrace?_lt _h
  omega

/-- The name of an operation: its own identifier, or else its method and path. -/
def operationName (id method path : String) : String :=
  let own := camel id
  if own = "" then
    let spelled := (spellPlaceholders path.toList).map (fun c => if c = '/' then '-' else c)
    camel (method ++ "-" ++ String.ofList spelled)
  else own

end TypedClient.Naming
