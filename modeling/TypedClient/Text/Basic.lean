import TypedClient.Unicode.Blank
import TypedClient.Unicode.Case

/-!
# Pieces of text

Trimming, splitting, joining and replacing, on lists of characters and on strings. Each
operation on strings is the one on lists between `toList` and `ofList`.
-/

namespace TypedClient.Text

/-- `s` without the characters at its end that satisfy `p`. -/
def dropEndWhile (p : Char → Bool) (s : List Char) : List Char :=
  (s.reverse.dropWhile p).reverse

/-- `s` without the characters at either end that satisfy `p`. -/
def stripWhile (p : Char → Bool) (s : List Char) : List Char :=
  dropEndWhile p (s.dropWhile p)

/-- `s` without blanks at either end. -/
def trim (s : String) : String :=
  String.ofList (stripWhile Unicode.isBlank s.toList)

/-- Whether `s` holds nothing but blanks. -/
def isBlank (s : String) : Bool :=
  s.toList.all Unicode.isBlank

/-- Each character of `s` in lower case. -/
def lower (s : String) : String :=
  String.ofList (s.toList.map Unicode.lower)

/-- Each character of `s` in upper case. -/
def upper (s : String) : String :=
  String.ofList (s.toList.map Unicode.upper)

/-- The parts of `s` between the occurrences of `sep`; there is always at least one. -/
def splitOn (sep : Char) (s : String) : List String :=
  (s.toList.splitOn sep).map String.ofList

/-- Whether `s` starts with `start`. -/
def startsWith (start s : String) : Bool :=
  start.toList.isPrefixOf s.toList

/-- Whether `s` ends with `final`. -/
def endsWith (final s : String) : Bool :=
  final.toList.isSuffixOf s.toList

/-- What a text starts with it starts with when more follows. -/
theorem startsWith_append {start s : String} (h : startsWith start s = true) (rest : String) :
    startsWith start (s ++ rest) = true := by
  rw [startsWith, List.isPrefixOf_iff_prefix] at h ⊢
  rw [String.toList_append]
  exact h.trans (List.prefix_append _ _)

/-- `s` without `start` at its front, when it is there. -/
def dropStart (start s : String) : String :=
  if startsWith start s then String.ofList (s.toList.drop start.length) else s

/-- `s` without `final` at its end, when it is there. -/
def dropEnd (final s : String) : String :=
  if endsWith final s then String.ofList (s.toList.take (s.length - final.length)) else s

/-- What remains of `s` behind `old`, when `s` starts with `old`. -/
def afterStart? : (old s : List Char) → Option (List Char)
  | [], s => some s
  | _ :: _, [] => none
  | o :: old, c :: s => if o = c then afterStart? old s else none

/-- What remains behind a start is no longer than the whole. -/
theorem length_afterStart?_le {old s rest : List Char} (h : afterStart? old s = some rest) :
    rest.length ≤ s.length := by
  induction old generalizing s with
  | nil => simp_all [afterStart?]
  | cons o old ih =>
      cases s with
      | nil => simp [afterStart?] at h
      | cons c s =>
          simp only [afterStart?] at h
          split at h
          · exact Nat.le_succ_of_le (ih h)
          · simp at h

/-- `s` with the leftmost disjoint occurrences of the text `first :: old` turned into `new`. -/
def replaceChars (first : Char) (old new : List Char) : (s : List Char) → List Char
  | [] => []
  | c :: s =>
      if c = first then
        match _h : afterStart? old s with
        | some rest => new ++ replaceChars first old new rest
        | none => c :: replaceChars first old new s
      else c :: replaceChars first old new s
termination_by s => s.length
decreasing_by
  all_goals simp_wf
  have := length_afterStart?_le _h
  omega

/-- `s` with the leftmost disjoint occurrences of `old` turned into `new`; an empty `old` occurs
nowhere. -/
def replace (old new s : String) : String :=
  match old.toList with
  | [] => s
  | first :: old => String.ofList (replaceChars first old new.toList s.toList)

/-- The text before the first `sep`, and the text behind it when there is one. -/
def cut (sep : Char) (s : String) : String × Option String :=
  let (before, rest) := s.toList.span (· != sep)
  (String.ofList before, rest.tail?.map String.ofList)

/-- Whether two texts agree up to ASCII letter case. -/
def sameLetters (a b : String) : Bool :=
  a.toList.map Char.toLower == b.toList.map Char.toLower

/-- The order of texts by code points, as a Boolean for sorting. -/
def le (a b : String) : Bool :=
  !decide (b < a)

/-- The texts in ascending order. -/
def sort (xs : List String) : List String :=
  xs.mergeSort le

end TypedClient.Text
