import TypedClient.Text.Quoted

/-!
# Switches

The words that turn something on or off.
-/

namespace TypedClient.Switch

/-- The words that mean yes. -/
def yes : List String := ["1", "t", "T", "TRUE", "true", "True"]

/-- The words that mean no. -/
def no : List String := ["0", "f", "F", "FALSE", "false", "False"]

/-- What a word means, or the words for why it means nothing. -/
def ofWord (word : String) : Except String Bool :=
  if yes.contains word then .ok true
  else if no.contains word then .ok false
  else .error ("strconv.ParseBool: parsing " ++ Text.quote word ++ ": invalid syntax")

end TypedClient.Switch
