import TypedClient.Naming.Word
import TypedClient.Document.Display

/-!
# Names of enum members

An enum member without a name of its own gets one from its value, in `UPPER_SNAKE_CASE`. Words
end at characters that are neither letters nor digits and where an upper case letter follows a
lower case letter or a digit.
-/

namespace TypedClient.Naming

/-- The characters of a member name. `started` says that a word character was written, `parted`
that a separator came since, and `lowered` that the last character was a lower case letter or a
digit. -/
def enumKeyChars (started parted lowered : Bool) : List Char → List Char
  | [] => []
  | c :: rest =>
      if isWordChar c then
        let next := Unicode.upper c ::
          enumKeyChars true false (Unicode.isLower c || Unicode.isDigit c) rest
        if started && (parted || (Unicode.isUpper c && lowered)) then '_' :: next else next
      else enumKeyChars started started false rest

/-- The member name of a text. -/
def enumKeyOfText (s : String) : String :=
  match enumKeyChars false false false s.toList with
  | [] => "EMPTY"
  | c :: rest => String.ofList (if c.isDigit then '_' :: c :: rest else c :: rest)

/-- The member name of a number text. -/
def enumKeyOfNumber (s : String) : String :=
  String.ofList ('_' :: s.toList.flatMap (fun c =>
    if c = '-' then "MINUS_".toList else if c = '.' then ['_'] else [c]))

/-- The member name of a value. -/
def enumKey : Value → String
  | .null => "NULL"
  | .bool b => if b then "TRUE" else "FALSE"
  | .float x => enumKeyOfNumber (Layout.plain.number x)
  | .int n => enumKeyOfNumber (toString n)
  | v => enumKeyOfText v.display

end TypedClient.Naming
