import TypedClient.Text.Basic

/-!
# Media types

Which media type of several a body is exchanged in: JSON when there is one, else a type built on
JSON, else the first in order.
-/

namespace TypedClient.MediaType

/-- The media type of JSON. -/
def json : String := "application/json"

/-- The media type of a form with files. -/
def multipart : String := "multipart/form-data"

/-- The media type of a form without files. -/
def form : String := "application/x-www-form-urlencoded"

/-- A media type without its parameters, in lower case. -/
def base (mediaType : String) : String :=
  Text.lower (Text.trim (Text.cut ';' mediaType).1)

/-- The media type that is preferred among some; empty when there are none. -/
def preferred (types : List String) : String :=
  let sorted := Text.sort types
  ((sorted.find? (fun t => base t = json)).or
    ((sorted.find? (fun t => Text.endsWith "+json" (base t))).or sorted.head?)).getD ""

end TypedClient.MediaType
