import TypedClient.Text.Basic

/-!
# Paths

A path in its shortest form: a list of segments, from the root of the file system or from
somewhere. A segment `..` only stands at the front of a path that is not rooted.
-/

namespace TypedClient

/-- A path without superfluous segments. -/
structure Path where
  /-- Whether the path starts at the root. -/
  rooted : Bool
  /-- The segments. -/
  segments : List String
deriving DecidableEq, Repr

namespace Path

/-- The segments after one more segment: `.` and the empty one stay, `..` goes up. -/
def step (rooted : Bool) (segments : List String) (segment : String) : List String :=
  if segment = "" ∨ segment = "." then segments
  else if segment = ".." then
    match segments.getLast? with
    | none => if rooted then [] else [".."]
    | some last => if last = ".." then segments ++ [".."] else segments.dropLast
  else segments ++ [segment]

/-- The path that a text leads to from `p`. -/
def descend (p : Path) (text : String) : Path :=
  { p with segments := (Text.splitOn '/' text).foldl (step p.rooted) p.segments }

/-- The path that a text stands for. -/
def ofText (text : String) : Path :=
  descend ⟨Text.startsWith "/" text, []⟩ text

/-- The text of a path. -/
def text (p : Path) : String :=
  let joined := "/".intercalate p.segments
  if p.rooted then "/" ++ joined else if joined = "" then "." else joined

/-- The path that a text stands for in a directory. -/
def absolute (directory : Path) (text : String) : Path :=
  if Text.startsWith "/" text then ofText text else directory.descend text

/-- The paths on the way that a text describes from a directory, the last one included. -/
def trail (directory : Path) (text : String) : List Path :=
  let segments := Text.splitOn '/' text
  (List.range (segments.length + 1)).map (fun n =>
    absolute directory ("/".intercalate (segments.take n)))

/-- The path one segment up. -/
def parent (p : Path) : Path :=
  { p with segments := p.segments.dropLast }

/-- What remains of two lists behind their common front. -/
def parting : (xs ys : List String) → List String × List String
  | x :: xs, y :: ys => if x = y then parting xs ys else (x :: xs, y :: ys)
  | xs, ys => (xs, ys)

/-- The way from one path to another, when it can be told from the texts. -/
def relative? (base target : Path) : Option Path :=
  if base.rooted = target.rooted then
    let (up, down) := parting base.segments target.segments
    if up.head? = some ".." then none
    else some ⟨false, List.replicate up.length ".." ++ down⟩
  else none

/-- The way from one path to another as a text, or the target where it cannot be told. -/
def relativeText (base target : String) : String :=
  ((relative? (ofText base) (ofText target)).map text).getD target

/-- A directory as the generated code imports it from a file in another directory. -/
def importText (base target : String) : String :=
  let way := relativeText base target
  if way = "." || way = ".." || Text.startsWith "../" way then way else "./" ++ way

/-- The end of a file name from its last point on. -/
def extension (name : String) : String :=
  match name.toList.reverse.span (· != '.') with
  | (_, []) => ""
  | (after, _) => String.ofList ('.' :: after.reverse)

end Path

end TypedClient
