/-!
# Code text

Fixed pieces of the generated code are written with `«` and `»` for braces. Every generated file
starts with the same header.
-/

namespace TypedClient.TypeScript

/-- A brace for a guillemet. -/
def bracedChar (c : Char) : Char :=
  if c = '«' then '\x7b' else if c = '»' then '\x7d' else c

/-- Lines of code with their braces. -/
def code (lines : List String) : String :=
  String.join (lines.map (fun line => line.map bracedChar ++ "\n"))

/-- The first lines of every file. -/
def header : String :=
  "/* generated by swagger2ts - do not edit */\n/* istanbul ignore file */\n" ++
    "/* tslint:disable */\n/* eslint-disable */\n"

/-- A file with its header. -/
def headed (text : String) : String :=
  header ++ text

end TypedClient.TypeScript
