import TypedClient.Text.Basic
import TypedClient.Text.Bytes

/-!
# Web addresses

An input is a web address when it has a scheme and a host and every part of it is well formed;
otherwise it is the path of a file. What the escapes of a part stand for is held as bytes, because
an escape stands for a byte and not for a character.
-/

namespace TypedClient

/-- A web address. -/
structure Address where
  /-- The scheme in lower case. -/
  scheme : String
  /-- The user, and the password if there is one. -/
  user : Option (Bytes × Option Bytes)
  /-- The host with its port. -/
  host : String
  /-- The path. -/
  path : String
  /-- The query, if there is one. -/
  query : Option String
  /-- The fragment, if it is not empty. -/
  fragment : String
deriving DecidableEq, Repr

namespace Address

/-- Characters that never need an escape. -/
def isUnreserved (c : Char) : Bool :=
  c.isAlphanum || c = '-' || c = '_' || c = '.' || c = '~'

/-- Characters that a host may hold. -/
def isHostChar (c : Char) : Bool :=
  isUnreserved c || "!$&'()*+,;=:[]<>\"".toList.contains c || 0x80 ≤ c.toNat

/-- Characters that a user may hold. -/
def isUserChar (c : Char) : Bool :=
  c.isAlphanum || "-._:~!$&'()*+,;=%@".toList.contains c

/-- Whether a character is a hexadecimal digit. -/
def isHex (c : Char) : Bool :=
  c.isDigit || ('a' ≤ c && c ≤ 'f') || ('A' ≤ c && c ≤ 'F')

/-- Whether every percent sign stands in front of two hexadecimal digits. -/
def hasGoodEscapes : List Char → Bool
  | [] => true
  | '%' :: a :: b :: rest => isHex a && isHex b && hasGoodEscapes rest
  | c :: rest => c != '%' && hasGoodEscapes rest

/-- Whether every escape of a host stands for a byte beyond ASCII or for a percent sign, and every
other character may stand in a host. -/
def isGoodHost : List Char → Bool
  | [] => true
  | '%' :: a :: b :: rest =>
      isHex a && isHex b && (!("01234567".toList.contains a) || (a = '2' && b = '5')) &&
        isGoodHost rest
  | c :: rest => c != '%' && isHostChar c && isGoodHost rest

/-- Whether a text is empty, or a colon and digits. -/
def isGoodPort : List Char → Bool
  | [] => true
  | ':' :: rest => rest.all Char.isDigit
  | _ => false

/-- The text from the last occurrence of a character on. -/
def fromLast (c : Char) (s : List Char) : Option (List Char) :=
  match s.reverse.span (· != c) with
  | (_, []) => none
  | (after, _) => some (c :: after.reverse)

/-- Whether the port of a host, if there is one, is well formed. -/
def hasGoodPort (host : List Char) : Bool :=
  if host.contains '[' then
    match fromLast ']' host with
    | none => false
    | some rest => isGoodPort (rest.drop 1)
  else match fromLast ':' host with
    | none => true
    | some port => isGoodPort port

/-- The scheme of an address and what follows its colon. A text without a scheme has the empty
one, and a text that starts with a colon is no address. -/
def splitScheme (s : List Char) : Option (List Char × List Char) :=
  let (scheme, rest) := s.span (fun c => c.isAlphanum || c = '+' || c = '-' || c = '.')
  match scheme, rest with
  | [], ':' :: _ => none
  | c :: _, ':' :: rest => if c.isAlpha then some (scheme, rest) else some ([], s)
  | _, _ => some ([], s)

/-- The text before the first occurrence of a character and the text behind it. -/
def cutAt (c : Char) (s : List Char) : List Char × Option (List Char) :=
  match s.span (· != c) with
  | (before, []) => (before, none)
  | (before, _ :: after) => (before, some after)

/-- The user of an authority and its host. -/
def splitUser (authority : List Char) : Option (List Char) × List Char :=
  match fromLast '@' authority with
  | none => (none, authority)
  | some rest => (some (authority.take (authority.length - rest.length)), rest.drop 1)

/-- A well-formed part with its escapes undone. -/
def unescaped (s : List Char) : Bytes :=
  let part := s.flatMap String.utf8EncodeChar
  (Text.percentDecoded? part).getD part

/-- The user and the password of a user part. -/
def userOf (s : List Char) : Bytes × Option Bytes :=
  let (name, password) := cutAt ':' s
  (unescaped name, password.map unescaped)

/-- The web address that a text stands for, if it has a scheme and a host. -/
def ofText? (text : String) : Option Address := do
  let (main, fragment) := cutAt '#' text.toList
  let fragment := fragment.getD []
  if main.any (fun c => c < ' ' || c = '\x7f') then none
  let (scheme, rest) ← splitScheme main
  let (rest, query) := cutAt '?' rest
  match scheme, rest with
  | _ :: _, '/' :: '/' :: rest =>
      let (authority, path) := rest.span (· != '/')
      let (user, host) := splitUser authority
      let good := hasGoodPort host && isGoodHost host && hasGoodEscapes path &&
        hasGoodEscapes fragment &&
        user.all (fun u => u.all isUserChar && hasGoodEscapes u)
      if good && !host.isEmpty then
        some {
          scheme := Text.lower (String.ofList scheme)
          user := user.map userOf
          host := String.ofList host
          path := String.ofList path
          query := query.map String.ofList
          fragment := String.ofList fragment }
      else none
  | _, _ => none

/-- Characters that stand unescaped in a path that is written anew. -/
def isPathChar (c : Char) : Bool :=
  isUnreserved c || "$&+,/:;=@".toList.contains c

/-- Characters that may stand unescaped in a path as it was given. -/
def isGivenPathChar (c : Char) : Bool :=
  isPathChar c || "!'()*[]%".toList.contains c

/-- Characters that stand unescaped in a fragment that is written anew. -/
def isFragmentChar (c : Char) : Bool :=
  isPathChar c || "?!()*".toList.contains c

/-- Characters that may stand unescaped in a fragment as it was given. -/
def isGivenFragmentChar (c : Char) : Bool :=
  isFragmentChar c || "'[]%".toList.contains c

/-- Characters that stand unescaped in a user. -/
def isShownUserChar (c : Char) : Bool :=
  isUnreserved c || "$&+,;=".toList.contains c

/-- A part as it was given when all its characters may stand there, or else written anew. -/
def respelled (given fresh : Char → Bool) (s : String) : String :=
  if s.toList.all given then s else Text.percentEncoded fresh (unescaped s.toList)

/-- The user as an address shows it. In front of a password, which is hidden, it stands unescaped
if it is a text. -/
def userText : Bytes × Option Bytes → String
  | (name, none) => Text.percentEncoded isShownUserChar name ++ "@"
  | (name, some _) =>
      (Text.ofBytes? name).getD (Text.percentEncoded isShownUserChar name) ++ ":***@"

/-- The text of an address. -/
def text (a : Address) : String :=
  a.scheme ++ "://" ++ (a.user.map userText).getD "" ++
  Text.percentEncoded isHostChar (unescaped a.host.toList) ++
  respelled isGivenPathChar isPathChar a.path ++
  (a.query.map ("?" ++ ·)).getD "" ++
  (if a.fragment = "" then "" else
    "#" ++ respelled isGivenFragmentChar isFragmentChar a.fragment)

end Address

end TypedClient
