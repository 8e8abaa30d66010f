import MeshConsole.Url.Host
import MeshConsole.Url.Path
import MeshConsole.Url.Form

/-!
# URLs

    URL       = scheme ":" ["//" authority] path ["?" query] ["#" fragment]
    authority = [user name [":" password] "@"] host [":" port]

A URL is kept in parts, each already escaped as it stands in the text. The default port of a scheme
is never kept. Two operations change a URL: one adds a name below its path, the other adds a pair to
its query.
-/

namespace MeshConsole

/-- A URL in parts. -/
structure Url where
  scheme : String
  username : List Char
  password : List Char
  host : Option Host
  port : Option Nat
  path : UrlPath
  query : Option (List Char)
  fragment : Option (List Char)
deriving Repr, DecidableEq

namespace Url

/-! ### Schemes -/

/-- The special schemes other than `file`, each with its default port. -/
def networkSchemes : List (String × Nat) :=
  [("http", 80), ("https", 443), ("ws", 80), ("wss", 443), ("ftp", 21)]

/-- A special scheme other than `file`. -/
def isNetwork (scheme : String) : Bool := (networkSchemes.lookup scheme).isSome

/-- How the path of a scheme is read. -/
def manner (scheme : String) : UrlPath.Manner :=
  ⟨isNetwork scheme || scheme == "file", scheme == "file"⟩

/-! ### Text -/

/-- User name and password with the signs around them; nothing if both are empty. -/
def userinfoText (url : Url) : List Char :=
  if url.username.isEmpty && url.password.isEmpty then []
  else url.username ++ (if url.password.isEmpty then [] else ':' :: url.password) ++ ['@']

/-- Everything between the scheme and the path. -/
def authorityText (url : Url) : List Char :=
  match url.host with
  | some host =>
    ['/', '/'] ++ url.userinfoText ++ host.text ++
      (match url.port with
       | some port => ':' :: Decimal.natural port
       | none => [])
  | none =>
    match url.path with
    | .rooted ([] :: _ :: _) => ['/', '.']
    | _ => []

/-- A part behind its mark, if there is one. -/
def markedText (mark : Char) : Option (List Char) → List Char
  | some part => mark :: part
  | none => []

/-- The text of a URL. -/
def text (url : Url) : String :=
  String.ofList <|
    url.scheme.toList ++ ':' :: url.authorityText ++ url.path.text ++
      markedText '?' url.query ++ markedText '#' url.fragment

/-! ### Changes -/

/-- The URL without its fragment. -/
def withoutFragment (url : Url) : Url := { url with fragment := none }

/-- The URL without user name and password. -/
def withoutUserinfo (url : Url) : Url := { url with username := [], password := [] }

/-- The path as a folder: its text ends with a slash. A path without structure cannot begin with a
slash, so there a slash at the start is escaped. -/
def folder : UrlPath → UrlPath
  | .rooted segments =>
    .rooted (if segments.getLast? = some [] then segments else segments ++ [[]])
  | .plain [] => .plain ['%', '2', 'F']
  | .plain text => .plain (if text.getLast? = some '/' then text else text ++ ['/'])

/-- A name put behind the last slash of a path. -/
def underFolder (name : List Char) : UrlPath → UrlPath
  | .rooted segments => .rooted (segments.dropLast ++ [segments.getLast?.getD [] ++ name])
  | .plain text => .plain (text ++ name)

/-- The URL with its path made a folder. -/
def asFolder (url : Url) : Url := { url with path := folder url.path }

/-- The URL of a name below the URL of a folder. -/
def child (name : String) (url : Url) : Url :=
  { url with path := underFolder name.toList url.path }

/-- The URL with one more pair at the end of its query. -/
def addPair (pair : Form.Pair) (url : Url) : Url :=
  let query := match url.query with
    | none | some [] => Form.encodePair pair
    | some query => query ++ '&' :: Form.encodePair pair
  { url with query := some query }

end Url

end MeshConsole
