import MeshConsole.Url.Basic
import MeshConsole.Decimal.Reader

/-!
# Reading a URL

A text is first stripped: controls and spaces at its ends, and tabs and line breaks anywhere, do not
count. Then it is cut at its marks:

    text ──scheme?──▶ scheme, rest ──splitOnce──▶ main part, query, fragment
    main part of a network scheme: any number of slashes, authority, path
    main part of a file:           "//" host path | path
    main part of another scheme:   "//" authority path | "/" path | text

A text without a scheme is no URL, as there is no base that it could be relative to.
-/

namespace MeshConsole.Url

open Text

/-! ### Stripping and the scheme -/

/-- A control character or a space. -/
def isControlOrSpace (c : Char) : Bool := Nat.ble c.toNat 0x20

/-- A tab or a line break. -/
def isTabOrBreak (c : Char) : Bool := c == '\t' || c == '\n' || c == '\r'

/-- The characters of a text that count. -/
def stripped (cs : List Char) : List Char :=
  (((cs.dropWhile isControlOrSpace).reverse.dropWhile isControlOrSpace).reverse).filter
    fun c => !isTabOrBreak c

/-- A character of a scheme. -/
def isSchemeChar (c : Char) : Bool := c.isAlphanum || c == '+' || c == '-' || c == '.'

/-- The scheme in lower case, and the text behind its colon. -/
def scheme? (cs : List Char) : Option (String × List Char) :=
  match cs, cs.dropWhile isSchemeChar with
  | c :: _, ':' :: rest =>
    if c.isAlpha then some (String.ofList ((cs.takeWhile isSchemeChar).map Char.toLower), rest)
    else none
  | _, _ => none

/-! ### Authority -/

/-- What stands in front of the last at sign, if there is one, and what follows it. -/
def splitUserinfo (authority : List Char) : Option (List Char) × List Char :=
  let host := (authority.reverse.takeWhile (· != '@')).reverse
  if host.length = authority.length then (none, host)
  else (some (authority.take (authority.length - host.length - 1)), host)

/-- The text of a host, up to the colon of a port. A colon in brackets belongs to the host. -/
def hostPart (inBrackets : Bool) : List Char → List Char × List Char
  | [] => ([], [])
  | c :: rest =>
    if c = ':' && !inBrackets then ([], c :: rest)
    else
      let stillInBrackets := if c = '[' then true else if c = ']' then false else inBrackets
      let (host, later) := hostPart stillInBrackets rest
      (c :: host, later)

/-- The largest port. -/
def mostPort : Nat := 65535

/-- The port behind a host; none if there is none or if it is the default of the scheme. -/
def port? (scheme : String) (cs : List Char) : Except UrlError (Option Nat) :=
  match cs with
  | ':' :: digits =>
    if !digits.all Char.isDigit then .error .port
    else
      let n := Decimal.digitsValue digits
      if n > mostPort then .error .port
      else if digits.isEmpty || Url.networkSchemes.lookup scheme = some n then .ok none
      else .ok (some n)
  | _ => .ok none

/-- User name and password. -/
def credentials (userinfo : Option (List Char)) : List Char × List Char :=
  let (username, password) := splitOnce (· == ':') (userinfo.getD [])
  (Percent.encode Percent.inUserinfo username,
   Percent.encode Percent.inUserinfo (password.getD []))

/-- The parts of an authority: user name, password, host and port. -/
structure Authority where
  username : List Char
  password : List Char
  host : Host
  port : Option Nat
deriving Repr, DecidableEq

/-- Reads an authority. Only a scheme that is not special may have an empty host, and then neither
user name nor password nor port. -/
def authority? (scheme : String) (hasPath : Bool) (cs : List Char) : Except UrlError Authority := do
  let (userinfo, rest) := splitUserinfo cs
  let (username, password) := credentials userinfo
  let (hostText, portText) := hostPart false rest
  let isBare := userinfo.isSome && (hasPath || !username.isEmpty || !password.isEmpty)
  if hostText.isEmpty && (isNetwork scheme || isBare || !portText.isEmpty) then .error .emptyHost
  else
    let host ← if isNetwork scheme then Host.special? hostText else Host.general? hostText
    let port ← port? scheme portText
    .ok ⟨username, password, host, port⟩

/-! ### Main parts -/

/-- The URL of a scheme with an authority and a path behind it. -/
def withAuthority? (scheme : String) (cs : List Char) : Except UrlError Url := do
  let isEnd := (manner scheme).separates
  let path := cs.dropWhile fun c => !isEnd c
  let authority ← authority? scheme (!path.isEmpty) (cs.takeWhile fun c => !isEnd c)
  let segments :=
    if path.isEmpty && !(manner scheme).backslash then []
    else UrlPath.segmentsOf (manner scheme) path
  .ok
    { scheme := scheme
      username := authority.username
      password := authority.password
      host := some authority.host
      port := authority.port
      path := .rooted segments
      query := none
      fragment := none }

/-- A URL without an authority. -/
def withoutAuthority (scheme : String) (host : Option Host) (path : UrlPath) : Url :=
  { scheme := scheme
    username := []
    password := []
    host := host
    port := none
    path := path
    query := none
    fragment := none }

/-- The empty host of a file on this machine. -/
def localHost : Host := .name []

/-- Reads the host of a file. The name of this machine is left out. -/
def fileHost? (cs : List Char) : Except UrlError Host :=
  if cs.isEmpty then .ok localHost
  else
    (Host.special? cs).map fun host => if host = .name "localhost".toList then localHost else host

/-- The URL of a file. A drive letter behind the slashes begins the path, and a path that begins
with one has no host. -/
def file? (cs : List Char) : Except UrlError Url :=
  let manner := manner "file"
  match cs with
  | a :: b :: rest =>
    if manner.separates a && manner.separates b then
      let hostText := rest.takeWhile fun c => !manner.separates c
      let path := rest.dropWhile fun c => !manner.separates c
      if UrlPath.isDriveLetter hostText then
        .ok (withoutAuthority "file" (some localHost) (.rooted (UrlPath.segmentsOf manner rest)))
      else
        (fileHost? hostText).map fun host =>
          let segments := UrlPath.segmentsOf manner path
          let host := if segments.head?.any UrlPath.isDriveLetter then localHost else host
          withoutAuthority "file" (some host) (.rooted segments)
    else .ok (withoutAuthority "file" (some localHost) (.rooted (UrlPath.segmentsOf manner cs)))
  | cs => .ok (withoutAuthority "file" (some localHost) (.rooted (UrlPath.segmentsOf manner cs)))

/-- The URL of a scheme that is not special. -/
def general? (scheme : String) (cs : List Char) : Except UrlError Url :=
  match cs with
  | '/' :: '/' :: rest => withAuthority? scheme rest
  | '/' :: _ =>
    .ok (withoutAuthority scheme none (.rooted (UrlPath.segmentsOf (manner scheme) cs)))
  | _ => .ok (withoutAuthority scheme none (.plain (Percent.encode Percent.inControls cs)))

/-- The URL of a scheme and the text behind it, up to the query. -/
def main? (scheme : String) (cs : List Char) : Except UrlError Url :=
  if scheme = "file" then file? cs
  else if isNetwork scheme then withAuthority? scheme (cs.dropWhile fun c => c == '/' || c == '\\')
  else general? scheme cs

/-- The escaped text of a query. -/
def queryText (scheme : String) (cs : List Char) : List Char :=
  Percent.encode (if (manner scheme).backslash then Percent.inSpecialQuery else Percent.inQuery) cs

/-- Reads a URL. -/
def parse (s : String) : Except UrlError Url :=
  match scheme? (stripped s.toList) with
  | none => .error .noScheme
  | some (scheme, rest) => do
    let (front, fragment) := splitOnce (· == '#') rest
    let (main, query) := splitOnce (· == '?') front
    let url ← main? scheme main
    .ok
      { url with
        query := query.map (queryText scheme)
        fragment := fragment.map (Percent.encode Percent.inFragment) }

end MeshConsole.Url
