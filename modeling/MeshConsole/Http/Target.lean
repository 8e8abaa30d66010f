import MeshConsole.Text.Split

/-!
# Request targets

The target of a request names what is asked for, in one of four forms:

    target    = origin | absolute | authority | "*"
    origin    = "/" path ["?" query] ["#" ignored]
    absolute  = scheme "://" authority ["/" path] ["?" query] ["#" ignored]

Path and query keep their escapes. They may hold characters that do not belong there, as long as
these cannot be mistaken for something else. An authority alone names no path.
-/

namespace MeshConsole

/-- What a request asks for: its path and its query, both with their escapes. -/
structure RequestTarget where
  path : List Char
  query : List Char
deriving Repr, DecidableEq

namespace RequestTarget

/-! ### Path and query -/

/-- A character beyond printable ASCII. -/
def isExtended (c : Char) : Bool := Nat.ble 0x7F c.toNat

/-- A printable character of ASCII other than the listed ones. -/
def isPrintableBut (excluded : List Char) (c : Char) : Bool :=
  Nat.ble 0x21 c.toNat && Nat.ble c.toNat 0x7E && !excluded.contains c

/-- A character that may stand in a path. -/
def isPathChar (c : Char) : Bool :=
  isExtended c || isPrintableBut ['#', '<', '>', '?', '\x60'] c

/-- A character that may stand in a query. -/
def isQueryChar (c : Char) : Bool := isExtended c || isPrintableBut ['"', '#', '<', '>'] c

/-- Reads a path and a query. Anything may follow a number sign. An empty path is the root. -/
def ofPathAndQuery? (cs : List Char) : Option RequestTarget :=
  let path := cs.takeWhile fun c => c != '?' && c != '#'
  let query := match cs.dropWhile fun c => c != '?' && c != '#' with
    | '?' :: rest => rest.takeWhile (· != '#')
    | _ => []
  if path.all isPathChar && query.all isQueryChar then
    some ⟨if path.isEmpty then ['/'] else path, query⟩
  else none

/-! ### Scheme -/

/-- A character that may stand in a scheme. -/
def isSchemeChar (c : Char) : Bool := c.isAlphanum || ['+', '-', '.', '~'].contains c

/-- The most characters that a scheme has. -/
def longestScheme : Nat := 64

/-- Splits a text at the end of its scheme. A text without a scheme is left as it is, and a scheme
that is too long is refused. -/
def splitScheme? (cs : List Char) : Option (Option (List Char) × List Char) :=
  match cs.dropWhile isSchemeChar with
  | ':' :: '/' :: '/' :: rest =>
    let scheme := cs.takeWhile isSchemeChar
    if scheme.length ≤ longestScheme then some (some scheme, rest) else none
  | _ => some (none, cs)

/-! ### Authority -/

/-- A character that may stand in an authority. A percent sign is looked at more closely. -/
def isAuthorityChar (c : Char) : Bool :=
  c.isAlphanum || "!$&'()*+,-.:;=@[]_~%".toList.contains c

/-- What has been seen of an authority: the colons and the percent signs of the part that may still
be host and port, and the brackets. -/
structure AuthorityScan where
  colons : Nat
  percent : Bool
  opened : Bool
  closed : Bool
deriving Repr, DecidableEq

namespace AuthorityScan

/-- The most colons in one part: as many as an address of eight groups and a port need. -/
def mostColons : Nat := 8

/-- Nothing has been seen. -/
def initial : AuthorityScan := ⟨0, false, false, false⟩

/-- One more character. What stands in front of an at sign, or inside brackets, is no port. -/
def push? (scan : AuthorityScan) (c : Char) : Option AuthorityScan :=
  if !isAuthorityChar c then none
  else if c = ':' then
    if scan.colons ≥ mostColons then none else some { scan with colons := scan.colons + 1 }
  else if c = '[' then
    if scan.percent || scan.opened then none else some { scan with opened := true }
  else if c = ']' then
    if scan.opened && !scan.closed then
      some { scan with closed := true, colons := 0, percent := false }
    else none
  else if c = '@' then some { scan with colons := 0, percent := false }
  else if c = '%' then some { scan with percent := true }
  else some scan

/-- An authority may end here: brackets are closed, there is one port at most, and no percent sign
belongs to the host. -/
def isComplete (scan : AuthorityScan) : Bool :=
  scan.opened == scan.closed && Nat.ble scan.colons 1 && !scan.percent

end AuthorityScan

/-- An authority that is in order. It may be empty, and it does not end with an at sign. -/
def isAuthority (cs : List Char) : Bool :=
  cs.getLast? != some '@' &&
    ((cs.foldlM AuthorityScan.push? .initial).map AuthorityScan.isComplete).getD false

/-- A character that ends an authority. -/
def endsAuthority (c : Char) : Bool := c == '/' || c == '?' || c == '#'

/-! ### Targets -/

/-- The most bytes that a target has. -/
def longest : Nat := 65534

/-- Reads a target that does not begin with a slash. -/
def ofAbsolute? (cs : List Char) : Option RequestTarget := do
  let (scheme, rest) ← splitScheme? cs
  let authority := rest.takeWhile fun c => !endsAuthority c
  let after := rest.dropWhile fun c => !endsAuthority c
  if !isAuthority authority then none
  else if authority.isEmpty then none
  else if scheme.isSome then ofPathAndQuery? after
  else if after.isEmpty then some ⟨[], []⟩
  else none

/-- Reads the target of a request. -/
def parse? (s : String) : Option RequestTarget :=
  if s.utf8ByteSize > longest then none
  else match s.toList with
    | ['*'] => some ⟨['*'], []⟩
    | '/' :: rest => ofPathAndQuery? ('/' :: rest)
    | cs => ofAbsolute? cs

end RequestTarget

end MeshConsole
