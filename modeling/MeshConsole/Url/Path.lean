import MeshConsole.Url.Percent
import MeshConsole.Text.Split

/-!
# Paths of a URL

A path is either rooted, a list of segments each behind a slash, or, in a URL such as `mailto:a@b`,
a text without structure. Reading a rooted path resolves its dots: a segment of one dot is dropped
and a segment of two dots takes the one before it away. The first segment of a file's path may be
a drive letter, which is never taken away.
-/

namespace MeshConsole

/-- The path of a URL. -/
inductive UrlPath where
  | rooted (segments : List (List Char))
  | plain (text : List Char)
deriving Repr, DecidableEq

namespace UrlPath

open Text

/-- How the paths of a scheme are read: whether a backslash separates segments too, and whether
drive letters are known. -/
structure Manner where
  backslash : Bool
  drives : Bool
deriving Repr, DecidableEq

/-- A character between segments. -/
def Manner.separates (manner : Manner) (c : Char) : Bool :=
  c == '/' || (manner.backslash && c == '\\')

/-- The three ways to write one dot. -/
def isSingleDot (segment : List Char) : Bool :=
  let s := segment.map Char.toLower
  s == ".".toList || s == "%2e".toList

/-- The ways to write two dots. -/
def isDoubleDot (segment : List Char) : Bool :=
  let s := segment.map Char.toLower
  s == "..".toList || s == ".%2e".toList || s == "%2e.".toList || s == "%2e%2e".toList

/-- A letter and a colon, or a letter and a bar. -/
def isDriveLetter : List Char → Bool
  | [letter, mark] => letter.isAlpha && (mark == ':' || mark == '|')
  | _ => false

/-- A drive letter with a colon. -/
def driveText : List Char → List Char
  | letter :: _ => [letter, ':']
  | [] => []

/-- A path without its last segment, unless that is the drive letter of a file's path. -/
def shorten (manner : Manner) (segments : List (List Char)) : List (List Char) :=
  match segments with
  | [segment] => if manner.drives && isDriveLetter segment then [segment] else []
  | segments => segments.dropLast

/-- Puts one segment behind the others. A segment of dots at the very end leaves an empty one. -/
def push (manner : Manner) (isLast : Bool) (segments : List (List Char)) (segment : List Char) :
    List (List Char) :=
  if isDoubleDot segment then
    let rest := shorten manner segments
    if isLast then rest ++ [[]] else rest
  else if isSingleDot segment then
    if isLast then segments ++ [[]] else segments
  else if manner.drives && segments.isEmpty && isDriveLetter segment then [driveText segment]
  else segments ++ [Percent.encode Percent.inPath segment]

/-- Puts all segments behind those already read. -/
def pushAll (manner : Manner) (segments : List (List Char)) : List (List Char) → List (List Char)
  | [] => segments
  | [segment] => push manner true segments segment
  | segment :: next :: later =>
    pushAll manner (push manner false segments segment) (next :: later)

/-- The segments of a path that begins with a separator or with its first segment. The path of a
file has no empty segments at its start. -/
def segmentsOf (manner : Manner) (cs : List Char) : List (List Char) :=
  let body := match cs with
    | c :: rest => if manner.separates c then rest else cs
    | [] => []
  let body := if manner.drives then body.dropWhile manner.separates else body
  pushAll manner [] (splitOn manner.separates body)

/-- The text of a path. -/
def text : UrlPath → List Char
  | .rooted segments => segments.flatMap fun segment => '/' :: segment
  | .plain text => text

end UrlPath

end MeshConsole
