/-!
# Text in quotes

    quoted = '"' {plain | escape} '"'
    escape = "\" ('"' | "\" | "/" | "b" | "f" | "n" | "r" | "t" | "u" hex hex hex hex)

A plain character is any character except the quote, the backslash and the control characters below
U+0020. Two `u` escapes that form a surrogate pair stand for one character; a surrogate without its
partner is refused. The writer escapes only what has to be escaped, a control character without a
short escape as `\u00` and two lower-case digits.
-/

namespace MeshConsole.Json

/-! ### Reading -/

/-- The value of a hexadecimal digit. -/
def hexValue? (c : Char) : Option Nat :=
  let n := c.toNat
  if '0'.toNat ≤ n ∧ n ≤ '9'.toNat then some (n - '0'.toNat)
  else if 'a'.toNat ≤ n ∧ n ≤ 'f'.toNat then some (n - 'a'.toNat + 10)
  else if 'A'.toNat ≤ n ∧ n ≤ 'F'.toNat then some (n - 'A'.toNat + 10)
  else none

/-- The number that the next four hexadecimal digits give. -/
def hexQuad? : List Char → Option (Nat × List Char)
  | a :: b :: c :: d :: rest => do
    let a ← hexValue? a
    let b ← hexValue? b
    let c ← hexValue? c
    let d ← hexValue? d
    some (((a * 16 + b) * 16 + c) * 16 + d, rest)
  | _ => none

/-- The first half of a surrogate pair. -/
def isHighSurrogate (n : Nat) : Bool := Nat.ble 0xD800 n && Nat.ble n 0xDBFF

/-- The second half of a surrogate pair. -/
def isLowSurrogate (n : Nat) : Bool := Nat.ble 0xDC00 n && Nat.ble n 0xDFFF

/-- The character of a `u` escape, read behind the `u`. -/
def unicodeEscape? (cs : List Char) : Option (Char × List Char) := do
  let (first, rest) ← hexQuad? cs
  if isLowSurrogate first then none
  else if isHighSurrogate first then
    match rest with
    | '\\' :: 'u' :: rest =>
      let (second, rest) ← hexQuad? rest
      if isLowSurrogate second then
        some (Char.ofNat (0x10000 + (first - 0xD800) * 0x400 + (second - 0xDC00)), rest)
      else none
    | _ => none
  else some (Char.ofNat first, rest)

/-- The character that a one-letter escape stands for. -/
def letterEscape? : Char → Option Char
  | '"' => some '"'
  | '\\' => some '\\'
  | '/' => some '/'
  | 'b' => some '\x08'
  | 'f' => some '\x0c'
  | 'n' => some '\n'
  | 'r' => some '\r'
  | 't' => some '\t'
  | _ => none

/-- A character that may stand for itself between quotes. -/
def isPlain (c : Char) : Bool := Nat.ble 0x20 c.toNat && c != '"' && c != '\\'

/-- The next character between quotes and the text behind it. -/
def quotedChar? : List Char → Option (Char × List Char)
  | '\\' :: 'u' :: rest => unicodeEscape? rest
  | '\\' :: letter :: rest => (letterEscape? letter).map (·, rest)
  | c :: rest => if isPlain c then some (c, rest) else none
  | [] => none

/-- Collects characters up to the closing quote, at most as many as the first argument says. The
characters collected so far stand in reverse. -/
def quotedFrom? : Nat → List Char → List Char → Option (List Char × List Char)
  | 0, _, _ => none
  | _ + 1, seen, '"' :: rest => some (seen.reverse, rest)
  | more + 1, seen, cs =>
    match quotedChar? cs with
    | some (c, rest) => quotedFrom? more (c :: seen) rest
    | none => none

/-- Reads a text behind its opening quote and returns what follows the closing one. -/
def quoted? (cs : List Char) : Option (List Char × List Char) := quotedFrom? cs.length [] cs

/-! ### Passing over

A text that nobody reads is only checked for its form: surrogates need no partner. -/

/-- What follows the next character or escape between quotes. -/
def passQuotedChar? : List Char → Option (List Char)
  | '\\' :: 'u' :: rest => (hexQuad? rest).map (·.2)
  | '\\' :: letter :: rest => (letterEscape? letter).map fun _ => rest
  | c :: rest => if isPlain c then some rest else none
  | [] => none

/-- Passes over at most as many characters as the first argument says, up to the closing quote. -/
def passQuotedFrom? : Nat → List Char → Option (List Char)
  | 0, _ => none
  | _ + 1, '"' :: rest => some rest
  | more + 1, cs =>
    match passQuotedChar? cs with
    | some rest => passQuotedFrom? more rest
    | none => none

/-- What follows a text, seen from behind its opening quote. -/
def passQuoted? (cs : List Char) : Option (List Char) := passQuotedFrom? cs.length cs

/-! ### Writing -/

/-- A hexadecimal digit in lower case. -/
def hexDigit (n : Nat) : Char :=
  if n < 10 then Char.ofNat ('0'.toNat + n) else Char.ofNat ('a'.toNat + (n - 10))

/-- A character as it is written between quotes. -/
def quoteChar (c : Char) : List Char :=
  match c with
  | '"' => ['\\', '"']
  | '\\' => ['\\', '\\']
  | '\x08' => ['\\', 'b']
  | '\x0c' => ['\\', 'f']
  | '\n' => ['\\', 'n']
  | '\r' => ['\\', 'r']
  | '\t' => ['\\', 't']
  | c =>
    if c.toNat < 0x20 then
      ['\\', 'u', '0', '0', hexDigit (c.toNat / 16), hexDigit (c.toNat % 16)]
    else [c]

/-- A text in quotes. -/
def quote (cs : List Char) : List Char := '"' :: cs.flatMap quoteChar ++ ['"']

end MeshConsole.Json
