import Understudy.Text.Printable

/-!
# Quoted texts

A text inside a message stands between quotes. Single quotes are preferred; a
text that holds single quotes but no double ones gets double quotes. The quote
itself, the backslash, line breaks, tabs and every character without a visible
form are written as escapes.

## Main definitions

* `hex`: a code point in lower-case hexadecimal digits of a fixed width.
* `quoted`, `quotedBytes`: the quoted form of a text, and of bytes.
-/

namespace Understudy.Text

/-- The last `width` hexadecimal digits of a number. -/
def hex : Nat → Nat → List Char
  | 0, _ => []
  | width + 1, n => hex width (n / 16) ++ [Nat.digitChar (n % 16)]

/-- A character by its code point. -/
def numbered (c : Char) : List Char :=
  if c.toNat < 0x100 then '\\' :: 'x' :: hex 2 c.toNat
  else if c.toNat < 0x10000 then '\\' :: 'u' :: hex 4 c.toNat
  else '\\' :: 'U' :: hex 8 c.toNat

/-- One character of a text between the given quotes. -/
def escape (quote c : Char) : List Char :=
  if c = quote ∨ c = '\\' then ['\\', c]
  else if c = '\n' then ['\\', 'n']
  else if c = '\r' then ['\\', 'r']
  else if c = '\t' then ['\\', 't']
  else if isPrintable c then [c]
  else numbered c

/-- The quote that a text is put between. -/
def quoteFor (s : String) : Char :=
  if s.toList.contains '\'' && !s.toList.contains '"' then '"' else '\''

/-- The quoted form of a text. -/
def quoted (s : String) : String :=
  let quote := quoteFor s
  String.ofList (quote :: s.toList.flatMap (escape quote) ++ [quote])

/-- The quoted form of bytes. Those below 128 are shown as characters. -/
def quotedBytes (bytes : List UInt8) : String :=
  let chars := bytes.map fun b => Char.ofNat b.toNat
  let quote := quoteFor (String.ofList chars)
  let shown := fun c : Char => if c.toNat < 0x80 then escape quote c else numbered c
  String.ofList ('b' :: quote :: chars.flatMap shown ++ [quote])

end Understudy.Text
