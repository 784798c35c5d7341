import Understudy.Text.Category
import Understudy.Text.Lowercase

/-!
# Upper case

Most characters in upper case are those whose lower-case counterpart they are. The others
are told one by one: some have several characters in upper case, and some share theirs
with another character.

## Main definitions

* `upper`: a text in upper case.
* `title`: a text with every word in title case.
* `fold`: a text in which the case makes no difference.
-/

namespace Understudy.Text

/-- The code points whose upper case does not follow from the lower case of others. -/
def upperExceptions : List (Nat × List Nat) := [
    (0xb5, [0x39c]), (0xdf, [0x53, 0x53]), (0x131, [0x49]), (0x149, [0x2bc, 0x4e]),
    (0x17f, [0x53]), (0x1c5, [0x1c4]), (0x1c8, [0x1c7]), (0x1cb, [0x1ca]), (0x1f0, [0x4a, 0x30c]),
    (0x1f2, [0x1f1]), (0x345, [0x399]), (0x390, [0x399, 0x308, 0x301]),
    (0x3b0, [0x3a5, 0x308, 0x301]), (0x3c2, [0x3a3]), (0x3d0, [0x392]), (0x3d1, [0x398]),
    (0x3d5, [0x3a6]), (0x3d6, [0x3a0]), (0x3f0, [0x39a]), (0x3f1, [0x3a1]), (0x3f5, [0x395]),
    (0x587, [0x535, 0x552]), (0x1c80, [0x412]), (0x1c81, [0x414]), (0x1c82, [0x41e]),
    (0x1c83, [0x421]), (0x1c84, [0x422]), (0x1c85, [0x422]), (0x1c86, [0x42a]), (0x1c87, [0x462]),
    (0x1c88, [0xa64a]), (0x1e96, [0x48, 0x331]), (0x1e97, [0x54, 0x308]), (0x1e98, [0x57, 0x30a]),
    (0x1e99, [0x59, 0x30a]), (0x1e9a, [0x41, 0x2be]), (0x1e9b, [0x1e60]),
    (0x1f50, [0x3a5, 0x313]), (0x1f52, [0x3a5, 0x313, 0x300]), (0x1f54, [0x3a5, 0x313, 0x301]),
    (0x1f56, [0x3a5, 0x313, 0x342]), (0x1f80, [0x1f08, 0x399]), (0x1f81, [0x1f09, 0x399]),
    (0x1f82, [0x1f0a, 0x399]), (0x1f83, [0x1f0b, 0x399]), (0x1f84, [0x1f0c, 0x399]),
    (0x1f85, [0x1f0d, 0x399]), (0x1f86, [0x1f0e, 0x399]), (0x1f87, [0x1f0f, 0x399]),
    (0x1f88, [0x1f08, 0x399]), (0x1f89, [0x1f09, 0x399]), (0x1f8a, [0x1f0a, 0x399]),
    (0x1f8b, [0x1f0b, 0x399]), (0x1f8c, [0x1f0c, 0x399]), (0x1f8d, [0x1f0d, 0x399]),
    (0x1f8e, [0x1f0e, 0x399]), (0x1f8f, [0x1f0f, 0x399]), (0x1f90, [0x1f28, 0x399]),
    (0x1f91, [0x1f29, 0x399]), (0x1f92, [0x1f2a, 0x399]), (0x1f93, [0x1f2b, 0x399]),
    (0x1f94, [0x1f2c, 0x399]), (0x1f95, [0x1f2d, 0x399]), (0x1f96, [0x1f2e, 0x399]),
    (0x1f97, [0x1f2f, 0x399]), (0x1f98, [0x1f28, 0x399]), (0x1f99, [0x1f29, 0x399]),
    (0x1f9a, [0x1f2a, 0x399]), (0x1f9b, [0x1f2b, 0x399]), (0x1f9c, [0x1f2c, 0x399]),
    (0x1f9d, [0x1f2d, 0x399]), (0x1f9e, [0x1f2e, 0x399]), (0x1f9f, [0x1f2f, 0x399]),
    (0x1fa0, [0x1f68, 0x399]), (0x1fa1, [0x1f69, 0x399]), (0x1fa2, [0x1f6a, 0x399]),
    (0x1fa3, [0x1f6b, 0x399]), (0x1fa4, [0x1f6c, 0x399]), (0x1fa5, [0x1f6d, 0x399]),
    (0x1fa6, [0x1f6e, 0x399]), (0x1fa7, [0x1f6f, 0x399]), (0x1fa8, [0x1f68, 0x399]),
    (0x1fa9, [0x1f69, 0x399]), (0x1faa, [0x1f6a, 0x399]), (0x1fab, [0x1f6b, 0x399]),
    (0x1fac, [0x1f6c, 0x399]), (0x1fad, [0x1f6d, 0x399]), (0x1fae, [0x1f6e, 0x399]),
    (0x1faf, [0x1f6f, 0x399]), (0x1fb2, [0x1fba, 0x399]), (0x1fb3, [0x391, 0x399]),
    (0x1fb4, [0x386, 0x399]), (0x1fb6, [0x391, 0x342]), (0x1fb7, [0x391, 0x342, 0x399]),
    (0x1fbc, [0x391, 0x399]), (0x1fbe, [0x399]), (0x1fc2, [0x1fca, 0x399]),
    (0x1fc3, [0x397, 0x399]), (0x1fc4, [0x389, 0x399]), (0x1fc6, [0x397, 0x342]),
    (0x1fc7, [0x397, 0x342, 0x399]), (0x1fcc, [0x397, 0x399]), (0x1fd2, [0x399, 0x308, 0x300]),
    (0x1fd3, [0x399, 0x308, 0x301]), (0x1fd6, [0x399, 0x342]), (0x1fd7, [0x399, 0x308, 0x342]),
    (0x1fe2, [0x3a5, 0x308, 0x300]), (0x1fe3, [0x3a5, 0x308, 0x301]), (0x1fe4, [0x3a1, 0x313]),
    (0x1fe6, [0x3a5, 0x342]), (0x1fe7, [0x3a5, 0x308, 0x342]), (0x1ff2, [0x1ffa, 0x399]),
    (0x1ff3, [0x3a9, 0x399]), (0x1ff4, [0x38f, 0x399]), (0x1ff6, [0x3a9, 0x342]),
    (0x1ff7, [0x3a9, 0x342, 0x399]), (0x1ffc, [0x3a9, 0x399]), (0xfb00, [0x46, 0x46]),
    (0xfb01, [0x46, 0x49]), (0xfb02, [0x46, 0x4c]), (0xfb03, [0x46, 0x46, 0x49]),
    (0xfb04, [0x46, 0x46, 0x4c]), (0xfb05, [0x53, 0x54]), (0xfb06, [0x53, 0x54]),
    (0xfb13, [0x544, 0x546]), (0xfb14, [0x544, 0x535]), (0xfb15, [0x544, 0x53b]),
    (0xfb16, [0x54e, 0x546]), (0xfb17, [0x544, 0x53d])]

/-- The code point that has a given one as its lower-case counterpart; the first of them. -/
def capitalOf? (code : Nat) : Option Nat :=
  lowerRuns.findSome? fun (first, last, step, distance) =>
    let capital := (Int.ofNat code - distance).toNat
    if first ≤ capital && capital ≤ last && (capital - first) % step == 0 then some capital
    else none

/-- A character in upper case. -/
def upperChar (c : Char) : List Char :=
  if c.toNat < 0x80 then [c.toUpper]
  else
    match upperExceptions.lookup c.toNat with
    | some codes => codes.map Char.ofNat
    | none => [Char.ofNat ((capitalOf? c.toNat).getD c.toNat)]

/-- A text in upper case. -/
def upper (s : String) : String := String.ofList (s.toList.flatMap upperChar)

/-- A character at the beginning of a word. Of several characters in upper case, only the
first one stays so. -/
def titleChar (c : Char) : List Char :=
  match upperChar c with
  | first :: rest => first :: lowerChars [first] rest
  | [] => []

/-- Words in title case, given whether the character before belongs to a word. -/
def titleChars (within : Bool) (before : List Char) : List Char → List Char
  | [] => []
  | c :: rest =>
    let shown :=
      if within then (lowerChars before (c :: rest)).take (lowerChars [] [c]).length
      else titleChar c
    shown ++ titleChars (isCased c) (c :: before) rest

/-- A text with every word in title case. -/
def title (s : String) : String := String.ofList (titleChars false [] s.toList)

/-- A text with its first character in title case and the others in lower case. -/
def capitalize (s : String) : String :=
  match s.toList with
  | [] => ""
  | c :: rest => String.ofList (titleChar c ++ lowerChars [c] rest)

/-- Characters with upper and lower case exchanged, given those before. -/
def swapChars (before : List Char) : List Char → List Char
  | [] => []
  | c :: rest =>
    let shown :=
      if isUpperCase c then (lowerChars before (c :: rest)).take (lowerChars [] [c]).length
      else if isLowerCase c then upperChar c
      else [c]
    shown ++ swapChars (c :: before) rest

/-- A text with upper and lower case exchanged. -/
def swapCase (s : String) : String := String.ofList (swapChars [] s.toList)

/-- A character in which the case makes no difference. Letters of the Cherokee script are
told by their capitals. -/
def foldChar (c : Char) : List Char :=
  let n := c.toNat
  if c = 'ı' then [c]
  else if (0x13a0 ≤ n ∧ n ≤ 0x13fd) ∨ (0xab70 ≤ n ∧ n ≤ 0xabbf) then upperChar c
  else ((lowerChars [] [c]).flatMap upperChar).flatMap fun d => lowerChars [] [d]

/-- A text in which the case makes no difference. -/
def fold (s : String) : String := String.ofList (s.toList.flatMap foldChar)

end Understudy.Text
