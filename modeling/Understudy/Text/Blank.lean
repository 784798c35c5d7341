/-!
# Blank characters

An identifier must hold more than blanks. Two classes of blanks occur: the
characters Unicode calls white space, and those together with the four separators
`U+001C` to `U+001F`.

## Main definitions

* `isWhiteSpace`, `isBlank`: the two classes.
* `isBlankText`: whether a text holds nothing but blanks.
-/

namespace Understudy.Text

/-- White space by Unicode's property of that name. -/
def isWhiteSpace (c : Char) : Bool :=
  let n := c.toNat
  (0x9 ≤ n && n ≤ 0xd) || n == 0x20 || n == 0x85 || n == 0xa0 || n == 0x1680 ||
    (0x2000 ≤ n && n ≤ 0x200a) || n == 0x2028 || n == 0x2029 || n == 0x202f ||
    n == 0x205f || n == 0x3000

/-- White space, or a separator of files, groups, records or units. -/
def isBlank (c : Char) : Bool :=
  isWhiteSpace c || (0x1c ≤ c.toNat && c.toNat ≤ 0x1f)

/-- Whether a text is empty or holds nothing but blanks. -/
def isBlankText (s : String) : Bool := s.toList.all isBlank

/-- The characters without those at either end that satisfy `p`. -/
def trimBoth (p : Char → Bool) (cs : List Char) : List Char :=
  ((cs.dropWhile p).reverse.dropWhile p).reverse

/-- A text is blank exactly when it has no character that is not. -/
theorem isBlankText_iff (s : String) :
    isBlankText s = true ↔ ∀ c ∈ s.toList, isBlank c = true := by
  simp [isBlankText]

end Understudy.Text
