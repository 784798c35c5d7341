import Understudy.Text.Blank

/-!
# Parts of texts

Looking for one text within another, taking a text apart at separators, blanks or the
ends of lines, and padding it. All of it works on characters.

## Main definitions

* `occurrence?`, `occurrences`: where a part begins.
* `substitute`: a text with a part replaced.
* `splitAt`, `splitBlank`, `splitLines`: the pieces of a text.
* `expandTabs`: a text with tabulators filled up.

## Main statements

* `flatten_splitLines`: with their ends kept, the lines make up the text.
-/

namespace Understudy.Text

/-- The first place from which a part stands in a text, among those from a place on. -/
def occurrence? (part : List Char) (start : Nat) : List Char → Option Nat
  | [] => if part.isEmpty then some start else none
  | c :: rest =>
    if part.isPrefixOf (c :: rest) then some start else occurrence? part (start + 1) rest

/-- The last of the places between two at which a part stands in a text. -/
def lastOccurrence? (part text : List Char) (start : Nat) : Option Nat :=
  ((List.range (text.length + 1)).reverse.find? fun i => part.isPrefixOf (text.drop i)).map
    (· + start)

/-- How often a part stands in a text, without overlaps, given how many characters of the
one that was found last are still to be passed. -/
def occurrences (part : List Char) : Nat → List Char → Nat
  | _, [] => 0
  | passing + 1, _ :: rest => occurrences part passing rest
  | 0, c :: rest =>
    if part.isPrefixOf (c :: rest) then occurrences part (part.length - 1) rest + 1
    else occurrences part 0 rest

/-- The pieces between the occurrences of a separator that is not empty, the first `most`
of them, given the beginning of the piece in reverse and how many characters of a separator
are still to be passed. -/
def splitFrom (separator : List Char) :
    Option Nat → List Char → Nat → List Char → List (List Char)
  | _, piece, _, [] => [piece.reverse]
  | most, piece, passing + 1, _ :: rest => splitFrom separator most piece passing rest
  | most, piece, 0, c :: rest =>
    if most != some 0 && separator.isPrefixOf (c :: rest) then
      piece.reverse :: splitFrom separator (most.map (· - 1)) [] (separator.length - 1) rest
    else splitFrom separator most (c :: piece) 0 rest

/-- The pieces between the first `most` occurrences of a separator that is not empty. -/
def splitAt (separator : List Char) (most : Option Nat) (text : List Char) : List (List Char) :=
  splitFrom separator most [] 0 text

/-- The pieces between blanks. After the first `most` of them, the rest is one piece. -/
def splitBlankFrom : Option Nat → List Char → List Char → List (List Char)
  | _, piece, [] => if piece.isEmpty then [] else [piece.reverse]
  | most, [], c :: rest =>
    if isBlank c then splitBlankFrom most [] rest
    else if most = some 0 then [c :: rest]
    else splitBlankFrom most [c] rest
  | most, p :: piece, c :: rest =>
    if isBlank c then (p :: piece).reverse :: splitBlankFrom (most.map (· - 1)) [] rest
    else splitBlankFrom most (c :: p :: piece) rest

/-- The pieces between blanks. -/
def splitBlank (most : Option Nat) (text : List Char) : List (List Char) :=
  splitBlankFrom most [] text

/-- The pieces of a text that is taken apart from its end, given how it is taken apart from
its beginning. -/
def fromEnd (split : List Char → List (List Char)) (text : List Char) : List (List Char) :=
  ((split text.reverse).map List.reverse).reverse

/-- A text with a tabulator filled up to the next column that is a multiple of a width,
given the column reached. -/
def expandTabs (width : Nat) : Nat → List Char → List Char
  | _, [] => []
  | column, '\t' :: rest =>
    let blanks := if width = 0 then 0 else width - column % width
    List.replicate blanks ' ' ++ expandTabs width (column + blanks) rest
  | column, c :: rest =>
    c :: expandTabs width (if c = '\n' ∨ c = '\r' then 0 else column + 1) rest

/-- A text with the first `most` occurrences of a part replaced. An empty part stands
before every character and at the end. -/
def substitute (old new : List Char) (most : Option Nat) (text : List Char) : List Char :=
  if old.isEmpty then between most text
  else new.intercalate (splitAt old most text)
where
  /-- A text put before every character and at the end. -/
  between : Option Nat → List Char → List Char
    | some 0, cs => cs
    | _, [] => new
    | most, c :: rest => new ++ c :: between (most.map (· - 1)) rest

/-- The characters that end a line. -/
def endsLine (c : Char) : Bool :=
  let n := c.toNat
  (0xa ≤ n && n ≤ 0xd) || (0x1c ≤ n && n ≤ 0x1e) || n == 0x85 || n == 0x2028 || n == 0x2029

/-- The lines of a text with their ends, given the beginning of the line in reverse. A
return and a feed after it are one end. -/
def splitLinesFrom : List Char → List Char → List (List Char)
  | line, [] => if line.isEmpty then [] else [line.reverse]
  | line, '\r' :: '\n' :: rest => (line.reverse ++ ['\r', '\n']) :: splitLinesFrom [] rest
  | line, c :: rest =>
    if endsLine c then (line.reverse ++ [c]) :: splitLinesFrom [] rest
    else splitLinesFrom (c :: line) rest

/-- The lines of a text with their ends. -/
def splitLines (text : List Char) : List (List Char) := splitLinesFrom [] text

/-- A line without its end. -/
def withoutEnd (line : List Char) : List Char := (line.reverse.dropWhile endsLine).reverse

theorem flatten_splitLinesFrom (line text : List Char) :
    (splitLinesFrom line text).flatten = line.reverse ++ text := by
  fun_induction splitLinesFrom line text with
  | case1 line h => simp_all
  | case2 line h => simp
  | case3 line rest ih => simp [ih]
  | case4 line c rest _ _ ih => simp [ih]
  | case5 line c rest _ _ ih => simp [ih]

/-- With their ends kept, the lines make up the text. -/
theorem flatten_splitLines (text : List Char) : (splitLines text).flatten = text := by
  simp [splitLines, flatten_splitLinesFrom]

end Understudy.Text
