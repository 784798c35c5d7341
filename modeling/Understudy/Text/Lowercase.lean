import Understudy.Text.Printable
import Understudy.Text.CaseTable

/-!
# Lower case

Names of variables are compared in lower case, and so is the name of an
interpreter written. The full rules of Unicode apply: one capital has two
lower-case characters, and a sigma at the end of a word takes its final form.

## Main definitions

* `lower`: a text in lower case.
-/

namespace Understudy.Text

/-- The lower-case counterpart of one code point, where the rest of the text does
not matter. -/
def lowerCode (code : Nat) : Nat :=
  match lowerRuns.find? fun (first, last, step, _) =>
      first ≤ code && code ≤ last && (code - first) % step == 0 with
  | some (_, _, _, distance) => (Int.ofNat code + distance).toNat
  | none => code

/-- Whether the nearest character that counts, going through `cs` from the front,
has a case. -/
def meetsCased : List Char → Bool
  | [] => false
  | c :: rest =>
    if inRanges caseIgnorable c.toNat then meetsCased rest else inRanges cased c.toNat

/-- Lower case, given the characters before (nearest first) and after. A capital
sigma is final when a cased character precedes it and none follows. -/
def lowerChars (before : List Char) : List Char → List Char
  | [] => []
  | c :: rest =>
    let lowered :=
      if c = 'Σ' then [if meetsCased before && !meetsCased rest then 'ς' else 'σ']
      else if c = 'İ' then ['i', Char.ofNat 0x307]
      else if c.toNat < 0x80 then [c.toLower]
      else [Char.ofNat (lowerCode c.toNat)]
    lowered ++ lowerChars (c :: before) rest

/-- A text in lower case. -/
def lower (s : String) : String := String.ofList (lowerChars [] s.toList)

end Understudy.Text
