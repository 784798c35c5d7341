import Understudy.Text.Blank
import Understudy.Text.Digits

/-!
# Reading decimals

A setting or an argument may spell a float in many ways: a sign, digits with
single underscores between them, a point, an exponent, or a word for what is no
number. The decimal is rounded once, to the nearest float.

## Main definitions

* `Spelling`: the number a text spells, before rounding.
* `spelling?`: reads one.
* `read?`: the float a text spells.
* `readLoosely?`: the same where underscores may stand between any characters.
-/

namespace Understudy.Decimal

/-- The number a text spells: a word, or `± digits * 10 ^ power`. -/
inductive Spelling where
  | nan
  | infinite (negative : Bool)
  | number (negative : Bool) (digits : Nat) (power : Int)
  deriving Repr, DecidableEq

/-- A run of digits, with single underscores between them: its value, how many
digits it has, and what follows. `prior` says that the last character was a
digit. -/
def digitRun (value count : Nat) (prior : Bool) : List Char → Nat × Nat × List Char
  | [] => (value, count, [])
  | c :: rest =>
    if c.isDigit then digitRun (10 * value + (c.toNat - '0'.toNat)) (count + 1) true rest
    else if c = '_' ∧ prior then
      match rest with
      | d :: _ => if d.isDigit then digitRun value count false rest else (value, count, c :: rest)
      | [] => (value, count, [c])
    else (value, count, c :: rest)

/-- A leading sign, if there is one. -/
def signed : List Char → Bool × List Char
  | '-' :: rest => (true, rest)
  | '+' :: rest => (false, rest)
  | cs => (false, cs)

/-- The exponent that ends a decimal; no text at all is the exponent zero. -/
def exponent? : List Char → Option Int
  | [] => some 0
  | c :: rest =>
    if c = 'e' ∨ c = 'E' then
      let (negative, digits) := signed rest
      match digitRun 0 0 false digits with
      | (value, count, []) =>
        if count = 0 then none else some (if negative then -Int.ofNat value else Int.ofNat value)
      | _ => none
    else none

/-- An unsigned decimal: digits before the point, after it, or both. -/
def magnitude? (negative : Bool) (cs : List Char) : Option Spelling :=
  let (whole, wholeCount, rest) := digitRun 0 0 false cs
  match rest with
  | '.' :: after =>
    let (digits, places, tail) := digitRun whole 0 false after
    if wholeCount + places = 0 then none
    else (exponent? tail).map fun e => .number negative digits (e - Int.ofNat places)
  | tail =>
    if wholeCount = 0 then none
    else (exponent? tail).map fun e => .number negative whole e

/-- The number a text spells, read with nothing around it. -/
def spelling? (s : String) : Option Spelling :=
  let (negative, body) := signed s.toList
  let word := String.ofList (body.map Char.toLower)
  if word = "inf" ∨ word = "infinity" then some (.infinite negative)
  else if word = "nan" then some .nan
  else magnitude? negative body

/-- The float nearest to what is spelled. Beyond the range of floats that is an
infinity or a zero. -/
def Spelling.toFloat : Spelling → Float
  | .nan => 0.0 / 0.0
  | .infinite negative => if negative then -1.0 / 0.0 else 1.0 / 0.0
  | .number negative digits power =>
    let size :=
      if digits = 0 then 0.0
      -- Powers this far out are beyond the floats whatever the digits are.
      else if power < -1200 - Int.ofNat (Nat.log2 digits) then 0.0
      else if 400 < power then 1.0 / 0.0
      else if 0 ≤ power then Float.ofNat (digits * Nat.pow 10 power.toNat)
      else Float.ofScientific digits true power.natAbs
    if negative then -size else size

/-- The float a text spells, in the digits of any script, white space around it
allowed. -/
def read? (s : String) : Option Float :=
  let cs := (Text.trimBoth Text.isWhiteSpace s.toList).map Text.westernDigit
  (spelling? (String.ofList cs)).map Spelling.toFloat

/-- Whether two underscores stand side by side. -/
def doubledUnderscore : List Char → Bool
  | '_' :: '_' :: _ => true
  | _ :: rest => doubledUnderscore rest
  | [] => false

/-- Whether every underscore stands alone, between two other characters. -/
def spacedUnderscores (cs : List Char) : Bool :=
  cs.head? != some '_' && cs.getLast? != some '_' && !doubledUnderscore cs

/-- The float a text spells in the digits from `0` to `9`, with white space around it or
with single underscores between any of its characters, but not with both. -/
def readLoosely? (s : String) : Option Float :=
  let cs := s.toList
  let plain? :=
    if cs.contains '_' then
      if spacedUnderscores cs then some (cs.filter (· != '_')) else none
    else some (Text.trimBoth Text.isWhiteSpace cs)
  (plain?.bind fun plain => spelling? (String.ofList plain)).map Spelling.toFloat

end Understudy.Decimal
