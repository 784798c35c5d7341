import Understudy.Settings
import Understudy.Text.Lowercase

/-!
# Settings on a command line

A setting can be given on a command line by a flag, which is its name after two dashes.
Its value is the next word, or stands in the same word after an equals sign. A flag can
be cut short as long as one setting only begins like that.

## Main definitions

* `Arguments.read?`: the settings that words give.
-/

namespace Understudy.Arguments

/-- Whether a word is a number below zero, which is no flag. -/
def isNegative (word : String) : Bool :=
  match word.toList with
  | '-' :: rest =>
    let whole := rest.takeWhile Char.isDigit
    match rest.dropWhile Char.isDigit with
    | [] => !whole.isEmpty
    | '.' :: parts => !parts.isEmpty && parts.all Char.isDigit
    | _ => false
  | _ => false

/-- Whether a word can be the value of a flag before it. -/
def isValue (word : String) : Bool :=
  match word.toList with
  | '-' :: rest => rest.isEmpty || isNegative word || rest.contains ' '
  | _ => true

/-- The setting that a flag names, by its name or by the beginning of one name only. -/
def settingOf? (exact : Bool) (flag : String) : Option Setting :=
  let name := if exact then flag else Text.lower flag
  match Setting.ofWord? name with
  | some s => some s
  | none =>
    match Setting.all.filter fun s => name.toList.isPrefixOf s.word.toList with
    | [s] => some s
    | _ => none

/-- A flag with the value in the same word, if there is one. -/
def splitFlag (word : String) : String × Option String :=
  let cs := word.toList
  match cs.dropWhile (· != '=') with
  | _ :: value => (String.ofList (cs.takeWhile (· != '=')), some (String.ofList value))
  | [] => (word, none)

/-- The settings that words give, in order, if every word can be made sense of. -/
def read? (exact : Bool) : List String → Option (List (Setting × String))
  | [] => some []
  | word :: rest =>
    match word.toList with
    | '-' :: '-' :: name =>
      let (flag, value?) := splitFlag (String.ofList name)
      match settingOf? exact flag, value?, rest with
      | some s, some value, rest => ((s, value) :: ·) <$> read? exact rest
      | some s, none, value :: rest =>
        if isValue value then ((s, value) :: ·) <$> read? exact rest else none
      | _, _, _ => none
    | _ => none

end Understudy.Arguments
