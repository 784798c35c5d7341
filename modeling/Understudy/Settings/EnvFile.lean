import Understudy.OrderedMap
import Understudy.Text.Blank

/-!
# Files of variables

A file of variables binds names to values, one binding after the other. A value
stands bare until the end of its line, or between quotes, where it may go on over
several lines. A statement that fits no form is dropped with the rest of its line,
and reading goes on after it.

Values may mention other variables. A mention is replaced by the value of that
name, taken from the bindings already resolved, then from the surroundings, then
from the default that the mention itself gives.

## Main definitions

* `Statement`: what one step of reading found.
* `statements`: everything a text holds.
* `resolve`: the bindings with all mentions replaced.
-/

namespace Understudy.EnvFile

/-- A blank within a line. -/
def isGap (c : Char) : Bool := Text.isBlank c && c != '\n'

/-- The text with every line end turned into one newline. -/
def normalize : List Char → List Char
  | '\r' :: '\n' :: rest => '\n' :: normalize rest
  | '\r' :: rest => '\n' :: normalize rest
  | c :: rest => c :: normalize rest
  | [] => []

/-- What one step of reading found. -/
inductive Statement where
  /-- A name with its value, or with no value at all. -/
  | binding (name : String) (value : Option String)
  /-- A comment, or the end of the text. -/
  | nothing
  /-- Something that fits no form. -/
  | malformed
  deriving Repr, DecidableEq

/-! ## The parts of a statement

Each part takes the characters ahead and returns what it read and what is left.
Where a part does not fit, it returns what is left at that place.
-/

/-- Drops a leading keyword with the blanks after it. -/
def dropExport (cs : List Char) : List Char :=
  match cs with
  | 'e' :: 'x' :: 'p' :: 'o' :: 'r' :: 't' :: c :: rest =>
    if isGap c then rest.dropWhile isGap else cs
  | _ => cs

/-- The name of a binding: between single quotes, or a run of characters that cannot
end it. -/
def readName (cs : List Char) : Option (String × List Char) :=
  match cs with
  | '\'' :: rest =>
    let name := rest.takeWhile (· != '\'')
    match rest.dropWhile (· != '\'') with
    | _ :: after => if name.isEmpty then none else some (String.ofList name, after)
    | [] => none
  | _ =>
    let stops := fun c => c == '=' || c == '#' || Text.isBlank c
    let name := cs.takeWhile (!stops ·)
    if name.isEmpty then none else some (String.ofList name, cs.dropWhile (!stops ·))

/-- The characters up to an unprotected quote, and what follows it. A backslash
protects the character after it. -/
def upToQuote (quote : Char) : List Char → Option (List Char × List Char)
  | [] => none
  | '\\' :: c :: rest => (upToQuote quote rest).map fun (read, left) => ('\\' :: c :: read, left)
  | c :: rest =>
    if c = quote then some ([], rest)
    else (upToQuote quote rest).map fun (read, left) => (c :: read, left)

/-- The character an escape between double quotes stands for. -/
def doubleEscape? : Char → Option Char
  | '\\' => some '\\'
  | '\'' => some '\''
  | '"' => some '"'
  | 'a' => some (Char.ofNat 7)
  | 'b' => some (Char.ofNat 8)
  | 'f' => some (Char.ofNat 12)
  | 'n' => some '\n'
  | 'r' => some '\r'
  | 't' => some '\t'
  | 'v' => some (Char.ofNat 11)
  | _ => none

/-- The character an escape between single quotes stands for. -/
def singleEscape? : Char → Option Char
  | '\\' => some '\\'
  | '\'' => some '\''
  | _ => none

/-- A quoted value with its escapes replaced; a backslash that starts none stays. -/
def unescape (escape? : Char → Option Char) : List Char → List Char
  | '\\' :: c :: rest =>
    match escape? c with
    | some d => d :: unescape escape? rest
    | none => '\\' :: unescape escape? (c :: rest)
  | c :: rest => c :: unescape escape? rest
  | [] => []
termination_by cs => cs.length

/-- A bare value without the comment that may follow it: it ends at the first run of
blanks before a `#`. -/
def dropComment : List Char → List Char
  | [] => []
  | c :: rest =>
    if Text.isBlank c then
      match rest.dropWhile Text.isBlank with
      | '#' :: _ => []
      | _ => c :: dropComment rest
    else c :: dropComment rest

/-- The value after the equals sign and the blanks after it; `spaced` says that
there were some. -/
def readValue (spaced : Bool) (cs : List Char) : Option (String × List Char) :=
  match cs with
  | '\'' :: rest =>
    (upToQuote '\'' rest).map fun (read, left) =>
      (String.ofList (unescape singleEscape? read), left)
  | '"' :: rest =>
    (upToQuote '"' rest).map fun (read, left) =>
      (String.ofList (unescape doubleEscape? read), left)
  | _ =>
    let line := cs.takeWhile (· != '\n')
    let left := cs.dropWhile (· != '\n')
    if spaced && line.head? == some '#' then some ("", left)
    else
      let value := (dropComment line).reverse.dropWhile Text.isBlank
      some (String.ofList value.reverse, left)

/-- The end of a statement: a comment may stand before the end of the line. -/
def readEnd (cs : List Char) : Option (List Char) :=
  let rest := cs.dropWhile isGap
  let after := match rest with
    | '#' :: _ => rest.dropWhile (· != '\n')
    | _ => rest
  match after with
  | [] => some []
  | '\n' :: left => some left
  | _ => none

/-- What is left once the rest of a line is dropped. -/
def dropLine (cs : List Char) : List Char := (cs.dropWhile (· != '\n')).drop 1

/-- A malformed statement, seen at a place of the text. -/
def malformedAt (cs : List Char) : Statement × List Char := (.malformed, dropLine cs)

/-- One statement from the characters ahead, and what is left. -/
def readStatement (cs : List Char) : Statement × List Char :=
  let start := cs.dropWhile Text.isBlank
  if start.isEmpty then (.nothing, [])
  else
    let body := dropExport start
    match body with
    | '#' :: _ =>
      match readEnd body with
      | some left => (.nothing, left)
      | none => malformedAt body
    | _ =>
      match readName body with
      | none => malformedAt body
      | some (name, afterName) =>
        match afterName.dropWhile isGap with
        | '=' :: afterEquals =>
          let valueAt := afterEquals.dropWhile isGap
          let spaced := match afterEquals with
            | c :: _ => isGap c
            | [] => false
          match readValue spaced valueAt with
          | none => malformedAt valueAt
          | some (value, afterValue) =>
            match readEnd afterValue with
            | some left => (.binding name (some value), left)
            | none => malformedAt (afterValue.dropWhile isGap)
        | rest =>
          match readEnd rest with
          | some left => (.binding name none, left)
          | none => malformedAt (rest.dropWhile isGap)

/-- Every statement of a text with the line it begins on. A statement takes at least
one character, which bounds their number. -/
def statementsFrom (line : Nat) (cs : List Char) : List (Nat × Statement) :=
  if cs.isEmpty then []
  else
    let (statement, left) := readStatement cs
    if left.length < cs.length then
      let lines := cs.count '\n' - left.count '\n'
      (line, statement) :: statementsFrom (line + lines) left
    else [(line, statement)]
termination_by cs.length

/-- The text without the mark that may stand at its beginning to tell its encoding. -/
def dropMark : List Char → List Char
  | c :: rest => if c.toNat = 0xfeff then rest else c :: rest
  | [] => []

/-- Every statement of a text with the line it begins on. -/
def statements (text : String) : List (Nat × Statement) :=
  statementsFrom 1 (normalize (dropMark text.toList))

/-- The bindings of a text, in order. -/
def bindings (text : String) : List (String × Option String) :=
  (statements text).filterMap fun
    | (_, .binding name value) => some (name, value)
    | _ => none

/-- The lines on which a statement begins that fits no form. -/
def malformedLines (text : String) : List Nat :=
  (statements text).filterMap fun
    | (line, .malformed) => some line
    | _ => none

/-! ## Mentions of other variables -/

/-- A mention at the front, after its opening: the name, the default, and what
follows the closing brace. -/
def readMention (cs : List Char) : Option (String × Option String × List Char) :=
  let stops := fun c => c == '\x7d' || c == ':'
  let name := String.ofList (cs.takeWhile (!stops ·))
  match cs.dropWhile (!stops ·) with
  | '\x7d' :: rest => some (name, none, rest)
  | ':' :: '-' :: rest =>
    match rest.dropWhile (· != '\x7d') with
    | _ :: after =>
      some (name, some (String.ofList (rest.takeWhile (· != '\x7d'))), after)
    | [] => none
  | _ => none

/-- A value with its mentions replaced by what they are looked up as. -/
def replaceMentions (lookUp : String → Option (Option String)) : List Char → List Char
  | '$' :: '\x7b' :: inner =>
    match readMention inner with
    | some (name, fallback, after) =>
      let value := match lookUp name with
        | some found => found.getD ""
        | none => fallback.getD ""
      -- What follows a mention is shorter than what the mention stood in front of.
      if after.length < inner.length + 2 then value.toList ++ replaceMentions lookUp after
      else value.toList
    | none => '$' :: replaceMentions lookUp ('\x7b' :: inner)
  | c :: rest => c :: replaceMentions lookUp rest
  | [] => []
termination_by cs => cs.length

/-- The values a file gives, in the order in which its names first occur. A mention
finds the bindings before its own, then the surroundings. -/
def resolve (surroundings : List (String × String)) (found : List (String × Option String)) :
    OrderedMap String (Option String) :=
  found.foldl
    (fun resolved (name, value) =>
      let lookUp := fun key =>
        match resolved.get? key with
        | some earlier => some earlier
        | none => (surroundings.lookup key).map some
      resolved.put name (value.map fun v =>
        String.ofList (replaceMentions lookUp v.toList)))
    OrderedMap.empty

end Understudy.EnvFile
