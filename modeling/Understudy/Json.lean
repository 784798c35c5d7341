import Understudy.Decimal.Shortest
import Understudy.Text.Quoted

/-!
# JSON

A report is printed as JSON in ASCII, two spaces deeper at each level. What lies beyond
ASCII is written in UTF-16 units. Settings are written on one line, or as many spaces
deeper as it is asked for, and keep their characters. Members of an object keep their
order.

## Main definitions

* `Json`: a JSON value.
* `Json.escape`, `Json.quoted`: a text between quotes.
* `Json.render`: a value on several lines.
* `Json.compact`: the members of an object without nesting, on one line or on several.
-/

namespace Understudy

/-- A JSON value. Whole numbers and floats are told apart, as they are written
differently. -/
inductive Json where
  | null
  | bool (b : Bool)
  | int (n : Int)
  | float (x : Float)
  | text (s : String)
  | array (items : List Json)
  | object (members : List (String × Json))
  deriving Inhabited

namespace Json

/-- One UTF-16 unit as an escape. -/
def unit (n : Nat) : List Char := '\\' :: 'u' :: Text.hex 4 n

/-- One character of a text. Characters beyond the first plane take two units. -/
def escape (c : Char) : List Char :=
  if c = '"' then ['\\', '"']
  else if c = '\\' then ['\\', '\\']
  else if c = '\n' then ['\\', 'n']
  else if c = '\r' then ['\\', 'r']
  else if c = '\t' then ['\\', 't']
  else if c.toNat = 8 then ['\\', 'b']
  else if c.toNat = 12 then ['\\', 'f']
  else if 0x20 ≤ c.toNat ∧ c.toNat < 0x7f then [c]
  else if c.toNat < 0x10000 then unit c.toNat
  else
    unit (0xd800 + (c.toNat - 0x10000) / 0x400) ++ unit (0xdc00 + (c.toNat - 0x10000) % 0x400)

/-- A text between quotes. -/
def quoted (s : String) : String :=
  String.ofList ('"' :: s.toList.flatMap escape ++ ['"'])

/-- The beginning of a line at a depth. -/
def lineAt (depth : Nat) : String := "\n" ++ String.ofList (List.replicate (2 * depth) ' ')

/-- Items between brackets, each on a line of its own. -/
def block (opening closing : String) (depth : Nat) (items : List String) : String :=
  if items.isEmpty then opening ++ closing
  else
    opening ++ lineAt (depth + 1) ++ ("," ++ lineAt (depth + 1)).intercalate items ++
      lineAt depth ++ closing

/-- A float; what is no number has a word. -/
def floatText (x : Float) : String :=
  match Decimal.Parts.ofFloat x with
  | .nan => "NaN"
  | .infinite negative => if negative then "-Infinity" else "Infinity"
  | _ => Decimal.render x

mutual

/-- A value whose lines stand at a depth. -/
def render (depth : Nat) : Json → String
  | .null => "null"
  | .bool b => if b then "true" else "false"
  | .int n => toString n
  | .float x => floatText x
  | .text s => quoted s
  | .array items => block "[" "]" depth (renderAll (depth + 1) items)
  | .object members => block "\x7b" "\x7d" depth (renderMembers (depth + 1) members)

/-- Values whose lines stand at a depth. -/
def renderAll (depth : Nat) : List Json → List String
  | [] => []
  | v :: rest => render depth v :: renderAll depth rest

/-- The members of an object, whose lines stand at a depth. -/
def renderMembers (depth : Nat) : List (String × Json) → List String
  | [] => []
  | (name, v) :: rest => (quoted name ++ ": " ++ render depth v) :: renderMembers depth rest

end

/-! ## Settings -/

/-- One character of a text that keeps its characters. -/
def escapeControl (c : Char) : List Char :=
  if c.toNat < 0x7f then escape c else [c]

/-- Floats are written with a point from `1e-5` up to below `1e16`. -/
def compactStyle : Decimal.Style := ⟨-5, 15, 1, "null", "null", ""⟩

/-- A value that holds no others, as the settings are written, in ASCII if it is asked for.
What is no finite number is written as absent. -/
def leaf (ascii : Bool) : Json → String
  | .null => "null"
  | .bool b => if b then "true" else "false"
  | .int n => toString n
  | .float x =>
    match Decimal.Parts.ofFloat x with
    | .finite negative significand exponent =>
      compactStyle.render (.finite negative significand exponent)
    | _ => "null"
  | .text s =>
    let written := s.toList.flatMap (if ascii then escape else escapeControl)
    String.ofList ('"' :: written ++ ['"'])
  | .array _ => "[]"
  | .object _ => "\x7b\x7d"

/-- The members of an object whose values hold no others: on one line, or each on a line of
its own some spaces deeper. -/
def compact (ascii : Bool) (indent : Option Nat) (members : List (String × Json)) : String :=
  let written := fun (separator : String) =>
    members.map fun (name, v) => leaf ascii (.text name) ++ ":" ++ separator ++ leaf ascii v
  match indent with
  | none => "\x7b" ++ ",".intercalate (written "") ++ "\x7d"
  | some width =>
    let line := "\n" ++ String.ofList (List.replicate width ' ')
    if members.isEmpty then "\x7b\x7d"
    else "\x7b" ++ line ++ ("," ++ line).intercalate (written " ") ++ "\n\x7d"

end Json

end Understudy
