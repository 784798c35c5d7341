import Understudy.Operation.Place
import Understudy.Settings.Encoding
import Understudy.Text.Search
import Understudy.Text.Uppercase

/-!
# Requests to texts

Texts answer what stands in them, and hand out other texts. A text that is left as it was
is handed out itself; every other one is made anew.

## Main definitions

* `operateText`: what comes of a request to a text.
-/

namespace Understudy

/-- A text made anew. -/
def newText (s : List Char) : Action Value := renew (.ofText (String.ofList s))

/-- A list of texts made anew. -/
def newTexts (pieces : List (List Char)) : Action Value := do
  newList (← pieces.mapM newText)

/-- What a text became, which is the text itself if it did not change. -/
def changed (owner : Value) (s : List Char) : Action Value :=
  match owner with
  | .text _ before => if before.toList = s then return owner else newText s
  | _ => newText s

/-- The characters of an argument, or a complaint that ends with its type. -/
def needText (complaint : String) (v : Value) : Action (List Char) := do
  match v.text? with
  | some s => return s.toList
  | none => throw (.operationArguments (complaint ++ (← get).fullTypeName v))

/-- The same, where the absent value goes by its own name. -/
def needArgumentText (complaint : String) (v : Value) : Action (List Char) :=
  if v.isNone then throw (.operationArguments (complaint ++ "None")) else needText complaint v

/-- The places between which is looked, of which the first may lie behind the end. -/
def searchRange (length : Nat) (args : List Value) : Action (Nat × Nat) := do
  let start ← needBound (args.headD .none)
  let stop ← needBound ((args.drop 1).headD .none)
  let first := match start with
    | none => 0
    | some n => if 0 ≤ n then n.toNat else clampedPlace length n
  return (first, (stop.map (clampedPlace length)).getD length)

/-- The characters between two places, unless the first lies behind the second. -/
def charsBetween? (s : List Char) (range : Nat × Nat) : Option (List Char) :=
  if range.1 ≤ range.2 then some ((s.take range.2).drop range.1) else none

/-- Where a part of a text is found. -/
def findPart (s : List Char) (last : Bool) (args : List Value) : Action (Option Nat) := do
  let range ← searchRange s.length (args.drop 1)
  let part ← needText "must be str, not " (args.headD .none)
  return (charsBetween? s range).bind fun piece =>
    if last then Text.lastOccurrence? part piece range.1
    else Text.occurrence? part range.1 piece

/-- How often a part of a text is found. An empty part is found before every character and
at the end. -/
def countPart (s : List Char) (args : List Value) : Action Nat := do
  let range ← searchRange s.length (args.drop 1)
  let part ← needText "must be str, not " (args.headD .none)
  match charsBetween? s range with
  | none => return 0
  | some piece => return if part.isEmpty then piece.length + 1 else Text.occurrences part 0 piece

/-- Whether a text begins, or ends, with one of the texts that an argument gives. -/
def meets (op : Operation) (fits : List Char → List Char → Bool) (s : List Char)
    (args : List Value) : Action Bool := do
  let range ← searchRange s.length (args.drop 1)
  let piece? := charsBetween? s range
  let test := fun (part : List Char) => piece?.any (fits part)
  match args.headD .none with
  | .tuple _ items => among test items
  | v => return test (← needText (op.word ++ " first arg must be str or a tuple of str, not ") v)
where
  /-- Whether one of several texts fits; those behind it are not looked at. -/
  among (test : List Char → Bool) : List Value → Action Bool
    | [] => return false
    | v :: rest => do
      if test (← needText ("tuple for " ++ op.word ++ " must only contain str, not ") v) then
        return true
      else among test rest

/-- The texts to be joined, counted from a place on. -/
def joinedPieces : Nat → List Value → Action (List (List Char))
  | _, [] => return []
  | place, v :: rest => do
    match v.text? with
    | some s => return s.toList :: (← joinedPieces (place + 1) rest)
    | none =>
      throw (.operationArguments ("sequence item " ++ toString place ++
        ": expected str instance, " ++ (← get).fullTypeName v ++ " found"))

/-- How many pieces are split off at most; a number below zero sets no bound. -/
def needMost (v : Value) : Action (Option Nat) := do
  let n ← needPlace v
  return if n < 0 then none else some n.toNat

/-- The three parts that a separator makes of a text. -/
def threeParts (owner : Value) (s : List Char) (last : Bool) (v : Value) : Action Value := do
  let separator ← needText "must be str, not " v
  if separator.isEmpty then throw (.missingItem "empty separator")
  let found := if last then Text.lastOccurrence? separator s 0 else Text.occurrence? separator 0 s
  let parts ← match found with
    | some i =>
      pure [← newText (s.take i), v, ← newText (s.drop (i + separator.length))]
    | none =>
      pure (if last then [.ofText "", .ofText "", owner] else [owner, .ofText "", .ofText ""])
  return .tuple 0 parts

/-- A text padded to a width: all on one side, or on both. -/
def padded (op : Operation) (owner : Value) (s : List Char) (args : List Value) :
    Action Value := do
  let width ← needPlace (args.headD .none)
  let filler ← match args.drop 1 with
    | [] => pure ' '
    | v :: _ =>
      match ← needText "The fill character must be a unicode character, not " v with
      | [c] => pure c
      | _ =>
        throw (.operationArguments "The fill character must be exactly one character long")
  let missing := width.toNat - s.length
  let ahead := match op with
    | .padLeft => missing
    | .padRight => 0
    -- An odd number of characters is shared by the width.
    | _ => missing / 2 + (missing % 2) * (width.toNat % 2)
  changed owner (List.replicate ahead filler ++ s ++ List.replicate (missing - ahead) filler)

/-- A number's text with zeros between its sign and its digits. -/
def zeroFilled (width : Nat) (s : List Char) : List Char :=
  let zeros := List.replicate (width - s.length) '0'
  match s with
  | c :: rest => if c = '+' || c = '-' then c :: zeros ++ rest else zeros ++ s
  | [] => zeros

/-- The characters that are taken off the ends of a text. -/
def strippedSet (op : Operation) : List Value → Action (Char → Bool)
  | [] | .none :: _ => return Text.isBlank
  | v :: _ =>
    match v.text? with
    | some set => return set.toList.contains
    | none => throw (.operationArguments (op.word ++ " arg must be None or str"))

/-- Whether an argument that is a switch is on. -/
def needSwitch (v : Value) : Action Bool := return (← needSmall v) != 0

/-- Whether a text consists of characters of one kind. -/
def TextClass.holds (kind : TextClass) (s : List Char) : Bool :=
  let all := fun (p : Char → Bool) => !s.isEmpty && s.all p
  match kind with
  | .letters => all Text.isLetter
  | .lettersAndNumbers => all fun c => Text.isLetter c || Text.isAnyDigit c || Text.isNumber c
  | .ascii => s.all fun c => c.toNat < 0x80
  | .decimals => all Text.isDecimal
  | .digits => all Text.isAnyDigit
  | .numbers => all Text.isNumber
  | .name => (s.take 1).any Text.beginsName && s.all Text.continuesName
  | .lower => Text.isLowerText s
  | .upper => Text.isUpperText s
  | .title => Text.isTitleText s
  | .printable => s.all Text.isPrintable
  | .blank => all Text.isBlank

/-- The bytes of a text in an encoding, with what is to be done about characters that it
does not have. -/
def encodeText (s : List Char) (encoding handling : Value) : Action Value := do
  let name := String.ofList (← needArgumentText "encode() argument 'encoding' must be str, not "
    encoding)
  let way := String.ofList (← needArgumentText "encode() argument 'errors' must be str, not "
    handling)
  let some encoding := Encoding.ofName? name | throw (.unknownEncoding name)
  let lacking := fun c : Char => (encoding.limit?).any (· ≤ c.toNat)
  let kept? := match way with
    | "ignore" => some (s.filter fun c => !lacking c)
    | "replace" => some (s.map fun c => if lacking c then '?' else c)
    | "strict" => some s
    | _ => if s.any lacking then none else some s
  match kept?.map encoding.encode with
  | some (.ok bytes) => return .thing "bytes" (Text.quotedBytes bytes)
  | some (.error gap) => throw (.unencodable gap)
  | none => throw (.unknownHandler way)

/-- A text with another one behind it. What is nothing adds nothing. -/
def joinText (owner other : Value) : Action Value := do
  let w ← get
  match owner.text?, other.text? with
  | some s, some t =>
    if t.isEmpty then return owner
    else if s.isEmpty then return other
    else newText (s ++ t).toList
  | _, _ => throw (.noConcatenation "str" (w.fullTypeName other))

/-- The pieces that a text is split into, from its beginning or from its end. -/
def splitText (s : List Char) (backwards : Bool) (separator most : Value) : Action Value := do
  let most ← needMost most
  let split := fun (pieces : List Char → List (List Char)) =>
    newTexts (if backwards then Text.fromEnd pieces s else pieces s)
  if separator.isNone then split (Text.splitBlank most)
  else
    let separator ← needText "must be str or None, not " separator
    if separator.isEmpty then throw (.missingItem "empty separator")
    split (Text.splitAt (if backwards then separator.reverse else separator) most)

/-- What comes of a request to a text. -/
def operateText (owner : Value) (op : Operation) (args : List Value) : Action Value := do
  let text := (owner.text?).getD ""
  let s := text.toList
  match op, args with
  | .lower, _ => newText (Text.lower text).toList
  | .upper, _ => newText (Text.upper text).toList
  | .title, _ => newText (Text.title text).toList
  | .capitalize, _ => newText (Text.capitalize text).toList
  | .swapCase, _ => newText (Text.swapCase text).toList
  | .caseFold, _ => newText (Text.fold text).toList
  | .classified kind, _ => return .bool (kind.holds s)
  | .encode, [encoding, handling] => encodeText s encoding handling
  | .expandTabs, [width] =>
    let width := (← needSmall width).toNat
    if s.contains '\t' then newText (Text.expandTabs width 0 s) else return owner
  | .combined .add _, [other] => joinText owner other
  | .combined .multiply _, [times] =>
    let times ← needTimes s.length times
    changed owner (List.replicate times s).flatten
  | .strip, args => changed owner (Text.trimBoth (← strippedSet op args) s)
  | .stripLeft, args => changed owner (s.dropWhile (← strippedSet op args))
  | .stripRight, args => changed owner (s.reverse.dropWhile (← strippedSet op args)).reverse
  | .startsWith, args => return .bool (← meets op List.isPrefixOf s args)
  | .endsWith, args => return .bool (← meets op List.isSuffixOf s args)
  | .find, args => return place (← findPart s false args)
  | .findLast, args => return place (← findPart s true args)
  | .index, args => known (← findPart s false args)
  | .indexLast, args => known (← findPart s true args)
  | .count, args => return .ofInt (← countPart s args)
  | .join, [items] =>
    match (← get).items? items with
    | none => throw (.operationArguments "can only join an iterable")
    | some pieces => newText (s.intercalate (← joinedPieces 0 pieces))
  | .replace, old :: new :: rest =>
    let old ← needArgumentText "replace() argument 1 must be str, not " old
    let new ← needArgumentText "replace() argument 2 must be str, not " new
    let most ← match rest with
      | [] => pure none
      | v :: _ => needMost v
    changed owner (Text.substitute old new most s)
  | .removePrefix, [part] =>
    let part ← needArgumentText "removeprefix() argument must be str, not " part
    changed owner (if part.isPrefixOf s then s.drop part.length else s)
  | .removeSuffix, [part] =>
    let part ← needArgumentText "removesuffix() argument must be str, not " part
    changed owner (if part.isSuffixOf s then s.take (s.length - part.length) else s)
  | .split, [separator, most] => splitText s false separator most
  | .splitLast, [separator, most] => splitText s true separator most
  | .splitLines, [keeps] =>
    let lines := Text.splitLines s
    newTexts (if ← needSwitch keeps then lines else lines.map Text.withoutEnd)
  | .partition, [separator] => threeParts owner s false separator
  | .partitionLast, [separator] => threeParts owner s true separator
  | .padZeros, [width] => changed owner (zeroFilled (← needPlace width).toNat s)
  | .center, args | .padLeft, args | .padRight, args => padded op owner s args
  | _, _ => return .none
where
  /-- A place, or a number below all places. -/
  place (found : Option Nat) : Value := .ofInt ((found.map Int.ofNat).getD (-1))
  /-- A place, which has to be there. -/
  known (found : Option Nat) : Action Value :=
    match found with
    | some i => return .ofInt i
    | none => throw (.missingItem "substring not found")

end Understudy
