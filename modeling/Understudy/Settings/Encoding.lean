import Understudy.Text.Lowercase

/-!
# Encodings

The text of a file is kept as it is meant, in the encoding of Unicode whose characters
take one to four bytes. Whoever reads the file can ask for another encoding, and then
finds what its bytes say in that one. A text can be asked for its bytes in the same way.

## Main definitions

* `Encoding.ofName?`: the encoding of a name.
* `Encoding.decode`: what the bytes of a text say.
* `Encoding.encode`: the bytes of a text.
-/

namespace Understudy

/-- The encodings that a file can be read in. -/
inductive Encoding where
  | unicode
  /-- One byte for each of the first 128 characters, and no other bytes. -/
  | ascii
  /-- One byte for each of the first 256 characters. -/
  | latin
  deriving Repr, DecidableEq, Inhabited

/-- A byte that an encoding has no character for, with its place. -/
structure EncodingFault where
  byte : Nat
  place : Nat
  deriving Repr, DecidableEq

/-- Characters next to each other that an encoding has no bytes for: the first of them, its
place, and how many there are. -/
structure EncodingGap where
  encoding : Encoding
  first : Char
  place : Nat
  length : Nat
  deriving Repr, DecidableEq

namespace Encoding

/-- The names of the encodings. -/
def names : List (String × Encoding) :=
  [("utf_8", .unicode), ("utf8", .unicode), ("utf", .unicode), ("u8", .unicode),
    ("utf_8_sig", .unicode), ("ascii", .ascii), ("us_ascii", .ascii), ("us", .ascii),
    ("646", .ascii), ("iso646_us", .ascii), ("cp367", .ascii), ("latin_1", .latin),
    ("latin1", .latin), ("latin", .latin), ("l1", .latin), ("iso_8859_1", .latin),
    ("iso8859_1", .latin), ("iso8859", .latin), ("8859", .latin), ("cp819", .latin)]

/-- The encoding of a name, in which the case and the marks between the parts do not
count. -/
def ofName? (name : String) : Option Encoding :=
  names.lookup ((Text.lower name).map fun c => if c.isAlphanum then c else '_')

/-- What bytes say in an encoding of one byte for each of the first `limit` characters,
counted from a place on. -/
def decodeBytes (limit : Nat) : Nat → List UInt8 → Except EncodingFault (List Char)
  | _, [] => .ok []
  | place, b :: rest =>
    if limit ≤ b.toNat then .error ⟨b.toNat, place⟩
    else do return Char.ofNat b.toNat :: (← decodeBytes limit (place + 1) rest)

/-- How many characters an encoding has, if it does not have all of them. -/
def limit? : Encoding → Option Nat
  | .unicode => none
  | .ascii => some 128
  | .latin => some 256

/-- How an encoding is called. -/
def title : Encoding → String
  | .unicode => "utf-8"
  | .ascii => "ascii"
  | .latin => "latin-1"

/-- What the bytes of a text say. -/
def decode (e : Encoding) (text : String) : Except EncodingFault String :=
  match e.limit? with
  | none => .ok text
  | some limit => (decodeBytes limit 0 text.toUTF8.toList).map String.ofList

/-- The bytes of a text. -/
def encode (e : Encoding) (text : List Char) : Except EncodingGap (List UInt8) :=
  match e.limit? with
  | none => .ok (String.ofList text).toUTF8.toList
  | some limit =>
    let lacking := fun c : Char => decide (limit ≤ c.toNat)
    let place := text.findIdx lacking
    match text.drop place with
    | [] => .ok (text.map fun c => UInt8.ofNat c.toNat)
    | c :: rest => .error ⟨e, c, place, (rest.takeWhile lacking).length + 1⟩

end Encoding

end Understudy
