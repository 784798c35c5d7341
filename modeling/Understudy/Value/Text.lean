import Understudy.Value
import Understudy.Text.Quoted
import Understudy.Decimal.Shortest

/-!
# The words of values

Messages and answers name things by words: the kinds of records and their fields,
the functions, the members of the closed lists. This module holds the
words, and the texts of those values that hold no other values.

## Main definitions

* `RecordKind.title`, `RecordKind.labels`: the name of a record and of its fields.
* `Function.word`: the names of functions.
* `Moment.display`, `Moment.quoted`: the two texts of a date and time.
* `Value.quotedLeaf?`: the quoted text of a value that holds no other values.
-/

namespace Understudy

/-- The name of a kind of record. -/
def RecordKind.title : RecordKind → String
  | .entry => "ServiceRegistryEntry"
  | .platform => "PlatformFlags"
  | .collection => "DailyCollection"

/-- The names of the fields of a record, in order. -/
def RecordKind.labels : RecordKind → List String
  | .entry => ["class_id", "description", "contract_id", "factory"]
  | .platform => ["is_windows", "is_mac", "is_android", "is_gonk"]
  | .collection => ["sequence", "delay_seconds", "app_id", "app_version", "os"]

/-- The name of a function. -/
def Function.word : Function → String
  | .idleArm => "noop_arm"
  | .idleCancel => "noop_cancel"
  | .clock | .callback _ => "<lambda>"
  | .wallClock => "now"
  | .method _ name => name.word
  | .cancelTimer _ _ => "cancel"
  | .hostOfSettings => "from_settings"

/-- A date and time as a message shows it. -/
def Moment.display (m : Moment) : String :=
  let two := fun n : Nat => Decimal.padLeft 2 (toString n)
  let fraction :=
    if m.microsecond = 0 then "" else "." ++ Decimal.padLeft 6 (toString m.microsecond)
  Decimal.padLeft 4 (toString m.date.year) ++ "-" ++ two m.date.month ++ "-" ++
    two m.date.day ++ " " ++ two m.hour ++ ":" ++ two m.minute ++ ":" ++ two m.second ++
    fraction

namespace Value

/-- A member of a closed list, quoted. -/
def quotedMember (type label word : String) : String :=
  "<" ++ type ++ "." ++ label ++ ": " ++ Text.quoted word ++ ">"

/-- A truth value as a message shows it. -/
def boolText (b : Bool) : String := if b then "True" else "False"

/-- Texts between brackets, with commas between them. -/
def bracketed (opening closing : String) (items : List String) : String :=
  opening ++ ", ".intercalate items ++ closing

end Value

/-- A date and time as a value shows it. Seconds and their parts are left out at the
end where they are zero. -/
def Moment.quoted (m : Moment) : String :=
  let parts := [m.date.year, m.date.month, m.date.day, m.hour, m.minute] ++
    (if m.microsecond = 0 then if m.second = 0 then [] else [m.second]
     else [m.second, m.microsecond])
  Value.bracketed "datetime.datetime(" ")" (parts.map toString)

namespace Value

/-- Where the type of the machine's identity comes from. -/
def hostPath : String := "hostshim.adapters.host.appinfo.HostAppInfo"

/-- How a type is shown. -/
def shownType (path : String) : String := "<class '" ++ path ++ "'>"

/-- The quoted text of a value that holds no other values and is no thing. -/
def quotedLeaf? : Value → Option String
  | .none => some "None"
  | .bool b => some (boolText b)
  | .int _ n => some (toString n)
  | .float _ x => some (Decimal.render x)
  | .text _ s => some (Text.quoted s)
  | .capability c => some (quotedMember "Capability" c.label c.word)
  | .field f => some (quotedMember "IdentityField" f.label f.word)
  | .moment _ m => some m.quoted
  | .handle _ _ => some "<Handle>"
  | .expiry _ _ _ => some "<function _fire>"
  | .operation _ _ name => some ("<built-in method " ++ name.word ++ ">")
  | .function _ (.method _ _) => Option.none
  | .function _ .hostOfSettings =>
    some ("<bound method HostAppInfo.from_settings of " ++ shownType hostPath ++ ">")
  | .function _ .wallClock => some "<built-in method now of type object>"
  | .function _ f => some ("<function " ++ f.word ++ ">")
  | .typeNamed path _ => some (shownType path)
  | .thing _ shown => some shown
  | .list _ | .tuple _ _ | .dict _ | .view _ | .aspect _ _ _ | .set _ _ | .object _
  | .record _ _ _ => Option.none

end Value

end Understudy
