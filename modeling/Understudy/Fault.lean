import Understudy.Calendar
import Understudy.Settings
import Understudy.Settings.Encoding
import Understudy.Settings.Location
import Understudy.Text.Quoted

/-!
# Faults

Whatever can go wrong is a cause of its own, with what its message mentions.
Wording and kind are functions of the cause, so that a message is written in one
place.

## Main definitions

* `Fault`: the causes.
* `Fault.message`, `Fault.kind`: how a fault reads and what kind it is of.
-/

namespace Understudy

/-- Why an operation failed. Texts that mention a value hold it quoted or displayed
already, because how a thing is shown depends on the state of the tables. -/
inductive Fault where
  /-- Nothing is registered for a contract. -/
  | noService (contract : String)
  /-- A subsystem has no scheduling policy yet. -/
  | notSetUp (shown : String)
  /-- A provider was asked to build a component inside another object. -/
  | aggregation
  /-- A component does not declare a capability. -/
  | noInterface (label : String)
  /-- A registration without a contract id. -/
  | blankContract
  /-- A registration without a class id. -/
  | blankClass
  /-- A thing has nothing under a name. -/
  | noAttribute (type name : String)
  /-- Settings have nothing under a name. -/
  | noSettingAttribute (name : String)
  /-- A name that is never handed on to a fallback. -/
  | reservedName (name : String)
  /-- An attempt to change what never changes. -/
  | immutable (type name : String)
  /-- An attempt to write what can only be read. -/
  | readOnly (name type : String)
  /-- An attempt to write over a request that a plain value takes. -/
  | fixedMember (type name : String)
  /-- An attempt to write over a part of a plain value. -/
  | notWritable (type name : String)
  /-- An attempt to rename a member of a closed list. -/
  | fixedMemberName (name : String)
  /-- A type replaced by something that is none. -/
  | notAType (type : String)
  /-- An attempt to change a field of a record. -/
  | frozenField (name : String)
  /-- An attempt to write into something that takes no items. -/
  | noItems (type : String)
  /-- An attempt to take an item out of something that does not let it go. -/
  | noDeletion (type : String)
  /-- A name that is no setting. -/
  | noSetting (name : String)
  /-- A value that cannot be a key. -/
  | unhashable (type : String)
  /-- A hook that cannot be called. -/
  | hookNotCallable (role type : String)
  /-- A value that cannot be called. -/
  | notCallable (type : String)
  /-- More arguments than a call takes, besides those that can only be given by name. -/
  | tooManyArguments (function : String) (least most given named : Nat)
  /-- Arguments that a call lacks. -/
  | missingArguments (function : String) (names : List String)
  /-- An argument under a name that a call does not take. -/
  | unexpectedArgument (function name : String)
  /-- An argument given twice. -/
  | repeatedArgument (function name : String)
  /-- An argument of a type that a call cannot work with. -/
  | unsuitable (function type : String)
  /-- A value that is no member of a closed list. -/
  | notAMember (shown list : String)
  /-- An attempt to make a closed list out of another one. -/
  | closedList (shown list : String)
  /-- A value that cannot be written with fixed places. -/
  | noFixedFormat (type : String)
  /-- A text where a number is to be written with fixed places. -/
  | fixedFormatOfText
  /-- Values that cannot be added, or taken away from each other. -/
  | noSum (operator left right : String)
  /-- A sequence to which something else cannot be added. -/
  | noConcatenation (type other : String)
  /-- Values of which neither comes before the other. -/
  | noOrder (operator left right : String)
  /-- A value that has no items to go through. -/
  | notIterable (type : String)
  /-- A value of which nothing can be an item. -/
  | noContainer (type : String)
  /-- Something other than a text, looked for within a text. -/
  | withinText (type : String)
  /-- A value that guards nothing. -/
  | noGuard (type : String)
  /-- A value without a length. -/
  | noLength (type : String)
  /-- A value whose items cannot be asked for by a place. -/
  | notSubscriptable (type : String)
  /-- A place of a list that is no whole number. -/
  | placeType (container type : String)
  /-- A place beyond the items. -/
  | placeRange (message : String)
  /-- A key that a dictionary does not have. -/
  | missingKey (shown : String)
  /-- A value that a list does not have. -/
  | missingItem (message : String)
  /-- A value that cannot be taken apart into items. -/
  | notUnpackable (type : String)
  /-- Fewer items than are wanted. -/
  | tooFewItems (wanted given : Nat)
  /-- More items than are wanted. -/
  | tooManyItems (wanted : Nat)
  /-- Another number of items than is wanted. -/
  | itemCount (message : String)
  /-- A whole number beyond a type of words. -/
  | beyondWord (type : String)
  /-- Arguments that a request to a plain value does not take. -/
  | operationArguments (message : String)
  /-- A value that is neither a number nor a text of one. -/
  | notANumber (type : String)
  /-- A text that spells no number. -/
  | unreadableNumber (shown : String)
  /-- A level asked for by something other than a text. -/
  | levelType (type : String)
  /-- A text that is the name of no level. -/
  | unknownLevel (shown : String)
  /-- A thing that is no level. -/
  | notALevel (shown : String)
  /-- A timer that is due before anyone knows it. -/
  | unknownTimer
  /-- A path that cannot be followed. -/
  | badPath (fault : PathFault)
  /-- The name of no encoding. -/
  | unknownEncoding (name : String)
  /-- The name of no way to deal with characters that an encoding does not have. -/
  | unknownHandler (name : String)
  /-- A byte that means nothing in an encoding. -/
  | undecodable (fault : EncodingFault)
  /-- Characters that an encoding does not have. -/
  | unencodable (gap : EncodingGap)
  /-- Options for settings that make no sense. -/
  | badSettings (message : String)
  /-- A timer without a timeline to run on. -/
  | noTimeline
  /-- Numbers that are no time. -/
  | badMoment (fault : MomentFault)
  /-- A date beyond the calendar. -/
  | dateRange
  /-- A whole number beyond the floats. -/
  | floatRange
  /-- A division by zero. -/
  | divisionByZero (message : String)
  /-- A result that no number of its type can be. -/
  | resultRange (message : String)
  /-- An operand of the right type with which there is no result. -/
  | unfitOperand (message : String)
  /-- A result that is too large to be kept. -/
  | exhausted
  /-- A probe that was told to fail. -/
  | probeFailed (name : String)
  /-- A reporter that was told to fail. -/
  | reporterDown
  /-- A provider that was told to fail this time. -/
  | providerFailed (shown : String)
  /-- There is no armed callback to run. -/
  | nothingArmed
  /-- An annotation under a key that is no text. -/
  | annotationKey (type : String)
  /-- Settings that were refused. -/
  | refusedSettings (complaints : List Complaint)
  /-- The program ends with a status. -/
  | ended (status : Int)
  /-- Calls within calls within calls, without an end. -/
  | tooDeep
  deriving Repr, DecidableEq

namespace Fault

/-- A list of quoted names as a sentence has it. -/
def enumerate : List String → String
  | [] => ""
  | [a] => "'" ++ a ++ "'"
  | [a, b] => "'" ++ a ++ "' and '" ++ b ++ "'"
  | names =>
    ", ".intercalate (names.dropLast.map fun a => "'" ++ a ++ "'") ++ ", and '" ++
      names.getLastD "" ++ "'"

/-- An `s` unless there is exactly one. -/
def plural (n : Nat) : String := if n = 1 then "" else "s"

/-- How it reads that a whole number is beyond a type of words. -/
def wordMessage (type : String) : String := "Python int too large to convert to C " ++ type

/-- How it reads that numbers are no time. -/
def momentMessage : MomentFault → String
  | .beyondLong => wordMessage "long"
  | .tooLarge => "signed integer is greater than maximum"
  | .tooSmall => "signed integer is less than minimum"
  | .year n => "year " ++ toString n ++ " is out of range"
  | .month => "month must be in 1..12"
  | .day => "day is out of range for month"
  | .hour => "hour must be in 0..23"
  | .minute => "minute must be in 0..59"
  | .second => "second must be in 0..59"
  | .microsecond => "microsecond must be in 0..999999"

/-- How it reads that an encoding does not have some characters. -/
def gapMessage (gap : EncodingGap) : String :=
  let place := toString gap.place
  let which :=
    if gap.length = 1 then
      "character '" ++ String.ofList (Text.numbered gap.first) ++ "' in position " ++ place
    else "characters in position " ++ place ++ "-" ++ toString (gap.place + gap.length - 1)
  "'" ++ gap.encoding.title ++ "' codec can't encode " ++ which ++ ": ordinal not in range(" ++
    toString ((gap.encoding.limit?).getD 0) ++ ")"

/-- How a fault reads. -/
def message : Fault → String
  | noService contract => "No service registered for contract " ++ contract
  | notSetUp shown =>
    "Subsystem " ++ shown ++ " has no scheduling policy; initialize it first"
  | aggregation => "Component does not support aggregation"
  | noInterface label => "Component does not implement " ++ label
  | blankContract => "contract_id must be a non-empty string"
  | blankClass => "class_id must be a non-empty string"
  | noAttribute type name => "'" ++ type ++ "' object has no attribute '" ++ name ++ "'"
  | noSettingAttribute name => "'Settings' object has no attribute " ++ Text.quoted name
  | reservedName name => name
  | immutable type name => type ++ " is immutable; cannot set " ++ Text.quoted name
  | readOnly name type => "property '" ++ name ++ "' of '" ++ type ++ "' object has no setter"
  | fixedMember type name => "'" ++ type ++ "' object attribute '" ++ name ++ "' is read-only"
  | notWritable type name =>
    "attribute '" ++ name ++ "' of '" ++ type ++ "' objects is not writable"
  | fixedMemberName name =>
    "<enum 'Enum'> cannot set attribute " ++ Text.quoted name
  | notAType type => "__class__ must be set to a class, not '" ++ type ++ "' object"
  | frozenField name => "cannot assign to field " ++ Text.quoted name
  | noItems type => "'" ++ type ++ "' object does not support item assignment"
  | noDeletion type => "'" ++ type ++ "' object doesn't support item deletion"
  | noSetting name => "\"Settings\" object has no field \"" ++ name ++ "\""
  | unhashable type => "unhashable type: '" ++ type ++ "'"
  | hookNotCallable role type => role ++ " hook must be callable, got " ++ type
  | notCallable type => "'" ++ type ++ "' object is not callable"
  | tooManyArguments function least most given named =>
    let takes :=
      if least = most then toString most else "from " ++ toString least ++ " to " ++ toString most
    let others :=
      if named = 0 then ""
      else " positional argument" ++ plural given ++ " (and " ++ toString named ++
        " keyword-only argument" ++ plural named ++ ")"
    function ++ "() takes " ++ takes ++ " positional argument" ++ plural most ++ " but " ++
      toString given ++ others ++
      (if given = 1 ∧ named = 0 then " was given" else " were given")
  | missingArguments function names =>
    function ++ "() missing " ++ toString names.length ++ " required positional argument" ++
      plural names.length ++ ": " ++ enumerate names
  | unexpectedArgument function name =>
    function ++ "() got an unexpected keyword argument '" ++ name ++ "'"
  | repeatedArgument function name =>
    function ++ "() got multiple values for argument '" ++ name ++ "'"
  | unsuitable function type => function ++ "() cannot use a value of type '" ++ type ++ "'"
  | notAMember shown list => shown ++ " is not a valid " ++ list
  | closedList shown list => "<enum " ++ shown ++ "> cannot extend <enum '" ++ list ++ "'>"
  | noFixedFormat type => "unsupported format string passed to " ++ type ++ ".__format__"
  | fixedFormatOfText => "Unknown format code 'f' for object of type 'str'"
  | noSum operator left right =>
    "unsupported operand type(s) for " ++ operator ++ ": '" ++ left ++ "' and '" ++ right ++ "'"
  | noConcatenation type other =>
    "can only concatenate " ++ type ++ " (not \"" ++ other ++ "\") to " ++ type
  | noOrder operator left right =>
    "'" ++ operator ++ "' not supported between instances of '" ++ left ++ "' and '" ++ right ++
      "'"
  | notIterable type => "'" ++ type ++ "' object is not iterable"
  | noContainer type => "argument of type '" ++ type ++ "' is not iterable"
  | withinText type => "'in <string>' requires string as left operand, not " ++ type
  | noGuard type => "'" ++ type ++ "' object does not support the context manager protocol"
  | noLength type => "object of type '" ++ type ++ "' has no len()"
  | notSubscriptable type => "'" ++ type ++ "' object is not subscriptable"
  | placeType "string" type => "string indices must be integers, not '" ++ type ++ "'"
  | placeType container type =>
    container ++ " indices must be integers or slices, not " ++ type
  | placeRange message | missingItem message | operationArguments message | itemCount message
  | divisionByZero message | resultRange message | unfitOperand message =>
    message
  | missingKey shown => shown
  | notUnpackable type => "cannot unpack non-iterable " ++ type ++ " object"
  | tooFewItems wanted given =>
    "not enough values to unpack (expected " ++ toString wanted ++ ", got " ++ toString given ++
      ")"
  | tooManyItems wanted => "too many values to unpack (expected " ++ toString wanted ++ ")"
  | beyondWord type => wordMessage type
  | notANumber type =>
    "float() argument must be a string or a real number, not '" ++ type ++ "'"
  | unreadableNumber shown => "could not convert string to float: " ++ shown
  | levelType type => "attribute name must be string, not '" ++ type ++ "'"
  | unknownLevel shown => "Unknown level: " ++ shown
  | notALevel shown => "Level not an integer or a valid string: " ++ shown
  | unknownTimer =>
    "cannot access free variable 'handle' where it is not associated with a value in " ++
      "enclosing scope"
  | badPath .noHome => "Could not determine home directory."
  | badPath (.tooLong path) => "[Errno 36] File name too long: " ++ Text.quoted path
  | unknownEncoding name => "unknown encoding: " ++ name
  | undecodable fault =>
    "'ascii' codec can't decode byte 0x" ++ String.ofList (Text.hex 2 fault.byte) ++
      " in position " ++ toString fault.place ++ ": ordinal not in range(128)"
  | unknownHandler name => "unknown error handler name " ++ Text.quoted name
  | unencodable gap => gapMessage gap
  | badSettings message => message
  | noTimeline => "no running event loop"
  | badMoment fault => momentMessage fault
  | dateRange => "date value out of range"
  | floatRange => "int too large to convert to float"
  | exhausted => ""
  | probeFailed name => "hook " ++ name ++ " failed"
  | reporterDown => "reporter down"
  | providerFailed shown => "factory failure " ++ shown
  | nothingArmed => "No callback has been armed"
  | annotationKey type => "annotation key must be a string, got " ++ type
  -- The complaints are told one by one; in running text they go by their kind.
  | refusedSettings _ => "ValidationError"
  | ended status => toString status
  | tooDeep => "maximum recursion depth exceeded"

/-- The kind a fault is of. -/
def kind : Fault → String
  | noService _ => "ServiceUnavailableError"
  | notSetUp _ => "SubsystemNotInitializedError"
  | aggregation => "NoAggregationError"
  | noInterface _ => "NoInterfaceError"
  | blankContract | blankClass | notAMember _ _ | fixedFormatOfText | noSetting _
  | missingItem _ | tooFewItems _ _ | tooManyItems _ | itemCount _ | unreadableNumber _
  | unknownLevel _ | unfitOperand _ =>
    "ValueError"
  | noAttribute _ _ | noSettingAttribute _ | reservedName _ | immutable _ _ | readOnly _ _
  | fixedMember _ _ | notWritable _ _ | fixedMemberName _ => "AttributeError"
  | frozenField _ => "FrozenInstanceError"
  | noItems _ | noDeletion _ | unhashable _ | hookNotCallable _ _ | notCallable _
  | tooManyArguments _ _ _ _ _
  | missingArguments _ _ | unexpectedArgument _ _ | repeatedArgument _ _ | unsuitable _ _
  | closedList _ _ | noFixedFormat _ | noSum _ _ _ | noConcatenation _ _ | noOrder _ _ _
  | notIterable _ | noContainer _ | withinText _ | noLength _ | noGuard _ | notSubscriptable _
  | placeType _ _ | notUnpackable _ | operationArguments _ | notANumber _ | levelType _
  | notALevel _ | annotationKey _ | notAType _ => "TypeError"
  | noTimeline | probeFailed _ | reporterDown | providerFailed _ | badPath .noHome =>
    "RuntimeError"
  | badPath (.tooLong _) => "OSError"
  | placeRange _ => "IndexError"
  | missingKey _ => "KeyError"
  | unknownEncoding _ | unknownHandler _ => "LookupError"
  | undecodable _ => "UnicodeDecodeError"
  | unencodable _ => "UnicodeEncodeError"
  | badSettings _ => "SettingsError"
  | unknownTimer => "NameError"
  | divisionByZero _ => "ZeroDivisionError"
  | dateRange | floatRange | resultRange _ | beyondWord _ | badMoment .beyondLong
  | badMoment .tooLarge | badMoment .tooSmall => "OverflowError"
  | badMoment _ => "ValueError"
  | nothingArmed => "AssertionError"
  | refusedSettings _ => "ValidationError"
  | ended _ => "SystemExit"
  | tooDeep => "RecursionError"
  | exhausted => "MemoryError"

end Fault

end Understudy
