/-!
# Requests by name

Things and plain values are asked by the names of requests. Operators can be asked for
by name as well: a number can be asked for its sum with another one, and a text whether
it comes before another one.

## Main definitions

* `Method`: what can be asked of a thing.
* `Operation`: what can be asked of a plain value.
* `Method.word`, `Operation.word`: the names.
-/

namespace Understudy

/-! ## Things -/

/-- The requests a thing can be called with. -/
inductive Method where
  | registerFactory
  | unregisterFactory
  | includes
  | lookup
  | getEntry
  | isRegistered
  | getService
  | captureOnce
  | captured
  | contractIds
  | queryInterface
  | invalidateCaches
  | annotate
  | getField
  | resolveField
  | createInstance
  | reset
  | installIdentity
  | captureOriginal
  | restore
  | setScheduler
  | overrideScheduling
  | disableTimers
  | arm
  | cancel
  | cancelAll
  | callLater
  | advance
  | getPolicy
  | setUp
  | annotateSession
  | requirePolicy
  | nextDelay
  | start
  | armDaily
  | collectDaily
  | currentIdentity
  | environment
  | shutdown
  | dailyTimeout
  | fireLast
  | dump
  | dumpText
  | duplicate
  deriving Repr, DecidableEq

/-- The name by which a request is asked for. -/
def Method.word : Method → String
  | .registerFactory => "register_factory"
  | .unregisterFactory => "unregister_factory"
  | .includes => "__contains__"
  | .lookup => "lookup"
  | .getEntry => "get_entry"
  | .isRegistered => "is_registered"
  | .getService => "get_service"
  | .captureOnce => "capture_original"
  | .captured => "original"
  | .contractIds => "contract_ids"
  | .queryInterface => "query_interface"
  | .invalidateCaches => "invalidate_caches_on_restart"
  | .annotate => "annotate_crash_report"
  | .getField => "get"
  | .resolveField => "_resolve"
  | .createInstance => "create_instance"
  | .reset => "reset"
  | .installIdentity => "install_identity"
  | .captureOriginal => "_capture_original"
  | .restore => "restore"
  | .setScheduler => "set_scheduler"
  | .overrideScheduling => "override_scheduling"
  | .disableTimers => "disable_timers"
  | .arm => "arm"
  | .cancel => "cancel"
  | .cancelAll => "cancel_all"
  | .callLater => "call_later"
  | .advance => "advance"
  | .getPolicy => "get_scheduling_policy"
  | .setUp => "initialize"
  | .annotateSession => "_annotate_session"
  | .requirePolicy => "_require_policy"
  | .nextDelay => "next_daily_delay"
  | .start => "start"
  | .armDaily => "_arm_daily"
  | .collectDaily => "collect_daily"
  | .currentIdentity => "current_identity"
  | .environment => "environment"
  | .shutdown => "shutdown"
  | .dailyTimeout => "_on_daily_timeout"
  | .fireLast => "fire_last"
  | .dump => "model_dump"
  | .dumpText => "model_dump_json"
  | .duplicate => "model_copy"

/-! ## Operators -/

/-- The operators of two operands. -/
inductive Operator where
  | add
  | subtract
  | multiply
  | divide
  | floorDivide
  | remainder
  | divideWithRemainder
  | power
  | shiftLeft
  | shiftRight
  | both
  | either
  | oneOf
  deriving Repr, DecidableEq

namespace Operator

/-- Every operator. -/
def all : List Operator :=
  [.add, .subtract, .multiply, .divide, .floorDivide, .remainder, .divideWithRemainder, .power,
    .shiftLeft, .shiftRight, .both, .either, .oneOf]

/-- The name of an operator. -/
def word : Operator → String
  | .add => "add"
  | .subtract => "sub"
  | .multiply => "mul"
  | .divide => "truediv"
  | .floorDivide => "floordiv"
  | .remainder => "mod"
  | .divideWithRemainder => "divmod"
  | .power => "pow"
  | .shiftLeft => "lshift"
  | .shiftRight => "rshift"
  | .both => "and"
  | .either => "or"
  | .oneOf => "xor"

end Operator

/-- Where the value that is asked for an operator stands: before it, or behind it; or it
becomes what the operator makes of it. -/
inductive Side where
  | left
  | right
  | own
  deriving Repr, DecidableEq

/-- The letter that tells a side. -/
def Side.letter : Side → String
  | .left => ""
  | .right => "r"
  | .own => "i"

/-- The comparisons of which value comes first. -/
inductive Comparison where
  | less
  | atMost
  | greater
  | atLeast
  deriving Repr, DecidableEq

namespace Comparison

/-- Every comparison. -/
def all : List Comparison := [.less, .atMost, .greater, .atLeast]

/-- The name of a comparison. -/
def word : Comparison → String
  | .less => "lt"
  | .atMost => "le"
  | .greater => "gt"
  | .atLeast => "ge"

/-- The sign of a comparison. -/
def sign : Comparison → String
  | .less => "<"
  | .atMost => "<="
  | .greater => ">"
  | .atLeast => ">="

end Comparison

/-- What a number can be turned into by itself. -/
inductive Conversion where
  | negated
  | same
  | magnitude
  | complement
  | whole
  | place
  | truncated
  | floor
  | ceiling
  | float
  | switch
  deriving Repr, DecidableEq

/-- The name of a conversion. -/
def Conversion.word : Conversion → String
  | .negated => "neg"
  | .same => "pos"
  | .magnitude => "abs"
  | .complement => "invert"
  | .whole => "int"
  | .place => "index"
  | .truncated => "trunc"
  | .floor => "floor"
  | .ceiling => "ceil"
  | .float => "float"
  | .switch => "bool"

/-- The kinds of characters that a text can be asked to consist of. -/
inductive TextClass where
  | letters
  | lettersAndNumbers
  | ascii
  | decimals
  | digits
  | numbers
  | name
  | lower
  | upper
  | title
  | printable
  | blank
  deriving Repr, DecidableEq

namespace TextClass

/-- Every kind of characters. -/
def all : List TextClass :=
  [.letters, .lettersAndNumbers, .ascii, .decimals, .digits, .numbers, .name, .lower, .upper,
    .title, .printable, .blank]

/-- The name by which a text is asked for a kind of characters. -/
def word : TextClass → String
  | .letters => "isalpha"
  | .lettersAndNumbers => "isalnum"
  | .ascii => "isascii"
  | .decimals => "isdecimal"
  | .digits => "isdigit"
  | .numbers => "isnumeric"
  | .name => "isidentifier"
  | .lower => "islower"
  | .upper => "isupper"
  | .title => "istitle"
  | .printable => "isprintable"
  | .blank => "isspace"

end TextClass

/-! ## Plain values -/

/-- The requests that plain values can be called with: lists, dictionaries, tuples, sets,
texts, numbers, and dates with a time. -/
inductive Operation where
  | append
  | backIterator
  | bitCount
  | bitLength
  | byPattern
  | calendarDate
  | calendarWeek
  | capitalize
  | caseFold
  | center
  | clear
  | clockTime
  | conjugate
  | containsItem
  | copy
  | count
  | deleteItem
  | difference
  | differs
  | digest
  | displayed
  | encode
  | endsWith
  | epochSeconds
  | equals
  | expandTabs
  | extend
  | find
  | findLast
  | formatted
  | fromKeys
  | get
  | getItem
  | hexadecimal
  | index
  | indexLast
  | insert
  | intersection
  | isDisjoint
  | isInteger
  | isSubset
  | isSuperset
  | isoFormat
  | isoWeekday
  | items
  | iterator
  | join
  | keys
  | lower
  | ordinal
  | padLeft
  | padRight
  | padZeros
  | partition
  | partitionLast
  | pop
  | popItem
  | quoted
  | ratio
  | remove
  | removePrefix
  | removeSuffix
  | replace
  | reverse
  | rounded
  | setDefault
  | setItem
  | shiftSaving
  | size
  | sort
  | split
  | splitLast
  | splitLines
  | startsWith
  | strip
  | stripLeft
  | stripRight
  | swapCase
  | symmetricDifference
  | timeText
  | title
  | union
  | update
  | upper
  | values
  | weekday
  | zoneName
  | zoneOffset
  | classified (c : TextClass)
  | combined (o : Operator) (side : Side)
  | compared (c : Comparison)
  | converted (c : Conversion)
  deriving Repr, DecidableEq

/-- A name between two underscores on either side, as operators have it. -/
def special (name : String) : String := "__" ++ name ++ "__"

/-- The name by which a plain value is asked. -/
def Operation.word : Operation → String
  | .append => "append"
  | .backIterator => "__reversed__"
  | .bitCount => "bit_count"
  | .bitLength => "bit_length"
  | .byPattern => "strftime"
  | .calendarDate => "date"
  | .calendarWeek => "isocalendar"
  | .capitalize => "capitalize"
  | .caseFold => "casefold"
  | .center => "center"
  | .clear => "clear"
  | .clockTime => "time"
  | .conjugate => "conjugate"
  | .containsItem => "__contains__"
  | .copy => "copy"
  | .count => "count"
  | .deleteItem => "__delitem__"
  | .difference => "difference"
  | .differs => "__ne__"
  | .digest => "__hash__"
  | .displayed => "__str__"
  | .encode => "encode"
  | .endsWith => "endswith"
  | .epochSeconds => "timestamp"
  | .equals => "__eq__"
  | .expandTabs => "expandtabs"
  | .extend => "extend"
  | .find => "find"
  | .findLast => "rfind"
  | .formatted => "__format__"
  | .fromKeys => "fromkeys"
  | .get => "get"
  | .getItem => "__getitem__"
  | .hexadecimal => "hex"
  | .index => "index"
  | .indexLast => "rindex"
  | .insert => "insert"
  | .intersection => "intersection"
  | .isDisjoint => "isdisjoint"
  | .isInteger => "is_integer"
  | .isSubset => "issubset"
  | .isSuperset => "issuperset"
  | .isoFormat => "isoformat"
  | .isoWeekday => "isoweekday"
  | .items => "items"
  | .iterator => "__iter__"
  | .join => "join"
  | .keys => "keys"
  | .lower => "lower"
  | .ordinal => "toordinal"
  | .padLeft => "rjust"
  | .padRight => "ljust"
  | .padZeros => "zfill"
  | .partition => "partition"
  | .partitionLast => "rpartition"
  | .pop => "pop"
  | .popItem => "popitem"
  | .quoted => "__repr__"
  | .ratio => "as_integer_ratio"
  | .remove => "remove"
  | .removePrefix => "removeprefix"
  | .removeSuffix => "removesuffix"
  | .replace => "replace"
  | .reverse => "reverse"
  | .rounded => "__round__"
  | .setDefault => "setdefault"
  | .setItem => "__setitem__"
  | .shiftSaving => "dst"
  | .size => "__len__"
  | .sort => "sort"
  | .split => "split"
  | .splitLast => "rsplit"
  | .splitLines => "splitlines"
  | .startsWith => "startswith"
  | .strip => "strip"
  | .stripLeft => "lstrip"
  | .stripRight => "rstrip"
  | .swapCase => "swapcase"
  | .symmetricDifference => "symmetric_difference"
  | .timeText => "ctime"
  | .title => "title"
  | .union => "union"
  | .update => "update"
  | .upper => "upper"
  | .values => "values"
  | .weekday => "weekday"
  | .zoneName => "tzname"
  | .zoneOffset => "utcoffset"
  | .classified c => c.word
  | .combined o side => special (side.letter ++ o.word)
  | .compared c => special c.word
  | .converted c => special c.word

end Understudy
