/-!
# Fields and capabilities

An identity answers eleven fields, and a component declares which of four
capabilities it can be used as. Both are closed lists; each member has a name,
which is shown, and a word, by which it is asked for.

## Main definitions

* `Field`, `Capability`: the two lists.
* `Field.ofWord?`, `Capability.ofWord?`: the member a word asks for.

## Main statements

* `Field.ofWord?_eq_some_iff`: a word asks for a field exactly when it is the
  field's own.
-/

namespace Understudy

/-- What an identity says about the application and the environment it runs in. -/
inductive Field where
  | vendor
  | name
  | id
  | version
  | appBuildId
  | platformVersion
  | platformBuildId
  | inSafeMode
  | logConsoleErrors
  | os
  | abi
  deriving Repr, DecidableEq

namespace Field

/-- Every field, those about the application first. -/
def all : List Field :=
  [.vendor, .name, .id, .version, .appBuildId, .platformVersion, .platformBuildId,
    .inSafeMode, .logConsoleErrors, .os, .abi]

theorem mem_all (f : Field) : f ∈ all := by
  cases f <;> decide

/-- The word a field is asked for by. -/
def word : Field → String
  | .vendor => "vendor"
  | .name => "name"
  | .id => "id"
  | .version => "version"
  | .appBuildId => "app_build_id"
  | .platformVersion => "platform_version"
  | .platformBuildId => "platform_build_id"
  | .inSafeMode => "in_safe_mode"
  | .logConsoleErrors => "log_console_errors"
  | .os => "os"
  | .abi => "abi"

/-- The name a field is shown by. -/
def label : Field → String
  | .vendor => "VENDOR"
  | .name => "NAME"
  | .id => "ID"
  | .version => "VERSION"
  | .appBuildId => "APP_BUILD_ID"
  | .platformVersion => "PLATFORM_VERSION"
  | .platformBuildId => "PLATFORM_BUILD_ID"
  | .inSafeMode => "IN_SAFE_MODE"
  | .logConsoleErrors => "LOG_CONSOLE_ERRORS"
  | .os => "OS"
  | .abi => "ABI"

/-- The field a word asks for. -/
def ofWord? (w : String) : Option Field := all.find? fun f => f.word == w

/-- The field a label shows. -/
def ofLabel? (l : String) : Option Field := all.find? fun f => f.label == l

/-- Different fields have different words. -/
theorem word_injective {f g : Field} (h : f.word = g.word) : f = g := by
  cases f <;> cases g <;> first | rfl | (exact absurd h (by decide))

/-- A word asks for a field exactly when it is the field's own. -/
theorem ofWord?_eq_some_iff {w : String} {f : Field} : ofWord? w = some f ↔ w = f.word := by
  constructor
  · intro h
    have := List.find?_some h
    simpa using (beq_iff_eq.1 this).symm
  · rintro rfl
    cases f <;> decide

end Field

/-- What a component can be used as. Every component of the base kind answers
`supports`. -/
inductive Capability where
  | supports
  | appInfo
  | runtime
  | crashReporter
  deriving Repr, DecidableEq

namespace Capability

/-- Every capability. -/
def all : List Capability := [.supports, .appInfo, .runtime, .crashReporter]

theorem mem_all (c : Capability) : c ∈ all := by
  cases c <;> decide

/-- The word a capability is asked for by. -/
def word : Capability → String
  | .supports => "supports"
  | .appInfo => "app_info"
  | .runtime => "runtime"
  | .crashReporter => "crash_reporter"

/-- The name a capability is shown by. -/
def label : Capability → String
  | .supports => "SUPPORTS"
  | .appInfo => "APP_INFO"
  | .runtime => "RUNTIME"
  | .crashReporter => "CRASH_REPORTER"

/-- The capability a word asks for. -/
def ofWord? (w : String) : Option Capability := all.find? fun c => c.word == w

/-- The capability a label shows. -/
def ofLabel? (l : String) : Option Capability := all.find? fun c => c.label == l

end Capability

end Understudy
