import Understudy.Text.Lowercase

/-!
# The machine a program runs on

What is known of the machine goes into the identity of the real host: a label for
its operating system and one for its instruction set together with the
implementation that runs the program.

## Main definitions

* `Machine`: the facts.
* `Machine.osLabel`, `Machine.abiLabel`: the labels made of them.
-/

namespace Understudy

/-- What is known of a machine. -/
structure Machine where
  system : String
  architecture : String
  implementation : String
  processId : Int
  wide : Bool
  deriving Repr, DecidableEq, Inhabited

namespace Machine

/-- One operating system goes by another name; one without a name is unknown. -/
def osLabel (m : Machine) : String :=
  if m.system = "Windows" then "WINNT"
  else if m.system = "" then "Unknown"
  else m.system

/-- The instruction set, or a word for a missing one, and the implementation in
lower case. -/
def abiLabel (m : Machine) : String :=
  (if m.architecture = "" then "unknown" else m.architecture) ++ "-" ++
    Text.lower m.implementation

end Machine

end Understudy
