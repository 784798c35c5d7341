import Understudy.Calls

/-!
# The program

Runs the program on the machine it is started on: the surroundings are read from what
the kernel shows of the process and from the file of variables in the current
directory. What the program printed goes to the standard output, and warnings that
nothing else takes go to the standard error.

## Main definitions

* `variablesOf`: the environment, from the form in which the kernel shows it.
* `main`: the program.
-/

namespace Understudy

/-- The text of a file. One that cannot be read holds nothing. -/
def textOfFile (path : String) : IO String := do
  try IO.FS.readFile path catch _ => return ""

/-- The first line of a text, without the end of the line. -/
def firstLine (text : String) : String :=
  String.ofList (text.toList.takeWhile (· != '\n'))

/-- A name and a value, separated by the first equals sign. -/
def variableOfText? (text : String) : Option (String × String) :=
  match text.toList.span (· != '=') with
  | (name, '=' :: value) => some (String.ofList name, String.ofList value)
  | _ => none

/-- The environment, from a text in which every variable ends in a null character. -/
def variablesOf (text : String) : List (String × String) :=
  (text.splitOn (String.singleton (Char.ofNat 0))).filterMap variableOfText?

/-- The number of the process, which the kernel's line about it begins with. -/
def processIdOf (line : String) : Int :=
  ((String.ofList (line.toList.takeWhile Char.isDigit)).toNat?.getD 0 : Nat)

/-- What the program finds around it. -/
def readSurroundings : IO Surroundings := do
  let environment ← textOfFile "/proc/self/environ"
  let status ← textOfFile "/proc/self/stat"
  let system ← textOfFile "/proc/sys/kernel/ostype"
  let architecture ← textOfFile "/proc/sys/kernel/arch"
  let envFile ← textOfFile defaultEnvFile
  return {
    environment := variablesOf environment
    files := [(defaultEnvFile, envFile)]
    machine :=
      { system := firstLine system
        architecture := firstLine architecture
        implementation := "Lean"
        processId := processIdOf status
        wide := true } }

end Understudy

/-- Runs the program, prints what it printed, and ends with its status. -/
def main : IO UInt32 := do
  let surroundings ← Understudy.readSurroundings
  let world : Understudy.World :=
    { log := { level := ⟨0, false⟩ }, surroundings := surroundings }
  let (result, after) := (Understudy.runProgram Understudy.invoke).run world
  after.log.unheard.forM IO.eprintln
  IO.print (String.join after.log.printed)
  match result with
  | .ok () => return 0
  | .error _ => return 1
