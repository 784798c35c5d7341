import Understudy.Settings
import Understudy.Settings.Arguments
import Understudy.Settings.Encoding
import Understudy.Settings.EnvFile
import Understudy.Settings.Location
import Understudy.Machine

/-!
# Where settings come from

A setting is chosen by the strongest source that gives it: words of a command line,
then values handed over directly, then the environment, then files of variables, then
files that hold one value each. A weaker source is not even looked at. Variables carry a
common stem and, unless it is asked otherwise, names are recognised in any case.

## Main definitions

* `Surroundings`: the environment, the files and the host that a program runs in.
* `Reading`: how the sources are read.
* `Sources`: what the sources give.
* `Sources.validate`: the settings that the sources choose.
-/

namespace Understudy

/-- What a program finds around it. -/
structure Surroundings where
  environment : List (String × String) := []
  files : List (String × String) := []
  machine : Machine := default
  deriving Inhabited

/-- The name of the file that is read when no other is asked for. -/
def defaultEnvFile : String := ".env"

/-- The variables of this program begin with this. -/
def variableStem : String := "HOSTSHIM_"

/-- How the sources are read. -/
structure Reading where
  /-- Names count only in the case in which they are written. -/
  exact : Bool := false
  /-- What the names of variables begin with. -/
  stem : String := variableStem
  /-- The names of settings are those of variables as they are. -/
  bare : Bool := false
  /-- Variables without a value are as good as absent. -/
  skipEmpty : Bool := false
  /-- The text that stands for the absent value. -/
  absent : Option String := none
  deriving Repr, DecidableEq, Inhabited

namespace Reading

/-- A name in the form in which it is compared. -/
def fold (r : Reading) (name : String) : String := if r.exact then name else Text.lower name

/-- The name of the variable that gives a setting. -/
def variableOf (r : Reading) (s : Setting) : String :=
  r.fold (if r.bare then s.word else r.stem ++ s.word)

/-- The value that the text of a variable stands for. -/
def valueOf (r : Reading) (text : String) : Value :=
  if r.absent = some text then .none else .ofText text

/-- Whether a variable with a text is looked at. -/
def keeps (r : Reading) (text : String) : Bool := !(r.skipEmpty && text == "")

end Reading

/-- What the sources give, with the mentions in files replaced and the names of
variables in the form in which they are compared. -/
structure Sources where
  reading : Reading
  arguments : List (Setting × String)
  direct : List (String × Value)
  environment : List (String × String)
  file : OrderedMap String (Option String)
  values : List (String × String)

namespace Sources

/-- The last value under a name. -/
def lastUnder (name : String) (pairs : List (String × String)) : Option String :=
  pairs.reverse.lookup name

/-- The value handed over directly for a setting: of several spellings of its name the
first counts. The case of such a name never counts. -/
def direct? (sources : Sources) (s : Setting) : Option Value :=
  (sources.direct.find? fun (name, _) => Text.lower name == s.word).map Prod.snd

/-- The text that a command line gives for a setting: the last one. -/
def argument? (sources : Sources) (s : Setting) : Option String :=
  sources.arguments.reverse.lookup s

/-- The value that a word of a command line stands for. -/
def argumentValue (reading : Reading) (text : String) : Value :=
  if text = reading.absent.getD "null" then .none else .ofText text

/-- The text of a setting in the strongest of the other sources that give it. -/
def text? (sources : Sources) (s : Setting) : Option String :=
  let name := sources.reading.variableOf s
  match lastUnder name sources.environment with
  | some text => some text
  | none =>
    match sources.file.get? name with
    | some (some text) => some text
    | _ => none

/-- The value of a setting in the sources that are read from the surroundings. -/
def found? (sources : Sources) (s : Setting) : Option Value :=
  match sources.text? s with
  | some text => some (sources.reading.valueOf text)
  | none => (sources.values.lookup (sources.reading.variableOf s)).map Value.ofText

/-- The value of the strongest source that gives a setting. -/
def choice (sources : Sources) : Settings.Choice := fun s =>
  match sources.argument? s with
  | some text => some (argumentValue sources.reading text)
  | none => (sources.direct? s).or (sources.found? s)

/-- Names of the files that are no setting. A variable without a value is as good as
absent, and the bare name of a setting is passed over where variables have a stem. -/
def unknownInFile (sources : Sources) : List String :=
  sources.file.toList.filterMap fun (name, value) =>
    match value with
    | some text =>
      if text = "" ∨ (sources.reading.stem ≠ "" ∧ (Setting.ofWord? name).isSome) ∨
          (Setting.all.any fun s => name == sources.reading.variableOf s) then none
      else some name
    | none => none

/-- Directly given names that are no setting. -/
def unknownDirect (sources : Sources) : List String :=
  sources.direct.filterMap fun (name, _) =>
    if (Setting.ofWord? (Text.lower name)).isSome then none else some name

/-- Names that are no setting, those of the files first, each once. -/
def unknown (sources : Sources) : List String :=
  (sources.unknownInFile ++ sources.unknownDirect).eraseDups

end Sources

namespace Surroundings

/-- What the name of a file or a directory leads to. -/
def goal (s : Surroundings) (name : String) : Except PathFault Path.Goal := do
  let path ← (Path.ofText name).expand (s.environment.lookup "HOME")
  path.follow s.files

/-- What one file of variables gives. -/
def fileOf (s : Surroundings) (r : Reading) (text : String) : List (String × Option String) :=
  ((EnvFile.resolve s.environment (EnvFile.bindings text)).toList.filter fun (_, value) =>
      value.all r.keeps).map
    fun (name, value) => (r.fold name, value)

/-- The values in the files of the current directory, which hold one each. -/
def fileValues (s : Surroundings) (r : Reading) : List (String × String) :=
  s.files.map fun (name, text) =>
    (r.fold name,
      String.ofList (Text.trimBoth Text.isBlank (EnvFile.normalize text.toList)))

/-- What the sources give, read from the surroundings. -/
def sources (s : Surroundings) (r : Reading) (arguments : List (Setting × String))
    (direct : List (String × Value)) (texts : List String) (values : Bool) : Sources where
  reading := r
  arguments := arguments
  direct := direct
  environment :=
    (s.environment.filter fun (_, text) => r.keeps text).map fun (name, text) =>
      (r.fold name, text)
  file := OrderedMap.ofList (texts.flatMap fun text => s.fileOf r text)
  values := if values then s.fileValues r else []

end Surroundings

namespace Sources

/-- The settings that the sources choose. -/
def validate (sources : Sources) : Except (List Complaint) Settings :=
  Settings.validate sources.choice sources.unknown

end Sources

end Understudy
