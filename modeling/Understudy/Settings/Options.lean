import Understudy.Asking
import Understudy.Settings.Source

/-!
# How settings are asked for

Whoever asks for settings can hand over values, and can say how the sources are to be
read: which files of variables there are, what the names of variables begin with, and
the like. Such options have names of their own, and may be given by place as well. An
option that is absent leaves everything as it is.

## Main definitions

* `Options`: the options that are given.
* `readingOf`: the way of reading that they ask for.
* `envFileNames`, `readEnvFile`: the files of variables.
* `argumentsOf`: what a command line gives.
* `asksForValues`: whether the files of the current directory hold one value each.
-/

namespace Understudy

/-! ## Names -/

/-- The options by their names. -/
abbrev Options := List (String × Value)

namespace Options

/-- The names of the options, in the order in which they can be given by place. -/
def names : List String :=
  ["_case_sensitive", "_nested_model_default_partial_update", "_env_prefix",
    "_env_prefix_target", "_env_file", "_env_file_encoding", "_env_file_depth",
    "_env_ignore_empty", "_env_nested_delimiter", "_env_nested_max_split",
    "_env_parse_none_str", "_env_parse_enums", "_cli_prog_name", "_cli_parse_args",
    "_cli_settings_source", "_cli_parse_none_str", "_cli_hide_none_type", "_cli_avoid_json",
    "_cli_enforce_required", "_cli_use_class_docs_for_groups", "_cli_exit_on_error",
    "_cli_prefix", "_cli_flag_prefix_char", "_cli_implicit_flags", "_cli_ignore_unknown_args",
    "_cli_kebab_case", "_cli_shortcuts", "_cli_show_env_vars", "_secrets_dir",
    "_build_sources"]

/-- Whether a name is one of an option. -/
def isName (name : String) : Bool := names.contains name

/-- The value of an option, unless it is the absent one. -/
def get? (options : Options) (name : String) : Option Value :=
  (options.lookup name).filter fun v => !v.isNone

end Options

/-! ## The way of reading -/

/-- What the names of variables begin with. A value that has no length cannot be asked
for its own, and one that is no text cannot be followed by a name. -/
def readStem (options : Options) (r : Reading) : Action Reading := do
  match options.get? "_env_prefix" with
  | none => return r
  | some v =>
    let w ← get
    match v.text? with
    | some stem => return { r with stem := stem }
    | none =>
      if (w.length? v).isNone then throw (.noLength (w.fullTypeName v))
      match v with
      | .list _ => throw (.noConcatenation "list" "str")
      | .tuple _ _ => throw (.noConcatenation "tuple" "str")
      | v => throw (.noSum "+" (w.fullTypeName v) "str")

/-- The way of reading that options ask for. -/
def readingOf (options : Options) : Action Reading := do
  let r ← readStem options {}
  let w ← get
  let isOn := fun (name : String) => (options.get? name).any w.truthy
  let bare := (options.get? "_env_prefix_target").any fun v =>
    ["variable", "all"].all fun target => v.text? != some target
  return { r with
    exact := isOn "_case_sensitive"
    bare := bare
    skipEmpty := isOn "_env_ignore_empty"
    absent := (options.get? "_env_parse_none_str").bind Value.text? }

/-! ## Files of variables -/

/-- The fault of a value in place of a path. -/
def noPath (v : Value) : Action Fault :=
  return .operationArguments
    ("expected str, bytes or os.PathLike object, not " ++ (← get).fullTypeName v)

/-- The names in an argument: one, or several. -/
def pathNames (v : Value) : Action (List String) := do
  match v.text? with
  | some name => return [name]
  | none => needTexts (← iterate v)
where
  /-- Values that have to be texts. -/
  needTexts : List Value → Action (List String)
    | [] => return []
    | v :: rest => do
      match v.text? with
      | some name => return name :: (← needTexts rest)
      | none => throw (← noPath v)

/-- The names of the files of variables, the strongest last. -/
def envFileNames (options : Options) : Action (List String) :=
  match options.lookup "_env_file" with
  | none => return [defaultEnvFile]
  | some .none => return []
  | some v => pathNames v

/-- What the name of a file or a directory leads to. -/
def goalOf (name : String) : Action Path.Goal := do
  match (← get).surroundings.goal name with
  | .ok goal => return goal
  | .error fault => throw (.badPath fault)

/-- The encoding in which the files of variables are read. -/
def encodingOf (options : Options) : Action Encoding := do
  match options.get? "_env_file_encoding" with
  | none => return .unicode
  | some v =>
    let w ← get
    if !w.truthy v then return .unicode
    match v.text? with
    | none =>
      throw (.operationArguments
        ("open() argument 'encoding' must be str or None, not " ++ w.fullTypeName v))
    | some name =>
      match Encoding.ofName? name with
      | some encoding => return encoding
      | none => throw (.unknownEncoding name)

/-- The text of a file of variables, if there is one. The encoding is looked for only
when there is something to be read. -/
def readEnvFile (options : Options) (name : String) : Action (Option String) := do
  match ← goalOf name with
  | .file text =>
    match (← encodingOf options).decode text with
    | .ok text => return some text
    | .error fault => throw (.undecodable fault)
  | _ => return none

/-! ## The other sources -/

/-- What a command line gives. -/
def argumentsOf (options : Options) (r : Reading) : Action (List (Setting × String)) := do
  match options.get? "_cli_parse_args" with
  | none => return []
  | some (.bool _) => return []
  | some v =>
    let w ← get
    let items? := match v with
      | .list _ | .tuple _ _ => w.items? v
      | _ => none
    match items? with
    | none =>
      if !w.truthy v && v.number?.isSome then return []
      match w.typeOf v with
      | .typeNamed path _ =>
        throw (.badSettings ("cli_parse_args must be a list or tuple of strings, received " ++
          Value.shownType path))
      | _ => return []
    | some items =>
      match Arguments.read? r.exact (items.filterMap Value.text?) with
      | some given => return given
      | none => throw (.ended 2)

/-- Whether the files of the current directory hold one value each. -/
def asksForValues (options : Options) : Action Bool := do
  match options.get? "_secrets_dir" with
  | none => return false
  | some v =>
    let goals ← goalsOf (← pathNames v)
    if goals.any isFile then
      throw (.badSettings "secrets_dir must reference a directory, not a file")
    return goals.any (· == .here)
where
  /-- What names lead to. -/
  goalsOf : List String → Action (List Path.Goal)
    | [] => return []
    | name :: rest => do return (← goalOf name) :: (← goalsOf rest)
  /-- Whether a path leads to a file. -/
  isFile : Path.Goal → Bool
    | .file _ => true
    | _ => false

end Understudy
