import Understudy.Text.Quoted

/-!
# Where files are found

A file is asked for by a path. Separators that say nothing and components that stand
for the same directory do not count, and a leading tilde stands for the home of the
user. Every file lies in the current directory. A path is followed from one directory to
the next; it may lead anywhere else, where nothing is found, or be one that cannot be
followed at all.

## Main definitions

* `Path`: the components of a path.
* `Path.expand`: a path with the home of the user in place of the tilde.
* `Path.follow`: what a path leads to.
-/

namespace Understudy

/-- A path by its components. -/
structure Path where
  absolute : Bool
  parts : List String
  deriving Repr, DecidableEq

/-- Why a path cannot be followed. -/
inductive PathFault where
  /-- Nobody knows where the home of the user is. -/
  | noHome
  /-- A component, or the whole path, is too long. -/
  | tooLong (path : String)
  deriving Repr, DecidableEq

namespace Path

/-- The components between separators. -/
def components : List Char → List (List Char)
  | [] => [[]]
  | c :: rest =>
    if c = '/' then [] :: components rest
    else
      match components rest with
      | [] => [[c]]
      | first :: others => (c :: first) :: others

/-- The path a text spells. -/
def ofText (s : String) : Path :=
  ⟨s.toList.head? == some '/',
    ((components s.toList).filter fun part => part != [] && part != ['.']).map String.ofList⟩

/-- How a path is spelled. -/
def text (p : Path) : String :=
  let joined := "/".intercalate p.parts
  if p.absolute then "/" ++ joined else if p.parts.isEmpty then "." else joined

/-- The users that every machine has. -/
def knownUsers : List String :=
  ["root", "daemon", "bin", "sys", "sync", "games", "man", "lp", "mail", "news", "uucp",
    "proxy", "www-data", "backup", "list", "irc", "nobody"]

/-- The home that a tilde with a user's name stands for. Without a name it is the one
that the environment tells. -/
def home? (told : Option String) (user : String) : Option String :=
  if user = "" then
    match told with
    | none => some "/root"
    | some home =>
      let kept := (home.toList.reverse.dropWhile (· == '/')).reverse
      if kept.isEmpty then some "/"
      else if kept.head? == some '~' then none
      else some (String.ofList kept)
  else if knownUsers.contains user then some ("/home/" ++ user)
  else none

/-- A path with the home of the user in place of a leading tilde. -/
def expand (told : Option String) (p : Path) : Except PathFault Path :=
  match p.absolute, p.parts with
  | false, first :: rest =>
    match first.toList with
    | '~' :: user =>
      match home? told (String.ofList user) with
      | some home =>
        let start := ofText home
        .ok ⟨start.absolute, start.parts ++ rest⟩
      | none => .error .noHome
    | _ => .ok p
  | _, _ => .ok p

/-- The most bytes of a component, and of a path. -/
def longestPart : Nat := 255

@[inherit_doc longestPart]
def longestPath : Nat := 4095

/-- What a path can lead to. -/
inductive Goal where
  /-- The current directory. -/
  | here
  /-- A directory above the current one. -/
  | above
  /-- Another directory of the machine, by its components. -/
  | directory (parts : List String)
  /-- A file of the current directory, by its text. -/
  | file (text : String)
  | nothing
  deriving Repr, DecidableEq

/-- The directories that every machine has, by their components. -/
def machineDirectories : List (List String) :=
  [["bin"], ["boot"], ["dev"], ["etc"], ["home"], ["lib"], ["media"], ["mnt"], ["opt"],
    ["proc"], ["proc", "self"], ["root"], ["run"], ["sbin"], ["srv"], ["sys"], ["tmp"], ["usr"],
    ["usr", "bin"], ["usr", "include"], ["usr", "lib"], ["usr", "local"], ["usr", "local", "bin"],
    ["usr", "local", "lib"], ["usr", "sbin"], ["usr", "share"], ["usr", "src"], ["var"],
    ["var", "cache"], ["var", "lib"], ["var", "log"], ["var", "tmp"]]

/-- What one component leads to from a directory. -/
def step (files : List (String × String)) (part : String) : Goal → Goal
  | .here =>
    if part = ".." then .above
    else
      match files.find? fun (name, _) => ofText name == ⟨false, [part]⟩ with
      | some (_, text) => .file text
      | none => .nothing
  | .above => if part = ".." then .above else .nothing
  | .directory parts =>
    if part = ".." then .directory parts.dropLast
    else if parts ++ [part] = ["proc", "self", "cwd"] then .here
    else if machineDirectories.contains (parts ++ [part]) then .directory (parts ++ [part])
    else .nothing
  | .file _ | .nothing => .nothing

/-- Whether something is a directory. -/
def Goal.isDirectory : Goal → Bool
  | .here | .above | .directory _ => true
  | .file _ | .nothing => false

/-- What components lead to from somewhere. A component that is too long is noticed only
where there is a directory to look for it in. -/
def followFrom (whole : String) (files : List (String × String)) :
    Goal → List String → Except PathFault Goal
  | start, [] => .ok start
  | start, part :: rest =>
    if start.isDirectory && longestPart < part.utf8ByteSize then .error (.tooLong whole)
    else followFrom whole files (step files part start) rest

/-- What a path leads to among files of the current directory. -/
def follow (p : Path) (files : List (String × String)) : Except PathFault Goal :=
  if p.text.toList.contains (Char.ofNat 0) then .ok .nothing
  else if longestPath < p.text.utf8ByteSize then .error (.tooLong p.text)
  else followFrom p.text files (if p.absolute then .directory [] else .here) p.parts

end Path

end Understudy
