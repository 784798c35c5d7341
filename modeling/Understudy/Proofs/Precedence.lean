import Understudy.Proofs.JudgedSettings

/-!
# Which source counts

Of all the sources that give a setting the strongest counts, and what the weaker ones give is not
even looked at: whatever it is, settings come out the same, or are refused with the same
complaints. Whoever names a file of variables does not have the usual one read as well, unless it
is the usual one that the name leads to.

## Main definitions

* `Origin`: the sources, the strongest first.
* `Sources.Agree`: two configurations that differ only in what is overruled in both.
* `World.MadeAlike`: two ways in which asking for settings may end that are as good as the same.
* `Surroundings.ReachesDefault`: a name that leads to the usual file of variables.

## Main statements

* `Sources.choice_eq_some_iff`: the first source that gives a setting counts.
* `Settings.unswayed`: weaker sources have no say.
-/

namespace Understudy

/-! ## The sources by their strength -/

/-- The sources that can give a setting. -/
inductive Origin where
  | arguments
  | direct
  | environment
  | file
  | values
  deriving Repr, DecidableEq

namespace Origin

/-- Every source, the strongest first. -/
def all : List Origin := [.arguments, .direct, .environment, .file, .values]

/-- The sources that are stronger than one. -/
def above (o : Origin) : List Origin := all.takeWhile (· != o)

theorem mem_all (o : Origin) : o ∈ all := by cases o <;> decide

/-- What stands before a source among all of them is stronger. -/
theorem eq_above {o : Origin} {before after : List Origin} (h : all = before ++ o :: after) :
    before = o.above := by
  have hnodup : (before ++ o :: after).Nodup := h ▸ by decide
  have hbefore : ∀ other ∈ before, (other != o) = true := fun other hmem =>
    bne_iff_ne.2 ((List.nodup_append.1 hnodup).2.2 other hmem o (List.mem_cons_self ..))
  rw [above, h, List.takeWhile_append_of_pos hbefore, List.takeWhile_cons_of_neg (by simp),
    List.append_nil]

theorem above_trans {o other least : Origin} (h : o ∈ other.above) (h' : other ∈ least.above) :
    o ∈ least.above := by
  revert h h'
  cases o <;> cases other <;> cases least <;> decide

end Origin

namespace Sources

variable {a b : Sources} {name : Setting} {o : Origin} {v : Value}

/-- The value that one source gives for a setting. -/
def given? (sources : Sources) (name : Setting) : Origin → Option Value
  | .arguments => (sources.argument? name).map (argumentValue sources.reading)
  | .direct => sources.direct? name
  | .environment =>
    (lastUnder (sources.reading.variableOf name) sources.environment).map sources.reading.valueOf
  | .file => (sources.file.get? (sources.reading.variableOf name)).join.map sources.reading.valueOf
  | .values => (sources.values.lookup (sources.reading.variableOf name)).map Value.ofText

/-- A source that is stronger than one gives the setting as well. -/
def Overruled (sources : Sources) (name : Setting) (o : Origin) : Prop :=
  ∃ stronger ∈ o.above, (sources.given? name stronger).isSome

theorem choice_eq (sources : Sources) (name : Setting) :
    sources.choice name = Origin.all.findSome? (sources.given? name) := by
  simp only [choice, found?, text?, Origin.all, List.findSome?_cons, List.findSome?_nil, given?]
  cases sources.argument? name with
  | some text => rfl
  | none =>
    cases sources.direct? name with
    | some v => rfl
    | none =>
      cases lastUnder (sources.reading.variableOf name) sources.environment with
      | some text => rfl
      | none =>
        rcases sources.file.get? (sources.reading.variableOf name) with - | - | text
        · cases sources.values.lookup (sources.reading.variableOf name) <;> rfl
        · cases sources.values.lookup (sources.reading.variableOf name) <;> rfl
        · rfl

/-- The value that counts is the one of a source that gives the setting and that no other source
overrules. -/
theorem choice_eq_some_iff : a.choice name = some v ↔
    ∃ o, a.given? name o = some v ∧ ¬a.Overruled name o := by
  rw [choice_eq, List.findSome?_eq_some_iff]
  constructor
  · rintro ⟨before, o, after, hsplit, hv, hnone⟩
    refine ⟨o, hv, ?_⟩
    rintro ⟨stronger, hmem, hsome⟩
    rw [hnone stronger (Origin.eq_above hsplit ▸ hmem)] at hsome
    cases hsome
  · rintro ⟨o, hv, hfirst⟩
    obtain ⟨before, after, hsplit⟩ := List.append_of_mem o.mem_all
    refine ⟨before, o, after, hsplit, hv, fun stronger hmem => ?_⟩
    rw [← Option.not_isSome_iff_eq_none]
    exact fun hsome => hfirst ⟨stronger, Origin.eq_above hsplit ▸ hmem, hsome⟩

/-! ## Two configurations -/

/-- What is handed over directly under names that are no settings. -/
def strayDirect (sources : Sources) : List (String × Value) :=
  sources.direct.filter fun (name, _) => (Setting.ofWord? (Text.lower name)).isNone

/-- What the files of variables give under names that are no settings. -/
def strayInFile (sources : Sources) : List (String × Option String) :=
  sources.file.toList.filter fun (name, _) =>
    !Setting.all.any fun s => name == sources.reading.variableOf s

/-- Two configurations that are read alike and give the same, but for what a source gives for a
setting that a stronger one gives in both. -/
structure Agree (a b : Sources) : Prop where
  reading : a.reading = b.reading
  given : ∀ name o, a.given? name o ≠ b.given? name o →
    a.Overruled name o ∧ b.Overruled name o
  direct : a.strayDirect = b.strayDirect
  file : a.strayInFile = b.strayInFile

theorem Agree.symm (h : a.Agree b) : b.Agree a :=
  ⟨h.reading.symm, fun name o hne => (h.given name o hne.symm).symm, h.direct.symm, h.file.symm⟩

/-- What counts in the one counts in the other. -/
theorem Agree.choice_eq_some (h : a.Agree b) (ha : a.choice name = some v) :
    b.choice name = some v := by
  obtain ⟨o, hv, hfirst⟩ := choice_eq_some_iff.1 ha
  -- Where the two differ the first one is overruled, so they do not differ at its first source, nor
  -- at a stronger one.
  have hsame : a.given? name o = b.given? name o :=
    Classical.byContradiction fun hne => hfirst (h.given name o hne).1
  refine choice_eq_some_iff.2 ⟨o, hsame ▸ hv, ?_⟩
  rintro ⟨stronger, hmem, hsome⟩
  refine hfirst ⟨stronger, hmem, ?_⟩
  by_cases hne : a.given? name stronger = b.given? name stronger
  · rwa [hne]
  · obtain ⟨strongest, hmem', hsome'⟩ := (h.given name stronger hne).1
    exact absurd ⟨strongest, Origin.above_trans hmem' hmem, hsome'⟩ hfirst

theorem Agree.choice (h : a.Agree b) : a.choice = b.choice := by
  funext name
  refine Option.ext fun v => ?_
  exact ⟨h.choice_eq_some, h.symm.choice_eq_some⟩

/-- The names that are unknown are those that are given under such names. -/
theorem unknownDirect_eq (sources : Sources) :
    sources.unknownDirect = sources.strayDirect.map Prod.fst := by
  rw [unknownDirect, strayDirect, ← List.filterMap_eq_map, List.filterMap_filter]
  refine List.filterMap_congr fun ⟨name, _⟩ _ => ?_
  cases h : Setting.ofWord? (Text.lower name) <;> simp [h]

/-- What a file gives under the name of a variable is never unknown. -/
theorem unknownInFile_eq (sources : Sources) :
    sources.unknownInFile = sources.strayInFile.filterMap fun (name, value) =>
      value.bind fun text =>
        if text = "" ∨ (sources.reading.stem ≠ "" ∧ (Setting.ofWord? name).isSome) then none
        else some name := by
  rw [unknownInFile, strayInFile, List.filterMap_filter]
  refine List.filterMap_congr fun ⟨name, value⟩ _ => ?_
  cases value with
  | none => simp
  | some text =>
    cases h : Setting.all.any fun s => name == sources.reading.variableOf s <;> simp [h]

theorem Agree.unknown (h : a.Agree b) : a.unknown = b.unknown := by
  have hdirect : a.unknownDirect = b.unknownDirect := by
    rw [unknownDirect_eq, unknownDirect_eq, h.direct]
  have hfile : a.unknownInFile = b.unknownInFile := by
    rw [unknownInFile_eq, unknownInFile_eq, h.file, h.reading]
  rw [Sources.unknown, hdirect, hfile, Sources.unknown]

end Sources

/-! ## Settings made of them -/

/-- Two ends that asking for settings may come to: settings that hold the same values and had the
same ones given, or the same complaints. -/
inductive World.MadeAlike :
    Except Fault (Ref .settings) × World → Except Fault (Ref .settings) × World → Prop
  | made {cfg cfg' : Ref .settings} {w w' : World}
    (get : ∀ name, ((w.row cfg : Configuration).get name).Alike
      ((w'.row cfg' : Configuration).get name))
    (given : (w.row cfg : Configuration).given = (w'.row cfg' : Configuration).given) :
    MadeAlike (.ok cfg, w) (.ok cfg', w')
  | refused (told : List Complaint) (w w' : World) :
    MadeAlike (.error (.refusedSettings told), w) (.error (.refusedSettings told), w')

namespace Sources.Agree

variable {a b : Sources}

/-- Settings that are made of configurations that agree are as good as the same. -/
theorem madeAlike (h : a.Agree b) {w w' : World} {direct direct' : List (String × Value)}
    (ha : w.outcome (readSources direct) = .ok a)
    (hb : w'.outcome (readSources direct') = .ok b) :
    World.MadeAlike (w.run (newSettings direct)) (w'.run (newSettings direct')) := by
  have hread : w.run (readSources direct) = (.ok a, w.after (readSources direct)) :=
    Prod.ext ha rfl
  have hread' : w'.run (readSources direct') = (.ok b, w'.after (readSources direct')) :=
    Prod.ext hb rfl
  cases hvalid : Settings.validate a.choice a.unknown with
  | error told =>
    have hvalid' : Settings.validate b.choice b.unknown = .error told := by
      rw [← h.choice, ← h.unknown, hvalid]
    rw [Settings.run_newSettings_of_error hread hvalid,
      Settings.run_newSettings_of_error hread' hvalid']
    exact .refused told _ _
  | ok s =>
    have hvalid' : Settings.validate b.choice b.unknown = .ok s := by
      rw [← h.choice, ← h.unknown, hvalid]
    rw [World.run_eq, World.run_eq w',
      World.outcome_of_run (Settings.run_newSettings_of_ok hread hvalid),
      World.outcome_of_run (Settings.run_newSettings_of_ok hread' hvalid')]
    have hrow := Settings.row_newSettings_of_ok hread hvalid
    have hrow' := Settings.row_newSettings_of_ok hread' hvalid'
    refine .made (fun name => ?_) ?_
    · rw [hrow, hrow']
      exact (Settings.alike_ofChoice _ hvalid name).trans
        (Settings.alike_ofChoice _ hvalid' name).symm
    · rw [hrow, hrow', Configuration.ofChoice, Configuration.ofChoice, h.choice]

end Sources.Agree

/-! ## Files of variables -/

/-- The state with the lines logged on which a file of variables could not be read. -/
def World.warned (w : World) (lines : List Nat) : World :=
  { w with log := lines.foldl (fun log line => log.emit ⟨30, envFileLogger,
      "python-dotenv could not parse statement starting at line " ++ toString line, none⟩) w.log }

theorem World.run_warnMalformed (w : World) (lines : List Nat) :
    w.run (warnMalformed lines) = (.ok (), w.warned lines) := by
  induction lines generalizing w with
  | nil => rfl
  | cons line rest ih => exact (World.run_bind_of_run rfl).trans (ih _)

/-- The text of a file, if something is one. -/
def Path.Goal.text? : Path.Goal → Option String
  | .file text => some text
  | _ => none

/-- Options that ask for one file of variables at most, and leave everything else as it is. -/
inductive Options.Name : Options → String → Prop
  | usual : Name [] defaultEnvFile
  | other (name : String) : Name [("_env_file", .ofText name)] name

theorem World.run_goalOf (w : World) (name : String) : w.run (goalOf name) =
    match w.surroundings.goal name with
    | .ok goal => (.ok goal, w)
    | .error fault => (.error (.badPath fault), w) := by
  rw [goalOf, World.run_bind_of_run (World.run_get w)]
  cases w.surroundings.goal name <;> rfl

theorem World.run_readEnvFile {options : Options} {name : String} (h : options.Name name)
    (w : World) : w.run (readEnvFile options name) =
      match w.surroundings.goal name with
      | .ok goal => (.ok goal.text?, w)
      | .error fault => (.error (.badPath fault), w) := by
  have hencoding : w.run (encodingOf options) = (.ok .unicode, w) := by cases h <;> rfl
  rw [readEnvFile, World.run_bind, World.run_goalOf]
  rcases w.surroundings.goal name with fault | goal
  · rfl
  · cases goal with
    | file text =>
      simp only
      rw [World.run_bind_of_run hencoding]
      rfl
    | _ => rfl

/-- A file of variables is read if its name leads to one, and the lines that are wrong in it are
logged. -/
theorem World.run_readEnvFiles {options : Options} {name : String} (h : options.Name name)
    (w : World) : w.run (readEnvFiles options [name]) =
      match w.surroundings.goal name with
      | .ok goal =>
        (.ok goal.text?.toList, w.warned (goal.text?.toList.flatMap EnvFile.malformedLines))
      | .error fault => (.error (.badPath fault), w) := by
  rw [readEnvFiles, World.run_bind, World.run_readEnvFile h]
  rcases w.surroundings.goal name with fault | goal
  · rfl
  · cases goal with
    | file text =>
      simp only [Path.Goal.text?, Option.toList_some, List.flatMap_cons, List.flatMap_nil,
        List.append_nil]
      rw [World.run_bind_of_run (World.run_warnMalformed ..)]
      rfl
    | _ => rfl

/-- What is read if nothing but a file of variables is asked for. -/
theorem World.run_readSources {direct : List (String × Value)} {name : String}
    (h : Options.Name (direct.filter fun (name, _) => Options.isName name) name) (w : World) :
    w.run (readSources direct) =
      match w.surroundings.goal name with
      | .ok goal => (.ok (w.surroundings.sources {} []
          (direct.filter fun (name, _) => !Options.isName name) goal.text?.toList false),
          w.warned (goal.text?.toList.flatMap EnvFile.malformedLines))
      | .error fault => (.error (.badPath fault), w) := by
  have hread : w.run (readSources direct) = w.run (readEnvFiles
      (direct.filter fun (name, _) => Options.isName name) [name] >>= fun texts =>
        get >>= fun w => pure (w.surroundings.sources {} []
          (direct.filter fun (name, _) => !Options.isName name) texts false)) := by
    unfold readSources
    generalize (direct.filter fun (name, _) => Options.isName name) = options at h ⊢
    cases h <;> rfl
  rw [hread, World.run_bind, World.run_readEnvFiles h]
  cases w.surroundings.goal name <;> rfl

/-! ## The usual file of variables -/

namespace Surroundings

/-- The surroundings with other files. -/
def withFiles (u : Surroundings) (files : List (String × String)) : Surroundings :=
  { u with files := files }

/-- A name leads to the usual file of variables: it does where there is no other file. -/
def ReachesDefault (u : Surroundings) (name : String) : Prop :=
  (u.withFiles [(defaultEnvFile, "")]).goal name = .ok (.file "")

end Surroundings

/-- The files that are not the usual file of variables. -/
def otherFiles (files : List (String × String)) : List (String × String) :=
  files.filter fun (name, _) => Path.ofText name != Path.ofText defaultEnvFile

namespace Path

variable {files files' : List (String × String)} {probe goal goal' : Goal}

/-- What the components of a path have led to where there is the usual file of variables only, and
among two lists of files that have all other files in common. -/
inductive Parallel : Goal → Goal → Goal → Prop
  /-- So far the path has not come to a file. -/
  | same (goal : Goal) : Parallel goal goal goal
  /-- It has come to another file, or to nothing. -/
  | other {goal : Goal} (ended : goal.isDirectory = false) : Parallel .nothing goal goal
  /-- It has come to the usual file, which need not be there. -/
  | default {goal goal' : Goal} (ended : goal.isDirectory = false)
    (ended' : goal'.isDirectory = false) : Parallel (.file "") goal goal'

theorem Parallel.isDirectory (h : Parallel probe goal goal') :
    goal.isDirectory = probe.isDirectory ∧ goal'.isDirectory = probe.isDirectory := by
  cases h with
  | same => exact ⟨rfl, rfl⟩
  | other ended => exact ⟨ended, ended⟩
  | default ended ended' => exact ⟨ended, ended'⟩

theorem ofText_defaultEnvFile : ofText defaultEnvFile = ⟨false, [defaultEnvFile]⟩ := by
  decide +kernel

theorem step_of_not_isDirectory {part : String} (h : goal.isDirectory = false) :
    step files part goal = .nothing := by
  cases goal <;> first | rfl | cases h

/-- A component that is not the name of the usual file leads to the same in both lists. -/
theorem find?_otherFiles {part : String} (hpart : part ≠ defaultEnvFile)
    (h : otherFiles files = otherFiles files') :
    files.find? (fun (name, _) => ofText name == ⟨false, [part]⟩) =
      files'.find? fun (name, _) => ofText name == ⟨false, [part]⟩ := by
  have hother : ∀ files : List (String × String),
      (otherFiles files).find? (fun (name, _) => ofText name == ⟨false, [part]⟩) =
        files.find? fun (name, _) => ofText name == ⟨false, [part]⟩ := by
    intro files
    rw [otherFiles, List.find?_filter]
    congr 1
    funext ⟨name, _⟩
    by_cases hname : ofText name = ⟨false, [part]⟩
    · have hne : (⟨false, [part]⟩ : Path) ≠ ofText defaultEnvFile := fun heq =>
        hpart (List.head_eq_of_cons_eq (congrArg Path.parts (heq.trans ofText_defaultEnvFile)))
      simp [hname, hne]
    · simp [hname]
  rw [← hother, h, hother]

theorem Parallel.step (h : Parallel probe goal goal') (hfiles : otherFiles files = otherFiles files')
    (part : String) : Parallel (step [(defaultEnvFile, "")] part probe) (step files part goal)
      (step files' part goal') := by
  cases h with
  | other ended =>
    rw [step_of_not_isDirectory ended, step_of_not_isDirectory ended, step_of_not_isDirectory rfl]
    exact .same _
  | default ended ended' =>
    rw [step_of_not_isDirectory ended, step_of_not_isDirectory ended', step_of_not_isDirectory rfl]
    exact .same _
  | same =>
    cases probe with
    | above | directory | file | nothing => exact .same _
    | here =>
      by_cases hup : part = ".."
      · simp only [Path.step, if_pos hup]
        exact .same _
      simp only [Path.step, if_neg hup]
      by_cases hpart : part = defaultEnvFile
      · have hprobe : (ofText defaultEnvFile == ⟨false, [part]⟩) = true := by
          rw [hpart, ofText_defaultEnvFile, beq_iff_eq]
        simp only [List.find?_cons, hprobe]
        refine .default ?_ ?_ <;> split <;> rfl
      · have hprobe : (ofText defaultEnvFile == ⟨false, [part]⟩) = false := by
          rw [ofText_defaultEnvFile, beq_eq_false_iff_ne]
          exact fun heq => hpart (List.head_eq_of_cons_eq (congrArg Path.parts heq)).symm
        simp only [List.find?_cons, hprobe, List.find?_nil, find?_otherFiles hpart hfiles]
        refine .other ?_
        split <;> rfl

/-- A path that does not lead to the usual file leads to the same in both lists. -/
theorem Parallel.followFrom {whole : String} {parts : List String}
    (h : Parallel probe goal goal') (hfiles : otherFiles files = otherFiles files')
    (hprobe : followFrom whole [(defaultEnvFile, "")] probe parts ≠ .ok (.file "")) :
    followFrom whole files' goal' parts = followFrom whole files goal parts := by
  induction parts generalizing probe goal goal' with
  | nil =>
    cases h with
    | same | other => rfl
    | default => exact absurd rfl hprobe
  | cons part rest ih =>
    rw [Path.followFrom] at hprobe ⊢
    rw [Path.followFrom, h.isDirectory.1, h.isDirectory.2]
    split
    · rfl
    · rename_i hshort
      rw [if_neg hshort] at hprobe
      exact ih (h.step hfiles part) hprobe

theorem follow_otherFiles {path : Path} (hfiles : otherFiles files = otherFiles files')
    (hprobe : path.follow [(defaultEnvFile, "")] ≠ .ok (.file "")) :
    path.follow files' = path.follow files := by
  unfold follow at hprobe ⊢
  split
  · rfl
  split
  · rfl
  rename_i hnul hlong
  rw [if_neg hnul, if_neg hlong] at hprobe
  exact (Parallel.same _).followFrom hfiles hprobe

end Path

/-- A name that does not lead to the usual file leads to the same whatever that file is. -/
theorem Surroundings.goal_withFiles {u : Surroundings} {files : List (String × String)}
    {name : String} (hfiles : otherFiles u.files = otherFiles files)
    (hname : ¬u.ReachesDefault name) : (u.withFiles files).goal name = u.goal name := by
  unfold ReachesDefault Surroundings.goal at hname
  unfold Surroundings.goal
  show ((Path.ofText name).expand (u.environment.lookup "HOME") >>= fun path =>
    path.follow files) = _
  have hprobe : ((Path.ofText name).expand (u.environment.lookup "HOME") >>= fun path =>
    path.follow [(defaultEnvFile, "")]) ≠ .ok (.file "") := hname
  cases h : (Path.ofText name).expand (u.environment.lookup "HOME") with
  | error fault => rfl
  | ok path =>
    rw [h] at hprobe
    exact Path.follow_otherFiles hfiles hprobe

/-- The text of the usual file of variables, if there is one. -/
def Surroundings.usual? (u : Surroundings) : Option String :=
  (u.files.find? fun (name, _) => Path.ofText name == Path.ofText defaultEnvFile).map Prod.snd

/-- The usual file can be looked for in any surroundings. -/
theorem Surroundings.goal_defaultEnvFile (u : Surroundings) :
    u.goal defaultEnvFile = .ok ((u.usual?.map Path.Goal.file).getD .nothing) := by
  have hexpand : (Path.ofText defaultEnvFile).expand (u.environment.lookup "HOME") =
      .ok (Path.ofText defaultEnvFile) := by
    rw [Path.ofText_defaultEnvFile]
    rfl
  have hnul : ((Path.ofText defaultEnvFile).text.toList.contains (Char.ofNat 0)) = false := by
    decide +kernel
  have hlong : ¬Path.longestPath < (Path.ofText defaultEnvFile).text.utf8ByteSize := by
    decide +kernel
  have hpart : ¬Path.longestPart < defaultEnvFile.utf8ByteSize := by decide +kernel
  have hup : ¬defaultEnvFile = ".." := by decide
  rw [goal, hexpand]
  show (Path.ofText defaultEnvFile).follow u.files = _
  rw [Path.follow, if_neg (Bool.eq_false_iff.1 hnul), if_neg hlong, usual?]
  simp only [Path.ofText_defaultEnvFile, Path.followFrom, Path.Goal.isDirectory, Path.step,
    Bool.true_and, decide_eq_true_eq, Bool.false_eq_true, if_false, if_neg hpart, if_neg hup]
  cases u.files.find? fun (name, _) => Path.ofText name == ⟨false, [defaultEnvFile]⟩ <;> rfl

/-! ## Weaker sources have no say -/

/-- The state with other files around it. -/
def World.withFiles (w : World) (files : List (String × String)) : World :=
  { w with surroundings := w.surroundings.withFiles files }

namespace World

variable {w : World} {files : List (String × String)} {name : String}

/-- To read the sources by a name that does not lead to the usual file comes to the same whatever
that file is. -/
theorem run_readSources_withFiles (h : name ≠ "")
    (hfiles : otherFiles w.surroundings.files = otherFiles files)
    (hname : ¬w.surroundings.ReachesDefault name) :
    (w.withFiles files).run (readSources (Settings.fileGiven (some name))) =
      (w.outcome (readSources (Settings.fileGiven (some name))),
        (w.after (readSources (Settings.fileGiven (some name)))).withFiles files) := by
  have hgiven : Settings.fileGiven (some name) = [("_env_file", .ofText name)] := if_neg h
  have hgoal : (w.withFiles files).surroundings.goal name = w.surroundings.goal name :=
    Surroundings.goal_withFiles hfiles hname
  have hasks : Options.Name
      ([("_env_file", Value.ofText name)].filter fun (name, _) => Options.isName name) name :=
    .other name
  rw [outcome, after, hgiven, run_readSources hasks, run_readSources hasks, hgoal]
  cases w.surroundings.goal name <;> rfl

@[inherit_doc run_readSources_withFiles]
theorem run_newSettings_withFiles (h : name ≠ "")
    (hfiles : otherFiles w.surroundings.files = otherFiles files)
    (hname : ¬w.surroundings.ReachesDefault name) :
    (w.withFiles files).run (newSettings (Settings.fileGiven (some name))) =
      (w.outcome (newSettings (Settings.fileGiven (some name))),
        (w.after (newSettings (Settings.fileGiven (some name)))).withFiles files) := by
  rw [newSettings, outcome, after, run_bind, run_readSources_withFiles h hfiles hname, run_bind,
    run_eq w (readSources _)]
  cases w.outcome (readSources (Settings.fileGiven (some name))) with
  | error fault => rfl
  | ok sources =>
    cases hvalid : sources.validate with
    | error told => simp only [hvalid, run_throw]
    | ok s =>
      simp only [hvalid]
      rfl

end World

namespace Settings

/-- What is given for a setting by a source that is overruled has no say. Settings that are made of
configurations that differ only in that hold the same, or are refused with the same complaints; the
sources can always be read where no options are given; and whoever names another file of variables
gets what there would be whatever the usual file is. -/
theorem unswayed :
    (∀ (w w' : World) (direct direct' : List (String × Value)) (sources sources' : Sources),
      w.outcome (readSources direct) = .ok sources →
      w'.outcome (readSources direct') = .ok sources' → sources.Agree sources' →
        World.MadeAlike (w.run (newSettings direct)) (w'.run (newSettings direct'))) ∧
    (∀ (w : World) (direct : List (String × Value)),
      (∀ given ∈ direct, Options.isName given.1 = false) →
        w.outcome (readSources direct) =
          .ok (w.surroundings.sources {} [] direct w.surroundings.usual?.toList false)) ∧
    ∀ (w : World) (files : List (String × String)) (name : String), name ≠ "" →
      otherFiles w.surroundings.files = otherFiles files → ¬w.surroundings.ReachesDefault name →
        (w.withFiles files).run (settingsFromFile (some name)) =
          (w.outcome (settingsFromFile (some name)),
            (w.after (settingsFromFile (some name))).withFiles files) := by
  refine ⟨fun w w' direct direct' sources sources' h h' hagree => hagree.madeAlike h h',
    fun w direct hplain => ?_, fun w files name hne hfiles hname => ?_⟩
  · have hnone : (direct.filter fun (name, _) => Options.isName name) = [] :=
      List.filter_eq_nil_iff.2 fun given hmem => by simp [hplain given hmem]
    have hall : (direct.filter fun (name, _) => !Options.isName name) = direct :=
      List.filter_eq_self.2 fun given hmem => by simp [hplain given hmem]
    have husual : Options.Name (direct.filter fun (name, _) => Options.isName name)
        defaultEnvFile := hnone ▸ .usual
    rw [World.outcome, World.run_readSources husual, Surroundings.goal_defaultEnvFile, hall]
    cases w.surroundings.usual? <;> rfl
  · rw [settingsFromFile_eq]
    exact World.run_newSettings_withFiles hne hfiles hname

/-- A variable chooses a level, the usual file gives something else for it, and there is one more
file of variables. -/
def givenTwice (text : String) : World :=
  { surroundings :=
      { environment := [("HOSTSHIM_LOG_LEVEL", "DEBUG")]
        files := [(".env", "HOSTSHIM_LOG_LEVEL=" ++ text), ("own.env", "HOSTSHIM_HOST_NAME=x")] } }

/-- What its sources give. -/
def givenTwice.sources (text : String) : Sources where
  reading := {}
  arguments := []
  direct := []
  environment := [("hostshim_log_level", "DEBUG")]
  file := ⟨[("hostshim_log_level", some text)]⟩
  values := []

theorem givenTwice.agree (text text' : String) : (sources text).Agree (sources text') where
  reading := rfl
  given := by
    intro name o hne
    cases o with
    | file =>
      by_cases hname : name = .logLevel
      · have hsome : ∀ text, ((sources text).given? .logLevel .environment).isSome = true := by
          intro text
          show (Option.map ({} : Reading).valueOf (Sources.lastUnder
            (({} : Reading).variableOf .logLevel) [("hostshim_log_level", "DEBUG")])).isSome = true
          decide +kernel
        subst hname
        exact ⟨⟨.environment, by decide, hsome text⟩, ⟨.environment, by decide, hsome text'⟩⟩
      · have hother : ("hostshim_log_level" == ({} : Reading).variableOf name) = false := by
          revert hname
          cases name <;> decide +kernel
        refine absurd ?_ hne
        simp only [Sources.given?, sources, OrderedMap.get?, OrderedMap.find?, hother,
          Bool.false_eq_true, if_false]
    | _ => exact absurd rfl hne
  direct := rfl
  file := by
    have hknown : (Setting.all.any fun s => "hostshim_log_level" == ({} : Reading).variableOf s) =
        true := by
      decide +kernel
    simp only [Sources.strayInFile, sources, List.filter_cons, hknown]
    rfl

/-- A level that is none in the usual file is not noticed where a variable chooses one, nor where
another file is asked for. -/
theorem givenTwice_unswayed :
    let w := givenTwice "ERROR"
    let w' := givenTwice "LOUD"
    (w.outcome (readSources []) = .ok (givenTwice.sources "ERROR") ∧
      w'.outcome (readSources []) = .ok (givenTwice.sources "LOUD") ∧
      (givenTwice.sources "ERROR").Agree (givenTwice.sources "LOUD") ∧
      World.MadeAlike (w.run (newSettings [])) (w'.run (newSettings []))) ∧
    (otherFiles w.surroundings.files = otherFiles w'.surroundings.files ∧
      ¬w.surroundings.ReachesDefault "own.env" ∧
      w'.run (settingsFromFile (some "own.env")) =
        (w.outcome (settingsFromFile (some "own.env")),
          (w.after (settingsFromFile (some "own.env"))).withFiles w'.surroundings.files)) := by
  intro w w'
  have hsources : w.surroundings.sources {} [] [] w.surroundings.usual?.toList false =
      givenTwice.sources "ERROR" := by
    unfold Surroundings.sources givenTwice.sources
    congr 1
    decide +kernel
  have hsources' : w'.surroundings.sources {} [] [] w'.surroundings.usual?.toList false =
      givenTwice.sources "LOUD" := by
    unfold Surroundings.sources givenTwice.sources
    congr 1
    decide +kernel
  have hread := (unswayed.2.1 w [] nofun).trans (congrArg Except.ok hsources)
  have hread' := (unswayed.2.1 w' [] nofun).trans (congrArg Except.ok hsources')
  have hfiles : otherFiles w.surroundings.files = otherFiles w'.surroundings.files := by
    decide +kernel
  have hown : ¬w.surroundings.ReachesDefault "own.env" := by
    show ¬_ = _
    decide +kernel
  have hagree := givenTwice.agree "ERROR" "LOUD"
  exact ⟨⟨hread, hread', hagree, unswayed.1 w w' [] [] _ _ hread hread' hagree⟩,
    hfiles, hown, unswayed.2.2 w w'.surroundings.files "own.env" (by decide) hfiles hown⟩

/-- The usual file can be asked for by its name, and then what it gives counts. -/
theorem defaultEnvFile_sways :
    ¬∀ (w : World) (files : List (String × String)) (name : String), name ≠ "" →
      otherFiles w.surroundings.files = otherFiles files →
        World.MadeAlike (w.run (settingsFromFile (some name)))
          ((w.withFiles files).run (settingsFromFile (some name))) := by
  intro h
  let w : World := {}
  let files := [(".env", "HOSTSHIM_HOST_NAME=x")]
  let sources := w.surroundings.sources {} [] [] [] false
  let sources' := w.surroundings.sources {} [] [] ["HOSTSHIM_HOST_NAME=x"] false
  have hread : w.run (readSources (fileGiven (some ".env"))) = (.ok sources, w) := rfl
  have hread' : (w.withFiles files).run (readSources (fileGiven (some ".env"))) =
      (.ok sources', w.withFiles files) := by
    have hasks : Options.Name ([("_env_file", Value.ofText ".env")].filter
        fun (name, _) => Options.isName name) ".env" := .other ".env"
    have hgoal : (w.withFiles files).surroundings.goal ".env" =
        .ok (.file "HOSTSHIM_HOST_NAME=x") := by decide +kernel
    have hlines : EnvFile.malformedLines "HOSTSHIM_HOST_NAME=x" = [] := by decide +kernel
    have hgiven : fileGiven (some ".env") = [("_env_file", .ofText ".env")] := rfl
    rw [hgiven, World.run_readSources hasks, hgoal]
    simp only [Path.Goal.text?, Option.toList_some, List.flatMap_cons, List.flatMap_nil,
      List.append_nil, hlines]
    rfl
  have hvalid : validate sources.choice sources.unknown = .ok (ofChoice sources.choice) :=
    (validate_eq_ok_iff ..).2 ⟨by decide +kernel, rfl⟩
  have hvalid' : validate sources'.choice sources'.unknown = .ok (ofChoice sources'.choice) :=
    (validate_eq_ok_iff ..).2 ⟨by decide +kernel, rfl⟩
  have hmade := h w files ".env" (by decide) (by decide +kernel)
  rw [settingsFromFile_eq, World.run_eq, World.run_eq (w.withFiles files),
    World.outcome_of_run (run_newSettings_of_ok hread hvalid),
    World.outcome_of_run (run_newSettings_of_ok hread' hvalid')] at hmade
  cases hmade with
  | made get given =>
    have halike := get .hostName
    rw [row_newSettings_of_ok hread hvalid, row_newSettings_of_ok hread' hvalid'] at halike
    have hget := (alike_ofChoice _ hvalid .hostName).symm.trans
      (halike.trans (alike_ofChoice _ hvalid' .hostName))
    have hname : (ofChoice sources.choice).hostName = "xpcshell" := by decide +kernel
    have hname' : (ofChoice sources'.choice).hostName = "x" := by decide +kernel
    rw [Settings.get, Settings.get, hname, hname'] at hget
    exact absurd (Value.text.inj hget).2 (by decide)

end Settings

end Understudy
