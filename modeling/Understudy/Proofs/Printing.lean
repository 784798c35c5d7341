import Understudy.Proofs.JsonEchoes
import Understudy.Proofs.JsonWriter
import Understudy.Proofs.BootstrapAnywhere
import Understudy.Proofs.SessionReports

/-!
# What the program prints

The program looks for settings, sets an environment up, installs a stand-in, prints what the session
reports then, and shuts the environment down. If there are settings nothing of that can fail: what
is printed is JSON in ASCII, which reads back as the report, and of the settings and the machine
nothing is in it but the vendor of the host. If there are none the program ends with status one and
prints nothing.

Besides the report only lines of the log are printed, and none if the settings do not ask for them.

## Main definitions

* `Logging.Prints`: one log comes of another with lines of records printed.
* `Logging.Shows`: one log comes of another with a text printed among such lines.
* `shimJson`: the report that is printed, by the vendor of the host.
* `useContext`: what the program does with an environment.
* `World.started`: the state in which the program starts.

## Main statements

* `ContextParts.Founded.run_useContext`: nothing that is done with an environment fails.
* `World.Accepts.prints`: where there are settings, the report is printed.
* `World.started_printsOrEnds`: what the program comes to, whatever it finds around it.
-/

namespace Understudy

/-! ## Lines of the log -/

namespace Logging

/-- Lines of records, as a log echoes them. -/
def Echoed (log : Logging) (lines : List String) : Prop :=
  ∀ line ∈ lines, ∃ r, line ∈ log.echoes r

/-- One log comes of another with lines of records printed. Records are echoed as before. -/
structure Prints (log : Logging) (lines : List String) (log' : Logging) : Prop where
  printed : log'.printed = log.printed ++ lines
  echoed : log.Echoed lines
  echoes : log'.echoes = log.echoes
  handlers : log'.handlers = log.handlers

/-- One log comes of another with a text printed, and besides it only lines of records. -/
def Shows (log : Logging) (text : String) (log' : Logging) : Prop :=
  ∃ front back, log'.printed = log.printed ++ front ++ [text] ++ back ∧ log'.Echoed (front ++ back)

variable {log log' log'' : Logging} {lines more : List String}

theorem Echoed.append (h : log.Echoed lines) (h' : log.Echoed more) :
    log.Echoed (lines ++ more) := by
  intro line hline
  rcases List.mem_append.1 hline with hline | hline
  · exact h line hline
  · exact h' line hline

/-- Where nobody listens no lines are printed. -/
theorem Echoed.eq_nil (h : log.Echoed lines) (hnone : log.handlers = []) : lines = [] := by
  refine List.eq_nil_iff_forall_not_mem.2 fun line hline => ?_
  obtain ⟨r, hr⟩ := h line hline
  rw [Logging.echoes, hnone] at hr
  cases hr

namespace Prints

theorem refl (log : Logging) : log.Prints [] log :=
  ⟨(List.append_nil _).symm, nofun, rfl, rfl⟩

theorem trans (h : log.Prints lines log') (h' : log'.Prints more log'') :
    log.Prints (lines ++ more) log'' where
  printed := by rw [h'.printed, h.printed, List.append_assoc]
  echoed := h.echoed.append fun line hline => h.echoes ▸ h'.echoed line hline
  echoes := h'.echoes.trans h.echoes
  handlers := h'.handlers.trans h.handlers

theorem emit (log : Logging) (r : LogRecord) : ∃ lines, log.Prints lines (log.emit r) := by
  unfold Logging.emit
  split
  · cases log.inTree r.logger with
    | true => exact ⟨log.echoes r, rfl, fun _ hline => ⟨r, hline⟩, rfl, rfl⟩
    | false => exact ⟨[], (List.append_nil _).symm, nofun, rfl, rfl⟩
  · exact ⟨[], .refl log⟩

theorem printed_eq (h : log.Prints lines log') (hnone : log.handlers = []) :
    log'.printed = log.printed := by
  rw [h.printed, h.echoed.eq_nil hnone, List.append_nil]

end Prints

/-- A text that is printed in between stands alone where nobody listens. -/
theorem Prints.shows {text : String} (h : log.Prints lines log')
    (h' : Prints { log' with printed := log'.printed ++ [text] } more log'') :
    log.Shows text log'' ∧ (log.handlers = [] → log''.printed = log.printed ++ [text]) := by
  have hprinted : log''.printed = log.printed ++ lines ++ [text] ++ more := by
    rw [h'.printed, h.printed]
  have hechoes : log''.echoes = log.echoes := h'.echoes.trans h.echoes
  refine ⟨⟨lines, more, hprinted, ?_⟩, fun hnone => ?_⟩
  · exact Echoed.append (fun line hline => hechoes ▸ h.echoed line hline) fun line hline => by
      rw [h'.echoes]
      exact h'.echoed line hline
  · rw [hprinted, h.echoed.eq_nil hnone, h'.echoed.eq_nil (h.handlers.trans hnone),
      List.append_nil, List.append_nil]

/-- Records that are logged print lines of records and nothing else. -/
theorem Leads.prints (h : log.Leads log') : ∃ lines, log.Prints lines log' := by
  obtain ⟨records, rfl⟩ := h
  induction records generalizing log with
  | nil => exact ⟨[], .refl log⟩
  | cons r rest ih =>
    obtain ⟨lines, hlines⟩ := Prints.emit log r
    obtain ⟨more, hmore⟩ := @ih (log.emit r)
    exact ⟨lines ++ more, hlines.trans hmore⟩

end Logging

/-! ## Setting up -/

section

variable {w w' : World} {cfg : Ref .settings} {fault : Fault}

/-- Without settings an environment is set up by those that are found. -/
theorem run_bootstrap_found (h : w.run (newSettings []) = (.ok cfg, w')) (call : Caller)
    (registry : Value) :
    w.run (bootstrap call .none registry) = w'.run (bootstrap call (.ofRef cfg) registry) := by
  have hfound : w.run (orElse .none (Value.ofRef <$> newSettings [])) = (.ok (.ofRef cfg), w') := by
    rw [run_orElse_none, World.run_map, h]
  rw [bootstrap_eq, bootstrap_eq, World.run_bind_of_run hfound,
    World.run_bind_of_run (run_orElse rfl _)]

theorem run_bootstrap_unfound (h : w.run (newSettings []) = (.error fault, w')) (call : Caller)
    (registry : Value) : w.run (bootstrap call .none registry) = (.error fault, w') := by
  have hnone : w.run (orElse .none (Value.ofRef <$> newSettings [])) = (.error fault, w') := by
    rw [run_orElse_none, World.run_map, h]
  rw [bootstrap_eq, World.run_bind, hnone]

namespace World.Accepts

variable (ha : w.Accepts cfg)
include ha

/-- Settings that were accepted set the log up. -/
theorem run_openLog (call : Caller) : ∃ level : Level,
    w.run (openLog call (.ofRef cfg)) =
      (.ok (.ofRef cfg),
        { w with
          log := w.log.configure level (layoutOf ((w.row cfg : Configuration).get .logFormat))
            (w.truthy ((w.row cfg : Configuration).get .logDump)) }) := by
  obtain ⟨l, hl⟩ := ha.accepted.logLevel
  have htext : (w.setting cfg .logLevel).text? = some l.word := by
    rw [ha.setting_eq, hl]
    rfl
  refine ⟨⟨l.severity, false⟩, ?_⟩
  rw [World.run_openLog (run_orElse rfl _) (levelOf_of_text? htext w), ha.setting_eq,
    ha.setting_eq]

/-- Where the log is set up the rest is set up without a fault, on a new registry. -/
theorem bootWithLog (hw : w.Intact) (ho : w.Orderly) (call : Caller) :
    ∃ (l : ContextParts) (r : Ref .registry) (host : Ref .component) (c : Ref .context),
      w.outcome (bootWithLog call (.ofRef cfg) .none) = .ok c ∧
        l.Founded r host cfg c w (w.after (Understudy.bootWithLog call (.ofRef cfg) .none)) := by
  have htold : w.run (debug mainLogger "Bootstrapping test environment...") =
      (.ok (), w.after (debug mainLogger "Bootstrapping test environment...")) := rfl
  have hlike := Quiet.emit 10 mainLogger "Bootstrapping test environment..." none w
  obtain ⟨log, serial, hafter⟩ := hlike
  have hcontinues : w.Continues (w.retold log serial) := .of_alike ⟨log, serial, rfl⟩
  have hsettings : w.SameOutside (w.retold log serial) := .of_alike ⟨log, serial, rfl⟩
  obtain ⟨w₁, hregistry, hnew⟩ := (hcontinues.intact hw).refounded
  obtain ⟨l, host, c, hok, hfounded⟩ :=
    (ha.later (hsettings.trans hnew.sameOutside)).bootWithRegistry
    hnew.sane ((ho.continues hcontinues).continues hnew.continues) hnew.new call
  have hrun : w.run (Understudy.bootWithLog call (.ofRef cfg) .none) =
      w₁.run (Understudy.bootWithRegistry call (.ofRef cfg)
        (.ofRef (⟨w.registries.size⟩ : Ref .registry))) := by
    rw [Understudy.bootWithLog, World.run_bind_of_run htold]
    show (w.after (emit 10 mainLogger _ none)).run _ = _
    rw [hafter, World.run_bind_of_run hregistry]
    rfl
  rw [World.outcome, World.after, hrun]
  exact ⟨l, _, host, c, hok, hfounded.before (hcontinues.trans hnew.continues)
    (hsettings.trans hnew.sameOutside) hnew.surroundings⟩

end World.Accepts

end

/-! ## The report -/

/-- A report in JSON, by its answers in JSON. -/
def Report.json (answers : Field → Json) : Json :=
  .object (sections.map fun (title, fields) =>
    (title, .object (fields.map fun (name, field) => (name, answers field))))

section

variable {w : World} {report : Report} {answers : Field → Json}
  (h : ∀ f, w.run (answerJson (report.answer f)) = (.ok (answers f), w))
include h

theorem Report.run_sectionJson (fields : List (String × Field)) :
    w.run (report.sectionJson fields) =
      (.ok (fields.map fun (name, field) => (name, answers field)), w) := by
  induction fields with
  | nil => rfl
  | cons field rest ih =>
    rw [sectionJson, World.run_bind_of_run (h field.2), World.run_bind_of_run ih]
    rfl

theorem Report.run_membersJson (asked : List (String × List (String × Field))) :
    w.run (report.membersJson asked) =
      (.ok (asked.map fun (title, fields) =>
        (title, .object (fields.map fun (name, field) => (name, answers field)))), w) := by
  induction asked with
  | nil => rfl
  | cons section_ rest ih =>
    rw [membersJson, World.run_bind_of_run (Report.run_sectionJson h section_.2),
      World.run_bind_of_run ih]
    rfl

theorem Report.run_toJson : w.run report.toJson = (.ok (Report.json answers), w) := by
  rw [toJson, World.run_bind_of_run (Report.run_membersJson h sections)]
  rfl

end

/-- What the program has its stand-in be. -/
def shimRole : Role :=
  ⟨.ofText "xpcshell@tests.mozilla.org", .ofText "XPCShell", .ofText "1", .ofText "1.9.2"⟩

/-- The report of the program, by the vendor of the host. -/
def shimJson (vendor : String) : Json :=
  .object
    [("build", .object
      [("vendor", .text vendor), ("applicationName", .text "XPCShell"),
        ("applicationId", .text "xpcshell@tests.mozilla.org"), ("version", .text "1"),
        ("buildId", .text "2007010101"), ("platformVersion", .text "1.9.2"),
        ("platformBuildId", .text "2007010101")]),
      ("system", .object [("os", .text "XPCShell"), ("abi", .text "noarch-spidermonkey")]),
      ("settings", .object [("safeMode", .bool false), ("logConsoleErrors", .bool true)])]

theorem lettered_shimJson (vendor : String) : (shimJson vendor).Lettered := by
  have hmembers (members : List (String × Json))
      (h : ∀ m ∈ members, (∃ s, m.2 = .text s) ∨ ∃ b, m.2 = .bool b) :
      (Json.object members).Lettered := by
    refine .object fun m hm => ?_
    rcases h m hm with ⟨s, hs⟩ | ⟨b, hb⟩
    · exact hs ▸ .text s
    · exact hb ▸ .bool b
  refine .object fun m hm => ?_
  simp only [List.mem_cons, List.not_mem_nil, or_false] at hm
  rcases hm with rfl | rfl | rfl <;> exact hmembers _ (by simp)

/-- What the stand-in of the program answers, in JSON. -/
def shimAnswer (vendor : String) : Field → Json
  | .vendor => .text vendor
  | .name => .text "XPCShell"
  | .id => .text "xpcshell@tests.mozilla.org"
  | .version => .text "1"
  | .appBuildId | .platformBuildId => .text "2007010101"
  | .platformVersion => .text "1.9.2"
  | .inSafeMode => .bool false
  | .logConsoleErrors => .bool true
  | .os => .text "XPCShell"
  | .abi => .text "noarch-spidermonkey"

/-- The stand-in of the program is reported as it was asked to be, with the vendor of the host. -/
theorem run_shimJson (w : World) {under : Field → Value} {k : Nat} {vendor : String}
    (h : under .vendor = .text k vendor) :
    w.run (Report.mk (shimRole.answer under)).toJson = (.ok (shimJson vendor), w) := by
  have hanswers (f : Field) :
      w.run (answerJson ((Report.mk (shimRole.answer under)).answer f)) =
        (.ok (shimAnswer vendor f), w) := by
    show w.run (answerJson (((shimRole.overlay .none).overrides.get? f).getD (under f))) = _
    rw [Role.overlay, Overlay.get?_standIn]
    cases f with
    | vendor =>
      rw [Option.getD_none, h]
      rfl
    | _ => rfl
  exact Report.run_toJson hanswers

/-! ## The program -/

/-- A stand-in that was installed is reported. -/
theorem InRole.run_reportOf {r : Ref .registry} {host : Ref .component} {facts : Facts}
    {l : ContextParts}
    {c : Ref .context} {role : Role} {w : World} (h : InRole r host facts l c (some role) w)
    (call : Caller) :
    w.run (reportOf call l.session) = (.ok ⟨role.answer facts.answer⟩, w) := by
  obtain ⟨invalidated, hhost⟩ := h.built
  obtain ⟨o, notes, hshows, hearlier, ho⟩ := h.plays
  have hanswers (f : Field) : w.look (.ofRef host) f.word = .ok (.held (facts.answer f)) :=
    World.look_facts f (.inl ⟨invalidated, hhost⟩) (h.unassigned _)
  exact hshows.run_reportOf h.occupied.sane.intact h.stands.sessionRegistry
    (h.occupied.declares_of_fronts (.inr ⟨_, ho, rfl⟩)) call (Role.look ho hearlier hanswers)

/-- The log with one more line printed. -/
def World.withLine (w : World) (line : String) : World :=
  { w with log := { w.log with printed := w.log.printed ++ [line ++ "\n"] } }

/-- All that the program does with an environment. -/
def useContext (call : Caller) (c : Ref .context) : Action Unit := do
  let _ ← installIn call c shimRole.id shimRole.name shimRole.version shimRole.platformVersion
  let report ← reportOf call (← sessionOf c)
  printLine ((← report.toJson).render 0)
  shutdownContext call c

theorem printReport_eq (call : Caller) :
    printReport call = bootstrap call .none .none >>= useContext call := rfl

/-- To install a stand-in changes no session. -/
theorem ContextParts.Founded.sessions_installIn {l : ContextParts} {r : Ref .registry}
    {host : Ref .component}
    {cfg : Ref .settings} {c : Ref .context} {w₀ w : World} (h : l.Founded r host cfg c w₀ w)
    (call : Caller) (id name version platformVersion : Value) :
    (w.after (installIn call c id name version platformVersion)).sessions = w.sessions := by
  obtain ⟨_, _, _, hinstalled⟩ :=
    h.occupied.install call h.stands.ofHost id name version platformVersion
  have hsame :=
    h.stands.run_installIn h.occupied.sane.intact call id name version platformVersion
  rw [World.after, hsame]
  exact hinstalled.sessions

/-- An environment that was just set up is used without a fault, and its stand-in is reported. -/
theorem ContextParts.Founded.run_useContext {l : ContextParts} {r : Ref .registry}
    {host : Ref .component}
    {cfg : Ref .settings} {c : Ref .context} {w₀ w : World} (h : l.Founded r host cfg c w₀ w)
    {k : Nat} {vendor : String}
    (hvendor : (w₀.row cfg : Configuration).get .hostVendor = .text k vendor) (call : Caller) :
    let installed := w.after (installIn call c shimRole.id shimRole.name shimRole.version
      shimRole.platformVersion)
    let told := installed.withLine ((shimJson vendor).render 0)
    w.run (useContext call c) = (.ok (), told.after (shutdownContext call c)) := by
  intro installed told
  obtain ⟨serial, hbuilt⟩ := h.machine
  let facts : Facts := hostFacts w₀.surroundings.machine
    ((Value.ofText w₀.surroundings.machine.abiLabel).renewed serial)
    (w₀.row cfg : Configuration).get
  have hanswer : facts.answer .vendor = .text k vendor := hvendor
  have hplays : World.Plays w r host none := h.shows
  have hinRole : InRole r host facts l c (some shimRole) installed :=
    InRole.install ⟨h.occupied, h.stands, hbuilt, h.unassigned, hplays⟩ call shimRole
  -- The stand-in is installed.
  have hid : ∃ s, shimRole.id.text? = some s := ⟨_, rfl⟩
  have hversion : ∃ s, shimRole.version.text? = some s := ⟨_, rfl⟩
  have hplatform : ∃ s, shimRole.platformVersion.text? = some s := ⟨_, rfl⟩
  obtain ⟨o, hok⟩ :=
    h.occupied.outcome_installIn h.stands call hid hversion hplatform shimRole.name
  have hinstall : w.run (installIn call c shimRole.id shimRole.name shimRole.version
      shimRole.platformVersion) = (.ok (.ofRef o), installed) := Prod.ext hok rfl
  -- It is reported.
  have hsession : installed.run (sessionOf c) = (.ok l.session, installed) := by
    rw [sessionOf, World.run_bind_of_run (World.run_fetch installed c), hinRole.stands.session,
      Value.ref?_ofRef]
    rfl
  have hjson := run_shimJson installed hanswer
  have hprinted : installed.run (printLine ((shimJson vendor).render 0)) = (.ok (), told) := rfl
  -- The session does not run, so that the environment is shut down without its hooks.
  have hlike : installed.Alike told := ⟨_, installed.nextSerial, rfl⟩
  have hsane := hinRole.occupied.sane.of_alike hlike
  have hstands := hinRole.stands.continues (.of_alike hlike)
  have hstopped : (told.row l.session : Session).running = .bool false := by
    obtain ⟨sessionId, hrow⟩ := h.session
    have hrow' : told.row l.session = (w.row l.session : Session) :=
      congrArg (Table.get · l.session.index) (h.sessions_installIn call _ _ _ _)
    rw [hrow', hrow]
  obtain ⟨w₁, _, _, hshutdown⟩ := hstands.run_shutdownContext hsane.intact call hsane hstands
    (hstands.run_shutdown_stopped hsane.intact call hstopped)
  rw [useContext, World.run_bind_of_run hinstall, World.run_bind_of_run hsession,
    World.run_bind_of_run (hinRole.run_reportOf call), World.run_bind_of_run hjson,
    World.run_bind_of_run hprinted, hshutdown, World.after_of_run hshutdown]

/-- What the program leaves with settings that were accepted: a report is printed, and lines of the
log only if the settings ask for them. -/
structure World.Printed (w : World) (cfg : Ref .settings) (vendor : String) (w' : World) : Prop where
  shows : w.log.Shows ((shimJson vendor).render 0 ++ "\n") w'.log
  alone (h : w.truthy ((w.row cfg : Configuration).get .logDump) = false) :
    w'.log.printed = w.log.printed ++ [(shimJson vendor).render 0 ++ "\n"]

/-- Where there are settings, an environment is set up, and its report is printed. -/
theorem World.Accepts.prints {w : World} {cfg : Ref .settings} (ha : w.Accepts cfg) (hw : w.Intact)
    (ho : w.Orderly) (hnone : w.log.handlers = []) :
    ∃ vendor, ((w.row cfg : Configuration).get .hostVendor).text? = some vendor ∧
      ∃ w', w.run (Understudy.bootstrap invoke (.ofRef cfg) .none >>= useContext invoke) =
          (.ok (), w') ∧
        w.Printed cfg vendor w' := by
  have hmem : Setting.hostVendor ∈ hostSettings := by decide
  obtain ⟨k, vendor, hvendor⟩ := ha.accepted.hostSetting hmem
  obtain ⟨level, hopen⟩ := ha.run_openLog invoke
  let configured : World :=
    { w with
      log := w.log.configure level (layoutOf ((w.row cfg : Configuration).get .logFormat))
        (w.truthy ((w.row cfg : Configuration).get .logDump)) }
  have hlike : w.Alike configured := ⟨_, w.nextSerial, rfl⟩
  have hcontinues : w.Continues configured := .of_alike hlike
  obtain ⟨l, r, host, c, hok, hfounded⟩ := (ha.later (.of_alike hlike)).bootWithLog
    (hcontinues.intact hw) (ho.continues hcontinues) invoke
  have hbootstrap : w.run (Understudy.bootstrap invoke (.ofRef cfg) .none) =
      (.ok c, configured.after (Understudy.bootWithLog invoke (.ofRef cfg) .none)) := by
    rw [bootstrap_eq_openLog, World.run_bind_of_run hopen]
    exact Prod.ext hok rfl
  have huse := hfounded.run_useContext hvendor invoke
  refine ⟨vendor, congrArg Value.text? hvendor, _,
    (World.run_bind_of_run hbootstrap).trans huse, ?_⟩
  -- All lines before the report and behind it are printed by the handlers that were set up.
  obtain ⟨first, hfirst⟩ :=
    (Lasts.leads (fun _ => .bootWithLog .invoke (.ofRef cfg) .none) configured).prints
  revert hfirst
  generalize configured.after (Understudy.bootWithLog invoke (.ofRef cfg) .none) = opened
  intro hfirst
  obtain ⟨second, hsecond⟩ := (Lasts.leads (fun _ => .installIn .invoke c shimRole.id shimRole.name
    shimRole.version shimRole.platformVersion) opened).prints
  revert hsecond
  generalize opened.after (installIn invoke c _ _ _ _) = installed
  intro hsecond
  obtain ⟨third, hthird⟩ := (Lasts.leads (fun _ => .shutdownContext .invoke c)
    (installed.withLine ((shimJson vendor).render 0))).prints
  obtain ⟨hshows, halone⟩ := (hfirst.trans hsecond).shows hthird
  refine ⟨hshows, fun hsilent => halone ?_⟩
  show Logging.withoutEchoes w.log.handlers ++ (if w.truthy _ = true then _ else []) = []
  rw [hnone, hsilent]
  rfl

/-! ## The program from its start -/

/-- The state in which the program starts: there is nothing yet, and nobody listens to the log. -/
def World.started (log : Logging) (surroundings : Surroundings) : World :=
  { log := { log with handlers := [] }, surroundings := surroundings }

theorem run_runProgram_of_ok {w w' : World} {call : Caller}
    (h : w.run (printReport call) = (.ok (), w')) : w.run (runProgram call) = (.ok (), w') := by
  have hattempt : w.run (attempt (printReport call)) = (.ok (.ok ()), w') := by
    rw [World.run_attempt, World.outcome_of_run h, World.after_of_run h]
  rw [runProgram, World.run_bind_of_run hattempt]
  rfl

theorem run_runProgram_of_error {w w' : World} {call : Caller} {fault : Fault}
    (h : w.run (printReport call) = (.error fault, w')) :
    w.run (runProgram call) = (.error (.ended 1),
      { w' with
        log := w'.log.emit ⟨40, mainLogger, "Fatal error: " ++ fault.message, some fault.kind⟩ }) := by
  have hattempt : w.run (attempt (printReport call)) = (.ok (.error fault), w') := by
    rw [World.run_attempt, World.outcome_of_run h, World.after_of_run h]
  rw [runProgram, World.run_bind_of_run hattempt]
  rfl

/-- If settings are found the program ends normally, and what it prints is ASCII and reads back as
the report with the vendor that the settings hold, whatever else they say and wherever it runs. If
none are found the program ends with status one and prints nothing. -/
theorem World.started_printsOrEnds (log : Logging) (surroundings : Surroundings) :
    let w := World.started log surroundings
    let loaded := w.after (newSettings [])
    let ended := w.after (runProgram invoke)
    match w.outcome (newSettings []) with
    | .ok cfg => ∃ vendor, ((loaded.row cfg : Configuration).get .hostVendor).text? = some vendor ∧
        w.outcome (runProgram invoke) = .ok () ∧
        loaded.Printed cfg vendor ended ∧ loaded.log.printed = w.log.printed ∧
        Json.IsAscii ((shimJson vendor).render 0) ∧
        Json.read? ((shimJson vendor).render 0) = some (shimJson vendor)
    | .error _ => w.outcome (runProgram invoke) = .error (.ended 1) ∧
        ended.log.printed = w.log.printed := by
  intro w loaded ended
  have hintact : w.Intact := fun _ _ _ => rfl
  have horderly : w.Orderly := ⟨fun _ _ _ => rfl, fun _ _ _ => rfl, fun _ => rfl, fun _ _ => rfl⟩
  have hload := World.run_eq w (newSettings [])
  obtain ⟨lines, hlines⟩ := (Lasts.leads (fun _ => .newSettings []) w).prints
  have hsilent : loaded.log.printed = w.log.printed := hlines.printed_eq rfl
  cases hfound : w.outcome (newSettings []) with
  | ok cfg =>
    rw [hfound] at hload
    obtain ⟨w₁, c, ⟨log', serial, rfl⟩, haccepted, rfl, hloaded⟩ := settings_of_newSettings hfound
    have hcontinues : w.Continues loaded := by
      show w.Continues (w.after _)
      rw [hloaded]
      exact .of_retains (.of_eq rfl rfl rfl) rfl rfl rfl rfl rfl rfl
    have haccepts : loaded.Accepts ⟨w.settings.size⟩ := by
      show (w.after _).Accepts _
      rw [hloaded]
      refine ⟨?_, fun _ => rfl⟩
      have hrow : (w.settings.push c).get w.settings.size = c :=
        (Table.get_push _ _ _).trans (if_pos rfl)
      exact hrow.symm ▸ haccepted
    obtain ⟨vendor, hvendor, w', huse, hprinted⟩ := haccepts.prints (hcontinues.intact hintact)
      (horderly.continues hcontinues) hlines.handlers
    have hreport : w.run (printReport invoke) = (.ok (), w') := by
      rw [printReport_eq, World.run_bind, run_bootstrap_found hload, ← World.run_bind]
      exact huse
    have hrun := run_runProgram_of_ok hreport
    have hlettered := lettered_shimJson vendor
    refine ⟨vendor, hvendor, World.outcome_of_run hrun, ?_, hsilent, hlettered.isAscii_render 0,
      hlettered.read?_render 0⟩
    show loaded.Printed _ vendor (w.after _)
    rw [World.after_of_run hrun]
    exact hprinted
  | error fault =>
    rw [hfound] at hload
    have hreport : w.run (printReport invoke) = (.error fault, loaded) := by
      rw [printReport_eq, World.run_bind, run_bootstrap_unfound hload]
    obtain ⟨more, hmore⟩ := Logging.Prints.emit loaded.log
      ⟨40, mainLogger, "Fatal error: " ++ fault.message, some fault.kind⟩
    have hrun := run_runProgram_of_error hreport
    refine ⟨World.outcome_of_run hrun, ?_⟩
    show (w.after _).log.printed = _
    rw [World.after_of_run hrun]
    exact (hlines.trans hmore).printed_eq rfl

end Understudy
