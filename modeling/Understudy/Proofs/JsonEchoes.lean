import Understudy.Proofs.BootstrapSucceeds
import Understudy.Proofs.ContextHost
import Understudy.Proofs.JsonLines
import Understudy.Proofs.LastingCalls
import Understudy.Proofs.Logbook

/-!
# What is printed in JSON

Once an environment has been set up by settings that ask for JSON, every record of the tree that is
let through is printed as one line in JSON, until the log is set up in another way. What is asked of
the environment meanwhile makes no difference to that, and neither does another environment that
asks for JSON too.

A line says its level and its message if the message is plain, and only then. Whoever has a quote,
a backslash or the end of a line put into a message gets a line that does not say it, or is none.

## Main definitions

* `Logging.InJson`: records are printed in JSON, and nowhere else.
* `Logging.Tells`: one log comes of another by records that are printed in JSON.
* `openLog`: the first part of setting an environment up.
* `World.AsksForJson`: settings ask for JSON.
* `Echoing`: what is asked of environments that print in JSON.

## Main statements

* `Logging.InJson.tells`: records that are logged are printed.
* `Echoing.readsAsMeant`: which lines of a run say what they are meant to say.
-/

namespace Understudy

/-! ## Printing in JSON -/

/-- The layout in which a handler prints, if it does. -/
def Handler.layout? : Handler → Option LogFormat
  | .echo format => some format
  | .foreign _ => none

namespace Logging

/-- Records of the tree are printed in JSON and in no other way. -/
structure InJson (log : Logging) : Prop where
  layouts : log.handlers.filterMap Handler.layout? = [.json]
  traceNamed : log.traceNamed = true

/-- The line of a record with the name of its level. -/
def lineOf (log : Logging) (entry : String × LogRecord) : String :=
  printedText .json log.time entry.1 entry.2

/-- One log comes of another by records. Those of the tree are printed in JSON, and nothing else
is. -/
structure Tells (log : Logging) (told : List (String × LogRecord)) (log' : Logging) : Prop where
  journal : log'.journal = log.journal ++ told
  printed : log'.printed =
    log.printed ++ (told.filter fun entry => log.inTree entry.2.logger).map log.lineOf
  named : ∀ entry ∈ told, entry.1 = log.severityName entry.2.severity
  time : log'.time = log.time
  loggers : log'.loggers = log.loggers
  traceNamed : log'.traceNamed = log.traceNamed

theorem echoes_eq (log : Logging) (r : LogRecord) :
    log.echoes r = (log.handlers.filterMap Handler.layout?).map fun format =>
      printedText format log.time (log.severityName r.severity) r := by
  rw [echoes, List.map_filterMap]
  refine congrArg (List.filterMap · _) (funext fun handler => ?_)
  cases handler <;> rfl

/-- However a log was set up before, it prints in the layout asked for last, if it is to print. -/
theorem layouts_configure (log : Logging) (level : Level) (format : LogFormat) (echo : Bool) :
    (log.configure level format echo).handlers.filterMap Handler.layout? =
      if echo then [format] else [] := by
  have hothers : (withoutEchoes log.handlers).filterMap Handler.layout? = [] := by
    refine List.filterMap_eq_nil_iff.2 fun handler hmem => ?_
    rw [withoutEchoes_eq] at hmem
    cases handler with
    | echo => cases (List.mem_filter.1 hmem).2
    | foreign => rfl
  rw [configure, List.filterMap_append, hothers]
  cases echo <;> rfl

theorem InJson.echoes {log : Logging} (h : log.InJson) (r : LogRecord) :
    log.echoes r = [log.lineOf (log.severityName r.severity, r)] := by
  rw [echoes_eq, h.layouts]
  rfl

namespace Tells

variable {log log' log'' : Logging} {told more : List (String × LogRecord)}

/-- A log of which nothing else than the level or the handlers is changed. -/
theorem of_eq (hjournal : log'.journal = log.journal) (hprinted : log'.printed = log.printed)
    (htime : log'.time = log.time) (hloggers : log'.loggers = log.loggers)
    (htrace : log'.traceNamed = log.traceNamed) : log.Tells [] log' where
  journal := by rw [hjournal, List.append_nil]
  printed := by rw [hprinted, List.filter_nil, List.map_nil, List.append_nil]
  named := fun _ h => absurd h List.not_mem_nil
  time := htime
  loggers := hloggers
  traceNamed := htrace

theorem refl (log : Logging) : log.Tells [] log := of_eq rfl rfl rfl rfl rfl

theorem inTree (h : log.Tells told log') (name : String) : log'.inTree name = log.inTree name := by
  rw [Logging.inTree, h.loggers, ← Logging.inTree]

theorem severityName (h : log.Tells told log') (severity : Int) :
    log'.severityName severity = log.severityName severity := by
  rw [Logging.severityName, h.traceNamed, ← Logging.severityName]

theorem lineOf (h : log.Tells told log') (entry : String × LogRecord) :
    log'.lineOf entry = log.lineOf entry := by
  rw [Logging.lineOf, h.time, ← Logging.lineOf]

theorem trans (h : log.Tells told log') (h' : log'.Tells more log'') :
    log.Tells (told ++ more) log'' where
  journal := by rw [h'.journal, h.journal, List.append_assoc]
  printed := by
    rw [h'.printed, h.printed, List.filter_append, List.map_append, List.append_assoc]
    simp only [h.inTree, funext h.lineOf]
  named := by
    intro entry hentry
    rcases List.mem_append.1 hentry with hentry | hentry
    · exact h.named entry hentry
    · rw [h'.named entry hentry, h.severityName]
  time := h'.time.trans h.time
  loggers := h'.loggers.trans h.loggers
  traceNamed := h'.traceNamed.trans h.traceNamed

end Tells

namespace InJson

variable {log log' : Logging}

theorem emit (h : log.InJson) (r : LogRecord) :
    (log.emit r).InJson ∧ ∃ told, log.Tells told (log.emit r) := by
  unfold Logging.emit
  split
  · refine ⟨⟨h.layouts, h.traceNamed⟩, [(log.severityName r.severity, r)], rfl, ?_, ?_, rfl, rfl,
      rfl⟩
    · cases htree : log.inTree r.logger with
      | true => simp [htree, h.echoes]
      | false => simp [htree]
    · exact List.forall_mem_singleton.2 rfl
  · exact ⟨h, [], .refl log⟩

/-- Records that are logged are printed, and nothing else is. -/
theorem tells (h : log.InJson) (hleads : log.Leads log') :
    log'.InJson ∧ ∃ told, log.Tells told log' := by
  obtain ⟨records, rfl⟩ := hleads
  induction records generalizing log with
  | nil => exact ⟨h, [], .refl log⟩
  | cons r rest ih =>
    obtain ⟨hjson, told, htells⟩ := h.emit r
    obtain ⟨hjson', more, hmore⟩ := ih hjson
    exact ⟨hjson', told ++ more, htells.trans hmore⟩

/-- Once the log is set up in JSON, records are printed so. -/
theorem configure (log : Logging) (level : Level) : (log.configure level .json true).InJson where
  layouts := layouts_configure log level .json true
  traceNamed := rfl

/-- Setting the log up in JSON once more tells nothing. -/
theorem tells_configure (h : log.InJson) (level : Level) :
    log.Tells [] (log.configure level .json true) :=
  .of_eq rfl rfl rfl rfl h.traceNamed.symm

end InJson

end Logging

/-! ## Setting the log up -/

/-- Finds the settings and sets the log up as they say. -/
def openLog (call : Caller) (settings : Value) : Action Value := do
  let settings ← orElse settings (Value.ofRef <$> newSettings [])
  let level ← readAttribute call settings Setting.logLevel.word
  let format ← readAttribute call settings Setting.logFormat.word
  let echo ← readAttribute call settings Setting.logDump.word
  configureLogging level format echo
  return settings

/-- What is set up besides the log. -/
def bootWithLog (call : Caller) (settings registry : Value) : Action (Ref .context) := do
  debug mainLogger "Bootstrapping test environment..."
  let registry ← orElse registry (Value.ofRef <$> store .registry {})
  let identities ← store .installer (Installer.ofHost registry)
  let host ← hostOf call settings registry identities
  bootWithHost call settings registry host identities

theorem bootstrap_eq_openLog (call : Caller) (settings registry : Value) :
    bootstrap call settings registry =
      openLog call settings >>= fun settings => bootWithLog call settings registry := by
  simp only [bootstrap_eq, openLog, bootWithLog, prepareLog, bind_assoc, pure_bind]

/-- Settings ask for JSON, be they given or found: the log can be set up by them. -/
def World.AsksForJson (w : World) (settings : Value) : Prop :=
  ∃ (cfg : Ref .settings) (w₁ : World) (level : Level),
    w.run (orElse settings (Value.ofRef <$> newSettings [])) = (.ok (.ofRef cfg), w₁) ∧
      levelOf w₁ (w₁.setting cfg .logLevel) = .ok level ∧
      (w₁.setting cfg .logFormat).text? = some LogFormat.json.word ∧
      w₁.truthy (w₁.setting cfg .logDump) = true

theorem levelOf_eq_ok {w : World} {v : Value} {level : Level} (h : levelOf w v = .ok level)
    (w' : World) : levelOf w' v = .ok level := by
  unfold levelOf at h ⊢
  cases hv : v.text? with
  | none =>
    rw [hv] at h
    cases h
  | some name =>
    rw [hv] at h
    exact h

/-- The layout that a format asks for. -/
def layoutOf (format : Value) : LogFormat :=
  if format.text? = some LogFormat.json.word then .json else .text

theorem World.run_configureLogging {w : World} {level : Level} {v : Value}
    (hlevel : levelOf w v = .ok level) (format echo : Value) :
    w.run (configureLogging v format echo) =
      (.ok (), { w with log := w.log.configure level (layoutOf format) (w.truthy echo) }) := by
  have htruthy : World.truthy { w with log := w.log.nameTrace } echo = w.truthy echo := rfl
  simp only [configureLogging, World.run_bind, World.run_modify, World.run_get, World.run_orFail,
    World.run_set, levelOf_eq_ok hlevel, htruthy]
  rfl

/-- While settings are looked for records may be logged, and nothing else is done to the log. -/
theorem World.leads_of_found {w w₁ : World} {settings found : Value}
    (h : w.run (orElse settings (Value.ofRef <$> newSettings [])) = (.ok found, w₁)) :
    w.log.Leads w₁.log := by
  have hlasts (log : Logging) :
      Lasts (World.Logged log) (orElse settings (Value.ofRef <$> newSettings [])) :=
    .orElse settings (.map _ (.newSettings []))
  have hfind := Lasts.leads hlasts w
  rwa [World.after_of_run h] at hfind

/-- By the settings that are found the log is set up. -/
theorem World.run_openLog {w w₁ : World} {settings : Value} {cfg : Ref .settings} {level : Level}
    (hfound : w.run (orElse settings (Value.ofRef <$> newSettings [])) = (.ok (.ofRef cfg), w₁))
    (hlevel : levelOf w₁ (w₁.setting cfg .logLevel) = .ok level) (call : Caller) :
    w.run (openLog call settings) =
      (.ok (.ofRef cfg),
        { w₁ with
          log := w₁.log.configure level (layoutOf (w₁.setting cfg .logFormat))
            (w₁.truthy (w₁.setting cfg .logDump)) }) := by
  rw [openLog, World.run_bind_of_run hfound,
    World.run_bind_of_run (w₁.run_readAttribute_setting call cfg .logLevel),
    World.run_bind_of_run (w₁.run_readAttribute_setting call cfg .logFormat),
    World.run_bind_of_run (w₁.run_readAttribute_setting call cfg .logDump),
    World.run_bind_of_run (World.run_configureLogging hlevel _ _)]
  rfl

/-- By settings that ask for JSON the log is set up in JSON. Before it is, records may be logged. -/
theorem World.AsksForJson.run_openLog {w : World} {settings : Value} (h : w.AsksForJson settings)
    (call : Caller) :
    ∃ (found : Value) (w₁ : World) (level : Level), w.log.Leads w₁.log ∧
      w.run (openLog call settings) =
        (.ok found, { w₁ with log := w₁.log.configure level .json true }) := by
  obtain ⟨cfg, w₁, level, hfound, hlevel, hformat, hecho⟩ := h
  refine ⟨.ofRef cfg, w₁, level, World.leads_of_found hfound, ?_⟩
  rw [World.run_openLog hfound hlevel, layoutOf, if_pos hformat, hecho]

namespace Lasts

section

variable {I : World → Prop} {call : Caller} (hcall : ∀ v args, Lasts I (call v args))
include hcall

theorem bootWithHost (settings registry host : Value) (identities : Ref .installer) :
    Lasts I (bootWithHost call settings registry host identities) := by
  have hsilence (s : Ref .session) : Lasts I (silence call s) :=
    (store _).bind fun hooks => (disableTimers hcall hooks).bind fun _ => pure hooks
  have hprepare (interval : Value) : Lasts I (prepareSession call registry interval) := by
    rw [prepareSession_eq]
    exact (newSession _ _ _ _).bind fun s => (setUp hcall s).bind fun _ =>
      (hsilence s).bind fun _ => pure _
  have hassemble (context : Context) : Lasts I (assemble call registry context) :=
    (detectPlatform hcall registry).bind fun _ => (shown _).bind fun _ => (debug _ _).bind fun _ =>
      store _
  exact (readAttribute hcall settings _).bind fun interval => (hprepare interval).bind fun _ =>
    hassemble _

theorem bootWithLog (settings registry : Value) :
    Lasts I (bootWithLog call settings registry) :=
  (debug _ _).bind fun _ => (orElse registry (.map _ (store _))).bind fun registry =>
    (store _).bind fun identities => (hostOf hcall settings registry identities).bind fun host =>
      bootWithHost hcall settings registry host identities

end

end Lasts

/-- Settings that ask for JSON have records printed in JSON, from when the log is set up until the
environment is there and on. -/
theorem World.AsksForJson.tells {w : World} {settings : Value} (h : w.AsksForJson settings)
    (registry : Value) :
    (w.after (openLog invoke settings)).log.InJson ∧
      (w.after (bootstrap invoke settings registry)).log.InJson ∧
      ∃ told, (w.after (openLog invoke settings)).log.Tells told
        (w.after (bootstrap invoke settings registry)).log := by
  obtain ⟨found, w₁, level, -, hrun⟩ := h.run_openLog invoke
  have hjson : (w.after (openLog invoke settings)).log.InJson := by
    rw [World.after_of_run hrun]
    exact .configure _ level
  rw [bootstrap_eq_openLog, World.after_bind_of_run hrun, ← World.after_of_run hrun]
  exact ⟨hjson, hjson.tells (Lasts.leads (fun _ => .bootWithLog .invoke found registry) _)⟩

/-- Where records are printed in JSON already, an environment that asks for JSON changes nothing
about it. -/
theorem World.AsksForJson.tells_of_inJson {w : World} {settings : Value}
    (h : w.AsksForJson settings) (hjson : w.log.InJson) (registry : Value) :
    ∃ told, w.log.Tells told (w.after (bootstrap invoke settings registry)).log := by
  obtain ⟨-, -, more, hmore⟩ := h.tells registry
  obtain ⟨found, w₁, level, hleads, hrun⟩ := h.run_openLog invoke
  obtain ⟨hjson₁, told, htold⟩ := hjson.tells hleads
  rw [World.after_of_run hrun] at hmore
  exact ⟨_, htold.trans ((hjson₁.tells_configure level).trans hmore)⟩

/-- Setting the log up leaves alone what records are stamped with. -/
theorem World.AsksForJson.time_openLog {w : World} {settings : Value} (h : w.AsksForJson settings) :
    (w.after (openLog invoke settings)).log.time = w.log.time := by
  obtain ⟨found, w₁, level, hleads, hrun⟩ := h.run_openLog invoke
  rw [World.after_of_run hrun]
  exact hleads.time

/-! ## Requests -/

/-- What is asked of environments that print in JSON. Others may be set up that print in JSON
too. -/
inductive Echoing (w : World) : World → Prop where
  | start : Echoing w w
  | perform {w' : World} (q : Request Value) : Echoing w w' → q.Modest →
      Echoing w (w'.after (perform q))
  | bootstrap {w' : World} (settings registry : Value) : Echoing w w' → w'.AsksForJson settings →
      Echoing w (w'.after (bootstrap invoke settings registry))

namespace Echoing

/-- Whatever is asked, what is logged is printed in JSON. -/
theorem tells {w w' : World} (h : Echoing w w') (hjson : w.log.InJson) :
    w'.log.InJson ∧ ∃ told, w.log.Tells told w'.log := by
  induction h with
  | start => exact ⟨hjson, [], .refl _⟩
  | perform q _ hmodest ih =>
    obtain ⟨hjson', told, htold⟩ := ih
    obtain ⟨hjson'', more, hmore⟩ := hjson'.tells
      (Lasts.leads (fun log => .perform hmodest fun s => .inr (World.Logged.frees log s)) _)
    exact ⟨hjson'', _, htold.trans hmore⟩
  | bootstrap settings registry _ hasks ih =>
    obtain ⟨hjson', told, htold⟩ := ih
    obtain ⟨-, hjson'', -⟩ := hasks.tells registry
    obtain ⟨more, hmore⟩ := hasks.tells_of_inJson hjson' registry
    exact ⟨hjson'', _, htold.trans hmore⟩

/-- Once settings have asked for JSON, exactly the records of the tree are printed, each as a line.
The line of a record without a fault says its level and its message exactly if the message is
plain. -/
theorem readsAsMeant {w w' : World} {settings registry : Value}
    (h : Echoing (w.after (Understudy.bootstrap invoke settings registry)) w')
    (hasks : w.AsksForJson settings) (htime : Logging.IsPlain w.log.time) :
    let opened := (w.after (openLog invoke settings)).log
    ∃ told, opened.Tells told w'.log ∧
      ∀ entry ∈ told, entry.2.fault = none →
        (Logging.Reads (opened.lineOf entry) entry.1 entry.2.message ↔
          Logging.IsPlain entry.2.message) := by
  intro opened
  obtain ⟨-, hjson, told, htold⟩ := hasks.tells registry
  obtain ⟨-, more, hmore⟩ := h.tells hjson
  refine ⟨told ++ more, htold.trans hmore, fun entry hentry hfault => ?_⟩
  have htime' : Logging.IsPlain opened.time := by
    rwa [hasks.time_openLog]
  have hlevel : Logging.IsPlain entry.1 := by
    rw [(htold.trans hmore).named entry hentry]
    exact Logging.isPlain_severityName _ _
  exact Logging.reads_printedText htime' hlevel hfault

end Echoing

/-! ## A quoted name -/

/-- The bench with settings that ask for JSON. -/
def jsonBench : World := { bench with settings := ⟨[.ofSettings { logFormat := .json }]⟩ }

/-- A stand-in is installed whose id has quotes in it. -/
def quotedInstall : Request Value :=
  .call (.ofRef (⟨0⟩ : Ref .context)) "install_identity"
    [.ofText "say \"hi\"", .ofText "XPCShell", .ofText "1", .ofText "1"] []

/-- What is left when that is asked of an environment that was set up for the bench. -/
def quotedInstalled : World := (jsonBench.after setUpHost).after (perform quotedInstall)

/-- What is logged of it in the end. -/
def quotedEntry : String × LogRecord :=
  ("DEBUG",
    { severity := 10
      logger := "hostshim.core.identity"
      message := "Installed test identity say \"hi\" 1 (platform 1)" })

/-- The log of the bench after it has been set up. -/
def jsonOpened : Logging :=
  (jsonBench.after (openLog invoke (.ofRef (⟨0⟩ : Ref .settings)))).log

theorem quotedInstalled_echoing : Echoing (jsonBench.after setUpHost) quotedInstalled :=
  .perform quotedInstall .start trivial

theorem jsonBench_asksForJson : jsonBench.AsksForJson (.ofRef (⟨0⟩ : Ref .settings)) :=
  ⟨⟨0⟩, jsonBench, ⟨5, false⟩, run_orElse rfl _, rfl, rfl, rfl⟩

/-- The run on the bench. -/
theorem quotedInstalled_readsAsMeant :
    Echoing (jsonBench.after setUpHost) quotedInstalled ∧
      jsonBench.AsksForJson (.ofRef (⟨0⟩ : Ref .settings)) ∧ Logging.IsPlain jsonBench.log.time ∧
      ∃ told, jsonOpened.Tells told quotedInstalled.log ∧
        ∀ entry ∈ told, entry.2.fault = none →
          (Logging.Reads (jsonOpened.lineOf entry) entry.1 entry.2.message ↔
            Logging.IsPlain entry.2.message) :=
  have htime : Logging.IsPlain jsonBench.log.time := by decide
  ⟨quotedInstalled_echoing, jsonBench_asksForJson, htime,
    quotedInstalled_echoing.readsAsMeant jsonBench_asksForJson htime⟩

/-- The line of that installation is printed, and does not say what was logged. -/
theorem quotedInstalled_misreads :
    ¬∀ (w w' : World) (settings registry : Value),
      Echoing (w.after (bootstrap invoke settings registry)) w' → w.AsksForJson settings →
        Logging.IsPlain w.log.time →
          let opened := (w.after (openLog invoke settings)).log
          ∃ told, opened.Tells told w'.log ∧
            ∀ entry ∈ told, opened.inTree entry.2.logger = true → entry.2.fault = none →
              Logging.Reads (opened.lineOf entry) entry.1 entry.2.message := by
  intro hgeneral
  obtain ⟨told, htold, hreads⟩ := hgeneral jsonBench quotedInstalled _ _ quotedInstalled_echoing
    jsonBench_asksForJson (by decide)
  have hnone : jsonOpened.journal = [] := by decide +kernel
  have hlogged : quotedEntry ∈ quotedInstalled.log.journal := by decide +kernel
  have htree : jsonOpened.inTree quotedEntry.2.logger = true := by decide +kernel
  have hjournal : quotedInstalled.log.journal = jsonOpened.journal ++ told := htold.journal
  have hmem : quotedEntry ∈ told := by
    rwa [hjournal, hnone] at hlogged
  have htime : Logging.IsPlain jsonOpened.time := by
    rw [jsonOpened, jsonBench_asksForJson.time_openLog]
    decide
  have hplain : Logging.IsPlain quotedEntry.2.message :=
    (Logging.reads_printedText htime (by decide) rfl).1 (hreads quotedEntry hmem htree rfl)
  exact absurd hplain (by decide)

end Understudy
