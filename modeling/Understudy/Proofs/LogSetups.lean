import Understudy.Proofs.Printing

/-!
# Setting the log up again

The log can be set up again and again, by itself or with an environment. Only the last time counts:
there is one echo afterwards, in the layout that was asked for last, or there is none, and the
handlers of others are all there in their order. A record of the tree is printed once, if it is
severe enough for the level that was asked for last and there is an echo, and not at all otherwise.

## Main definitions

* `LogSetup`: what the log is set up for.
* `World.Asks`: what settings ask for.
* `LogSetups`: what may happen to the log, and how it was set up last.
* `Logging.SetUpAs`: a log that is set up as it was asked for.
* `Logging.linesOf`: what is printed of a record then.

## Main statements

* `Logging.inTree_of_mem`: the loggers of the program are in its tree.
* `Logging.SetUpAs.prints`: what is printed of records.
* `LogSetups.printsOnce`: only the last time counts.
-/

namespace Understudy

/-! ## The loggers of the program -/

namespace Logging

/-- Whether a name, read from its end, lies at or below the top of the tree whatever loggers there
are besides: the top stands above it, and the same holds of whatever else may stand above it. -/
def rooted : Nat → List Char → Bool
  | 0, _ => false
  | steps + 1, name =>
    name == programLogger.toList.reverse ||
      ((above name).contains programLogger.toList.reverse && (above name).all (rooted steps))

theorem reaches_of_rooted {loggers : List String} (h : programLogger ∈ loggers) {steps : Nat}
    {name : List Char} (hname : rooted steps name = true) : reaches loggers steps name = true := by
  induction steps generalizing name with
  | zero => cases hname
  | succ steps ih =>
    rw [reaches]
    split
    · rfl
    · rename_i hne
      rw [rooted, Bool.or_eq_true, Bool.and_eq_true] at hname
      obtain ⟨habove, hall⟩ := hname.resolve_left hne
      have htop : programLogger.toList.reverse ∈ above name := List.contains_iff_mem.1 habove
      cases hparent : parent? loggers name with
      | none =>
        have hno := List.find?_eq_none.1 hparent _ htop
        simp [h] at hno
      | some next =>
        exact ih (List.all_eq_true.1 hall next (List.mem_of_find?_eq_some hparent))

/-- The loggers of the program are in its tree, whatever other loggers there are. -/
theorem inTree_of_mem {log : Logging} (h : programLogger ∈ log.loggers) {name : String}
    (hname : name ∈ programLoggers) : log.inTree name = true := by
  have hrooted : ∀ name ∈ programLoggers,
      rooted (name.length + 1) name.toList.reverse = true := by
    decide +kernel
  exact reaches_of_rooted h (hrooted name hname)

end Logging

/-! ## How the log is set up -/

/-- What the log is set up for. -/
structure LogSetup where
  level : LogLevel
  format : LogFormat
  echo : Bool

/-- The serial number of a handler of someone else. -/
def Handler.serial? : Handler → Option Nat
  | .echo _ => none
  | .foreign serial => some serial

namespace Logging

/-- The handlers of others, in their order. -/
def others (log : Logging) : List Nat := log.handlers.filterMap Handler.serial?

/-- Setting the log up leaves the handlers of others where they are. -/
theorem others_configure (log : Logging) (level : Level) (format : LogFormat) (echo : Bool) :
    (log.configure level format echo).others = log.others := by
  have hkept : (withoutEchoes log.handlers).filterMap Handler.serial? = log.others := by
    rw [withoutEchoes_eq, List.filterMap_filter, others]
    refine congrArg (List.filterMap · _) (funext fun handler => ?_)
    cases handler <;> rfl
  rw [others, configure, List.filterMap_append, hkept]
  cases echo <;> exact List.append_nil _

/-- A log is set up as it was asked to be. -/
structure SetUpAs (log : Logging) (t : LogSetup) : Prop where
  layouts : log.handlers.filterMap Handler.layout? = if t.echo then [t.format] else []
  level : log.level = ⟨t.level.severity, false⟩

/-- What is printed of a record by a log that is set up like that: one text, if there is an echo
and the record is one of the tree and severe enough, and nothing otherwise. -/
def linesOf (log : Logging) (t : LogSetup) (r : LogRecord) : List String :=
  if t.echo ∧ log.inTree r.logger ∧ t.level.severity ≤ r.severity then
    [printedText t.format log.time (log.severityName r.severity) r]
  else []

namespace SetUpAs

variable {log log' : Logging} {t : LogSetup}

/-- However a log was set up before, it is set up for what is asked for last. -/
theorem configure (log : Logging) (t : LogSetup) :
    (log.configure ⟨t.level.severity, false⟩ t.format t.echo).SetUpAs t :=
  ⟨layouts_configure .., rfl⟩

variable (h : log.SetUpAs t)
include h

theorem addForeign (serial : Nat) : (log.addForeign serial).SetUpAs t where
  layouts := by
    rw [Logging.addForeign, List.filterMap_append, h.layouts]
    exact List.append_nil _
  level := h.level

theorem leads (hleads : log.Leads log') : log'.SetUpAs t where
  layouts := by rw [hleads.handlers, h.layouts]
  level := by rw [hleads.level, h.level]

/-- A record of the tree is let through if it is severe enough. -/
theorem emit_eq (r : LogRecord) (htree : log.inTree r.logger = true) :
    log.emit r =
      if t.level.severity ≤ r.severity then
        { log with
          journal := log.journal ++ [(log.severityName r.severity, r)]
          printed := log.printed ++ log.echoes r }
      else log := by
  have hpositive : 0 < t.level.severity := by cases t.level <;> decide
  have heffective : log.effectiveLevel r.logger = t.level.severity := by
    have hne : (t.level.severity != 0) = true := bne_iff_ne.2 (Int.ne_of_gt hpositive)
    rw [effectiveLevel, htree, h.level, hne]
    rfl
  rw [emit, heffective]
  have hiff : (0 < r.severity ∧ t.level.severity ≤ r.severity) ↔ t.level.severity ≤ r.severity :=
    ⟨And.right, fun hle => ⟨Int.lt_of_lt_of_le hpositive hle, hle⟩⟩
  simp only [hiff, htree, if_true]

theorem echoes_eq_ite (r : LogRecord) :
    log.echoes r =
      if t.echo then [printedText t.format log.time (log.severityName r.severity) r] else [] := by
  rw [echoes_eq, h.layouts]
  cases t.echo <;> rfl

theorem printed_emit (r : LogRecord) :
    (log.emit r).printed = log.printed ++ log.linesOf t r := by
  cases htree : log.inTree r.logger with
  | true =>
    rw [h.emit_eq r htree, linesOf, htree, h.echoes_eq_ite]
    by_cases hle : t.level.severity ≤ r.severity
    · simp only [hle, and_true, if_true]
    · simp only [hle, and_false, if_false, List.append_nil]
  | false =>
    rw [linesOf, htree, Logging.emit, htree]
    simp only [Bool.false_eq_true, false_and, and_false, if_false, List.append_nil]
    split <;> rfl

omit h in
theorem linesOf_emit (r : LogRecord) : (log.emit r).linesOf t = log.linesOf t := by
  unfold Logging.emit
  split <;> rfl

/-- Of every record that is logged its lines are printed, and nothing else is. -/
theorem prints (records : List LogRecord) :
    (records.foldl Logging.emit log).printed = log.printed ++ records.flatMap (log.linesOf t) := by
  induction records generalizing log with
  | nil => exact (List.append_nil _).symm
  | cons r rest ih =>
    have hnext : (log.emit r).SetUpAs t := h.leads ⟨[r], rfl⟩
    rw [List.foldl_cons, ih hnext, h.printed_emit, linesOf_emit, List.append_assoc,
      List.flatMap_cons]

end SetUpAs

/-- How a log stands once this and that was done to it: it has the handlers of others, and is set up
for what was asked for last, if it was set up at all. -/
structure Stands (log : Logging) (serials : List Nat) (last : Option LogSetup) : Prop where
  others : log.others = serials
  setUpAs : ∀ t ∈ last, log.SetUpAs t
  known : programLogger ∈ log.loggers

namespace Stands

variable {log log' : Logging} {serials : List Nat} {last : Option LogSetup}
  (h : log.Stands serials last)
include h

theorem leads (hleads : log.Leads log') : log'.Stands serials last where
  others := by rw [Logging.others, hleads.handlers, ← Logging.others, h.others]
  setUpAs t ht := (h.setUpAs t ht).leads hleads
  known := hleads.loggers ▸ h.known

theorem configure (t : LogSetup) :
    (log.configure ⟨t.level.severity, false⟩ t.format t.echo).Stands serials (some t) where
  others := (others_configure ..).trans h.others
  setUpAs := by
    rintro _ ⟨⟩
    exact .configure log t
  known := h.known

theorem addForeign (serial : Nat) : (log.addForeign serial).Stands (serials ++ [serial]) last where
  others := by
    rw [Logging.others, Logging.addForeign, List.filterMap_append, ← Logging.others, h.others]
    rfl
  setUpAs t ht := (h.setUpAs t ht).addForeign serial
  known := h.known

end Stands

end Logging

/-! ## Setting the log up -/

/-- Settings, given or found, ask for the log to be set up in a way. -/
def World.Asks (w : World) (settings : Value) (t : LogSetup) : Prop :=
  ∃ (cfg : Ref .settings) (w₁ : World),
    w.run (orElse settings (Value.ofRef <$> newSettings [])) = (.ok (.ofRef cfg), w₁) ∧
      (w₁.setting cfg .logLevel).text? = some t.level.word ∧
      (w₁.setting cfg .logFormat).text? = some t.format.word ∧
      w₁.truthy (w₁.setting cfg .logDump) = t.echo

theorem layoutOf_of_text? {v : Value} {f : LogFormat} (h : v.text? = some f.word) :
    layoutOf v = f := by
  rw [layoutOf, h]
  cases f <;> rfl

/-- The log is set up for what settings ask for. Before it is, records may be logged. -/
theorem World.Asks.run_openLog {w : World} {settings : Value} {t : LogSetup} (h : w.Asks settings t)
    (call : Caller) :
    ∃ (found : Value) (w₁ : World), w.log.Leads w₁.log ∧
      w.run (openLog call settings) = (.ok found,
        { w₁ with log := w₁.log.configure ⟨t.level.severity, false⟩ t.format t.echo }) := by
  obtain ⟨cfg, w₁, hfound, hlevel, hformat, hecho⟩ := h
  refine ⟨.ofRef cfg, w₁, World.leads_of_found hfound, ?_⟩
  rw [World.run_openLog hfound (levelOf_of_text? hlevel w₁), layoutOf_of_text? hformat, hecho]

namespace World.Accepts

variable {w w' : World} {cfg : Ref .settings} (h : w'.Accepts cfg)
include h

theorem asks_of_found {settings : Value}
    (hfound : w.run (orElse settings (Value.ofRef <$> newSettings [])) = (.ok (.ofRef cfg), w')) :
    ∃ t, w.Asks settings t := by
  obtain ⟨l, hl⟩ := h.accepted.logLevel
  obtain ⟨f, hf⟩ := h.accepted.logFormat
  refine ⟨⟨l, f, w'.truthy (w'.setting cfg .logDump)⟩, cfg, w', hfound, ?_, ?_, rfl⟩
  · rw [h.setting_eq, hl]
    rfl
  · rw [h.setting_eq, hf]
    rfl

/-- Settings that were accepted ask for something. -/
theorem asks : ∃ t, w'.Asks (.ofRef cfg) t := h.asks_of_found (run_orElse rfl _)

end World.Accepts

/-- Where settings are found they ask for something. -/
theorem World.asks_none {w : World} {cfg : Ref .settings} (h : w.outcome (newSettings []) = .ok cfg)
    (hnew : ∀ name : Setting,
      w.assigned? (⟨w.settings.size⟩ : Ref .settings).object name.word = none) :
    ∃ t, w.Asks .none t := by
  refine (World.accepts_of_newSettings h hnew).asks_of_found ?_
  rw [run_orElse_none, World.run_map, World.run_eq, h]

/-- What may happen to the log: it is set up by itself or with an environment, others put handlers
there, and records are logged, by whatever is asked of the environments or otherwise. It is said
which handlers of others there are in the end, and what the log was set up for last. -/
inductive LogSetups (w : World) : World → List Nat → Option LogSetup → Prop where
  | start : LogSetups w w w.log.others none
  | configure {w' : World} {others : List Nat} {last : Option LogSetup} (level format echo : Value)
    {l : LogLevel} {f : LogFormat} : LogSetups w w' others last → level.text? = some l.word →
      format.text? = some f.word →
        LogSetups w (w'.after (configureLogging level format echo)) others
          (some ⟨l, f, w'.truthy echo⟩)
  | bootstrap {w' : World} {others : List Nat} {last : Option LogSetup} (settings registry : Value)
    {t : LogSetup} : LogSetups w w' others last → w'.Asks settings t →
      LogSetups w (w'.after (bootstrap invoke settings registry)) others (some t)
  | addForeign {w' : World} {others : List Nat} {last : Option LogSetup} :
    LogSetups w w' others last →
      LogSetups w (w'.after (perform .addForeign)) (others ++ [w'.nextSerial]) last
  | perform {w' : World} {others : List Nat} {last : Option LogSetup} (q : Request Value) :
    LogSetups w w' others last → q.Modest → LogSetups w (w'.after (perform q)) others last
  | emit {w' : World} {others : List Nat} {last : Option LogSetup} (severity : Int)
    (logger message : String) (fault : Option String) : LogSetups w w' others last →
      LogSetups w (w'.after (Understudy.emit severity logger message fault)) others last

namespace LogSetups

variable {w w' : World} {others : List Nat} {last : Option LogSetup}

/-- However the log was dealt with, it is set up for what was asked for last. -/
theorem stands (h : LogSetups w w' others last) (hknown : programLogger ∈ w.log.loggers) :
    w'.log.Stands others last := by
  induction h with
  | start => exact ⟨rfl, nofun, hknown⟩
  | @configure w' _ _ level format echo l f _ hlevel hformat ih =>
    rw [World.after_of_run (World.run_configureLogging (levelOf_of_text? hlevel w') format echo),
      layoutOf_of_text? hformat]
    exact ih.configure ⟨l, f, w'.truthy echo⟩
  | bootstrap settings registry _ hasks ih =>
    obtain ⟨found, w₁, hleads, hrun⟩ := hasks.run_openLog invoke
    rw [bootstrap_eq_openLog, World.after_bind_of_run hrun]
    exact ((ih.leads hleads).configure _).leads
      (Lasts.leads (fun _ => .bootWithLog .invoke found registry) _)
  | @addForeign w' _ _ _ ih => exact ih.addForeign w'.nextSerial
  | perform q _ hmodest ih =>
    exact ih.leads
      (Lasts.leads (fun log => .perform hmodest fun s => .inr (World.Logged.frees log s)) _)
  | emit severity logger message fault _ ih => exact ih.leads ⟨[⟨_, _, _, _⟩], rfl⟩

/-- Once the log has been set up, be it by itself or with environments, it has one echo in the
layout asked for last, or none if none was asked for, and the handlers of others in their order.
Of all records that are then logged, each one of the tree that is severe enough for the level asked
for last is printed once in that layout, if there is an echo, and nothing else is. It can be set up
again with any settings that were accepted, or that are found. -/
theorem printsOnce {t : LogSetup} (h : LogSetups w w' others (some t))
    (hknown : programLogger ∈ w.log.loggers) :
    w'.log.handlers.filterMap Handler.layout? = (if t.echo then [t.format] else []) ∧
      w'.log.others = others ∧
      (∀ name ∈ programLoggers, w'.log.inTree name = true) ∧
      (∀ records : List LogRecord, (records.foldl Logging.emit w'.log).printed =
        w'.log.printed ++ records.flatMap (w'.log.linesOf t)) ∧
      (∀ cfg : Ref .settings, w'.Accepts cfg → ∃ next, w'.Asks (.ofRef cfg) next) ∧
      ∀ cfg, w'.outcome (newSettings []) = .ok cfg →
        (∀ name : Setting,
          w'.assigned? (⟨w'.settings.size⟩ : Ref .settings).object name.word = none) →
        ∃ next, w'.Asks .none next := by
  obtain ⟨hothers, hsetUpAs, hknown'⟩ := h.stands hknown
  have ht : w'.log.SetUpAs t := hsetUpAs t rfl
  exact ⟨ht.layouts, hothers, fun name hname => Logging.inTree_of_mem hknown' hname, ht.prints,
    fun _ haccepts => haccepts.asks, fun _ hfound hnew => World.asks_none hfound hnew⟩

end LogSetups

/-- The bench, with handlers of two kinds. -/
def handledBench : World :=
  { jsonBench with log := { jsonBench.log with handlers := [.echo .text, .foreign 7] } }

/-- The log is set up there, and one more handler is added. -/
def handledAdded : World :=
  (handledBench.after
    (configureLogging (.ofText "DEBUG") (.ofText "text") (.bool false))).after (perform .addForeign)

/-- Then an environment is set up by settings that ask for JSON, and the log is set up once more. -/
def handledTwice : World :=
  (handledAdded.after (bootstrap invoke (.ofRef (⟨0⟩ : Ref .settings)) .none)).after
    (configureLogging (.ofText "INFO") (.ofText "text") (.bool true))

theorem handledTwice_setups :
    LogSetups handledBench handledTwice [7, 2] (some ⟨.info, .text, true⟩) := by
  have hfirst : LogSetups handledBench
      (handledBench.after (configureLogging (.ofText "DEBUG") (.ofText "text") (.bool false)))
      [7] (some ⟨.debug, .text, false⟩) := .configure _ _ (.bool false) .start rfl rfl
  have hadded : LogSetups handledBench handledAdded [7, 2] (some ⟨.debug, .text, false⟩) :=
    hfirst.addForeign
  have hasks : handledAdded.Asks (.ofRef (⟨0⟩ : Ref .settings)) ⟨.trace, .json, true⟩ :=
    ⟨⟨0⟩, handledAdded, run_orElse rfl _, rfl, rfl, rfl⟩
  exact .configure _ _ (.bool true) (.bootstrap _ .none hadded hasks) rfl rfl

/-- Only the last time counts there. -/
theorem handledTwice_printsOnce :
    LogSetups handledBench handledTwice [7, 2] (some ⟨.info, .text, true⟩) ∧
      programLogger ∈ handledBench.log.loggers ∧
      handledTwice.log.handlers.filterMap Handler.layout? = [.text] ∧
      handledTwice.log.others = [7, 2] ∧
      (∀ name ∈ programLoggers, handledTwice.log.inTree name = true) ∧
      (∀ records : List LogRecord, (records.foldl Logging.emit handledTwice.log).printed =
        handledTwice.log.printed ++
          records.flatMap (handledTwice.log.linesOf ⟨.info, .text, true⟩)) ∧
      (∀ cfg : Ref .settings, handledTwice.Accepts cfg →
        ∃ next, handledTwice.Asks (.ofRef cfg) next) ∧
      ∀ cfg, handledTwice.outcome (newSettings []) = .ok cfg →
        (∀ name : Setting, handledTwice.assigned?
          (⟨handledTwice.settings.size⟩ : Ref .settings).object name.word = none) →
        ∃ next, handledTwice.Asks .none next :=
  have hknown : programLogger ∈ handledBench.log.loggers := by decide
  ⟨handledTwice_setups, hknown, handledTwice_setups.printsOnce hknown⟩

end Understudy
