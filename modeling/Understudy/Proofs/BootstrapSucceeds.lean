import Understudy.Proofs.HostStandIns

/-!
# Setting up succeeds

An environment is set up without a fault by settings that were accepted, on a registry that has
nothing registered yet as well as on one with a host. Where no identity is served the host is made
out of the settings; otherwise it is the host there is, even while a stand-in is shown. Either way
what the registry shows lets a session tell its id.

## Main definitions

* `Configuration.Accepted`, `World.Accepts`: settings that were accepted.
* `World.Placed`: what comes of making a host.
* `Receptive`: a registry at which a session can tell its id.
* `World.Identified`, `World.Silenced`: what becomes of a session that is set up.

## Main statements

* `World.Orderly.run_makeHost`: a host is made without a fault out of settings that hold texts.
* `Occupied.run_hostOf`: on a registry with a host the host is found, whatever is shown.
* `Sane.identify`, `Receptive.outcome_identify`: a session is given an id, without a fault.
* `World.Orderly.silence`: the timer of a session is taken out of action without a fault.
-/

namespace Understudy

/-! ## Settings that were accepted -/

/-- Settings are as they were accepted. -/
def Configuration.Accepted (c : Configuration) : Prop :=
  ∃ (serial : Nat) (choice : Settings.Choice) (unknown : List String) (s : Settings),
    Settings.validate choice unknown = .ok s ∧ c = .ofChoice serial choice s

namespace Configuration

theorem held_of_keepsChoice (serial : Nat) {name : Setting} (given : Value) (s : String)
    (h : keepsChoice name = true) : ∃ k t, held serial name given (.ofText s) = .text k t := by
  unfold held
  rw [if_pos h]
  split
  · exact ⟨_, _, rfl⟩
  · rename_i hno
    cases hno
  · obtain ⟨k, hk⟩ := Value.exists_renewed_text (serial + Setting.all.idxOf name) 0 s
    exact ⟨k, s, hk⟩

namespace Accepted

variable {c : Configuration} (h : c.Accepted)
include h

theorem logLevel : ∃ l : LogLevel, c.get .logLevel = .ofText l.word := by
  obtain ⟨serial, choice, unknown, s, _, rfl⟩ := h
  refine ⟨s.logLevel, ?_⟩
  simp only [ofChoice]
  cases choice .logLevel <;> rfl

theorem logFormat : ∃ f : LogFormat, c.get .logFormat = .ofText f.word := by
  obtain ⟨serial, choice, unknown, s, _, rfl⟩ := h
  refine ⟨s.logFormat, ?_⟩
  simp only [ofChoice]
  cases choice .logFormat <;> rfl

/-- The settings that the identity of the machine is made of are texts. -/
theorem hostSetting {name : Setting} (hname : name ∈ hostSettings) :
    ∃ k t, c.get name = .text k t := by
  obtain ⟨serial, choice, unknown, s, _, rfl⟩ := h
  obtain ⟨t, ht⟩ : ∃ t, s.get name = .ofText t := by
    simp only [hostSettings, List.mem_cons, List.not_mem_nil, or_false] at hname
    rcases hname with rfl | rfl | rfl | rfl | rfl | rfl | rfl <;> exact ⟨_, rfl⟩
  have hkeeps : keepsChoice name = true := by
    simp only [hostSettings, List.mem_cons, List.not_mem_nil, or_false] at hname
    rcases hname with rfl | rfl | rfl | rfl | rfl | rfl | rfl <;> rfl
  simp only [ofChoice, ht]
  cases choice name with
  | none => exact ⟨0, t, rfl⟩
  | some given => exact held_of_keepsChoice serial given t hkeeps

end Accepted

end Configuration

/-- What lies outside of registries and their environments: the settings are what they were, and
nothing was assigned to them, and so are the timelines. -/
structure World.SameOutside (w w' : World) : Prop where
  settings : w'.settings = w.settings
  assigned (cfg : Ref .settings) (name : String) :
    w'.assigned? cfg.object name = w.assigned? cfg.object name
  timelines : w'.timelines = w.timelines

namespace World.SameOutside

variable {w w' w'' : World}

theorem trans (h : w.SameOutside w') (h' : w'.SameOutside w'') : w.SameOutside w'' where
  settings := h'.settings.trans h.settings
  assigned cfg name := (h'.assigned cfg name).trans (h.assigned cfg name)
  timelines := h'.timelines.trans h.timelines

theorem of_eq (hsettings : w'.settings = w.settings) (hassigned : w'.assigned = w.assigned)
    (htimelines : w'.timelines = w.timelines) : w.SameOutside w' where
  settings := hsettings
  assigned cfg name := by rw [World.assigned?, hassigned, ← World.assigned?]
  timelines := htimelines

theorem of_alike (h : w.Alike w') : w.SameOutside w' := by
  obtain ⟨_, _, rfl⟩ := h
  exact of_eq rfl rfl rfl

end World.SameOutside

/-- What settings hold under the name of one of them. -/
def World.setting (w : World) (cfg : Ref .settings) (name : Setting) : Value :=
  (w.assigned? cfg.object name.word).getD ((w.row cfg : Configuration).get name)

theorem World.run_readAttribute_setting (w : World) (call : Caller) (cfg : Ref .settings)
    (name : Setting) :
    w.run (readAttribute call (.ofRef cfg) name.word) = (.ok (w.setting cfg name), w) := by
  refine run_readAttribute_held call ?_
  have hproperty : w.property? cfg.object name.word = none := by cases name <;> rfl
  have hheld : w.held? cfg.object name.word = some ((w.row cfg : Configuration).get name) := by
    cases name <;> rfl
  have hlook : w.look (.ofRef cfg) name.word = w.lookObject cfg.object name.word := by
    cases name <;> rfl
  rw [hlook, World.lookObject, hproperty, World.setting]
  cases w.assigned? cfg.object name.word with
  | some v => rfl
  | none =>
    rw [hheld]
    rfl

theorem World.run_settingsOf (w : World) (call : Caller) (cfg : Ref .settings)
    (asked : List Setting) :
    w.run (settingsOf call (.ofRef cfg) asked) =
      (.ok (asked.map fun name => (name, w.setting cfg name)), w) := by
  induction asked with
  | nil => rfl
  | cons name rest ih =>
    rw [settingsOf, World.run_bind_of_run (w.run_readAttribute_setting call cfg name),
      World.run_bind_of_run ih]
    rfl

/-- The identity of the machine, by what settings hold. -/
def World.machineHost (w : World) (cfg : Ref .settings) : Component :=
  .ofSettings w.surroundings.machine
    ((Value.ofText w.surroundings.machine.abiLabel).renewed w.nextSerial) (w.setting cfg)

theorem World.run_describeHost (w : World) (call : Caller) (cfg : Ref .settings) :
    w.run (describeHost call (.ofRef cfg)) =
      (.ok (w.machineHost cfg), { w with nextSerial := w.nextSerial + 1 }) := by
  rw [describeHost, World.run_bind_of_run (w.run_settingsOf call cfg hostSettings),
    World.run_bind_of_run (World.run_get w), World.run_bind_of_run (World.run_renew w _)]
  have hsame (machine : Machine) (abi : Value) :
      Component.ofSettings machine abi (fun name =>
        ((hostSettings.map fun name => (name, w.setting cfg name)).lookup name).getD .none) =
      .ofSettings machine abi (w.setting cfg) := by
    unfold Component.ofSettings
    congr 1
    funext f
    cases f <;> rfl
  rw [hsame]
  rfl

theorem World.SameOutside.setting {w w' : World} (h : w.SameOutside w') (cfg : Ref .settings)
    (name : Setting) : w'.setting cfg name = w.setting cfg name := by
  have hrow : w'.row cfg = (w.row cfg : Configuration) :=
    congrArg (Table.get · cfg.index) h.settings
  rw [World.setting, h.assigned, hrow, ← World.setting]

/-- Settings hold texts for all that the identity of the machine is made of. -/
def World.Describes (w : World) (cfg : Ref .settings) : Prop :=
  ∀ name ∈ hostSettings, ∃ k t, w.setting cfg name = .text k t

theorem World.Describes.later {w w' : World} {cfg : Ref .settings} (h : w.Describes cfg)
    (hs : w.SameOutside w') : w'.Describes cfg := fun name hname =>
  hs.setting cfg name ▸ h name hname

theorem levelOf_of_text? {v : Value} {l : LogLevel} (h : v.text? = some l.word) (w : World) :
    levelOf w v = .ok ⟨l.severity, false⟩ := by
  simp only [levelOf, h, Level.ofName_word]

/-- Settings that were accepted, and that nothing was assigned to. -/
structure World.Accepts (w : World) (cfg : Ref .settings) : Prop where
  accepted : (w.row cfg : Configuration).Accepted
  unassigned (name : Setting) : w.assigned? cfg.object name.word = none

namespace World.Accepts

variable {w : World} {cfg : Ref .settings} (h : w.Accepts cfg) (call : Caller)
include h

/-- Settings that were accepted may be used again. -/
theorem later {w' : World} (hs : w.SameOutside w') : w'.Accepts cfg where
  accepted := by
    show (Table.get w'.settings cfg.index).Accepted
    rw [hs.settings]
    exact h.accepted
  unassigned name := (hs.assigned cfg name.word).trans (h.unassigned name)

omit call in
theorem setting_eq (name : Setting) :
    w.setting cfg name = (w.row cfg : Configuration).get name := by
  rw [World.setting, h.unassigned]
  rfl

theorem run_readAttribute (name : Setting) :
    w.run (readAttribute call (.ofRef cfg) name.word) =
      (.ok ((w.row cfg : Configuration).get name), w) := by
  rw [w.run_readAttribute_setting call cfg name, h.setting_eq]

omit call in
theorem describes : w.Describes cfg := fun name hname => by
  rw [h.setting_eq]
  exact h.accepted.hostSetting hname

theorem outcome_prepareLog : w.outcome (prepareLog call (.ofRef cfg)) = .ok () := by
  obtain ⟨l, hl⟩ := h.accepted.logLevel
  rw [World.outcome, prepareLog, World.run_bind_of_run (h.run_readAttribute call .logLevel),
    World.run_bind_of_run (h.run_readAttribute call .logFormat),
    World.run_bind_of_run (h.run_readAttribute call .logDump), hl]
  have htext : (Value.ofText l.word).text? = some l.word := rfl
  simp only [configureLogging, World.run_bind, World.run_modify, World.run_get, World.run_orFail,
    levelOf_of_text? htext, World.run_set, debug, World.run_emit]

end World.Accepts

/-! ## The host -/

/-- A host made out of texts is told about without a fault. -/
theorem outcome_tellHost {w : World} (call : Caller) {host : Ref .component} {facts : Facts}
    {invalidated : Value} (hrow : w.row host = Component.host facts invalidated)
    (hassigned : ∀ name, w.assigned? host.object name = none)
    (htexts : ∀ f ∈ [Field.id, .version, .os], ∃ k t, facts.answer f = .text k t) :
    w.outcome (tellHost call (.ofRef host)) = .ok () := by
  have hasked (f : Field) : w.run (answerOf call (.ofRef host) f) = (.ok (facts.answer f), w) :=
    run_readAttribute_held call (World.look_facts f (.inl ⟨invalidated, hrow⟩) (hassigned _))
  have hshown (f : Field) (hf : f ∈ [Field.id, .version, .os]) :
      ∃ t, w.run (shown (facts.answer f)) = (.ok t, w) := by
    obtain ⟨k, t, ht⟩ := htexts f hf
    refine ⟨t, ?_⟩
    rw [World.run_shown, ht, World.display_text]
  obtain ⟨id, hid⟩ := hshown .id (by decide)
  obtain ⟨version, hversion⟩ := hshown .version (by decide)
  obtain ⟨os, hos⟩ := hshown .os (by decide)
  rw [World.outcome, tellHost, World.run_bind_of_run (hasked .id), World.run_bind_of_run hid,
    World.run_bind_of_run (hasked .version), World.run_bind_of_run hversion,
    World.run_bind_of_run (hasked .os), World.run_bind_of_run hos]
  rfl

/-- What the identity of a machine is built with, by its settings. -/
def hostFacts (machine : Machine) (abi : Value) (value : Setting → Value) : Facts :=
  match Component.ofSettings machine abi value with
  | .host facts _ => facts
  | _ => ⟨fun _ => .none, .empty⟩

/-- What is registered for a new component is shown from then on. -/
theorem World.shows_withHost {w placed : World} {r : Ref .registry} {component : Component}
    {serial : Nat}
    (hplaced : ((w.withHost component).withRow r
      ((w.row r : Registry).register (hostEntry serial w.nextProvider))).Alike placed) :
    placed.row w.nextComponent = component ∧ placed.Shows r w.nextComponent ∧
      (placed.row r : Registry).captureOf? (.ofText appInfoContract) =
        (w.row r : Registry).captureOf? (.ofText appInfoContract) := by
  have hregistry : placed.row r =
      (w.row r : Registry).register (hostEntry serial w.nextProvider) :=
    (hplaced.row_registry r).trans (World.row_withRow_self (w.withHost component) r _)
  have hhands : placed.Hands w.nextProvider w.nextComponent := by
    have hprovider : placed.row w.nextProvider = Provider.host (.ofRef w.nextComponent) := by
      obtain ⟨_, _, rfl⟩ := hplaced
      exact (Table.get_push w.providers _ _).trans (if_pos rfl)
    exact ⟨by rw [hprovider]; rfl, by rw [hprovider]; rfl⟩
  refine ⟨?_, ⟨hostEntry serial w.nextProvider, w.nextProvider, ?_, rfl, hhands⟩, ?_⟩
  · obtain ⟨_, _, rfl⟩ := hplaced
    exact (Table.get_push w.components _ component).trans (if_pos rfl)
  · have hcontract : (Value.ofText appInfoContract == Value.ofText appInfoContract) = true := by
      decide
    rw [hregistry]
    exact (Registry.entryOf?_register _ _ _).trans (if_pos hcontract)
  · rw [hregistry, Registry.captureOf?_register]

/-- A registry stays well formed when its host is placed in it, and nothing else is lost. -/
theorem Sane.withHost {w placed : World} {r : Ref .registry} (h : Sane r w) {component : Component}
    {serial : Nat}
    (hplaced : ((w.withHost component).withRow r
      ((w.row r : Registry).register (hostEntry serial w.nextProvider))).Alike placed) :
    w.Continues placed ∧ Sane r placed := by
  have hmade : w.Continues (w.withHost component) :=
    .of_retains (.pushed w component (.host (.ofRef w.nextComponent))) rfl rfl rfl rfl rfl rfl
  have hregistered : (w.withHost component).Continues ((w.withHost component).withRow r
      ((w.row r : Registry).register (hostEntry serial w.nextProvider))) :=
    .of_retains (.withRow_registry _ r _) rfl rfl rfl rfl rfl rfl
  have hcontinues := hmade.trans (hregistered.trans (.of_alike hplaced))
  have hregistry : placed.row r =
      (w.row r : Registry).register (hostEntry serial w.nextProvider) :=
    (hplaced.row_registry r).trans (World.row_withRow_self (w.withHost component) r _)
  exact ⟨hcontinues, hcontinues.intact h.intact,
    hregistry.symm ▸ h.sound.register (proper_hostEntry _ _)⟩

/-- What comes of making a host out of settings: it is what the registry shows. -/
structure World.Placed (r : Ref .registry) (component : Component) (w w' : World) : Prop where
  sane : Sane r w'
  continues : w.Continues w'
  row : w'.row w.nextComponent = component
  shows : w'.Shows r w.nextComponent
  captured : (w'.row r : Registry).captureOf? (.ofText appInfoContract) =
    (w.row r : Registry).captureOf? (.ofText appInfoContract)
  assigned : w'.assigned = w.assigned
  sameOutside : w.SameOutside w'
  installers : w'.installers = w.installers

/-- A host is made without a fault out of settings that hold texts. -/
theorem World.Orderly.run_makeHost {w : World} {r : Ref .registry} {cfg : Ref .settings}
    (ho : w.Orderly) (h : Sane r w) (hd : w.Describes cfg) (call : Caller) :
    w.outcome (makeHost call (.ofRef cfg) (.ofRef r)) = .ok (.ofRef w.nextComponent) ∧
      w.Placed r (w.machineHost cfg) (w.after (makeHost call (.ofRef cfg) (.ofRef r))) := by
  let host := w.nextComponent
  let w₁ : World := { w with nextSerial := w.nextSerial + 1 }
  have hrenewed : w.Continues w₁ := .of_alike ⟨w.log, _, rfl⟩
  obtain ⟨placed, hplaced, hrun⟩ := h.run_makeHost call (w.run_describeHost call cfg)
  obtain ⟨hrow, hshows, hcaptured⟩ := World.shows_withHost (w := w₁) hplaced
  obtain ⟨hcontinues₁, hsane⟩ :=
    Sane.withHost (w := w₁) ⟨hrenewed.intact h.intact, h.sound⟩ hplaced
  have hcontinues : w.Continues placed := hrenewed.trans hcontinues₁
  have htold : placed.outcome (tellHost call (.ofRef host)) = .ok () := by
    refine outcome_tellHost call hrow (fun name => ?_) fun f hf => ?_
    · rw [hcontinues.assigned? (.inl rfl)]
      exact ho.component host name (Nat.le_refl _)
    · simp only [List.mem_cons, List.not_mem_nil, or_false] at hf
      rcases hf with rfl | rfl | rfl
      · exact hd .hostId (by decide)
      · exact hd .hostVersion (by decide)
      · exact ⟨_, _, rfl⟩
  have hlike := quiet_tellHost call (.ofRef host) placed
  have hafter : w.after (makeHost call (.ofRef cfg) (.ofRef r)) =
      placed.after (tellHost call (.ofRef host)) := by
    rw [World.after, hrun]
    exact World.after_bind_pure placed _ fun _ => _
  refine ⟨?_, ?_⟩
  · rw [World.outcome, hrun, World.run_bind, World.run_eq placed (tellHost _ _)]
    rw [show placed.outcome (tellHost call (.ofRef w₁.nextComponent)) = .ok () from htold]
    rfl
  · rw [hafter]
    have hsame := World.Continues.of_alike hlike
    have hregistry := hlike.row_registry r
    refine
      { sane := hsane.of_alike hlike
        continues := hcontinues.trans hsame
        row := ?_
        shows := hshows.retains hsame.toRetains (by rw [hregistry])
        captured := (congrArg (Registry.captureOf? · _) hregistry).trans hcaptured
        assigned := ?_
        sameOutside := ?_
        installers := ?_ }
    all_goals
      obtain ⟨_, _, hlike⟩ := hlike
    · rw [hlike]
      exact hrow
    all_goals
      obtain ⟨_, _, rfl⟩ := hplaced
      rw [hlike]
    · rfl
    · exact .of_eq rfl rfl rfl
    · rfl

/-- A host that is made on a new registry is all there is to it. -/
theorem World.Placed.occupied {w w' : World} {r : Ref .registry} {facts : Facts}
    {invalidated : Value} (h : w.Placed r (.host facts invalidated) w') (ho : w.Orderly)
    (hnew : (w.row r : Registry).captureOf? (.ofText appInfoContract) = none) :
    Occupied r w.nextComponent w' where
  sane := h.sane
  orderly := ho.continues h.continues
  machine := ⟨_, _, h.row⟩
  shown := ⟨w.nextComponent, h.shows, .inl rfl⟩
  original := .uncaptured (h.captured.trans hnew) h.shows

/-- On a registry with a host the host is found, whatever is shown. -/
theorem Occupied.run_hostOf {r : Ref .registry} {host : Ref .component} {w : World}
    (h : Occupied r host w) (call : Caller) (settings : Value) {i : Ref .installer}
    (hi : w.row i = Installer.ofHost (.ofRef r)) :
    w.run (hostOf call settings (.ofRef r) i) = (.ok (.ofRef host), w) := by
  obtain ⟨c, ⟨e, p, hentry, _, _⟩, _⟩ := h.shown
  have horiginal := h.sane.intact.run_originalOf call hi
  rw [h.sane.intact.run_hostOf_of_served hentry]
  cases h.original with
  | captured hcaptured _ _ =>
    rw [hcaptured] at horiginal
    rw [heldHost, World.run_bind, horiginal]
    exact horiginal
  | uncaptured hn shows =>
    rw [hn] at horiginal
    rw [heldHost, World.run_bind, horiginal]
    exact (h.sane.intact.run_request call r _ _ rfl).trans (h.run_getService call shows (.inl rfl))

/-! ## Setting a session up -/

/-- To look the identity up is to look it up in the registry of the session. -/
theorem World.Intact.run_identityService {w : World} (hw : w.Intact) (call : Caller)
    {s : Ref .session} {r : Ref .registry} (hr : (w.row s : Session).registry = .ofRef r)
    (capability : Capability) :
    w.run (identityService call s capability) =
      w.run (getService call r (.ofText appInfoContract) (.capability capability)) := by
  rw [identityService, World.run_bind_of_run (World.run_fetch w s), hr]
  exact hw.run_request call r _ _ rfl

/-- A registry at which a session can tell its id: it shows the identity of a machine, which takes
no notes, or an overlay, which takes any. -/
structure Receptive (r : Ref .registry) (w : World) : Prop where
  sane : Sane r w
  orderly : w.Orderly
  shown : ∃ c, w.Shows r c ∧
    ((∃ facts invalidated, w.row c = Component.host facts invalidated) ∨
      ∃ layer, w.row c = Component.overlay layer)

/-- A registry that is left alone stays receptive. -/
theorem Receptive.continues {r : Ref .registry} {w w' : World} (h : Receptive r w)
    (hc : w.Continues w') (hr : w'.row r = (w.row r : Registry)) : Receptive r w' where
  sane := ⟨hc.intact h.sane.intact, hr ▸ h.sane.sound⟩
  orderly := h.orderly.continues hc
  shown := by
    obtain ⟨c, hshows, hc'⟩ := h.shown
    refine ⟨c, hshows.retains hc.toRetains (by rw [hr]), ?_⟩
    rcases hc' with ⟨facts, _, hrow⟩ | ⟨layer, hrow⟩
    · exact .inl ⟨facts, hc.row_host hrow⟩
    · obtain ⟨_, hnotes⟩ := hc.row_overlay hrow
      exact .inr ⟨_, hnotes⟩

/-- A registry with a host is receptive, whatever it shows. -/
theorem Occupied.receptive {r : Ref .registry} {host : Ref .component} {w : World}
    (h : Occupied r host w) : Receptive r w where
  sane := h.sane
  orderly := h.orderly
  shown := by
    obtain ⟨c, hshows, hfronts⟩ := h.shown
    refine ⟨c, hshows, ?_⟩
    rcases hfronts with rfl | ⟨layer, hlayer, _⟩
    · exact .inl h.machine
    · exact .inr ⟨layer, hlayer⟩

section

variable {r : Ref .registry} {w : World} (h : Receptive r w)
  {s : Ref .session} (hr : (w.row s : Session).registry = .ofRef r) (call : Caller)
include h hr

/-- The id of a session is told without a fault: a host takes none, and a stand-in does. -/
theorem Receptive.outcome_annotateSession : w.outcome (annotateSession call s) = .ok () := by
  obtain ⟨c, hshows, hkind⟩ := h.shown
  have hservice := (h.sane.intact.run_identityService call hr .crashReporter).trans
    (hshows.run_getService h.sane.intact call _)
  rw [World.outcome, annotateSession, World.run_bind_of_run (World.run_attempt w _),
    World.outcome, World.after, hservice]
  rcases hkind with ⟨facts, invalidated, hrow⟩ | ⟨layer, hlayer⟩
  · have hrefused : (w.row c : Component).capabilities.any
        (· == .capability .crashReporter) = false := by
      rw [hrow]
      show (Component.identityCapabilities.map Value.capability).any _ = false
      decide
    rw [run_queryInterface_undeclared call (h.orderly.capability .crashReporter) hrefused]
    rfl
  · have hdeclared : (w.row c : Component).capabilities.any
        (· == .capability .crashReporter) = true := by
      rw [hlayer]
      show (Capability.all.map Value.capability).any _ = true
      decide
    have hmethod : (w.methods c.object).contains .annotate = true := by
      show ((w.row c : Component).methods).contains .annotate = true
      rw [hlayer]
      rfl
    rw [run_queryInterface call _ rfl hdeclared]
    show (w.run (fetch s >>= fun session => fetch c >>= fun component => get >>= _)).1 = _
    rw [World.run_bind_of_run (World.run_fetch w s), World.run_bind_of_run (World.run_fetch w c),
      World.run_bind_of_run (World.run_get w)]
    split
    · rw [World.run_bind, h.sane.intact.run_request call c _ _ hmethod, run_nothing]
      have hannotated : w.outcome (annotate call c (.ofText sessionIdKey)
          (w.row s : Session).sessionId) = .ok () := by
        rw [World.outcome, annotate, World.run_bind_of_run (World.run_fetch w c), hlayer]
        rfl
      rw [hannotated]
      rfl
    · rfl

omit h in
/-- To tell the id of a session disturbs nobody. -/
theorem Sane.undisturbed_annotateSession (hs : Sane r w) :
    w.Undisturbed r (w.after (annotateSession call s)) ∧
      w.SameOutside (w.after (annotateSession call s)) ∧
      (w.after (annotateSession call s)).sessions = w.sessions ∧
      (w.after (annotateSession call s)).banks = w.banks := by
  have htold := hs.told_annotateSession hr call
  refine ⟨.of_retains (.annotateSession hs hr call) (htold.row_registry r) ?_ ?_ ?_ ?_ ?_ ?_,
    .of_eq ?_ ?_ ?_, ?_, ?_⟩
  all_goals rw [htold.frame]

end

/-- A session may be given an id. -/
theorem World.Undisturbed.named (w : World) (s : Ref .session) (r : Ref .registry)
    (sessionId : Value) : w.Undisturbed r (w.named s sessionId) where
  toRetains := .of_eq rfl rfl rfl
  registry := rfl
  contexts := .refl (fun _ => rfl) _
  injectors := .refl (fun _ => rfl) _
  installers := .refl (fun _ => rfl) _
  policies := .refl (fun _ => rfl) _
  sessions := .set (fun _ => ⟨rfl, rfl⟩) ⟨rfl, rfl⟩
  banks := .refl (fun _ h => h) _

/-- What comes of a session that is given an id. -/
structure World.Identified (r : Ref .registry) (s : Ref .session) (w w' : World) : Prop where
  undisturbed : w.Undisturbed r w'
  sameOutside : w.SameOutside w'
  session : ∃ sessionId, w'.row s = { (w.row s : Session) with sessionId := sessionId }
  banks : w'.banks = w.banks

theorem World.Identified.alike {r : Ref .registry} {s : Ref .session} {w w' w'' : World}
    (h : w.Identified r s w') (ha : w'.Alike w'') : w.Identified r s w'' where
  undisturbed := h.undisturbed.trans (.of_alike ha)
  sameOutside := h.sameOutside.trans (.of_alike ha)
  session := by
    obtain ⟨_, _, rfl⟩ := ha
    exact h.session
  banks := by
    obtain ⟨_, _, rfl⟩ := ha
    exact h.banks

/-- A session is given an id, and tells it. -/
theorem Sane.identify {r : Ref .registry} {w : World} (h : Sane r w) {s : Ref .session}
    (hr : (w.row s : Session).registry = .ofRef r) (call : Caller) :
    w.Identified r s (w.after (identify call s)) := by
  let named : World := w.named s w.nextId
  have hundisturbed : w.Undisturbed r named := .named w s r w.nextId
  have hrow : named.row s = { (w.row s : Session) with sessionId := w.nextId } :=
    World.row_withRow_self _ s _
  have hregistry : (named.row s : Session).registry = .ofRef r :=
    (congrArg Session.registry hrow).trans hr
  obtain ⟨htold, houtside, hsessions, hbanks⟩ :=
    (hundisturbed.sane h).undisturbed_annotateSession hregistry call
  have hsame : w.SameOutside named := .of_eq rfl rfl rfl
  have hidentified : w.Identified r s (named.after (annotateSession call s)) :=
    ⟨hundisturbed.trans htold, hsame.trans houtside, ⟨w.nextId,
      (congrArg (Table.get · s.index) hsessions).trans hrow⟩, hbanks⟩
  exact hidentified.alike (h.intact.alike_identify call)

/-- A session is given an id, and tells it, without a fault. -/
theorem Receptive.outcome_identify {r : Ref .registry} {w : World} (h : Receptive r w)
    {s : Ref .session}
    (hr : (w.row s : Session).registry = .ofRef r) (call : Caller) :
    ∃ v, w.outcome (Understudy.identify call s) = .ok v := by
  let named : World := w.named s w.nextId
  have hnamed : Receptive r named :=
    h.continues (World.Undisturbed.named w s r w.nextId).continues rfl
  have hrow : named.row s = { (w.row s : Session) with sessionId := w.nextId } :=
    World.row_withRow_self _ s _
  have hregistry : (named.row s : Session).registry = .ofRef r :=
    (congrArg Session.registry hrow).trans hr
  obtain ⟨_, _, hsessions, _⟩ := hnamed.sane.undisturbed_annotateSession hregistry call
  rcases h.sane.intact.outcome_identify call (congrArg (Table.get · s.index) hsessions) with
    ⟨fault, hfails, _⟩ | ⟨_, hidentified⟩
  · rw [hnamed.outcome_annotateSession hregistry call] at hfails
    cases hfails
  · exact hidentified

/-! ## Taking a timer out of action -/

/-- A policy may be given other hooks. -/
theorem World.Continues.rehooked (w : World) (p : Ref .policy) (policy : Policy) :
    w.Continues (w.rehooked p policy) where
  intact hw := hw.erase rfl
  assigned bearer name hb := by
    have hother : ¬((Bearer.thing p.object, hooksName) == (bearer, name)) = true := by
      rw [beq_iff_eq]
      intro heq
      obtain ⟨rfl, rfl⟩ := Prod.mk.inj heq
      rcases hb with hb | hb <;> cases hb
    exact (OrderedMap.get?_erase _ _ _).trans (if_neg hother)
  moreComponents := Nat.le_refl _
  bare _ _ := rfl
  moreProviders := Nat.le_refl _
  provider _ _ := rfl
  contexts := .refl (fun _ => rfl) _
  injectors := .refl (fun _ => rfl) _
  installers := .of_eq (fun _ => rfl) rfl
  policies := Table.Grows.set (R := fun _ _ => True) (fun _ => trivial) trivial
  sessions := .refl Session.Later.refl _
  banks := .refl (fun _ h => h) _

theorem World.SameOutside.rehooked (w : World) (p : Ref .policy) (policy : Policy) :
    w.SameOutside (w.rehooked p policy) where
  settings := rfl
  timelines := rfl
  assigned cfg name := by
    refine (OrderedMap.get?_erase _ _ _).trans (if_neg ?_)
    rw [beq_iff_eq]
    intro heq
    cases (Prod.mk.inj heq).1

/-- An idle hook has a name. -/
theorem World.Orderly.run_hookName {w : World} (h : w.Orderly) {f : Function}
    (hf : f = .idleArm ∨ f = .idleCancel) :
    ∃ t, w.run (hookName (.function 0 f)) = (.ok t, w) := by
  have hheld : w.leafHeld? (.function 0 f) "__name__" = some (.ofText f.word) := by
    have hassigned := h.function 0 f
    rcases hf with rfl | rfl
    all_goals
      show ((w.assigned.get? _).or _) = _
      rw [hassigned]
      rfl
  have hquoted : ∃ t, w.quoted (.function 0 f) = .ok t := by
    rcases hf with rfl | rfl <;> exact ⟨_, rfl⟩
  obtain ⟨t, ht⟩ := hquoted
  have hread : w.read (.function 0 f) "__name__" = .ok (.ofText f.word) := by
    show (w.lookPlain (.function 0 f) "__name__" >>= _) = _
    dsimp only [World.lookPlain]
    rw [if_neg (by decide), hheld]
    rfl
  refine ⟨f.word, ?_⟩
  rw [hookName, World.run_bind_of_run ((World.run_quotedText w _).trans (by rw [ht])),
    World.run_bind_of_run (World.run_get w), hread, World.run_shown]
  rfl

theorem World.Orderly.outcome_tellReplaced {w : World} (h : w.Orderly) (call : Caller)
    {j : Ref .injector} {s : Ref .session} (hj : (w.row j : Injector).owner = .ofRef s)
    (hs : w.assigned? s.object "subsystem_name" = none) (previous : Value) :
    w.outcome (tellReplaced call j (.function 0 .idleArm) (.function 0 .idleCancel) previous) =
      .ok previous := by
  obtain ⟨arm, harm⟩ := h.run_hookName (.inl rfl)
  obtain ⟨cancel, hcancel⟩ := h.run_hookName (.inr rfl)
  have hshown : w.run (shown (.ofText "DailySession")) = (.ok "DailySession", w) := rfl
  rw [World.outcome, tellReplaced, World.run_bind_of_run (World.run_fetch w j), hj,
    World.run_bind_of_run (run_subsystemName call hs), World.run_bind_of_run hshown,
    World.run_bind_of_run harm, World.run_bind_of_run hcancel]
  rfl

/-- The state with one more injector. -/
def World.withInjector (w : World) (injector : Injector) : World :=
  { w with injectors := w.injectors.push injector }

theorem World.Continues.withInjector (w : World) (injector : Injector) :
    w.Continues (w.withInjector injector) where
  toRetains := .of_eq rfl rfl rfl
  contexts := .refl (fun _ => rfl) _
  injectors := Table.Grows.push (R := Eq) (fun _ => rfl) _ _
  installers := .of_eq (fun _ => rfl) rfl
  policies := .refl (fun _ => trivial) _
  sessions := .refl Session.Later.refl _
  banks := .refl (fun _ h => h) _

/-- What comes of taking the timer of a session out of action. -/
structure World.Silenced (s : Ref .session) (p : Ref .policy) (j : Ref .injector) (w w' : World) :
    Prop where
  continues : w.Continues w'
  sameOutside : w.SameOutside w'
  registries : w'.registries = w.registries
  sessions : w'.sessions = w.sessions
  installers : w'.installers = w.installers
  banks : w'.banks = w.banks
  there : j.index < w'.injectors.size
  owner : (w'.row j : Injector).owner = .ofRef s
  policies : ∃ serial, w'.policies = w.policies.set p.index
    ⟨serial, .function 0 .idleArm, .function 0 .idleCancel⟩

/-- The timer of a session that has been set up is taken out of action without a fault. -/
theorem World.Orderly.silence {w : World} (h : w.Orderly) (hw : w.Intact) (call : Caller)
    {s : Ref .session} {p : Ref .policy} (hp : (w.row s : Session).policy = .ofRef p)
    (hs : w.assigned? s.object "subsystem_name" = none) :
    w.outcome (silence call s) = .ok ⟨w.injectors.size⟩ ∧
      w.Silenced s p ⟨w.injectors.size⟩ (w.after (silence call s)) := by
  let j : Ref .injector := ⟨w.injectors.size⟩
  let stored : World := w.withInjector ⟨.ofRef s⟩
  let policy : Policy := ⟨w.nextSerial, .function 0 .idleArm, .function 0 .idleCancel⟩
  let counted : World := { stored with nextSerial := stored.nextSerial + 1 }
  let rehooked : World := counted.rehooked p policy
  have hstored : w.run (store .injector ⟨.ofRef s⟩) = (.ok j, stored) := rfl
  have hcontinues : w.Continues stored := .withInjector w _
  have hcounted : stored.Continues counted := .of_alike ⟨stored.log, _, rfl⟩
  have hrehooked : stored.Continues rehooked := hcounted.trans (.rehooked counted p policy)
  have howner : (stored.row j : Injector).owner = .ofRef s :=
    congrArg Injector.owner ((Table.get_push _ _ _).trans (if_pos rfl))
  have hoverride := (hcontinues.intact hw).run_overrideScheduling call howner hp
    (idle_checkHooks stored)
  have hdisable : stored.run (disableTimers call j) =
      rehooked.run (tellReplaced call j (.function 0 .idleArm) (.function 0 .idleCancel)
        (stored.hooksOf p)) :=
    ((hcontinues.intact hw).run_request call j _ _ rfl).trans hoverride
  have hs' : rehooked.assigned? s.object "subsystem_name" = none :=
    ((hcontinues.trans hrehooked).assigned? (.inr rfl) _).trans hs
  have htold := ((h.continues hcontinues).continues hrehooked).outcome_tellReplaced call
    (j := j) howner hs' (stored.hooksOf p)
  obtain ⟨log, serial, hafter⟩ := quiet_tellReplaced call j (.function 0 .idleArm)
    (.function 0 .idleCancel) (stored.hooksOf p) rehooked
  have hrun : w.run (Understudy.silence call s) = (.ok j, rehooked.retold log serial) := by
    rw [Understudy.silence, World.run_bind_of_run hstored, World.run_bind, hdisable,
      World.run_eq rehooked, htold, hafter]
    rfl
  refine ⟨World.outcome_of_run hrun, ?_⟩
  rw [World.after_of_run hrun]
  have hsettings : counted.SameOutside rehooked := .rehooked counted p policy
  refine ⟨hcontinues.trans (hrehooked.trans (.of_alike ⟨log, serial, rfl⟩)),
    ⟨rfl, hsettings.assigned, rfl⟩, rfl, rfl, rfl, rfl, ?_, howner, w.nextSerial, rfl⟩
  show w.injectors.size < (w.injectors.push _).size
  rw [Table.size_push]
  exact Nat.lt_succ_self _

/-! ## Putting a context together -/

theorem World.Undisturbed.withContext {r : Ref .registry} (w : World) (context : Context) :
    w.Undisturbed r (w.withContext context) where
  toRetains := .of_eq rfl rfl rfl
  registry := rfl
  contexts := Table.Grows.push (R := Eq) (fun _ => rfl) _ _
  injectors := .refl (fun _ => rfl) _
  installers := .refl (fun _ => rfl) _
  policies := .refl (fun _ => rfl) _
  sessions := .refl (fun _ => ⟨rfl, rfl⟩) _
  banks := .refl (fun _ h => h) _

end Understudy
