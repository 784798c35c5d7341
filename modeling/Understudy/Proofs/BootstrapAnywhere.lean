import Understudy.Proofs.ContextParts

/-!
# Setting up on any registry

An environment may be set up with settings that are given or looked for, on a registry that is
given, whatever it holds, or on a new one. If it is set up without a fault it has all its
parts: a session that has not been started, a bank that has not armed anything, and hooks that do
nothing.

## Main definitions

* `World.BootRegistry`, `World.BootSettings`: what an environment can be set up with.
* `ContextParts.Begun`: a context that was set up, whatever with.

## Main statements

* `Sane.hosted`: something is found that is taken for the host of a registry.
* `World.BootRegistry.begun`: an environment that is set up without a fault has its parts.
-/

namespace Understudy

/-! ## What there is to set up with -/

/-- A span of time, or none. -/
def Value.Span (v : Value) : Prop := v = .none ∨ ∃ k x, v = .float k x

theorem Value.Span.renewed {v : Value} (h : v.Span) (serial : Nat) : (v.renewed serial).Span := by
  rcases h with rfl | ⟨k, x, rfl⟩
  · exact .inl rfl
  · unfold Value.renewed
    split
    · exact .inr ⟨k, x, rfl⟩
    · exact .inr ⟨serial, x, rfl⟩

/-- The interval of settings that were accepted is a span of time, if there is one. -/
theorem Configuration.Accepted.span {c : Configuration} (h : c.Accepted) :
    (c.get .dailyInterval).Span := by
  obtain ⟨serial, choice, unknown, s, _, rfl⟩ := h
  have haccepted : (s.get .dailyInterval).Span := by
    simp only [Settings.get]
    cases s.dailyInterval with
    | none => exact .inl rfl
    | some x => exact .inr ⟨0, x, rfl⟩
  simp only [ofChoice]
  cases choice .dailyInterval with
  | none => exact haccepted
  | some given =>
    have hkeeps : keepsChoice .dailyInterval = true := rfl
    simp only [held, if_pos hkeeps]
    -- What is accepted for an interval is no text.
    split
    · rename_i htext
      rw [htext] at haccepted
      rcases haccepted with hno | ⟨_, _, hno⟩ <;> cases hno
    · exact .inr ⟨_, _, rfl⟩
    · exact haccepted.renewed _

/-- What an environment can be set up with for a registry: the registry itself, or nothing, so that
there will be a new one. -/
inductive World.BootRegistry (w : World) : Value → Ref .registry → Prop
  | given {r : Ref .registry} (sane : Sane r w) : BootRegistry w (.ofRef r) r
  | fresh (intact : w.Intact) : BootRegistry w .none ⟨w.registries.size⟩

/-- What an environment can be set up with for settings: settings whose interval is a span of time
if they have one, or nothing, so that there will be new ones. -/
inductive World.BootSettings (w : World) : Value → Prop
  | given {cfg : Ref .settings} (span : (w.setting cfg .dailyInterval).Span) :
      BootSettings w (.ofRef cfg)
  | fresh (unassigned : w.assigned? (⟨w.settings.size⟩ : Ref .settings).object
      Setting.dailyInterval.word = none) : BootSettings w .none

theorem World.BootRegistry.later {w w' : World} {registry : Value} {r : Ref .registry}
    (h : w.BootRegistry registry r) (hc : w.Continues w') (hr : w'.registries = w.registries) :
    w'.BootRegistry registry r := by
  cases h with
  | given sane =>
    have hrow : w'.row r = (w.row r : Registry) := congrArg (Table.get · r.index) hr
    exact .given ⟨hc.intact sane.intact, hrow ▸ sane.sound⟩
  | fresh intact =>
    rw [← hr]
    exact .fresh (hc.intact intact)

/-! ## New settings -/

theorem quiet_warnMalformed (lines : List Nat) : Quiet (warnMalformed lines) := by
  induction lines with
  | nil => exact Quiet.pure ()
  | cons line rest ih => exact (Quiet.emit _ _ _ _).bind fun _ => ih

theorem quiet_readEnvFile (name : String) : Quiet (readEnvFile [] name) := by
  have hgoal : Quiet (goalOf name) := by
    refine Quiet.get.bind fun w => ?_
    cases w.surroundings.goal name with
    | ok goal => exact Quiet.pure goal
    | error fault => exact Quiet.throw _
  refine hgoal.bind fun goal => ?_
  cases goal with
  | file text =>
    show Quiet (pure .unicode >>= fun encoding : Encoding => _)
    refine (Quiet.pure _).bind fun encoding => ?_
    cases encoding.decode text with
    | ok text => exact Quiet.pure _
    | error fault => exact Quiet.throw (α := Option String) (.undecodable fault)
  | _ => exact Quiet.pure _

theorem quiet_readEnvFiles (names : List String) : Quiet (readEnvFiles [] names) := by
  induction names with
  | nil => exact Quiet.pure []
  | cons name rest ih =>
    refine (quiet_readEnvFile name).bind fun text? => ?_
    cases text? with
    | none => exact ih
    | some text => exact (quiet_warnMalformed _).bind fun _ => ih.bind fun _ => Quiet.pure _

/-- To look for settings where none are given directly changes nothing that counts. -/
theorem quiet_readSources : Quiet (readSources []) := by
  show Quiet (readingOf [] >>= fun reading => envFileNames [] >>= fun names =>
    readEnvFiles [] names >>= fun texts => argumentsOf [] reading >>= fun arguments =>
      asksForValues [] >>= fun values => get >>= fun w => pure (w.surroundings.sources reading
        arguments [] texts values))
  refine Quiet.bind (Quiet.bind (Quiet.pure _) fun _ => Quiet.get.bind fun _ => Quiet.pure _)
    fun reading => (Quiet.pure _).bind fun names => (quiet_readEnvFiles names).bind fun texts => ?_
  exact (Quiet.pure _).bind fun _ => (Quiet.pure _).bind fun _ => Quiet.get.bind fun _ =>
    Quiet.pure _

/-- New settings that are accepted are one more row of settings. -/
theorem settings_of_newSettings {w : World} {cfg : Ref .settings}
    (h : w.outcome (newSettings []) = .ok cfg) :
    ∃ (w₁ : World) (c : Configuration), w.Alike w₁ ∧ c.Accepted ∧ cfg = ⟨w.settings.size⟩ ∧
      w.after (newSettings []) = { w₁ with settings := w.settings.push c } := by
  obtain ⟨sources, hsources, hrest⟩ := World.outcome_bind_eq_ok.1 h
  obtain ⟨log, serial, hlike⟩ := quiet_readSources w
  rw [newSettings, World.after_bind_of_ok hsources]
  rw [hlike] at hrest ⊢
  cases hvalid : sources.validate with
  | error complaints =>
    rw [hvalid] at hrest
    cases hrest
  | ok accepted =>
    rw [hvalid] at hrest
    refine ⟨w.retold log (serial + Setting.all.length), .ofChoice serial sources.choice accepted,
      ⟨_, _, rfl⟩, ⟨_, _, _, _, hvalid, rfl⟩, (Except.ok.inj hrest).symm, rfl⟩

/-- New settings were accepted, and nothing is assigned to them. -/
theorem World.accepts_of_newSettings {w : World} {cfg : Ref .settings}
    (h : w.outcome (newSettings []) = .ok cfg)
    (hnew : ∀ name : Setting,
      w.assigned? (⟨w.settings.size⟩ : Ref .settings).object name.word = none) :
    (w.after (newSettings [])).Accepts cfg := by
  obtain ⟨w₁, c, ⟨log, serial, rfl⟩, haccepted, rfl, hafter⟩ := settings_of_newSettings h
  have hrow : (w.settings.push c).get w.settings.size = c :=
    (Table.get_push _ _ _).trans (if_pos rfl)
  rw [hafter]
  refine ⟨?_, hnew⟩
  show ((w.settings.push c).get w.settings.size).Accepted
  rwa [hrow]

/-! ## What is taken for the host -/

section

variable {r : Ref .registry} {i : Ref .installer} {w : World}

/-- What comes of looking for a host: there is one, and the registry is still in order. -/
structure World.Hosts (r : Ref .registry) (i : Ref .installer) (v : Value) (w w' : World) :
    Prop where
  host : ∃ host : Ref .component, v = .ofRef host
  sane : Sane r w'
  continues : w.Continues w'
  sameOutside : w.SameOutside w'
  installer : w'.row i = (w.row i : Installer)

theorem World.Hosts.of_served {w' : World} {host : Ref .component} (h : Sane r w)
    (hs : w.Served w') : w.Hosts r i (.ofRef host) w' where
  host := ⟨host, rfl⟩
  sane := h.of_served hs
  continues := .of_served hs
  sameOutside := .of_eq (by rw [hs.frame]) (by rw [hs.frame]) (by rw [hs.frame])
  installer := hs.row_installer i

/-- A new host is made without a change to anything else. -/
theorem Sane.hosts_makeHost (h : Sane r w) (call : Caller) (settings : Value) {v : Value}
    (hv : w.outcome (Understudy.makeHost call settings (.ofRef r)) = .ok v) :
    w.Hosts r i v (w.after (Understudy.makeHost call settings (.ofRef r))) := by
  obtain ⟨w₁, component, hlike, rfl, hplaced⟩ := h.makeHost call settings hv
  obtain ⟨hcontinues, hsane⟩ := (h.of_alike hlike).withHost hplaced
  have houtside : w₁.SameOutside ((w₁.withHost component).withRow r
      ((w₁.row r : Registry).register (hostEntry w₁.nextSerial w₁.nextProvider))) :=
    .of_eq rfl rfl rfl
  exact
    { host := ⟨_, rfl⟩
      sane := hsane
      continues := (World.Continues.of_alike hlike).trans hcontinues
      sameOutside := (World.SameOutside.of_alike hlike).trans (houtside.trans (.of_alike hplaced))
      installer := (hplaced.row_installer i).trans (hlike.row_installer i) }

/-- What was captured or is served is taken for the host. -/
theorem Sane.hosts_heldHost (h : Sane r w) (hi : w.row i = Installer.ofHost (.ofRef r)) {e : Entry}
    (he : (w.row r : Registry).entryOf? (.ofText appInfoContract) = some e.toValue)
    {p : Ref .provider} (hp : e.provider = .ofRef p) (call : Caller) {v : Value}
    (hv : w.outcome (heldHost call (.ofRef r) i) = .ok v) :
    w.Hosts r i v (w.after (heldHost call (.ofRef r) i)) := by
  rcases h.run_heldHost hi he hp call with ⟨_, _, c, _, hrun⟩ | ⟨_, hrun⟩
  · rw [World.outcome_of_run hrun] at hv
    rw [World.after_of_run hrun, ← Except.ok.inj hv]
    exact .of_served h (.refl w)
  · rw [World.outcome, hrun] at hv
    rw [World.after, hrun]
    obtain ⟨c, rfl, _⟩ := h.intact.serves call hv
    exact .of_served h (h.intact.served_createFrom call p (.capability .runtime))

/-- Something is taken for the host of a registry, and all else is left as it is. -/
theorem Sane.hosted (h : Sane r w) (hi : w.row i = Installer.ofHost (.ofRef r)) (call : Caller)
    (settings : Value) {v : Value} (hv : w.outcome (hostOf call settings (.ofRef r) i) = .ok v) :
    w.Hosts r i v (w.after (hostOf call settings (.ofRef r) i)) := by
  rw [World.outcome] at hv
  rw [World.after]
  cases he : (w.row r : Registry).entryOf? (.ofText appInfoContract) with
  | none =>
    rw [h.intact.run_hostOf_of_free he] at hv ⊢
    exact h.hosts_makeHost call settings hv
  | some found =>
    have hrun := h.intact.run_hostOf_of_served he call settings i
    obtain ⟨e, rfl, hproper, _⟩ := h.sound.entries _ _ he
    obtain ⟨p, hp⟩ := hproper.provider
    rw [hrun] at hv ⊢
    exact h.hosts_heldHost hi he hp call hv

end

/-! ## A context that was set up -/

/-- A context that was set up: its session has not been started, its bank has not armed anything,
and its hooks do nothing. No timer has been armed elsewhere either. -/
structure ContextParts.Begun (l : ContextParts) (r : Ref .registry) (host : Ref .component)
    (c : Ref .context) (w w' : World) : Prop where
  made : ∃ (interval : Value) (w₁ : World), interval.Span ∧ l.Made r host interval c w₁ w'
  sane : Sane r w'
  timelines : w'.timelines = w.timelines

/-- What is looked for where nothing is given. -/
theorem run_orElse_none (w : World) (other : Action Value) :
    w.run (orElse .none other) = w.run other := by
  rw [orElse, World.run_bind_of_run (World.run_get w)]
  rfl

theorem World.run_orElse_newSettings (w : World) :
    w.run (orElse .none (Value.ofRef <$> newSettings [])) =
      w.run (newSettings [] >>= fun cfg => pure (.ofRef cfg)) := by
  rw [run_orElse_none, map_eq_pure_bind]

/-- What comes of a new registry: nothing is registered there, and nothing else has changed. -/
structure World.Refounded (r : Ref .registry) (w w' : World) : Prop where
  sane : Sane r w'
  new : w'.row r = ({} : Registry)
  continues : w.Continues w'
  sameOutside : w.SameOutside w'
  surroundings : w'.surroundings = w.surroundings

/-- A new registry is made where none is given. -/
theorem World.Intact.refounded {w : World} (hw : w.Intact) :
    ∃ w' : World, w.run (orElse .none (Value.ofRef <$> store .registry {})) =
        (.ok (.ofRef (⟨w.registries.size⟩ : Ref .registry)), w') ∧
      w.Refounded ⟨w.registries.size⟩ w' := by
  have hnew : (w.registries.push {}).get w.registries.size = {} :=
    (Table.get_push _ _ _).trans (if_pos rfl)
  refine ⟨{ w with registries := w.registries.push {} }, rfl, ⟨hw.congr rfl, ?_⟩, hnew,
    .of_retains (.of_eq rfl rfl rfl) rfl rfl rfl rfl rfl rfl, .of_eq rfl rfl rfl, rfl⟩
  show ((w.registries.push {}).get w.registries.size).Sound
  rw [hnew]
  exact .empty

namespace World

variable {w : World} {settings registry : Value}

/-- There are settings in the end, and nothing else has changed. -/
theorem BootSettings.settled (h : w.BootSettings settings) {v : Value}
    (hv : w.outcome (orElse settings (Value.ofRef <$> newSettings [])) = .ok v) :
    let w' := w.after (orElse settings (Value.ofRef <$> newSettings []))
    (∃ cfg, v = .ofRef cfg ∧ (w'.setting cfg .dailyInterval).Span) ∧ w.Continues w' ∧
      w'.registries = w.registries ∧ w'.timelines = w.timelines := by
  cases h with
  | @given cfg span =>
    have hrun : w.run (orElse (.ofRef cfg) (Value.ofRef <$> newSettings [])) =
        (.ok (.ofRef cfg), w) := run_orElse rfl _
    rw [outcome_of_run hrun] at hv
    rw [after_of_run hrun]
    exact ⟨⟨cfg, (Except.ok.inj hv).symm, span⟩, .refl w, rfl, rfl⟩
  | fresh unassigned =>
    rw [outcome, run_orElse_newSettings] at hv
    obtain ⟨cfg, hcfg, hv⟩ := outcome_bind_eq_ok.1 hv
    obtain ⟨w₁, c, ⟨log, serial, rfl⟩, haccepted, rfl, hafter⟩ := settings_of_newSettings hcfg
    rw [after, run_orElse_newSettings, ← after, after_bind_pure, hafter]
    refine ⟨⟨_, (Except.ok.inj hv).symm, ?_⟩, ?_, rfl, rfl⟩
    · have hrow : (w.settings.push c).get w.settings.size = c :=
        (Table.get_push _ _ _).trans (if_pos rfl)
      show ((w.assigned? _ _).getD (((w.settings.push c).get w.settings.size).get _)).Span
      rw [unassigned, hrow]
      exact haccepted.span
    · exact .of_retains (.of_eq rfl rfl rfl) rfl rfl rfl rfl rfl rfl

/-- There is a registry in the end, as it was or with nothing in it, and nothing else has
changed. -/
theorem BootRegistry.resolved {r : Ref .registry} (h : w.BootRegistry registry r) :
    ∃ w' : World, w.run (orElse registry (Value.ofRef <$> store .registry {})) =
        (.ok (.ofRef r), w') ∧
      Sane r w' ∧ w.Continues w' ∧ w.SameOutside w' ∧ w'.row r = (w.row r : Registry) := by
  cases h with
  | given sane => exact ⟨w, run_orElse rfl _, sane, .refl w, .of_alike (.refl w), rfl⟩
  | fresh intact =>
    obtain ⟨w', hrun, hnew⟩ := intact.refounded
    have hempty : w.row (⟨w.registries.size⟩ : Ref .registry) = ({} : Registry) :=
      Table.get_of_size_le _ (Nat.le_refl _)
    exact ⟨w', hrun, hnew.sane, hnew.continues, hnew.sameOutside, hnew.new.trans hempty.symm⟩

/-- Where all is set up, the session was set up as well. -/
theorem outcome_setUp_of_arrange {call : Caller} {r : Ref .registry}
    {settings host interval : Value} {i : Ref .installer} {c : Ref .context}
    (h : w.outcome (arrange call settings (.ofRef r) host i interval) = .ok c) :
    ∃ v, (w.withSession (.blank r interval)).outcome (setUp call ⟨w.sessions.size⟩) = .ok v := by
  obtain ⟨_, hprepared, _⟩ := outcome_bind_eq_ok.1 h
  rw [prepareSession_eq, outcome, run_bind_of_run (run_newSession w _ _ _), ← outcome] at hprepared
  obtain ⟨v, hset, _⟩ := outcome_bind_eq_ok.1 hprepared
  exact ⟨v, hset⟩

/-- An environment that is set up without a fault has its parts, whatever it is set up with. -/
theorem BootRegistry.begun {r : Ref .registry} (hr : w.BootRegistry registry r)
    (hs : w.BootSettings settings) (ho : w.Orderly) (call : Caller) {c : Ref .context}
    (hc : w.outcome (bootstrap call settings registry) = .ok c) :
    ∃ (l : ContextParts) (host : Ref .component),
      l.Begun r host c w (w.after (bootstrap call settings registry)) := by
  rw [bootstrap_eq] at hc ⊢
  obtain ⟨v, hsettled, hc⟩ := outcome_bind_eq_ok.1 hc
  rw [after_bind_of_ok hsettled]
  obtain ⟨⟨cfg, rfl, hspan⟩, hcontinues₁, hregistries, htimelines⟩ := hs.settled hsettled
  revert hc hspan hcontinues₁ hregistries htimelines
  generalize w.after (orElse settings _) = w₁
  intro hspan hc hcontinues₁ hregistries htimelines
  -- The log is set up.
  obtain ⟨_, hlogged, hc⟩ := outcome_bind_eq_ok.1 hc
  rw [after_bind_of_ok hlogged]
  have hlike := quiet_prepareLog call (.ofRef cfg) w₁
  revert hc hlike
  generalize w₁.after (prepareLog call (.ofRef cfg)) = w₂
  intro hc hlike
  -- There are a registry and an installer.
  obtain ⟨w₃, hcontext, hsane₃, hcontinues₃, houtside₃, _⟩ :=
    ((hr.later hcontinues₁ hregistries).later (.of_alike hlike) (by
      obtain ⟨_, _, rfl⟩ := hlike
      rfl)).resolved
  let i : Ref .installer := ⟨w₃.installers.size⟩
  let w₄ : World := w₃.withInstaller r
  have hstored : w₃.run (store .installer (Installer.ofHost (.ofRef r))) = (.ok i, w₄) := rfl
  have hcontinues₄ := (Undisturbed.withInstaller w₃ r).continues
  have houtside₄ : w₃.SameOutside w₄ := .of_eq rfl rfl rfl
  have hsane₄ : Sane r w₄ := ⟨hcontinues₄.intact hsane₃.intact, hsane₃.sound⟩
  have hi : w₄.row i = Installer.ofHost (.ofRef r) := (Table.get_push _ _ _).trans (if_pos rfl)
  rw [outcome, run_bind_of_run hcontext, run_bind_of_run hstored, ← outcome] at hc
  rw [after_bind_of_run hcontext, after_bind_of_run hstored]
  -- Something is taken for the host.
  obtain ⟨v, hhost, hc⟩ := outcome_bind_eq_ok.1 hc
  rw [after_bind_of_ok hhost]
  have hosts := hsane₄.hosted hi call (.ofRef cfg) hhost
  revert hc hosts
  generalize w₄.after (hostOf call (.ofRef cfg) (.ofRef r) i) = w₅
  intro hc hosts
  obtain ⟨host, rfl⟩ := hosts.host
  have houtside : w₁.SameOutside w₅ := (SameOutside.of_alike hlike).trans
    (houtside₃.trans (houtside₄.trans hosts.sameOutside))
  have horderly : w₅.Orderly := ho.continues (hcontinues₁.trans ((Continues.of_alike hlike).trans
    (hcontinues₃.trans (hcontinues₄.trans hosts.continues))))
  have hi₅ : w₅.row i = Installer.ofHost (.ofRef r) := hosts.installer.trans hi
  -- And then the rest.
  have hread := w₅.run_readAttribute_setting call cfg .dailyInterval
  rw [bootWithHost_eq, outcome, run_bind_of_run hread, ← outcome] at hc
  rw [bootWithHost_eq, after_bind_of_run hread]
  obtain ⟨l, c', hok, hmade, hundisturbed⟩ := hosts.sane.arrange horderly hi₅ host
    (.ofRef cfg) call _ (outcome_setUp_of_arrange hc)
  obtain rfl : c' = c := Except.ok.inj (hok.symm.trans hc)
  refine ⟨l, host, ⟨_, w₅, ?_, hmade⟩, hundisturbed.sane hosts.sane, ?_⟩
  · rw [houtside.setting]
    exact hspan
  · exact hmade.sameOutside.timelines.trans (houtside.timelines.trans htimelines)

end World

end Understudy
