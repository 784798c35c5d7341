import Understudy.Proofs.SessionReports

/-!
# What a stand-in hides

A session under a stand-in sees nothing of the service that the stand-in was put over, but for the
vendor. So two sessions cannot be told apart whose services have the same vendor, whatever else
these services answer, as long as both are treated alike: both report the same, and collect the
same.

Which number or text a value is makes no difference: `Value.seen` is what can be seen of it.

## Main definitions

* `ShimmedSession`: an installer and a session over a registry.
* `World.Finds`: what an installer finds to put stand-ins over.
* `ShimmedSession.Ready`: a shimmed session that stand-ins may be installed in.
* `TreatedAlike`: two shimmed sessions that are treated alike.
* `Indistinct`: two shimmed sessions that cannot be told apart.

## Main statements

* `ShimmedSession.Ready.install`, `Disguised.install`: a stand-in that is installed is shown.
* `Disguised.collect`: what a session under a stand-in collects.
* `TreatedAlike.reportAlike`: shimmed sessions that are treated alike cannot be told apart.
-/

namespace Understudy

/-! ## Seeing values -/

/-- What can be seen of a value: not which number or text it is. -/
def Value.seen : Value → Value
  | .int _ n => .int 0 n
  | .float _ x => .float 0 x
  | .text _ s => .text 0 s
  | v => v

/-- What can be seen of a record. -/
def Value.seenRecord : Value → Value
  | .record kind _ items => .record kind 0 (items.map seen)
  | v => v.seen

/-- What can be seen of what is reported. -/
def seenSections (told : List (String × List (String × Value))) :
    List (String × List (String × Value)) :=
  told.map fun (title, fields) => (title, fields.map fun (name, v) => (name, v.seen))

theorem Role.seenSections_congr (role : Role) {x y : Value} (h : x.seen = y.seen) :
    seenSections (role.sections x) = seenSections (role.sections y) := by
  simp only [seenSections, Role.sections, List.map_cons, List.map_nil, h]

theorem Value.seen_renewed (serial serial' : Nat) (v : Value) :
    (v.renewed serial).seen = (v.renewed serial').seen := by
  unfold renewed
  split
  · rfl
  · split <;> rfl

/-! ## A session that collects nothing -/

/-- A registry and its environments are left alone, and a session collects nothing. -/
structure World.Unrecorded (r : Ref .registry) (s : Ref .session) (w w' : World) : Prop
    extends w.Undisturbed r w' where
  collections : (w'.row s : Session).collections = (w.row s : Session).collections

namespace World.Unrecorded

variable {r : Ref .registry} {s : Ref .session} {w w' w'' : World}

theorem trans (h : w.Unrecorded r s w') (h' : w'.Unrecorded r s w'') : w.Unrecorded r s w'' where
  toUndisturbed := h.toUndisturbed.trans h'.toUndisturbed
  collections := h'.collections.trans h.collections

theorem of_served (h : w.Served w') : w.Unrecorded r s w' where
  toUndisturbed := .of_served h
  collections := by
    rw [h.frame]
    rfl

theorem of_alike (h : w.Alike w') : w.Unrecorded r s w' := of_served (.of_alike h)

theorem refl (w : World) : w.Unrecorded r s w := of_alike (.refl w)

theorem withRow_session {session : Session}
    (hmade : session.made = (w.row s : Session).made)
    (hrunning : session.running = (w.row s : Session).running)
    (hcollections : session.collections = (w.row s : Session).collections) :
    w.Unrecorded r s (w.withRow s session) where
  toUndisturbed := .withRow_session hmade hrunning
  collections := by rw [World.row_withRow_self, hcollections]

/-- A harmless value may be called. -/
theorem of_harmless {v : Value} (h : v.Harmless) (depth : Nat) :
    w.Unrecorded r s (w.after (invokeWithin depth v [])) := by
  obtain ⟨fired, hafter⟩ := h.after_invoke depth w
  rw [hafter]
  exact ⟨.of_retains (.of_eq rfl rfl rfl) rfl rfl rfl rfl rfl rfl rfl, rfl⟩

end World.Unrecorded

/-- What is driven can be driven later. -/
theorem Driven.later {r : Ref .registry} {s : Ref .session} {p : Ref .policy} {w w' : World}
    (h : Driven r s p w) (hc : w.Continues w') (hs : Sane r w') : Driven r s p w' := by
  have hlater := hc.sessions.row s.index h.there
  obtain ⟨hregistry, _, _, hclock, hpolicy⟩ := Session.made_eq hlater.made
  refine ⟨hs, Nat.lt_of_lt_of_le h.there hc.sessions.size, hregistry.trans h.registry, ?_,
    hpolicy.trans h.policy, Nat.lt_of_lt_of_le h.hooked hc.policies.size, hlater.decided h.decided⟩
  show (Table.get w'.sessions s.index).clock.Harmless
  rw [hclock]
  exact h.clock

/-- The first hook of a session leaves the registry and the session alone whenever it is called. -/
def World.Discreet (r : Ref .registry) (s : Ref .session) (p : Ref .policy) (w : World) : Prop :=
  ∀ (w' : World) (_ : w.Continues w') (depth serial : Nat) (delay : Value),
    w'.Unrecorded r s (w'.after (invokeWithin depth (w.row p : Policy).arm
      [delay, .function serial (.method s.object .dailyTimeout)]))

section

variable {r : Ref .registry} {s : Ref .session} {p : Ref .policy} {w₀ w : World}

/-- With a discreet hook, arming collects nothing. -/
theorem Driven.armable (h : Driven r s p w) (hd : w₀.Discreet r s p) (hc : w₀.Continues w)
    (hp : w.row p = (w₀.row p : Policy)) (depth : Nat) :
    Armable depth r s p (w.Unrecorded r s) where
  sane _ hu := hu.sane h.sane
  registry _ hu := (h.undisturbed hu.toUndisturbed).registry
  served _ _ hs hu := hu.trans (.of_served hs)
  clock depth w' hu := hu.trans (.of_harmless (h.undisturbed hu.toUndisturbed).clock depth)
  policy _ hu := (h.undisturbed hu.toUndisturbed).policy
  arm serial delay w' hu := by
    rw [hu.row_policy h.hooked, hp]
    exact hu.trans (hd w' (hc.trans hu.continues) depth serial delay)
  handle w' hu v _ := hu.trans (.withRow_session rfl rfl rfl)

/-- A bank may arm a timer. -/
theorem World.Unrecorded.armed (w : World) (b : Ref .bank) (t : Ref .timeline) (due : Float)
    (callback : Value) :
    w.Unrecorded r s (w.armed t b due callback) where
  toRetains := .of_eq rfl rfl rfl
  registry := rfl
  contexts := .refl (fun _ => rfl) _
  injectors := .refl (fun _ => rfl) _
  installers := .refl (fun _ => rfl) _
  policies := .refl (fun _ => rfl) _
  sessions := .refl (fun _ => ⟨rfl, rfl⟩) _
  banks := Table.Grows.set (R := fun x y : Bank => x.Tidy → y.Tidy) (fun _ h => h)
    fun h => h.add t _
  collections := rfl

/-- The hooks that a session is given by a bank are discreet. -/
theorem World.Discreet.of_bank (hw : w.Intact) {b : Ref .bank} {i : Nat}
    (htidy : (w.row b : Bank).Tidy) (hb : b.index < w.banks.size)
    (harm : (w.row p : Policy).arm = .function i (.method b.object .arm)) : w.Discreet r s p := by
  intro w' hc depth serial delay
  rw [harm]
  cases depth with
  | zero => exact .refl w'
  | succ depth =>
    have hb' : b.index < w'.banks.size := Nat.lt_of_lt_of_le hb hc.banks.size
    have htidy' : (w'.row b : Bank).Tidy := hc.banks.row b.index hb htidy
    obtain ⟨t, hon⟩ := htidy'.on
    rw [World.after, run_invoke_arm, ← World.after]
    cases (hc.intact hw).armTimer_cases (invokeWithin depth) hon delay
      (.function serial (.method s.object .dailyTimeout)) with
    | refused _ same =>
      rw [same]
      exact .refl w'
    | skipped _ skipped =>
      rw [skipped]
      exact ⟨.of_retains (.of_eq rfl rfl rfl) rfl rfl rfl rfl rfl rfl rfl, rfl⟩
    | armed _ armed => exact (World.Unrecorded.armed w' b t _ _).trans (.of_alike armed)

end

/-! ## What an installer finds -/

/-- A service was captured. -/
def World.Captured (w : World) (r : Ref .registry) (service : Ref .component) : Prop :=
  ∃ (serial : Nat) (e : Value), (w.row r : Registry).captureOf? (.ofText appInfoContract) =
    some (Capture.toValue ⟨serial, e, .ofRef service⟩)

/-- What an installer finds to put stand-ins over: what was captured, or else what is served. -/
inductive World.Finds (w : World) (r : Ref .registry) (service : Ref .component) : Prop
  | captured (h : w.Captured r service)
  | served (uncaptured : (w.row r : Registry).captureOf? (.ofText appInfoContract) = none)
      (serves : ∀ call, w.outcome
        (getService call r (.ofText appInfoContract) (.capability .runtime)) =
          .ok (.ofRef service))

namespace World.Finds

variable {w w' : World} {r : Ref .registry} {service : Ref .component} {call : Caller}

/-- What is found is captured, and then it is what was captured. -/
theorem captured_of_step (h : w.Finds r service) (hw : w.Intact) {capture : Capture}
    (hc : CaptureStep call r (.ofText appInfoContract) (.capability .runtime) w w' capture) :
    capture.service = .ofRef service ∧ w'.Captured r service := by
  cases hc with
  | @known capture captured same =>
    cases h with
    | captured hknown =>
      obtain ⟨serial, e, hknown⟩ := hknown
      have hcapture := captured
      rw [hknown] at hcapture
      obtain rfl := Capture.toValue_injective (Option.some.inj hcapture)
      exact ⟨rfl, serial, e, same ▸ captured⟩
    | served uncaptured _ =>
      rw [uncaptured] at captured
      cases captured
  | @first serial e c asked uncaptured entry handed served remembered =>
    cases h with
    | captured hknown =>
      obtain ⟨_, _, hknown⟩ := hknown
      rw [hknown] at uncaptured
      cases uncaptured
    | served _ serves =>
      have hserves := serves call
      rw [World.outcome, hw.run_getService call r rfl entry, ← World.outcome, handed] at hserves
      obtain rfl : c = service := Value.ofRef_injective (Except.ok.inj hserves)
      refine ⟨rfl, serial, e.toValue, ?_⟩
      rw [remembered.row_registry r, World.row_withRow_self]
      exact (Registry.captureOf?_capture _ _ _ _).trans (if_pos (by decide))

/-- What is found can be captured. -/
theorem not_captureFailure (h : w.Finds r service) (hs : Sane r w) :
    ¬CaptureFailure call r (.ofText appInfoContract) (.capability .runtime) w w' := by
  intro hno
  cases h with
  | captured hknown =>
    obtain ⟨_, _, hknown⟩ := hknown
    exact absurd (hno.uncaptured.symm.trans hknown) nofun
  | served _ serves =>
    have hserves := serves call
    cases hentry : (w.row r : Registry).entryOf? (.ofText appInfoContract) with
    | none =>
      rw [World.outcome, hs.intact.run_getService_absent call r rfl hentry] at hserves
      cases hserves
    | some found =>
      obtain ⟨e, rfl, _⟩ := hs.sound.entries _ _ hentry
      obtain ⟨fault, hfault⟩ := hno.unserved e hentry
      rw [World.outcome, hs.intact.run_getService call r rfl hentry, ← World.outcome,
        hfault] at hserves
      cases hserves

/-- What comes of an install where a service is found. -/
structure Installed (r : Ref .registry) (service : Ref .component) (role : Role)
    (w w' : World) : Prop where
  sane : Sane r w'
  continues : w.Continues w'
  unmoved : w.Unmoved w'
  captured : w'.Captured r service
  plays : w'.Plays r service (some role)

/-- A stand-in is installed over what is found. -/
theorem install (h : w.Finds r service) (hs : Sane r w) {i : Ref .installer}
    (hi : (w.row i : Installer).OfHost r) (hthere : service.index < w.components.size)
    (call : Caller) (role : Role) : Installed r service role w
      (w.after (install call i role.id role.name role.version role.platformVersion)) := by
  have hcontract := hi.contractId
  cases hs.intact.install_cases call i hi.over hs.sound role.id role.name role.version
    role.platformVersion with
  | unserved uncaptured _ => exact absurd (hcontract ▸ uncaptured) (h.not_captureFailure hs)
  | refused _ blank _ _ => exact absurd hi.telling blank
  | @installed capture w₁ captured _ _ placed _ =>
    rw [hcontract] at captured
    obtain ⟨hservice, serial, e, hcaptured⟩ := h.captured_of_step hs.intact captured
    have hi₁ : (w₁.row i : Installer).OfHost r := (captured.row_installer i).symm ▸ hi
    have hcontinues := World.Continues.of_captureStep captured
    have hdealt : w.Dealt w₁ := .of_captureStep captured
    rw [hservice] at placed
    revert placed
    generalize w.after (Understudy.install call i _ _ _ _) = w'
    intro placed
    have hplaced := World.Continues.of_alike placed
    have hregistry := placed.row_registry r
    have hlater := (World.Continues.installed w₁ r i
      (role.overlay (.ofRef service))).trans hplaced
    obtain ⟨notes, hnotes⟩ := hplaced.row_overlay
      (w₁.row_installed_nextComponent r i (role.overlay (.ofRef service)))
    refine
      { sane := ((hs.of_captureStep captured).installed hi₁.telling.1 hi₁.telling.2 _).of_alike
          placed
        continues := hcontinues.trans hlater
        unmoved := (hdealt.trans (.trans ⟨rfl⟩ (.of_alike placed))).unmoved
        captured := ⟨serial, e, ?_⟩
        plays := ⟨w₁.nextComponent, notes, ?_, ?_, hnotes⟩ }
    · rw [hregistry, w₁.row_installed_registry]
      exact hcaptured
    · exact (hi₁.shows_installed _).retains hplaced.toRetains (by rw [hregistry])
    · exact Nat.lt_of_lt_of_le hthere hcontinues.moreComponents

end World.Finds

/-! ## Shimmed sessions -/

/-- An installer and a session over a registry. -/
structure ShimmedSession where
  registry : Ref .registry
  installer : Ref .installer
  session : Ref .session
  policy : Ref .policy

/-- A shimmed session that stand-ins may be installed in: the installer finds a service that answers
every field, and the session was set up with a discreet hook. -/
structure ShimmedSession.Ready (k : ShimmedSession) (service : Ref .component)
    (answer : Field → Value) (w : World) : Prop where
  driven : Driven k.registry k.session k.policy w
  discreet : w.Discreet k.registry k.session k.policy
  ofHost : (w.row k.installer : Installer).OfHost k.registry
  finds : w.Finds k.registry service
  there : service.index < w.components.size
  /-- The service may be an overlay itself, over something that is not. -/
  layered : ∃ (layers : List (OrderedMap Field Value)) (bottom : Ref .component),
    w.Layered (.ofRef service) layers (.ofRef bottom) ∧ bottom.index < w.components.size ∧
      ∀ layer, w.row bottom ≠ Component.overlay layer
  answers (f : Field) : w.look (.ofRef service) f.word = .ok (.held (answer f))

/-- A shimmed session in a later state, with a stand-in that plays a role over the service. -/
structure Disguised (k : ShimmedSession) (service : Ref .component) (w₀ : World) (role : Role)
    (w : World) : Prop where
  sane : Sane k.registry w
  continues : w₀.Continues w
  policy : w.row k.policy = (w₀.row k.policy : Policy)
  captured : w.Captured k.registry service
  plays : w.Plays k.registry service (some role)

section

variable {k : ShimmedSession} {service : Ref .component} {answer : Field → Value} {w₀ w w' : World}
  {role : Role}

/-- The first stand-in disguises a shimmed session that is ready. -/
theorem ShimmedSession.Ready.install (h : k.Ready service answer w) (call : Caller) (role : Role) :
    Disguised k service w role
        (w.after (install call k.installer role.id role.name role.version role.platformVersion)) ∧
      (w.after (Understudy.install call k.installer role.id role.name role.version
        role.platformVersion)).sessions = w.sessions := by
  have hinstalled := h.finds.install h.driven.sane h.ofHost h.there call role
  exact ⟨⟨hinstalled.sane, hinstalled.continues,
    congrArg (Table.get · k.policy.index) hinstalled.unmoved.policies, hinstalled.captured,
    hinstalled.plays⟩, hinstalled.unmoved.sessions⟩

namespace Disguised

variable (h : Disguised k service w₀ role w)
include h

/-- A shimmed session stays disguised as long as the registry and the policy are left alone. -/
theorem left (hc : w.Continues w') (hr : w'.row k.registry = (w.row k.registry : Registry))
    (hp : w'.row k.policy = (w.row k.policy : Policy)) : Disguised k service w₀ role w' where
  sane := ⟨hc.intact h.sane.intact, hr ▸ h.sane.sound⟩
  continues := h.continues.trans hc
  policy := hp.trans h.policy
  captured := by
    obtain ⟨serial, e, hcaptured⟩ := h.captured
    exact ⟨serial, e, hr ▸ hcaptured⟩
  plays := h.plays.retains hc.toRetains hr

theorem undisturbed (hr : k.Ready service answer w₀) (hu : w.Undisturbed k.registry w') :
    Disguised k service w₀ role w' :=
  h.left hu.continues hu.registry
    (hu.row_policy (Nat.lt_of_lt_of_le hr.driven.hooked h.continues.policies.size))

/-- Another stand-in takes the place of the one there is. -/
theorem install (hr : k.Ready service answer w₀) (call : Caller) (role' : Role) :
    Disguised k service w₀ role' (w.after
        (install call k.installer role'.id role'.name role'.version role'.platformVersion)) ∧
      (w.after (Understudy.install call k.installer role'.id role'.name role'.version
        role'.platformVersion)).sessions = w.sessions := by
  have hi : (w.row k.installer : Installer).OfHost k.registry :=
    (h.continues.installers.row k.installer.index hr.ofHost.over.lt_size).trans hr.ofHost
  have hinstalled := (World.Finds.captured h.captured).install h.sane hi
    (Nat.lt_of_lt_of_le hr.there h.continues.moreComponents) call role'
  exact ⟨⟨hinstalled.sane, h.continues.trans hinstalled.continues,
    (congrArg (Table.get · k.policy.index) hinstalled.unmoved.policies).trans h.policy,
    hinstalled.captured, hinstalled.plays⟩, hinstalled.unmoved.sessions⟩

theorem driven (hr : k.Ready service answer w₀) :
    Driven k.registry k.session k.policy w := hr.driven.later h.continues h.sane

/-- The service answers as it did. -/
theorem answers (hr : k.Ready service answer w₀) (f : Field) :
    w.look (.ofRef service) f.word = .ok (.held (answer f)) := by
  obtain ⟨layers, bottom, hlayered, hlt, hbottom⟩ := hr.layered
  exact h.continues.toRetains.look_field hlayered rfl hlt hbottom (hr.answers f)

/-- The session reports the stand-in, and the vendor of the service. -/
theorem run_environment (hr : k.Ready service answer w₀) (call : Caller) :
    ∃ (v : Value) (dicts : Table Dict),
      w.run (environment call k.session) = (.ok v, { w with dicts := dicts }) ∧
        World.sectionsOf? { w with dicts := dicts } v = some (role.sections (answer .vendor)) := by
  obtain ⟨o, notes, hshows, hearlier, ho⟩ := h.plays
  rw [← role.told_answer answer]
  exact hshows.run_environment h.sane.intact (h.driven hr).registry
    (World.declares_of_overlay ho) call
    (Role.look ho hearlier (h.answers hr))

/-- Arming collects nothing. -/
theorem armable (hr : k.Ready service answer w₀) (depth : Nat) :
    Armable depth k.registry k.session k.policy (w.Unrecorded k.registry k.session) :=
  (h.driven hr).armable hr.discreet h.continues h.policy depth

/-- What a run notes: the delay, and what the stand-in was asked to be. -/
theorem gather (hr : k.Ready service answer w₀) (depth : Nat) : ∃ serial : Nat,
    w.outcome (gather (invokeWithin depth) k.session) =
      (w.outcome (askDelay (invokeWithin depth) k.session)).map fun delay =>
        ⟨serial, (w.row k.session : Session).collections.length + 1, delay, role.id, role.version,
          .ofText standInOs⟩ := by
  obtain ⟨o, notes, hshows, _, ho⟩ := h.plays
  have hw := h.sane.intact
  have hidentity := hshows.run_askIdentity hw (h.driven hr).registry
    (World.declares_of_overlay ho) (invokeWithin depth)
  have hlength : w.run (lengthOf (.list (.collections k.session))) =
      (.ok (w.row k.session : Session).collections.length, w) := rfl
  rw [Understudy.gather, World.outcome, World.run_bind_of_run hidentity,
    World.run_bind_of_run (hw.run_readAttribute_collections _ k.session),
    World.run_bind_of_run hlength, World.run_bind,
    World.run_eq w (askDelay (invokeWithin depth) k.session)]
  have hasked := (h.armable hr depth).keeps_askDelay depth w (.refl w)
  revert hasked
  generalize w.after (askDelay (invokeWithin depth) k.session) = asked
  intro hasked
  cases w.outcome (askDelay (invokeWithin depth) k.session) with
  | error fault => exact ⟨0, rfl⟩
  | ok delay =>
    obtain ⟨notes', ho'⟩ := hasked.toRetains.row_overlay ho
    have hanswer {f : Field} {v : Value} (hf : (role.overlay .none).overrides.get? f = some v) :
        asked.run (answerOf (invokeWithin depth) (.ofRef o) f) = (.ok v, asked) :=
      run_readAttribute_held _ (World.look_override ho' hf)
    refine ⟨asked.nextSerial, ?_⟩
    show (asked.run (answerOf _ (.ofRef o) .id >>= _)).1 = _
    rw [World.run_bind_of_run (hanswer (f := .id) rfl),
      World.run_bind_of_run (hanswer (f := .version) rfl),
      World.run_bind_of_run (hanswer (f := .os) rfl)]
    rfl

/-- A run keeps what it noted, and disturbs nobody. -/
theorem collect (hr : k.Ready service answer w₀) (depth : Nat) :
    w.Undisturbed k.registry (w.after (collectDaily (invokeWithin depth) k.session)) ∧
      ((w.after (collectDaily (invokeWithin depth) k.session)).row k.session :
        Session).collections = (w.row k.session : Session).collections ++
          (Collection.kept? (w.outcome
            (Understudy.gather (invokeWithin depth) k.session))).toList := by
  rcases (h.armable hr depth).after_collectDaily depth (.refl w) with
    ⟨fault, hnoted, hfailed⟩ | ⟨collection, gathered, hnoted, hgathered, hlike⟩
  · rw [hnoted]
    exact ⟨hfailed.toUndisturbed, hfailed.collections.trans (List.append_nil _).symm⟩
  · have hcollected : gathered.Undisturbed k.registry
        (gathered.collected k.session collection.toValue) := .withRow_session rfl rfl
    refine ⟨hgathered.toUndisturbed.trans (hcollected.trans (.of_alike hlike)), ?_⟩
    have hrow : ((gathered.collected k.session collection.toValue).row k.session :
        Session).collections =
          (gathered.row k.session : Session).collections ++ [collection.toValue] := by
      rw [World.collected, World.row_withRow_self]
    obtain ⟨log, serial, hafter⟩ := hlike
    rw [hnoted, hafter, ← hgathered.collections]
    exact hrow

/-- A firing keeps what its run noted, whether or not the next timer can be armed. -/
theorem fire (hr : k.Ready service answer w₀) (depth : Nat) :
    w.Undisturbed k.registry (w.after (onDailyTimeout (invokeWithin depth) k.session)) ∧
      ((w.after (onDailyTimeout (invokeWithin depth) k.session)).row k.session :
        Session).collections = (w.row k.session : Session).collections ++
          (Collection.kept? ((w.dropped k.session).outcome
            (Understudy.gather (invokeWithin depth) k.session))).toList := by
  have hdropped : w.Undisturbed k.registry (w.dropped k.session) :=
    .withRow_session rfl rfl
  have hdisguised := h.undisturbed hr hdropped
  obtain ⟨hcollected, hcollections⟩ := hdisguised.collect hr depth
  have hrow : ((w.dropped k.session).row k.session : Session).collections =
      (w.row k.session : Session).collections := by rw [World.dropped, World.row_withRow_self]
  rw [hrow] at hcollections
  have hconcluded := ((hdisguised.undisturbed hr hcollected).armable hr depth).keeps_concludeRun
    ((w.dropped k.session).outcome (collectDaily (invokeWithin depth) k.session)) _ (.refl _)
  rw [World.after, h.sane.intact.run_onDailyTimeout (invokeWithin depth) k.session]
  exact ⟨hdropped.trans (hcollected.trans hconcluded.toUndisturbed),
    hconcluded.collections.trans hcollections⟩

/-- Starting collects nothing, and leaves the shimmed session disguised. -/
theorem start (hr : k.Ready service answer w₀) (depth : Nat) :
    Disguised k service w₀ role (w.after (start (invokeWithin depth) k.session)) ∧
      ((w.after (Understudy.start (invokeWithin depth) k.session)).row k.session :
        Session).collections = (w.row k.session : Session).collections := by
  rw [World.after, h.sane.intact.run_start _ (h.driven hr).policy]
  split
  · have hwarned : w.Unrecorded k.registry k.session _ :=
      .of_alike (Quiet.emit 30 sessionLogger "Daily session already running" none w)
    exact ⟨h.undisturbed hr hwarned.toUndisturbed, hwarned.collections⟩
  · have hnear : w.Near k.session (w.withRunning k.session true) := .inr ⟨true, rfl⟩
    have hdisguised : Disguised k service w₀ role (w.withRunning k.session true) :=
      h.left hnear.continues (hnear.row_registry k.registry) rfl
    have hrow : ((w.withRunning k.session true).row k.session : Session).collections =
        (w.row k.session : Session).collections := by rw [World.row_withRunning]
    have harmed := (hdisguised.armable hr depth).keeps_askToArm _ (.refl _)
    exact ⟨hdisguised.undisturbed hr harmed.toUndisturbed, harmed.collections.trans hrow⟩

/-- Reporting leaves everything where it is. -/
theorem unrecorded_environment (hr : k.Ready service answer w₀) (call : Caller) :
    w.Unrecorded k.registry k.session (w.after (environment call k.session)) := by
  obtain ⟨v, dicts, hrun, _⟩ := h.run_environment hr call
  rw [World.after_of_run hrun]
  exact ⟨.of_retains (.of_eq rfl rfl rfl) rfl rfl rfl rfl rfl rfl rfl, rfl⟩

end Disguised

end

/-! ## Two shimmed sessions -/

/-- What can be seen of what a run notes of a stand-in, once the delay is known. -/
def Role.record (role : Role) (sequence : Nat) (delay : Value) : Value :=
  .record .collection 0
    [.int 0 sequence, delay, role.id.seen, role.version.seen, .text 0 "XPCShell"]

/-- The delays of two sessions: they have the same interval, or the same clock. -/
structure ShimmedSession.SameDelay (a b : ShimmedSession) (v w : World) : Prop where
  interval : (v.row a.session : Session).interval.seen = (w.row b.session : Session).interval.seen
  clock (h : (v.row a.session : Session).interval = .none) : ∃ (i j : Nat) (f : Function),
    (v.row a.session : Session).clock = .function i f ∧
      (w.row b.session : Session).clock = .function j f

theorem Value.seen_eq_none {v : Value} : v.seen = .none ↔ v = .none := by
  cases v <;> simp [seen]

/-- What is left of a day is the same at the same time. -/
theorem seen_outcome_untilMidnight (v w : World) (now : Moment) :
    (v.outcome (untilMidnight now)).toOption.map Value.seen =
      (w.outcome (untilMidnight now)).toOption.map Value.seen := by
  unfold untilMidnight
  cases now.secondsUntilMidnight? with
  | none => rfl
  | some delay => exact congrArg some (Value.seen_renewed _ _ _)

/-- Two sessions with the same interval are told the same delay, and so are two with the same
clock, as long as it shows the same time. -/
theorem ShimmedSession.SameDelay.outcome_askDelay {a b : ShimmedSession} {v w : World}
    (h : a.SameDelay b v w)
    (hv : v.Intact) (hw : w.Intact) (hclock : (v.row a.session : Session).clock.Harmless)
    (time : (v.row a.session : Session).interval = .none → v.clock = w.clock) (depth : Nat) :
    (v.outcome (askDelay (invokeWithin depth) a.session)).toOption.map Value.seen =
      (w.outcome (askDelay (invokeWithin depth) b.session)).toOption.map Value.seen := by
  have hasked {w : World} (hw : w.Intact) (s : Ref .session) :
      w.outcome (askDelay (invokeWithin depth) s) =
        w.outcome (nextDailyDelay (invokeWithin depth) s) :=
    congrArg Prod.fst (hw.run_request (invokeWithin depth) s [] _ rfl)
  rw [hasked hv, hasked hw, nextDailyDelay, nextDailyDelay, World.outcome, World.outcome,
    World.run_bind_of_run (World.run_fetch v a.session),
    World.run_bind_of_run (World.run_fetch w b.session)]
  by_cases hx : (v.row a.session : Session).interval = .none
  · have hy : (w.row b.session : Session).interval = .none := by
      rw [← Value.seen_eq_none, ← h.interval, hx]
      rfl
    obtain ⟨i, j, f, hf, hf'⟩ := h.clock hx
    have htime := time hx
    have hnone : (!Value.none.isNone) ≠ true := by decide
    rw [hx, hy, if_neg hnone, if_neg hnone, hf, hf']
    rw [hf] at hclock
    cases depth with
    | zero => rfl
    | succ depth =>
      cases f with
      | clock | wallClock =>
        have hmoment (w : World) (k : Nat) (f : Function) (hf : f = .clock ∨ f = .wallClock) :
            w.run (invokeWithin (depth + 1) (.function k f) []) =
              (.ok (.moment w.clockSerial w.clock), w) := by
          rcases hf with rfl | rfl <;> rfl
        rw [World.run_bind_of_run (hmoment v i _ (by simp)),
          World.run_bind_of_run (hmoment w j _ (by simp)), htime]
        exact seen_outcome_untilMidnight v w w.clock
      | callback name => rfl
      | _ => cases hclock
  · have hy : (w.row b.session : Session).interval ≠ .none := fun hy => hx <| by
      rw [← Value.seen_eq_none, h.interval, hy]
      rfl
    rw [Value.isNone_eq_false hx, Value.isNone_eq_false hy]
    exact congrArg some h.interval

/-- What can be seen of what a run notes. -/
theorem Disguised.seen_gather {k : ShimmedSession} {service : Ref .component}
    {answer : Field → Value} {w₀ w : World} {role : Role} (h : Disguised k service w₀ role w)
    (hr : k.Ready service answer w₀) (depth : Nat) :
    (Collection.kept? (w.outcome
        (Understudy.gather (invokeWithin depth) k.session))).map Value.seenRecord =
      ((w.outcome (askDelay (invokeWithin depth) k.session)).toOption.map Value.seen).map
        (role.record ((w.row k.session : Session).collections.length + 1)) := by
  obtain ⟨serial, hgather⟩ := h.gather hr depth
  rw [hgather]
  cases w.outcome (askDelay (invokeWithin depth) k.session) <;> rfl

/-- Two shimmed sessions that are treated alike from the first install on: everything that is done
in the one is done in the other as well. Anything else may go on elsewhere in between. If the
sessions have no interval, their clocks show the same time whenever there is a run. -/
inductive TreatedAlike (a b : ShimmedSession) (v₀ w₀ : World) : World → World → Prop
  | begin (depth : Nat) (role : Role) : TreatedAlike a b v₀ w₀
      (v₀.after (install (invokeWithin depth) a.installer role.id role.name role.version
        role.platformVersion))
      (w₀.after (install (invokeWithin depth) b.installer role.id role.name role.version
        role.platformVersion))
  | install {v w} (h : TreatedAlike a b v₀ w₀ v w) (depth : Nat) (role : Role) :
      TreatedAlike a b v₀ w₀
      (v.after (install (invokeWithin depth) a.installer role.id role.name role.version
        role.platformVersion))
      (w.after (install (invokeWithin depth) b.installer role.id role.name role.version
        role.platformVersion))
  | start {v w} (h : TreatedAlike a b v₀ w₀ v w) (depth : Nat) : TreatedAlike a b v₀ w₀
      (v.after (start (invokeWithin depth) a.session))
      (w.after (start (invokeWithin depth) b.session))
  | fire {v w} (h : TreatedAlike a b v₀ w₀ v w) (depth : Nat)
      (time : (v.row a.session : Session).interval = .none → v.clock = w.clock) :
      TreatedAlike a b v₀ w₀ (v.after (onDailyTimeout (invokeWithin depth) a.session))
        (w.after (onDailyTimeout (invokeWithin depth) b.session))
  | collect {v w} (h : TreatedAlike a b v₀ w₀ v w) (depth : Nat)
      (time : (v.row a.session : Session).interval = .none → v.clock = w.clock) :
      TreatedAlike a b v₀ w₀ (v.after (collectDaily (invokeWithin depth) a.session))
        (w.after (collectDaily (invokeWithin depth) b.session))
  | environment {v w} (h : TreatedAlike a b v₀ w₀ v w) (depth : Nat) : TreatedAlike a b v₀ w₀
      (v.after (environment (invokeWithin depth) a.session))
      (w.after (environment (invokeWithin depth) b.session))
  | elsewhere {v v' w w'} (h : TreatedAlike a b v₀ w₀ v w)
      (left : v.Unrecorded a.registry a.session v') (right : w.Unrecorded b.registry b.session w') :
      TreatedAlike a b v₀ w₀ v' w'

/-- Two shimmed sessions that cannot be told apart: they report the same, and have collected the
same since they were alike at first. -/
structure Indistinct (a b : ShimmedSession) (v₀ w₀ v w : World) : Prop where
  told : ∃ told told', v.Reports a.session told ∧ w.Reports b.session told' ∧
    seenSections told = seenSections told'
  collections : ∃ xs ys,
    (v.row a.session : Session).collections = (v₀.row a.session : Session).collections ++ xs ∧
    (w.row b.session : Session).collections = (w₀.row b.session : Session).collections ++ ys ∧
    xs.map Value.seenRecord = ys.map Value.seenRecord

/-- Two shimmed sessions under the same role, which have collected the same. -/
structure DisguisedAlike (a b : ShimmedSession) (x y : Ref .component)
    (v₀ w₀ v w : World) : Prop where
  disguised : ∃ role, Disguised a x v₀ role v ∧ Disguised b y w₀ role w
  collections : ∃ xs ys,
    (v.row a.session : Session).collections = (v₀.row a.session : Session).collections ++ xs ∧
    (w.row b.session : Session).collections = (w₀.row b.session : Session).collections ++ ys ∧
    xs.map Value.seenRecord = ys.map Value.seenRecord

/-- What two shimmed sessions have to have in common: the vendor, the delay, and how often they have
collected. -/
structure ShimmedSession.Alike (a b : ShimmedSession) (answer answer' : Field → Value)
    (v w : World) : Prop where
  vendor : (answer .vendor).seen = (answer' .vendor).seen
  delay : a.SameDelay b v w
  counts : (v.row a.session : Session).collections.length =
    (w.row b.session : Session).collections.length

section

variable {a b : ShimmedSession} {x y : Ref .component} {answer answer' : Field → Value}
  {v₀ w₀ v v' w w' : World}

namespace DisguisedAlike

variable (h : DisguisedAlike a b x y v₀ w₀ v w)
include h

/-- Where nothing is collected, what is collected stays the same. -/
theorem unrecorded {role : Role} (hv : Disguised a x v₀ role v') (hw : Disguised b y w₀ role w')
    (left : (v'.row a.session : Session).collections = (v.row a.session : Session).collections)
    (right : (w'.row b.session : Session).collections = (w.row b.session : Session).collections) :
    DisguisedAlike a b x y v₀ w₀ v' w' where
  disguised := ⟨role, hv, hw⟩
  collections := by
    rw [left, right]
    exact h.collections

/-- Where both collect, they collect the same. -/
theorem noted (hr : a.Ready x answer v₀) (hr' : b.Ready y answer' w₀)
    (halike : a.Alike b answer answer' v₀ w₀) (depth : Nat) {role : Role} {u u' : World}
    (hv : Disguised a x v₀ role u) (hw : Disguised b y w₀ role u')
    (hu : (u.row a.session : Session).collections = (v.row a.session : Session).collections)
    (hu' : (u'.row b.session : Session).collections = (w.row b.session : Session).collections)
    (time : (u.row a.session : Session).interval = .none → u.clock = u'.clock)
    (hv' : Disguised a x v₀ role v') (hw' : Disguised b y w₀ role w')
    (left : (v'.row a.session : Session).collections = (v.row a.session : Session).collections ++
      (Collection.kept? (u.outcome (gather (invokeWithin depth) a.session))).toList)
    (right : (w'.row b.session : Session).collections = (w.row b.session : Session).collections ++
      (Collection.kept? (u'.outcome (gather (invokeWithin depth) b.session))).toList) :
    DisguisedAlike a b x y v₀ w₀ v' w' where
  disguised := ⟨role, hv', hw'⟩
  collections := by
    obtain ⟨xs, ys, hxs, hys, hsame⟩ := h.collections
    have hlength : (u.row a.session : Session).collections.length =
        (u'.row b.session : Session).collections.length := by
      have hcount := congrArg List.length hsame
      rw [List.length_map, List.length_map] at hcount
      rw [hu, hu', hxs, hys, List.length_append, List.length_append, halike.counts, hcount]
    have hdelay : a.SameDelay b u u' := by
      obtain ⟨_, _, hinterval, hclock, _⟩ :=
        Session.made_eq (hv.continues.sessions.row _ hr.driven.there).made
      obtain ⟨_, _, hinterval', hclock', _⟩ :=
        Session.made_eq (hw.continues.sessions.row _ hr'.driven.there).made
      refine ⟨?_, fun hnone => ?_⟩
      · exact (congrArg Value.seen hinterval).trans
          (halike.delay.interval.trans (congrArg Value.seen hinterval').symm)
      · obtain ⟨i, j, f, hf, hf'⟩ := halike.delay.clock (hinterval.symm.trans hnone)
        exact ⟨i, j, f, hclock.trans hf, hclock'.trans hf'⟩
    have hasked := hdelay.outcome_askDelay hv.sane.intact hw.sane.intact (hv.driven hr).clock time
      depth
    have hnoted : (Collection.kept? (u.outcome
          (gather (invokeWithin depth) a.session))).map Value.seenRecord =
        (Collection.kept? (u'.outcome
          (gather (invokeWithin depth) b.session))).map Value.seenRecord := by
      rw [hv.seen_gather hr, hw.seen_gather hr', hasked, hlength]
    refine ⟨_, _, left.trans (by rw [hxs, List.append_assoc]),
      right.trans (by rw [hys, List.append_assoc]), ?_⟩
    rw [List.map_append, List.map_append, hsame, ← Option.toList_map, ← Option.toList_map, hnoted]

/-- Shimmed sessions under the same role cannot be told apart. -/
theorem indistinct (hr : a.Ready x answer v₀) (hr' : b.Ready y answer' w₀)
    (halike : a.Alike b answer answer' v₀ w₀) : Indistinct a b v₀ w₀ v w where
  told := by
    obtain ⟨role, hv, hw⟩ := h.disguised
    refine ⟨role.sections (answer .vendor), role.sections (answer' .vendor), fun call => ?_,
      fun call => ?_, role.seenSections_congr halike.vendor⟩
    · obtain ⟨told, dicts, hrun, htold⟩ := hv.run_environment hr call
      exact ⟨told, World.outcome_of_run hrun, (World.after_of_run hrun).symm ▸ htold⟩
    · obtain ⟨told, dicts, hrun, htold⟩ := hw.run_environment hr' call
      exact ⟨told, World.outcome_of_run hrun, (World.after_of_run hrun).symm ▸ htold⟩
  collections := h.collections

end DisguisedAlike

/-- Shimmed sessions that are treated alike are under the same role, and have collected the same. -/
theorem TreatedAlike.disguisedAlike (h : TreatedAlike a b v₀ w₀ v w) (hr : a.Ready x answer v₀)
    (hr' : b.Ready y answer' w₀) (halike : a.Alike b answer answer' v₀ w₀) :
    DisguisedAlike a b x y v₀ w₀ v w := by
  induction h with
  | begin depth role =>
    obtain ⟨hv, hsessions⟩ := hr.install (invokeWithin depth) role
    obtain ⟨hw, hsessions'⟩ := hr'.install (invokeWithin depth) role
    refine ⟨⟨role, hv, hw⟩, [], [], ?_, ?_, rfl⟩
    · rw [List.append_nil]
      exact congrArg (fun t => (Table.get t a.session.index).collections) hsessions
    · rw [List.append_nil]
      exact congrArg (fun t => (Table.get t b.session.index).collections) hsessions'
  | install _ depth role ih =>
    obtain ⟨_, hv, hw⟩ := ih.disguised
    obtain ⟨hv', hsessions⟩ := hv.install hr (invokeWithin depth) role
    obtain ⟨hw', hsessions'⟩ := hw.install hr' (invokeWithin depth) role
    exact ih.unrecorded hv' hw'
      (congrArg (fun t => (Table.get t a.session.index).collections) hsessions)
      (congrArg (fun t => (Table.get t b.session.index).collections) hsessions')
  | start _ depth ih =>
    obtain ⟨_, hv, hw⟩ := ih.disguised
    obtain ⟨hv', hsame⟩ := hv.start hr depth
    obtain ⟨hw', hsame'⟩ := hw.start hr' depth
    exact ih.unrecorded hv' hw' hsame hsame'
  | @fire v w _ depth time ih =>
    obtain ⟨_, hv, hw⟩ := ih.disguised
    obtain ⟨hundisturbed, hcollected⟩ := hv.fire hr depth
    obtain ⟨hundisturbed', hcollected'⟩ := hw.fire hr' depth
    have hdropped : v.Undisturbed a.registry (v.dropped a.session) :=
      .withRow_session rfl rfl
    have hdropped' : w.Undisturbed b.registry (w.dropped b.session) :=
      .withRow_session rfl rfl
    have hrow : (v.dropped a.session).row a.session =
        { (v.row a.session : Session) with handle := .none } := World.row_withRow_self v _ _
    have hrow' : (w.dropped b.session).row b.session =
        { (w.row b.session : Session) with handle := .none } := World.row_withRow_self w _ _
    refine ih.noted hr hr' halike depth (hv.undisturbed hr hdropped)
      (hw.undisturbed hr' hdropped') (by rw [hrow]) (by rw [hrow']) ?_
      (hv.undisturbed hr hundisturbed)
      (hw.undisturbed hr' hundisturbed') hcollected hcollected'
    rw [hrow]
    exact time
  | collect _ depth time ih =>
    obtain ⟨_, hv, hw⟩ := ih.disguised
    obtain ⟨hundisturbed, hcollected⟩ := hv.collect hr depth
    obtain ⟨hundisturbed', hcollected'⟩ := hw.collect hr' depth
    exact ih.noted hr hr' halike depth hv hw rfl rfl time (hv.undisturbed hr hundisturbed)
      (hw.undisturbed hr' hundisturbed') hcollected hcollected'
  | environment _ depth ih =>
    obtain ⟨_, hv, hw⟩ := ih.disguised
    have hv' := hv.unrecorded_environment hr (invokeWithin depth)
    have hw' := hw.unrecorded_environment hr' (invokeWithin depth)
    exact ih.unrecorded (hv.undisturbed hr hv'.toUndisturbed)
      (hw.undisturbed hr' hw'.toUndisturbed) hv'.collections hw'.collections
  | elsewhere _ left right ih =>
    obtain ⟨_, hv, hw⟩ := ih.disguised
    exact ih.unrecorded (hv.undisturbed hr left.toUndisturbed)
      (hw.undisturbed hr' right.toUndisturbed) left.collections right.collections

/-- Two shimmed sessions whose services have the same vendor, and that are treated alike from the
first install on, cannot be told apart. -/
theorem TreatedAlike.reportAlike (h : TreatedAlike a b v₀ w₀ v w) (hr : a.Ready x answer v₀)
    (hr' : b.Ready y answer' w₀) (halike : a.Alike b answer answer' v₀ w₀) :
    Indistinct a b v₀ w₀ v w :=
  (h.disguisedAlike hr hr' halike).indistinct hr hr' halike

end

/-! ### Two shimmed sessions in use -/

/-- The parts of the session on the bench. -/
def shimBenchParts : ShimmedSession := ⟨⟨0⟩, ⟨0⟩, ⟨0⟩, ⟨0⟩⟩

/-- A shimmed session over an identity with some facts. -/
def shimBench (facts : Facts) : World where
  registries := ⟨[({} : Registry).register (hostEntry 0 ⟨0⟩)]⟩
  components := ⟨[.sample facts (.ofInt 0)]⟩
  providers := ⟨[.host (.ofRef (⟨0⟩ : Ref .component))]⟩
  installers := ⟨[.ofHost (.ofRef (⟨0⟩ : Ref .registry))]⟩
  banks := ⟨[{}]⟩
  policies :=
    ⟨[⟨0, .function 0 (.method (⟨0⟩ : Ref .bank).object .arm),
        .function 0 (.method (⟨0⟩ : Ref .bank).object .cancel)⟩]⟩
  sessions :=
    ⟨[{ registry := .ofRef (⟨0⟩ : Ref .registry)
        timers := .ofRef (⟨0⟩ : Ref .bank)
        interval := .ofInt 60
        policy := .ofRef (⟨0⟩ : Ref .policy) }]⟩

theorem shimBench_ready (facts : Facts) :
    shimBenchParts.Ready ⟨0⟩ facts.answer (shimBench facts) := by
  have hw : (shimBench facts).Intact := fun _ _ _ => rfl
  have hbank : ((shimBench facts).row (⟨0⟩ : Ref .bank) : Bank).Tidy := Bank.tidy_empty
  refine
    { driven := ⟨⟨hw, .register .empty (proper_hostEntry 0 ⟨0⟩)⟩, Nat.zero_lt_one, rfl, trivial,
        rfl, Nat.zero_lt_one, false, rfl⟩
      discreet := .of_bank hw hbank Nat.zero_lt_one rfl
      ofHost := rfl
      finds := .served rfl fun call => ?_
      there := Nat.zero_lt_one
      layered := ⟨[], ⟨0⟩, .bottom _, Nat.zero_lt_one, nofun⟩
      answers := fun f => World.look_facts f (.inr ⟨_, rfl⟩) rfl }
  have hentry : ((shimBench facts).row (⟨0⟩ : Ref .registry) : Registry).entryOf?
      (.ofText appInfoContract) = some (hostEntry 0 ⟨0⟩).toValue :=
    (Registry.entryOf?_register _ _ _).trans (if_pos (by decide))
  have hdeclares : ((shimBench facts).row (⟨0⟩ : Ref .component) : Component).capabilities.any
      (· == .capability .runtime) = true := by
    show (Component.identityCapabilities.map Value.capability).any _ = true
    decide
  have hcreate : (shimBench facts).run
      (createFrom call (.ofRef (⟨0⟩ : Ref .provider)) (.capability .runtime)) =
        (.ok (.ofRef (⟨0⟩ : Ref .component)), shimBench facts) :=
    hw.run_createFrom_uncounted call rfl rfl rfl hdeclares
  rw [World.outcome, hw.run_getService call shimBenchParts.registry rfl hentry]
  exact World.outcome_of_run hcreate

/-- The facts of the sample identity. -/
def benchFacts : Facts := ⟨Component.sampleAnswer, .empty⟩

/-- Other facts, with a vendor of the same name. -/
def otherFacts : Facts where
  answer f := if f = .vendor then .text 7 "Real Vendor" else .ofText "elsewhere"
  attributes := .ofList [("process_type", .ofText "other")]

/-- The role of the stand-ins on the bench. -/
def benchRole : Role := ⟨.ofText "xpcshell@tests", .ofText "XPCShell", .ofText "1", .ofText "1.9.2"⟩

/-- The session on the bench under a stand-in. -/
def shimDisguised (facts : Facts) : World :=
  (shimBench facts).after (install invoke ⟨0⟩ benchRole.id benchRole.name benchRole.version
    benchRole.platformVersion)

/-- Two sessions on the bench are treated alike: a stand-in is installed, and a timer fires. -/
theorem shimDisguised_treatedAlike (facts facts' : Facts) :
    TreatedAlike shimBenchParts shimBenchParts (shimBench facts) (shimBench facts')
      ((shimDisguised facts).after (onDailyTimeout invoke ⟨0⟩))
      ((shimDisguised facts').after (onDailyTimeout invoke ⟨0⟩)) := by
  refine .fire (.begin depthLimit benchRole) depthLimit fun hnone => ?_
  have hsame := ((shimBench_ready facts).install invoke benchRole).2
  have hinterval : ((shimBench facts).row (⟨0⟩ : Ref .session) : Session).interval = .none :=
    (congrArg (fun t => (Table.get t 0).interval) hsame).symm.trans hnone
  cases hinterval

theorem shimDisguised_reportAlike :
    benchFacts.answer .name ≠ otherFacts.answer .name ∧
      Indistinct shimBenchParts shimBenchParts (shimBench benchFacts) (shimBench otherFacts)
        ((shimDisguised benchFacts).after (onDailyTimeout invoke ⟨0⟩))
        ((shimDisguised otherFacts).after (onDailyTimeout invoke ⟨0⟩)) :=
  ⟨fun h => absurd (congrArg Value.text? h) (by decide),
    (shimDisguised_treatedAlike benchFacts otherFacts).reportAlike (shimBench_ready benchFacts)
    (shimBench_ready otherFacts) ⟨rfl, ⟨rfl, nofun⟩, rfl⟩⟩

end Understudy
