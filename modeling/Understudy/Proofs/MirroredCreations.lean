import Understudy.Creation
import Understudy.Proofs.MirroredComponents

/-!
# Making things in states that mirror each other

What is made in both states is known by the same reference in both. Moreover the identity of the
machine may be made in the one and a sample identity in the other, with a provider each.

## Main definitions

* `enrolHost`, `enrolSample`: what is given to those who ask for the identity of the machine, and
  what is given in its place.

## Main statements

* `Tally.make`: things are made alike.
* `World.Regular.enrolled`: either identity may be made.
-/

namespace Understudy

/-! ## Things -/

/-- There may be one more provider. -/
theorem World.Retains.push_provider (w : World) (x : Provider) :
    w.Retains { w with providers := w.providers.push x } :=
  { World.Retains.refl w with
    intact := fun hw => hw.congr rfl
    moreProviders := (World.Extends.pushed w default x).moreProviders
    provider := (World.Extends.pushed w default x).provider }

/-- Things that are made of what they are to be made of. -/
def Creatable.Fits : Creatable → List Value → Prop
  | .registry, [] | .timeline, [] => True
  | .installer, [reg, contractId, classId] =>
    reg.Names .registry ∧ (∃ s, contractId.text? = some s) ∧ ∃ s, classId.text? = some s
  | .overlayProvider, [identity] => identity.Names .component
  | .bank, [loop] => loop.Names .timeline
  | .session, [reg, timers, interval, clock] =>
    reg.Names .registry ∧ timers.Names .bank ∧ interval.Simple ∧ clock.Clock
  | _, _ => False

/-- A registry with nothing in it. -/
theorem Registry.Regular.empty (components : Nat) : Registry.Regular components {} :=
  ⟨.empty, .empty, fun _ _ _ h => nomatch h⟩

/-- A session that was not set up yet. -/
theorem Session.Regular.fresh {registry timers interval clock : Value}
    (hregistry : registry.Names .registry) (htimers : timers.Names .bank)
    (hinterval : interval.Simple) (hclock : clock.Clock) :
    Session.Regular
      { registry := registry, timers := timers, interval := interval, clock := clock } where
  registry := hregistry
  timers := htimers
  interval := hinterval
  clock := hclock
  sessionId := trivial
  running := ⟨false, rfl⟩
  policy := .inl rfl
  handle := trivial

namespace Tally

variable {w v : World} (h : w.Mirrors v)
include h

/-- A thing that is new to both. -/
theorem store (kind : Kind) {α : Type} [Inhabited α] [Stored kind α] [Guised kind α] {x : α}
    (hw : (Stored.withTable kind w ((Stored.table kind w).push x)).Regular)
    (hv : (Stored.withTable kind v ((Stored.table kind v).push x)).Regular)
    (hleft : w.Retains (Stored.withTable kind w ((Stored.table kind w).push x)))
    (hright : v.Retains (Stored.withTable kind v ((Stored.table kind v).push x))) :
    Tally Eq w v (Understudy.store kind x) (Understudy.store kind x) := by
  refine of_run (World.run_store w x) (World.run_store v x) (.result ?_) (h.push kind hw hv rfl)
    hleft hright
  rw [h.size kind]

omit h in
theorem made {kind : Kind} {a b : Action (Ref kind)} (hab : Tally Eq w v a b) :
    Tally Value.Alike w v (Understudy.made a) (Understudy.made b) := by
  refine hab.bind fun r r' w v h heq => ?_
  subst heq
  exact pure h (.refl _)

/-- A session is made with the same bank in both, or with one of its own. -/
theorem newSession {registry timers interval clock : Value}
    (hregistry : registry.Names .registry) (htimers : timers.Names .bank)
    (hinterval : interval.Simple) (hclock : clock.Clock) :
    Tally Eq w v (Understudy.newSession registry timers interval clock)
      (Understudy.newSession registry timers interval clock) := by
  have hstore {w v : World} (h : w.Mirrors v) {timers : Value} (htimers : timers.Names .bank) :
      Tally Eq w v
        (Understudy.store .session
          { registry := registry, timers := timers, interval := interval, clock := clock })
        (Understudy.store .session
          { registry := registry, timers := timers, interval := interval, clock := clock }) := by
    have hfresh := Session.Regular.fresh hregistry htimers hinterval hclock
    exact store h .session (h.left.push_session hfresh) (h.right.push_session hfresh)
      (.of_eq rfl rfl rfl) (.of_eq rfl rfl rfl)
  refine bind_run (World.run_get w) (World.run_get v) ?_
  rcases htimers with rfl | ⟨b, rfl⟩
  · have hfresh : Bank.Regular {} := ⟨.inl rfl, nofun⟩
    have hbank : Tally (Value.One .bank) w v (Value.ofRef <$> Understudy.store .bank {})
        (Value.ofRef <$> Understudy.store .bank {}) := by
      refine of_run rfl rfl (.result ⟨⟨(Stored.table .bank w).size⟩, rfl, ?_⟩)
        (h.push .bank (h.left.push_bank hfresh) (h.right.push_bank hfresh) rfl)
        (.of_eq rfl rfl rfl) (.of_eq rfl rfl rfl)
      rw [h.size .bank]
    refine bind hbank fun x y w v h hxy => ?_
    obtain ⟨b, rfl, rfl⟩ := hxy
    exact hstore h (Value.names_ofRef b)
  · exact hstore h (Value.names_ofRef b)

/-- Things are made alike. -/
theorem make (call : Caller) {t : Creatable} {args : List Value} (hfits : t.Fits args) :
    Tally Value.Alike w v (Understudy.make call t args) (Understudy.make call t args) := by
  unfold Creatable.Fits at hfits
  split at hfits
  · exact made (store h .registry (h.left.push_registry (.empty _))
      (h.right.push_registry (.empty _)) (.of_eq rfl rfl rfl) (.of_eq rfl rfl rfl))
  · exact made (store h .timeline (h.left.push_timeline nofun) (h.right.push_timeline nofun)
      (.of_eq rfl rfl rfl) (.of_eq rfl rfl rfl))
  · obtain ⟨hregistry, hcontract, hclass⟩ := hfits
    have hfresh {registry contractId classId : Value} (hregistry : registry.Names .registry)
        (hcontract : ∃ s, contractId.text? = some s) (hclass : ∃ s, classId.text? = some s) :
        Installer.Regular { registry := registry, contractId := contractId, classId := classId } :=
      ⟨hregistry, fun _ => hclass, fun _ => hcontract⟩
    exact made (store h .installer (h.left.push_installer (hfresh hregistry hcontract hclass))
      (h.right.push_installer (hfresh hregistry hcontract hclass)) (.of_eq rfl rfl rfl)
      (.of_eq rfl rfl rfl))
  · exact made (store h .provider (h.left.push_provider hfits) (h.right.push_provider hfits)
      (.push_provider w _) (.push_provider v _))
  · exact made (store h .bank (h.left.push_bank ⟨hfits, nofun⟩) (h.right.push_bank ⟨hfits, nofun⟩)
      (.of_eq rfl rfl rfl) (.of_eq rfl rfl rfl))
  · obtain ⟨hregistry, htimers, hinterval, hclock⟩ := hfits
    exact made (newSession h hregistry htimers hinterval hclock)
  · exact hfits.elim

end Tally

/-! ## Identities -/

/-- Makes the identity of the machine, and a provider that hands it out. -/
def enrolHost (call : Caller) (answers : Field → Value) : Action Value := do
  let identity ← make call .host (Creatable.hostFields.map answers)
  make call .hostProvider [identity]

/-- Makes a sample identity, and a provider that hands it out and counts. -/
def enrolSample (call : Caller) (answers : Field → Value) : Action Value := do
  let identity ← make call .sample (Field.all.map answers)
  make call .sampleProvider [identity]

/-- Answers that an identity of the machine may give: simple ones, and the machine's own labels. -/
structure Machine.Answers (m : Machine) (answers : Field → Value) : Prop where
  simple (f : Field) : (answers f).Simple
  os : (answers .os).Alike (.ofText m.osLabel)
  abi : (answers .abi).Alike (.ofText m.abiLabel)

/-- The identity of the machine that is made of answers. -/
def World.hostOf (w : World) (answers : Field → Value) : Component :=
  .ofMachine w.surroundings.machine
    ((Value.ofText w.surroundings.machine.abiLabel).renewed w.nextSerial)
    (answersGiven Creatable.hostFields (Creatable.hostFields.map answers))

/-- The sample identity that is made of answers. -/
def sampleIdentity (answers : Field → Value) : Component :=
  .sampleOf (answersGiven Field.all (Field.all.map answers))

/-- The state in which there is one more identity, and a provider of it. -/
def World.withIdentity (w : World) (identity : Component) (provider : Value → Provider) : World :=
  { w with
    components := w.components.push identity
    providers := w.providers.push (provider (.ofRef w.nextComponent)) }

section

variable (w : World) (call : Caller) (answers : Field → Value)

theorem run_enrolHost :
    w.run (enrolHost call answers) = (.ok (.ofRef w.nextProvider),
      (w.retold w.log (w.nextSerial + 1)).withIdentity (w.hostOf answers) .host) := rfl

theorem run_enrolSample :
    w.run (enrolSample call answers) = (.ok (.ofRef w.nextProvider),
      w.withIdentity (sampleIdentity answers) (.counted · (.ofInt 0))) := rfl

variable {w answers} (ha : w.surroundings.machine.Answers answers)
include ha

/-- The identity of the machine answers as it was told to. -/
theorem hostOf_regular (c : Ref .component) : (w.hostOf answers).Regular c := by
  refine ⟨fun f => ?_, false, rfl⟩
  cases f with
  | os => exact trivial
  | abi =>
    have hlabel : (Value.ofText w.surroundings.machine.abiLabel).Agree (.ofText _) :=
      ⟨trivial, .refl _⟩
    exact (hlabel.renewed w.nextSerial 0).simple
  | _ => exact ha.simple _

/-- So does the sample identity. -/
theorem sampleIdentity_regular (c : Ref .component) : (sampleIdentity answers).Regular c := by
  refine ⟨fun f => ?_, 0, 0, Int.le_refl 0, rfl⟩
  cases f <;> exact ha.simple _

/-- The sample identity looks like the identity of the machine. -/
theorem hostOf_guise : (w.hostOf answers).guise = (sampleIdentity answers).guise := by
  show Component.host ⟨_, .empty⟩ _ = Component.host ⟨_, .empty⟩ _
  congr 2
  funext f
  cases f with
  | os => exact ha.os.symm
  | abi => exact (Value.unstamped_renewed _ _).trans ha.abi.symm
  | _ => rfl

/-- Either identity may be made: what is made looks the same. -/
theorem World.Regular.enrolled (h : w.Regular) :
    Tally (Value.One .provider) w w (enrolHost call answers) (enrolSample call answers) := by
  have hsame : (w.retold w.log (w.nextSerial + 1)).Mirrors w :=
    Mirrors.alike ⟨h, h, rfl⟩ ⟨_, _, rfl⟩ (.refl w)
  have hidentity := hsame.push .component (hsame.left.push_component (hostOf_regular ha _))
    (hsame.right.push_component (sampleIdentity_regular ha _)) (hostOf_guise ha)
  have hprovider := hidentity.push .provider
    (hidentity.left.push_provider (x := .host (.ofRef w.nextComponent)) (Value.names_ofRef _))
    (hidentity.right.push_provider (x := .counted (.ofRef w.nextComponent) (.ofInt 0))
      ⟨Value.names_ofRef _, 0, 0, rfl⟩) rfl
  exact .of_run (run_enrolHost w call answers) (run_enrolSample w call answers)
    (.result ⟨w.nextProvider, rfl, rfl⟩) hprovider
    ((Retains.of_alike ⟨_, _, rfl⟩).trans (.pushed _ _ _)) (.pushed w _ _)

end

end Understudy
