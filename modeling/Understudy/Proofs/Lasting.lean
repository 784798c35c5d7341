import Understudy.Assignment
import Understudy.Proofs.Running

/-!
# What lasts whatever is asked

Once an environment has been set up, whatever is asked of it logs records, changes things of all
kinds, adds new ones, and replaces the rows of sessions and components by others. It does nothing
else to the log, it gives no session another policy than the one that it has, and it makes no
component one of another type: an overlay overrides what it did, over what it did. So what depends
on no more of a state than that holds on, whatever is asked, and however deep the calls go that are
made on the way.

That is a matter of how actions are put together: each of the small ones changes no more than that,
and a sequence does what its parts do. The rules for the parts of actions are at hand for
automation, and so is each action for which they have been used once. Proofs open an action and
leave the rest to the rules: they do not repeat how it is put together, and need not change when it
does.

An action may write back a state that it read before. So what is followed through an action is a
property of states, and not what becomes of a single one of them.

## Main definitions

* `Component.Becomes`: what a component may become.
* `Lasting`: a property of states that depends on no more than that.
* `Lasts`: an action that keeps a property.
* `Unwatched`: the log, sessions and components are not kept where the things of a kind are.

## Main statements

* `Lasts.bind`: a sequence of actions that keep a property.
* `Lasts.request`: a request keeps a property if the answer and all calls do.
-/

namespace Understudy

/-! ## Components -/

/-- What a component may become. An overlay is given annotations, and nothing else of it changes.
The others keep their type, whatever they are assigned. -/
inductive Component.Becomes : Component → Component → Prop where
  | host (facts facts' : Facts) (invalidated invalidated' : Value) :
    Becomes (.host facts invalidated) (.host facts' invalidated')
  | sample (facts facts' : Facts) (count count' : Value) :
    Becomes (.sample facts count) (.sample facts' count')
  | overlay (layer : Overlay) (annotations : Dict) :
    Becomes (.overlay layer) (.overlay { layer with annotations := annotations })
  | plain (serial : Nat) (capabilities : List Value) :
    Becomes (.plain serial capabilities) (.plain serial capabilities)
  | reporter (serial : Nat) (capabilities : List Value) (notes notes' : Dict)
      (fails fails' : Value) :
    Becomes (.reporter serial capabilities notes fails)
      (.reporter serial capabilities notes' fails')

namespace Component

/-- A component may stay what it is. -/
theorem Becomes.refl (x : Component) : x.Becomes x := by
  cases x with
  | host => exact .host ..
  | sample => exact .sample ..
  | overlay layer => exact .overlay layer layer.annotations
  | plain => exact .plain ..
  | reporter => exact .reporter ..

/-- It may also become again what it was. -/
theorem Becomes.symm {x y : Component} (h : x.Becomes y) : y.Becomes x := by
  cases h with
  | host => exact .host ..
  | sample => exact .sample ..
  | overlay layer annotations => exact .overlay { layer with annotations } layer.annotations
  | plain => exact .plain ..
  | reporter => exact .reporter ..

/-- What a component may become once it has become another one it may become at once. -/
theorem Becomes.trans {x y z : Component} (h : x.Becomes y) (h' : y.Becomes z) : x.Becomes z := by
  cases h with
  | host => cases h' with | host => exact .host ..
  | sample => cases h' with | sample => exact .sample ..
  | overlay layer => cases h' with | overlay _ annotations => exact .overlay layer annotations
  | plain => exact h'
  | reporter => cases h' with | reporter => exact .reporter ..

/-- An assignment leaves a component of its type, and an overlay as it is. -/
theorem becomes_of_assign? {x new : Component} {name : String} {v : Value}
    (h : x.assign? name v = some new) : x.Becomes new := by
  cases x with
  | host facts invalidated =>
    rw [assign?] at h
    split at h
    · cases h
      exact .host ..
    · obtain ⟨f, -, rfl⟩ := Option.map_eq_some_iff.1 h
      exact .host ..
  | sample facts count =>
    rw [assign?] at h
    split at h
    · cases h
      exact .sample ..
    · obtain ⟨f, -, rfl⟩ := Option.map_eq_some_iff.1 h
      exact .sample ..
  | reporter serial capabilities notes fails =>
    obtain ⟨-, h⟩ := Option.ite_none_right_eq_some.1 h
    cases h
    exact .reporter ..
  | overlay | plain => cases h

end Component

/-! ## Properties of states -/

/-- In every state of a property a session has a policy. -/
def Guards (I : World → Prop) (s : Ref .session) : Prop :=
  ∀ w : World, I w → (w.row s : Session).policy.isNone = false

/-- A property has nothing to do with what a session is. -/
def Frees (I : World → Prop) (s : Ref .session) : Prop :=
  ∀ (w : World) (session : Session), I w → I (w.withRow s session)

/-- A property that depends on the log, on sessions and on components only, that is kept where a
record is logged, where there is a new session or a new component, where a session keeps the policy
that it has, and where a component becomes what it may become. A session that it depends on has a
policy. -/
structure Lasting (I : World → Prop) : Prop where
  congr {w w' : World} (h : I w) (hsessions : w'.sessions = w.sessions) (hlog : w'.log = w.log)
    (hcomponents : w'.components = w.components) : I w'
  emit {w : World} (h : I w) (r : LogRecord) : I { w with log := w.log.emit r }
  newSession {w : World} (h : I w) (session : Session) :
    I { w with sessions := w.sessions.push session }
  session {w : World} (h : I w) (s : Ref .session) (session : Session)
    (hpolicy : session.policy = (w.row s : Session).policy) : I (w.withRow s session)
  newComponent {w : World} (h : I w) (new : Component) :
    I { w with components := w.components.push new }
  component {w : World} (h : I w) (c : Ref .component) (new : Component)
    (hnew : (w.row c : Component).Becomes new) : I (w.withRow c new)
  guard (s : Ref .session) : Guards I s ∨ Frees I s

/-- A property of that kind holds in a state. -/
structure World.Meets (w : World) (I : World → Prop) : Prop where
  lasting : Lasting I
  holds : I w

/-- The log, sessions and components are not kept where the things of a kind are. -/
class Unwatched (kind : Kind) {α : Type} [Stored kind α] : Prop where
  sessions_withTable (w : World) (t : Table α) :
    (Stored.withTable kind w t).sessions = w.sessions
  log_withTable (w : World) (t : Table α) : (Stored.withTable kind w t).log = w.log
  components_withTable (w : World) (t : Table α) :
    (Stored.withTable kind w t).components = w.components

instance : Unwatched .registry := ⟨fun _ _ => rfl, fun _ _ => rfl, fun _ _ => rfl⟩

instance : Unwatched .provider := ⟨fun _ _ => rfl, fun _ _ => rfl, fun _ _ => rfl⟩

instance : Unwatched .installer := ⟨fun _ _ => rfl, fun _ _ => rfl, fun _ _ => rfl⟩

instance : Unwatched .policy := ⟨fun _ _ => rfl, fun _ _ => rfl, fun _ _ => rfl⟩

instance : Unwatched .injector := ⟨fun _ _ => rfl, fun _ _ => rfl, fun _ _ => rfl⟩

instance : Unwatched .timeline := ⟨fun _ _ => rfl, fun _ _ => rfl, fun _ _ => rfl⟩

instance : Unwatched .bank := ⟨fun _ _ => rfl, fun _ _ => rfl, fun _ _ => rfl⟩

instance : Unwatched .recorder := ⟨fun _ _ => rfl, fun _ _ => rfl, fun _ _ => rfl⟩

instance : Unwatched .probe := ⟨fun _ _ => rfl, fun _ _ => rfl, fun _ _ => rfl⟩

instance : Unwatched .holder := ⟨fun _ _ => rfl, fun _ _ => rfl, fun _ _ => rfl⟩

instance : Unwatched .settings := ⟨fun _ _ => rfl, fun _ _ => rfl, fun _ _ => rfl⟩

instance : Unwatched .context := ⟨fun _ _ => rfl, fun _ _ => rfl, fun _ _ => rfl⟩

/-- An assignment to a session under another name leaves its policy alone. -/
theorem Session.policy_assign? {session row : Session} {name : String} {v : Value}
    (h : session.assign? name v = some row) (hname : name ≠ "_policy") :
    row.policy = session.policy := by
  unfold Session.assign? at h
  split at h
  all_goals cases h
  all_goals first | rfl | exact absurd rfl hname

namespace World.Meets

variable {I : World → Prop} {w : World}

theorem congr {w' : World} (h : w.Meets I) (hsessions : w'.sessions = w.sessions)
    (hlog : w'.log = w.log) (hcomponents : w'.components = w.components) : w'.Meets I :=
  ⟨h.lasting, h.lasting.congr h.holds hsessions hlog hcomponents⟩

@[grind ←] theorem withRow {kind : Kind} {α : Type} [Inhabited α] [Stored kind α] [Unwatched kind]
    (h : w.Meets I) (r : Ref kind) (a : α) : (w.withRow r a).Meets I :=
  h.congr (Unwatched.sessions_withTable w _) (Unwatched.log_withTable w _)
    (Unwatched.components_withTable w _)

theorem withSession (h : w.Meets I) {s : Ref .session} {session : Session}
    (hpolicy : session.policy = (w.row s : Session).policy) : (w.withRow s session).Meets I :=
  ⟨h.lasting, h.lasting.session h.holds s session hpolicy⟩

theorem withComponent (h : w.Meets I) {c : Ref .component} {x new : Component} (hc : w.row c = x)
    (hnew : x.Becomes new) : (w.withRow c new).Meets I :=
  ⟨h.lasting, h.lasting.component h.holds c new (hc.symm ▸ hnew)⟩

@[grind ←] theorem withItems (h : w.Meets I) (l : ListRef) (items : List Value) :
    (w.withItems l items).Meets I := by
  cases l with
  | loose i => exact h.congr rfl rfl rfl
  | collections s => exact h.withSession rfl
  | _ => exact h.withRow _ _

@[grind ←] theorem withPairs (h : w.Meets I) (d : DictRef) (pairs : Dict) :
    (w.withPairs d pairs).Meets I := by
  cases d with
  | loose i => exact h.congr rfl rfl rfl
  | entries r | captures r => exact h.withRow r _
  | annotations c =>
    unfold World.withPairs
    dsimp only
    split
    · next layer hc => exact h.withComponent hc (.overlay layer pairs)
    · exact h
  | notes c =>
    unfold World.withPairs
    dsimp only
    split
    · next hc => exact h.withComponent hc (.reporter ..)
    · exact h

@[grind ←] theorem withAssigned (h : w.Meets I) (bearer : Bearer) (name : String) (v : Value) :
    (w.withAssigned bearer name v).Meets I := h.congr rfl rfl rfl

/-- What a kind provides for is written to a row of that kind. The policy of a session is only
written where the property has nothing to do with it. -/
theorem assignHeld {w' : World} {o : Object} {name : String} {v : Value} (h : w.Meets I)
    (hw : w.assignHeld? o name v = some w')
    (hfree : ∀ s : Ref .session, o = s.object → name = "_policy" → Frees I s) : w'.Meets I := by
  obtain ⟨kind, i⟩ := o
  cases kind with
  | component =>
    obtain ⟨row, hrow, rfl⟩ := Option.map_eq_some_iff.1 hw
    exact h.withComponent rfl (Component.becomes_of_assign? hrow)
  | provider | installer | probe | settings | context =>
    obtain ⟨row, -, rfl⟩ := Option.map_eq_some_iff.1 hw
    exact h.withRow _ _
  | session =>
    obtain ⟨row, hrow, rfl⟩ := Option.map_eq_some_iff.1 hw
    by_cases hname : name = "_policy"
    · exact ⟨h.lasting, hfree ⟨i⟩ rfl hname w row h.holds⟩
    · exact h.withSession (Session.policy_assign? hrow hname)
  | injector | bank | recorder | holder =>
    obtain ⟨-, hw⟩ := Option.ite_none_right_eq_some.1 hw
    cases hw
    exact h.withRow _ _
  | timeline =>
    dsimp only [World.assignHeld?] at hw
    split at hw
    · cases hw
      exact h.withRow _ _
    · cases hw
  | policy | registry => cases hw

@[grind ←] theorem assignTimer (h : w.Meets I) (t : Ref .timeline) (seq : Nat) (name : String)
    (v : Value) : (w.assignTimer t seq name v).Meets I := by
  unfold World.assignTimer
  dsimp only
  split
  · exact (h.withAssigned _ _ _).withRow t _
  · exact h.withAssigned _ _ _

@[grind ←] theorem withoutAssigned (h : w.Meets I) (o : Object) (name : String) :
    (w.withoutAssigned o name).Meets I := h.congr rfl rfl rfl

end World.Meets

/-- A component is what another one may become. -/
def World.HasBecome (c : Ref .component) (x : Component) (w : World) : Prop := x.Becomes (w.row c)

/-- A new component has become nothing else yet. -/
theorem World.hasBecome_store (w : World) (x : Component) :
    World.HasBecome ⟨w.components.size⟩ x (w.after (store .component x)) := by
  have hrow : (w.components.push x).get w.components.size = x := by
    rw [Table.get_push, if_pos rfl]
  show x.Becomes ((w.components.push x).get w.components.size)
  rw [hrow]
  exact .refl x

/-- That a component has become of what it was lasts, whatever it becomes next. -/
theorem lasting_hasBecome (c : Ref .component) {x : Component} (hx : x ≠ .plain 0 []) :
    Lasting (World.HasBecome c x) where
  congr {w w'} h _ _ hcomponents := by
    have hrow : (w'.row c : Component) = w.row c :=
      congrArg (fun t : Table Component => t.get c.index) hcomponents
    rw [World.HasBecome, hrow]
    exact h
  emit h _ := h
  newSession h _ := h
  session h _ _ _ := h
  newComponent {w} h new := by
    -- What is there is more than an empty row, so the new component has another place.
    have hmore : (w.row c : Component) ≠ .plain 0 [] := fun hrow => by
      rw [World.HasBecome, hrow] at h
      cases h
      exact hx rfl
    have hrow : (w.components.push new).get c.index = w.components.get c.index :=
      Table.get_push_of_lt _ (World.lt_size_of_row hmore) new
    show x.Becomes ((w.components.push new).get c.index)
    rw [hrow]
    exact h
  component {w} h other new hnew := by
    rw [World.HasBecome, World.row_withRow]
    split
    · next hsame => exact Component.Becomes.trans h (hsame ▸ hnew)
    · exact h
  guard _ := .inr fun _ _ h => h

/-! ## Actions -/

/-- An action that keeps a property of states. -/
def Lasts {α : Type} (I : World → Prop) (a : Action α) : Prop := Keeps (World.Meets · I) a

namespace Lasts

section

variable {α β : Type} {I : World → Prop}

@[grind .] theorem pure (a : α) : Lasts I (pure a : Action α) := Keeps.pure a

@[grind .] theorem throw (fault : Fault) : Lasts I (throw fault : Action α) := Keeps.throw fault

@[grind ←] theorem bind {a : Action α} {f : α → Action β} (ha : Lasts I a)
    (hf : ∀ x, Lasts I (f x)) : Lasts I (a >>= f) := Keeps.bind ha hf

@[grind ←] theorem map {a : Action α} (f : α → β) (ha : Lasts I a) : Lasts I (f <$> a) :=
  Keeps.map f ha

@[grind .] theorem get : Lasts I (get : Action World) := fun _ h => h

/-- The state that is read has the property. -/
theorem get_bind {f : World → Action α} (h : ∀ w : World, w.Meets I → Lasts I (f w)) :
    Lasts I (MonadState.get >>= f) := fun w hw => h w hw w hw

@[grind ←] theorem set {w : World} (h : w.Meets I) : Lasts I (set w : Action PUnit) :=
  fun _ _ => h

@[grind ←] theorem modify (f : World → World) (h : ∀ w : World, w.Meets I → (f w).Meets I) :
    Lasts I (modify f : Action PUnit) := h

@[grind .] theorem orFail (x : Except Fault α) : Lasts I (orFail x) := Keeps.orFail x

@[grind ←] theorem attempt {a : Action α} (h : Lasts I a) : Lasts I (attempt a) := h

@[grind ←] theorem mapM {f : α → Action β} (h : ∀ x, Lasts I (f x)) (items : List α) :
    Lasts I (items.mapM f) := by
  induction items with
  | nil => exact pure []
  | cons x rest ih =>
    rw [List.mapM_cons]
    exact (h x).bind fun _ => ih.bind fun _ => pure _

@[grind ←] theorem forIn {f : α → β → Action (ForInStep β)} (h : ∀ x b, Lasts I (f x b))
    (items : List α) (b : β) : Lasts I (forIn items b f) := by
  induction items generalizing b with
  | nil => exact pure b
  | cons x rest ih =>
    rw [List.forIn_cons]
    refine (h x b).bind fun step => ?_
    cases step with
    | done b => exact pure b
    | yield b => exact ih b

@[grind .] theorem fetch {kind : Kind} [Stored kind α] [Inhabited α] (r : Ref kind) :
    Lasts I (fetch r) := fun _ h => h

@[grind .] theorem freshSerial : Lasts I freshSerial := fun _ h => h.congr rfl rfl rfl

@[grind .] theorem hold (v : Value) : Lasts I (hold v) := fun _ h => h.congr rfl rfl rfl

@[grind .] theorem renew (v : Value) : Lasts I (renew v) := fun _ h => h.congr rfl rfl rfl

@[grind .] theorem newList (items : List Value) : Lasts I (newList items) :=
  fun _ h => h.congr rfl rfl rfl

@[grind .] theorem newDict (pairs : Dict) : Lasts I (newDict pairs) :=
  fun _ h => h.congr rfl rfl rfl

@[grind .] theorem emit (severity : Int) (logger message : String) (fault : Option String) :
    Lasts I (emit severity logger message fault) :=
  fun _ h => ⟨h.lasting, h.lasting.emit h.holds _⟩

@[grind .] theorem debug (logger message : String) : Lasts I (debug logger message) :=
  emit 10 logger message none

@[grind .] theorem info (logger message : String) : Lasts I (info logger message) :=
  emit 20 logger message none

@[grind .] theorem warn (logger message : String) : Lasts I (warn logger message) :=
  emit 30 logger message none

@[grind .] theorem storeSession (session : Session) : Lasts I (store .session session) :=
  fun _ h => ⟨h.lasting, h.lasting.newSession h.holds session⟩

@[grind .] theorem storeComponent (new : Component) : Lasts I (store .component new) :=
  fun _ h => ⟨h.lasting, h.lasting.newComponent h.holds new⟩

/-- A session may become another one that has the same policy. -/
@[grind ←] theorem updateSession (s : Ref .session) (f : Session → Session)
    (hf : ∀ session, (f session).policy = session.policy) : Lasts I (update s f) :=
  fun _ h => h.withSession (hf _)

variable {kind : Kind} [Stored kind α] [Unwatched kind]

@[grind .] theorem store (a : α) : Lasts I (store kind a) :=
  fun w h => h.congr (Unwatched.sessions_withTable w _) (Unwatched.log_withTable w _)
    (Unwatched.components_withTable w _)

variable [Inhabited α]

@[grind .] theorem put (r : Ref kind) (a : α) : Lasts I (put r a) := fun _ h => h.withRow r a

@[grind .] theorem update (r : Ref kind) (f : α → α) : Lasts I (update r f) :=
  fun _ h => h.withRow r _

end

/-! ## Asking values -/

section

variable {I : World → Prop}

@[grind .] theorem shown (v : Value) : Lasts I (shown v) := get.bind fun _ => orFail _

@[grind .] theorem quotedText (v : Value) : Lasts I (quotedText v) := get.bind fun _ => orFail _

@[grind .] theorem needKey (v : Value) : Lasts I (needKey v) := by
  unfold Understudy.needKey
  grind

@[grind .] theorem iterate (v : Value) : Lasts I (iterate v) := by
  unfold Understudy.iterate
  grind

@[grind .] theorem subscript (v key : Value) : Lasts I (subscript v key) := by
  unfold Understudy.subscript
  grind

@[grind .] theorem unpackPair (v : Value) : Lasts I (unpackPair v) := by
  unfold Understudy.unpackPair
  grind

@[grind .] theorem setItem (target key v : Value) : Lasts I (setItem target key v) := by
  unfold Understudy.setItem
  refine get_bind fun w hw => ?_
  grind

@[grind .] theorem removePlace (l : ListRef) (key : Value) : Lasts I (removePlace l key) := by
  unfold Understudy.removePlace
  refine get_bind fun w hw => ?_
  grind

@[grind .] theorem removeItem (target key : Value) : Lasts I (removeItem target key) := by
  unfold Understudy.removeItem
  refine get_bind fun w hw => ?_
  grind

@[grind .] theorem incremented (v : Value) (n : Int) : Lasts I (incremented v n) := by
  unfold Understudy.incremented
  grind

@[grind .] theorem enter (o : Object) : Lasts I (enter o) := by
  unfold Understudy.enter
  grind

@[grind .] theorem enterEntries (r : Ref .registry) : Lasts I (enterEntries r) := by
  unfold Understudy.enterEntries
  grind

@[grind .] theorem enterCaptures (r : Ref .registry) : Lasts I (enterCaptures r) := by
  unfold Understudy.enterCaptures
  grind

@[grind .] theorem lengthOf (v : Value) : Lasts I (lengthOf v) := by
  unfold Understudy.lengthOf
  grind

@[grind .] theorem holds (target item : Value) : Lasts I (holds target item) := by
  unfold Understudy.holds
  grind

@[grind .] theorem isRegistered (r : Ref .registry) (contractId : Value) :
    Lasts I (isRegistered r contractId) := by
  unfold Understudy.isRegistered
  grind

end

/-! Whoever asks a value may have to call what it holds. -/

section

variable {I : World → Prop} {call : Caller} (hcall : ∀ v args, Lasts I (call v args))
include hcall

@[grind .] theorem getFrom {read : Value → String → Action Value}
    (hread : ∀ v name, Lasts I (read v name)) (container key : Value) :
    Lasts I (getFrom read call container key) := by
  unfold Understudy.getFrom
  grind

/-- An installer that is read asks its registry, which takes another reading. -/
theorem readWithin (depth : Nat) (v : Value) (name : String) :
    Lasts I (readWithin call depth v name) := by
  induction depth generalizing v name with
  | zero => exact throw _
  | succ depth ih =>
    unfold Understudy.readWithin
    refine get.bind fun w => (orFail _).bind fun found => ?_
    cases found with
    | held v => exact pure v
    | made v => exact hold v
    | captured i =>
      refine (fetch i).bind fun installer => get.bind fun w => ?_
      cases w.taker? .registry installer.registry .captured with
      | some r => grind
      | none => grind

@[grind .] theorem readAttribute (v : Value) (name : String) :
    Lasts I (readAttribute call v name) := readWithin hcall depthLimit v name

@[grind ←] theorem request {kind : Kind} (target : Value) (m : Method) (args : List Value)
    {answer : Ref kind → Action Value} (h : ∀ r, Lasts I (answer r)) :
    Lasts I (request call target m args answer) := by
  unfold Understudy.request
  grind

@[grind .] theorem getItem (container key : Value) : Lasts I (getItem call container key) := by
  unfold Understudy.getItem
  grind

@[grind .] theorem captured (r : Ref .registry) (contractId : Value) :
    Lasts I (captured call r contractId) := by
  unfold Understudy.captured
  grind

@[grind .] theorem appendTo (target item : Value) : Lasts I (appendTo call target item) := by
  unfold Understudy.appendTo
  grind

@[grind .] theorem clearAll (target : Value) : Lasts I (clearAll call target) := by
  unfold Understudy.clearAll
  grind

@[grind .] theorem includes (r : Ref .registry) (item : Value) :
    Lasts I (includes call r item) := by
  unfold Understudy.includes
  grind

@[grind .] theorem contains (target item : Value) : Lasts I (contains call target item) := by
  unfold Understudy.contains
  grind

end

/-! ## Assigning -/

section

variable {I : World → Prop}

@[grind .] theorem assignPlain (target : Value) (name : String) (v : Value) :
    Lasts I (assignPlain target name v) := by
  unfold Understudy.assignPlain
  refine get_bind fun w hw => ?_
  grind

/-- An assignment may be anything but that of another policy to a session that the property
depends on. -/
theorem assign (target : Value) (name : String) (v : Value)
    (hfree : ∀ s : Ref .session, target = .ofRef s → name = "_policy" → Frees I s) :
    Lasts I (assign target name v) := by
  unfold Understudy.assign
  refine get_bind fun w hw => ?_
  cases target with
  | object o =>
    have hheld (w' : World) (h : w.assignHeld? o name v = some w') : w'.Meets I :=
      hw.assignHeld h fun s hs => hfree s (congrArg Value.object hs)
    have hapart := hw.withAssigned (.thing o) name v
    grind
  | _ => exact assignPlain _ _ _

end

end Lasts

end Understudy
