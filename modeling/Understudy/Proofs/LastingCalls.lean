import Understudy.Scenario
import Understudy.Proofs.LastingOperations
import Understudy.Proofs.LastingServices

/-!
# What lasts under calls and requests

A call reaches everything that can be called, and what it reaches may call again, as deep as calls
go. So that a call keeps what lasts is shown by induction on that depth: if the calls inside do,
then so does what is put together with them.

Of the functions that can be used by name, one sets the log up anew. It is left out, and so are the
requests that do.

## Main definitions

* `Request.Modest`: a request that leaves the log as it is set up.
* `Request.Spares`: a request that does not assign a policy to a session.
* `World.afterAll`: the state after requests, of which each may fail.

## Main statements

* `Lasts.newSettings`, `Lasts.hostOf`: what environments are set up with.
* `Lasts.send`: requests to things.
* `Lasts.invokeWithin`, `Lasts.invoke`: calls.
* `Lasts.create`, `Lasts.applyFunction`: new things, and functions by name.
* `Lasts.perform`: whatever can be asked for.
* `Lasts.afterAll`: any number of requests.
* `World.hasBecome_afterAll`: what becomes of a component, whatever is asked.
-/

namespace Understudy.Lasts

section

variable {I : World → Prop} {call : Caller} (hcall : ∀ v args, Lasts I (call v args))
include hcall

/-! ## Settings -/

omit hcall in
@[grind .] theorem warnMalformed (lines : List Nat) : Lasts I (warnMalformed lines) := by
  induction lines with
  | nil => exact pure ()
  | cons line rest ih => exact (warn _ _).bind fun _ => ih

omit hcall in
@[grind .] theorem readStem (options : Options) (r : Reading) : Lasts I (readStem options r) := by
  unfold Understudy.readStem
  grind

omit hcall in
@[grind .] theorem readingOf (options : Options) : Lasts I (readingOf options) := by
  unfold Understudy.readingOf
  grind

omit hcall in
@[grind .] theorem noPath (v : Value) : Lasts I (noPath v) := by
  unfold Understudy.noPath
  grind

omit hcall in
@[grind .] theorem needTexts (items : List Value) : Lasts I (pathNames.needTexts items) := by
  induction items with
  | nil => exact pure []
  | cons v rest ih =>
    unfold pathNames.needTexts
    grind

omit hcall in
@[grind .] theorem pathNames (v : Value) : Lasts I (pathNames v) := by
  unfold Understudy.pathNames
  grind

omit hcall in
@[grind .] theorem envFileNames (options : Options) : Lasts I (envFileNames options) := by
  unfold Understudy.envFileNames
  grind

omit hcall in
@[grind .] theorem goalOf (name : String) : Lasts I (goalOf name) := by
  unfold Understudy.goalOf
  grind

omit hcall in
@[grind .] theorem encodingOf (options : Options) : Lasts I (encodingOf options) := by
  unfold Understudy.encodingOf
  grind

omit hcall in
@[grind .] theorem readEnvFile (options : Options) (name : String) :
    Lasts I (readEnvFile options name) := by
  unfold Understudy.readEnvFile
  grind

omit hcall in
@[grind .] theorem readEnvFiles (options : Options) (names : List String) :
    Lasts I (readEnvFiles options names) := by
  induction names with
  | nil => exact pure []
  | cons name rest ih =>
    unfold Understudy.readEnvFiles
    grind

omit hcall in
@[grind .] theorem argumentsOf (options : Options) (r : Reading) :
    Lasts I (argumentsOf options r) := by
  unfold Understudy.argumentsOf
  grind

omit hcall in
@[grind .] theorem goalsOf (names : List String) : Lasts I (asksForValues.goalsOf names) := by
  induction names with
  | nil => exact pure []
  | cons name rest ih => exact (goalOf name).bind fun _ => ih.bind fun _ => pure _

omit hcall in
@[grind .] theorem asksForValues (options : Options) : Lasts I (asksForValues options) := by
  unfold Understudy.asksForValues
  grind

omit hcall in
@[grind .] theorem readSources (direct : List (String × Value)) :
    Lasts I (readSources direct) := by
  unfold Understudy.readSources
  grind

omit hcall in
@[grind .] theorem newSettings (direct : List (String × Value)) :
    Lasts I (newSettings direct) := by
  unfold Understudy.newSettings
  refine (readSources direct).bind fun sources => ?_
  cases sources.validate with
  | error complaints => exact throw _
  | ok settings => exact bind (fun _ h => h.congr rfl rfl rfl) fun serial => store _

omit hcall in
@[grind .] theorem settingsFromFile (envFile : Option String) :
    Lasts I (settingsFromFile envFile) := by
  unfold Understudy.settingsFromFile
  grind

/-! ## Setting an environment up -/

@[grind .] theorem settingsOf (v : Value) (asked : List Setting) :
    Lasts I (settingsOf call v asked) := by
  induction asked with
  | nil => exact pure []
  | cons s rest ih => exact (readAttribute hcall v _).bind fun _ => ih.bind fun _ => pure _

@[grind .] theorem newHost (settings : Value) : Lasts I (newHost call settings) := by
  unfold Understudy.newHost
  grind

@[grind .] theorem registerHost (registry host : Value) :
    Lasts I (registerHost call registry host) := by
  unfold Understudy.registerHost
  refine (store _).bind fun provider => (askToRegister hcall _ _ _ _ _).bind fun _ =>
    (answerOf hcall _ _).bind fun id => (shown id).bind fun id =>
      (answerOf hcall _ _).bind fun version => ?_
  grind

@[grind .] theorem originalOf (i : Ref .installer) : Lasts I (originalOf call i) := by
  unfold Understudy.originalOf
  grind

@[grind .] theorem hostOf (settings registry : Value) (identities : Ref .installer) :
    Lasts I (hostOf call settings registry identities) := by
  unfold Understudy.hostOf
  grind

omit hcall in
@[grind ←] theorem orElse (v : Value) {other : Action Value} (h : Lasts I other) :
    Lasts I (orElse v other) := by
  unfold Understudy.orElse
  grind

@[grind .] theorem installIn (c : Ref .context) (id name version platformVersion : Value) :
    Lasts I (installIn call c id name version platformVersion) := by
  unfold Understudy.installIn
  grind

@[grind .] theorem overrideIn (c : Ref .context) (arm cancel : Value) :
    Lasts I (overrideIn call c arm cancel) := by
  unfold Understudy.overrideIn
  grind

@[grind .] theorem shutdownContext (c : Ref .context) : Lasts I (shutdownContext call c) := by
  unfold Understudy.shutdownContext
  refine (fetch c).bind fun context =>
    (request hcall _ _ _ fun s => nothing (shutdown hcall s)).bind fun _ =>
      (fetch c).bind fun context => (readAttribute hcall _ _).bind fun timers => ?_
  grind

omit hcall in
@[grind .] theorem answerJson (v : Value) : Lasts I (answerJson v) := by
  unfold Understudy.answerJson
  grind

/-! ## Calls -/

@[grind .] theorem sendRegistry (r : Ref .registry) (m : Method) (args : List Value) :
    Lasts I (sendRegistry call r m args) := by
  unfold Understudy.sendRegistry
  grind

@[grind .] theorem sendComponent (r : Ref .component) (m : Method) (args : List Value) :
    Lasts I (sendComponent call r m args) := by
  unfold Understudy.sendComponent
  grind

@[grind .] theorem sendProvider (r : Ref .provider) (m : Method) (args : List Value) :
    Lasts I (sendProvider call r m args) := by
  unfold Understudy.sendProvider
  grind

@[grind .] theorem sendInstaller (r : Ref .installer) (m : Method) (args : List Value) :
    Lasts I (sendInstaller call r m args) := by
  unfold Understudy.sendInstaller
  grind

@[grind .] theorem sendInjector (r : Ref .injector) (m : Method) (args : List Value) :
    Lasts I (sendInjector call r m args) := by
  unfold Understudy.sendInjector
  grind

@[grind .] theorem sendTimeline (r : Ref .timeline) (m : Method) (args : List Value) :
    Lasts I (sendTimeline call r m args) := by
  unfold Understudy.sendTimeline
  grind

@[grind .] theorem sendBank (r : Ref .bank) (m : Method) (args : List Value) :
    Lasts I (sendBank call r m args) := by
  unfold Understudy.sendBank
  grind

@[grind .] theorem sendSession (r : Ref .session) (m : Method) (args : List Value) :
    Lasts I (sendSession call r m args) := by
  unfold Understudy.sendSession
  grind

@[grind .] theorem sendRecorder (r : Ref .recorder) (m : Method) (args : List Value) :
    Lasts I (sendRecorder call r m args) := by
  unfold Understudy.sendRecorder
  grind

@[grind .] theorem sendContext (r : Ref .context) (m : Method) (args : List Value) :
    Lasts I (sendContext call r m args) := by
  unfold Understudy.sendContext
  grind

omit hcall in
@[grind .] theorem sendPolicy (p : Ref .policy) (m : Method) (args : List Value) :
    Lasts I (sendPolicy p m args) := by
  unfold Understudy.sendPolicy
  grind

omit hcall in
@[grind .] theorem sendHolder (h : Ref .holder) (m : Method) (args : List Value) :
    Lasts I (sendHolder h m args) := by
  unfold Understudy.sendHolder
  grind

omit hcall in
@[grind .] theorem duplicate (s : Ref .settings) (changes : Dict) :
    Lasts I (duplicate s changes) := by
  unfold Understudy.duplicate
  refine (fetch s).bind fun original => (store _).bind fun copy => ?_
  exact bind (modify _ fun _ h => h.congr rfl rfl rfl) fun _ => pure copy

omit hcall in
@[grind .] theorem settingMembers (pairs : List (String × Value)) :
    Lasts I (sendSettings.settingMembers pairs) := by
  induction pairs with
  | nil => exact pure []
  | cons first rest ih => exact (answerJson _).bind fun _ => ih.bind fun _ => pure _

omit hcall in
@[grind .] theorem sendSettings (s : Ref .settings) (m : Method) (args : List Value) :
    Lasts I (sendSettings s m args) := by
  unfold Understudy.sendSettings
  split
  all_goals grind

@[grind .] theorem send (o : Object) (m : Method) (args : List Value) :
    Lasts I (send call o m args) := by
  unfold Understudy.send
  grind

@[grind .] theorem callFunction (f : Function) (args : List Value) :
    Lasts I (callFunction call f args) := by
  unfold Understudy.callFunction
  cases f with
  | callback name => exact bind (modify _ fun _ h => h.congr rfl rfl rfl) fun _ => pure _
  | _ => grind

@[grind .] theorem callOnce (v : Value) (args : List Value) (named : List (String × Value)) :
    Lasts I (callOnce call v args named) := by
  unfold Understudy.callOnce
  grind

omit hcall in
/-- A call keeps what lasts, however deep the calls inside it go. -/
theorem invokeWithin (depth : Nat) (v : Value) (args : List Value) :
    Lasts I (invokeWithin depth v args) := by
  induction depth generalizing v args with
  | zero => exact throw _
  | succ depth ih => exact callOnce ih v args []

omit hcall in
theorem invoke (v : Value) (args : List Value) : Lasts I (invoke v args) :=
  invokeWithin depthLimit v args

/-! ## Requests -/

omit hcall in
@[grind .] theorem readCapabilities (v : Value) : Lasts I (readCapabilities v) := by
  unfold Understudy.readCapabilities
  grind

omit hcall in
@[grind .] theorem unpackAll (items : List Value) : Lasts I (readItems.unpackAll items) := by
  induction items with
  | nil => exact pure []
  | cons item rest ih => exact (unpackPair item).bind fun _ => ih.bind fun _ => pure _

@[grind .] theorem readItems (v : Value) : Lasts I (readItems call v) := by
  unfold Understudy.readItems
  grind

@[grind .] theorem readAttributes (v : Value) : Lasts I (readAttributes call v) := by
  unfold Understudy.readAttributes
  grind

omit hcall in
/-- Attributes may be assigned to anything but a session. -/
theorem assignAll {target : Value} (htarget : ∀ s : Ref .session, target ≠ .ofRef s)
    (attributes : List (Value × Value)) : Lasts I (assignAll target attributes) := by
  have hassign (name : String) (v : Value) : Lasts I (Understudy.assign target name v) :=
    assign target name v fun s hs => absurd hs (htarget s)
  induction attributes with
  | nil => exact pure ()
  | cons first rest ih =>
    unfold Understudy.assignAll
    grind

omit hcall in
@[grind .] theorem member {α : Type} (list : String) (found : Option α) (v : Value) :
    Lasts I (member list found v) := by
  unfold Understudy.member
  grind

omit hcall in
@[grind .] theorem lookUp {α : Type} (list : String) (found : Option α) (v names : Value) :
    Lasts I (lookUp list found v names) := by
  unfold Understudy.lookUp
  grind

omit hcall in
@[grind .] theorem readOverrides (start : OrderedMap Field Value) (given : List (Value × Value)) :
    Lasts I (readOverrides start given) := by
  induction given generalizing start with
  | nil => exact pure start
  | cons first rest ih =>
    unfold Understudy.readOverrides
    grind

omit hcall in
@[grind .] theorem settingsWith (args : List Value) (named : List (String × Value)) :
    Lasts I (settingsWith args named) := by
  unfold Understudy.settingsWith
  grind

omit hcall in
@[grind ←] theorem made {kind : Kind} {action : Action (Ref kind)} (h : Lasts I action) :
    Lasts I (made action) := by
  unfold Understudy.made
  grind

omit hcall in
/-- What is done with a new thing is done with its reference. -/
theorem made_bind {kind : Kind} {action : Action (Ref kind)} {α : Type} {f : Value → Action α}
    (h : Lasts I action) (hf : ∀ r : Ref kind, Lasts I (f (.ofRef r))) :
    Lasts I (Understudy.made action >>= f) := by
  rw [Understudy.made, bind_assoc]
  simp only [pure_bind]
  exact h.bind hf

omit hcall in
/-- Attributes may be assigned to a component. -/
theorem assignComponent (c : Ref .component) (given : List (Value × Value)) :
    Lasts I (Understudy.assignAll (.ofRef c) given) := assignAll (fun s hs => by cases hs) given

end

section

variable {I : World → Prop} {call : Caller} (hcall : ∀ J v args, Lasts J (call v args))
include hcall

@[grind .] theorem make (t : Creatable) (args : List Value) : Lasts I (make call t args) := by
  have hcall' := hcall I
  unfold Understudy.make
  split
  case h_20 capabilities attributes =>
    exact (readCapabilities capabilities).bind fun declared =>
      made_bind (storeComponent _) fun component => (readAttributes hcall' attributes).bind
        fun given => (assignComponent component given).bind fun _ => pure _
  case h_21 capabilities attributes fails =>
    refine (readCapabilities capabilities).bind fun declared => ?_
    intro w hw
    let reporter : Component := .reporter declared.1 declared.2 .empty fails
    let c : Ref .component := ⟨w.components.size⟩
    have hstored : w.run (Understudy.store .component reporter) =
        (.ok c, w.after (Understudy.store .component reporter)) := rfl
    -- It is a reporter still when its attributes have been read, whatever that called.
    let P : World → Prop := fun w => w.Meets I ∧ w.Meets (World.HasBecome c reporter)
    have hmore : reporter ≠ .plain 0 [] := by simp [reporter]
    have hfirst : P (w.after (Understudy.store .component reporter)) :=
      ⟨storeComponent reporter w hw, lasting_hasBecome c hmore, w.hasBecome_store reporter⟩
    have hread : P ((w.after (Understudy.store .component reporter)).after
        (Understudy.readAttributes call attributes)) :=
      hfirst.imp (readAttributes (hcall I) attributes _) (readAttributes (hcall _) attributes _)
    rw [World.after_bind_of_run hstored]
    refine World.after_bind_cases (P := (World.Meets · I)) (fun _ _ => hread.1) fun given _ => ?_
    have hgiven := hread.imp (assignComponent c given _) (assignComponent c given _)
    refine World.after_bind_cases (P := (World.Meets · I)) (fun _ _ => hgiven.1) fun _ _ => ?_
    obtain ⟨hmeets, -, hbecome⟩ := hgiven
    exact (hmeets.withComponent rfl hbecome.symm).withoutAssigned c.object "notes"
  all_goals grind

@[grind .] theorem create (t : Creatable) (args : List Value) (named : List (String × Value)) :
    Lasts I (create call t args named) := by
  unfold Understudy.create
  grind

end

section

variable {I : World → Prop} {call : Caller} (hcall : ∀ v args, Lasts I (call v args))
include hcall

theorem useFunction {f : Usable} (hf : f ≠ .configureLogging) (args : List Value) :
    Lasts I (useFunction call f args) := by
  unfold Understudy.useFunction
  grind

@[grind ←] theorem applyFunction {f : Usable} (hf : f ≠ .configureLogging) (args : List Value)
    (named : List (String × Value)) : Lasts I (applyFunction call f args named) :=
  (get.bind fun _ => (orFail _).bind fun _ => useFunction hcall hf _)

omit hcall in
@[grind .] theorem handlerValues (handlers : List Handler) :
    Lasts I (handlerValues handlers) := by
  induction handlers with
  | nil => exact pure []
  | cons h rest ih =>
    unfold Understudy.handlerValues
    refine bind ?_ fun v => ih.bind fun _ => pure _
    cases h <;> exact newList _

omit hcall in
@[grind .] theorem momentOf (numbers : List Int) : Lasts I (momentOf numbers) := by
  unfold Understudy.momentOf
  grind

end

end Understudy.Lasts

namespace Understudy

/-! ## What can be asked for -/

/-- A request that leaves the log as it is set up, and logs only what the program has to say. -/
def Request.Modest : Request Value → Prop
  | .use function _ _ => function ≠ .configureLogging
  | .bootstrap _ _ | .log _ _ _ | .addForeign | .program => False
  | _ => True

/-- A request that does not assign a policy to a session. -/
def Request.Spares (s : Ref .session) : Request Value → Prop
  | .assign target name _ => target = .ofRef s → name ≠ "_policy"
  | _ => True

/-- What lasts is kept by requests, if they assign no policy to a session that it depends on. -/
theorem Lasts.perform {I : World → Prop} {q : Request Value} (h : q.Modest)
    (hspares : ∀ s, q.Spares s ∨ Frees I s) : Lasts I (perform q) := by
  have hcall (v : Value) (args : List Value) : Lasts I (Understudy.invoke v args) := invoke v args
  unfold Understudy.perform
  cases q with
  | create type args named => exact create (fun J => invoke) type args named
  | call target name args named =>
    exact (readAttribute hcall target name).bind fun callee => callOnce hcall callee args named
  | read target name => exact readAttribute hcall target name
  | assign target name v =>
    exact nothing (assign target name v fun s hs hname =>
      (hspares s).resolve_left fun hno => hno hs hname)
  | use function args named => exact applyFunction hcall h args named
  | setItem target key v => exact nothing (setItem target key v)
  | contains target item => exact (contains hcall target item).bind fun _ => pure _
  | compare a b => exact get.bind fun _ => newList _
  | describe v => exact (quotedText v).bind fun _ => renew _
  | fire target place => exact nothing (fireAt hcall target place)
  | setClock numbers =>
    exact (momentOf numbers).bind fun _ => freshSerial.bind fun _ =>
      bind (modify _ fun _ h => h.congr rfl rfl rfl) fun _ => pure _
  | untilMidnight numbers => exact (momentOf numbers).bind fun now => untilMidnight now
  | handlers => exact get.bind fun _ => (handlerValues _).bind fun _ => newList _
  | readSettings named => exact made (newSettings named)
  | loadSettings envFile => exact made (settingsFromFile envFile)
  | look => exact pure _
  | bootstrap | log | addForeign | program => cases h

/-! ## Any number of requests -/

/-- The state after requests, of which each may fail. -/
def World.afterAll (w : World) (qs : List (Request Value)) : World :=
  qs.foldl (fun w q => w.after (perform q)) w

/-- What lasts is kept by any number of requests. -/
theorem Lasts.afterAll {I : World → Prop} {w : World} {qs : List (Request Value)}
    (hqs : ∀ q ∈ qs, q.Modest ∧ ∀ s, q.Spares s ∨ Frees I s) (h : w.Meets I) :
    (w.afterAll qs).Meets I := by
  induction qs generalizing w with
  | nil => exact h
  | cons q rest ih =>
    obtain ⟨hmodest, hspares⟩ := hqs q List.mem_cons_self
    exact ih (fun q hq => hqs q (List.mem_cons_of_mem _ hq)) (Lasts.perform hmodest hspares w h)

/-- Whatever was asked, a component is what it may have become. -/
theorem World.hasBecome_afterAll {w : World} {qs : List (Request Value)}
    (hqs : ∀ q ∈ qs, q.Modest) {c : Ref .component} {x : Component} (hc : w.row c = x)
    (hx : x ≠ .plain 0 []) : World.HasBecome c x (w.afterAll qs) := by
  have hfree (s : Ref .session) : Frees (World.HasBecome c x) s := fun _ _ h => h
  refine (Lasts.afterAll (fun q hq => ⟨hqs q hq, fun s => .inr (hfree s)⟩)
    ⟨lasting_hasBecome c hx, ?_⟩).holds
  rw [World.HasBecome, hc]
  exact .refl x

end Understudy
