import Understudy.Asking

/-!
# Assigning attributes

Some of what a thing holds can only be read, and an overlay and a record refuse every
assignment. What a thing's kind provides for is written where it belongs; under any
other name the value is kept with the thing. What was assigned is what is read
afterwards.

## Main definitions

* `Kind.readOnly`: the names that can only be read.
* `assign`: assigns a value under a name.
-/

namespace Understudy

/-- The names that can only be read, for things that are no components. -/
def Kind.readOnly : Kind → List String
  | .policy => ["hooks", "set_daily_timeout", "clear_daily_timeout"]
  | .installer => ["original", "current"]
  | .bank => ["active_count"]
  | .session | .holder => ["subsystem_name"]
  | .recorder => ["arm_count", "cancel_count"]
  | _ => []

/-! Each kind writes what it provides for, and has nothing to say about other names. -/

/-- A component after an assignment. -/
def Component.assign? (c : Component) (name : String) (v : Value) : Option Component :=
  match c with
  | .host facts invalidated =>
    if name = "invalidate_requested" then some (.host facts v)
    else (Facts.ownField? "_" "" name).map fun f => .host (facts.setAnswer f v) invalidated
  | .sample facts count =>
    if name = "invalidate_call_count" then some (.sample facts v)
    else (Facts.ownField? "" "_value" name).map fun f => .sample (facts.setAnswer f v) count
  | .reporter serial capabilities notes _ =>
    if name = "fail" then some (.reporter serial capabilities notes v) else none
  | _ => none

/-- Why a component refuses an assignment, if it does. -/
def Component.refusal? (c : Component) (name : String) : Option Fault :=
  match c with
  | .overlay _ => some (.immutable c.title name)
  | .host _ _ | .sample _ _ =>
    if name = "capabilities" ∨ (Field.ofWord? name).isSome then some (.readOnly name c.title)
    else none
  | .plain _ _ | .reporter _ _ _ _ =>
    if name = "capabilities" then some (.readOnly name c.title) else none

/-- A provider after an assignment. -/
def Provider.assign? (p : Provider) (name : String) (v : Value) : Option Provider :=
  match p, name with
  | .host _, "app_info" => some (.host v)
  | .overlay _, "identity" => some (.overlay v)
  | .counted _ calls, "identity" => some (.counted v calls)
  | .counted c _, "create_call_count" => some (.counted c v)
  | .flaky _ calls failures, "component" => some (.flaky v calls failures)
  | .flaky c _ failures, "calls" => some (.flaky c v failures)
  | .flaky c calls _, "fail_first" => some (.flaky c calls v)
  | _, _ => none

/-- An installer after an assignment. -/
def Installer.assign? (i : Installer) (name : String) (v : Value) : Option Installer :=
  match name with
  | "registry" => some { i with registry := v }
  | "contract_id" => some { i with contractId := v }
  | "class_id" => some { i with classId := v }
  | "_current" => some { i with current := v }
  | _ => none

/-- A session after an assignment. -/
def Session.assign? (s : Session) (name : String) (v : Value) : Option Session :=
  match name with
  | "registry" => some { s with registry := v }
  | "timers" => some { s with timers := v }
  | "daily_interval_seconds" => some { s with interval := v }
  | "clock" => some { s with clock := v }
  | "session_id" => some { s with sessionId := v }
  | "running" => some { s with running := v }
  | "_policy" => some { s with policy := v }
  | "_daily_handle" => some { s with handle := v }
  | _ => none

/-- A probe after an assignment. -/
def Probe.assign? (p : Probe) (name : String) (v : Value) : Option Probe :=
  match name with
  | "name" => some { p with name := v }
  | "budget" => some { p with budget := v }
  | "fail" => some { p with fails := v }
  | "handle" => some { p with handle := v }
  | _ => none

/-- A context after an assignment. -/
def Context.assign? (c : Context) (name : String) (v : Value) : Option Context :=
  match name with
  | "settings" => some { c with settings := v }
  | "registry" => some { c with registry := v }
  | "host_app_info" => some { c with hostAppInfo := v }
  | "identities" => some { c with identities := v }
  | "session" => some { c with session := v }
  | "hooks" => some { c with hooks := v }
  | "platform" => some { c with platform := v }
  | _ => none

/-- The state after an assignment that the thing's kind provides for. -/
def World.assignHeld? (w : World) (o : Object) (name : String) (v : Value) : Option World :=
  match o with
  | ⟨.component, i⟩ =>
    let c : Ref .component := ⟨i⟩
    ((w.row c).assign? name v).map (w.withRow c)
  | ⟨.provider, i⟩ =>
    let p : Ref .provider := ⟨i⟩
    ((w.row p).assign? name v).map (w.withRow p)
  | ⟨.installer, i⟩ =>
    let installer : Ref .installer := ⟨i⟩
    ((w.row installer).assign? name v).map (w.withRow installer)
  | ⟨.injector, i⟩ =>
    if name = "owner" then some (w.withRow (⟨i⟩ : Ref .injector) ⟨v⟩) else none
  | ⟨.timeline, i⟩ =>
    let t : Ref .timeline := ⟨i⟩
    match name, v.float? with
    | "now", some (some x) => some (w.withRow t { (w.row t : Timeline) with now := x })
    | _, _ => none
  | ⟨.bank, i⟩ =>
    let b : Ref .bank := ⟨i⟩
    if name = "_loop" then some (w.withRow b { (w.row b : Bank) with timeline := v }) else none
  | ⟨.session, i⟩ =>
    let s : Ref .session := ⟨i⟩
    ((w.row s).assign? name v).map (w.withRow s)
  | ⟨.recorder, i⟩ =>
    let r : Ref .recorder := ⟨i⟩
    if name = "_next_handle" then
      some (w.withRow r { (w.row r : Recorder) with lastHandle := v })
    else none
  | ⟨.probe, i⟩ =>
    let p : Ref .probe := ⟨i⟩
    ((w.row p).assign? name v).map (w.withRow p)
  | ⟨.holder, i⟩ =>
    if name = "policy" then some (w.withRow (⟨i⟩ : Ref .holder) ⟨v⟩) else none
  | ⟨.settings, i⟩ =>
    let settings : Ref .settings := ⟨i⟩
    (Setting.ofWord? name).map fun s => w.withRow settings ((w.row settings).set s v)
  | ⟨.context, i⟩ =>
    let c : Ref .context := ⟨i⟩
    ((w.row c).assign? name v).map (w.withRow c)
  | ⟨.policy, _⟩ | ⟨.registry, _⟩ => none

/-- Why a thing refuses an assignment, if it does. Settings know the names of the settings
only, and those that begin with an underscore. -/
def World.refusal? (w : World) (o : Object) (name : String) : Option Fault :=
  if o.kind.readOnly.contains name then some (.readOnly name (w.title o))
  else
    match o with
    | ⟨.component, i⟩ => (w.components.get i).refusal? name
    | ⟨.settings, _⟩ =>
      if (Setting.ofWord? name).isSome || name.toList.head? == some '_' then none
      else some (.noSetting name)
    | _ => none

/-- The state after an assignment to a timer. A timer that counts as cancelled does not
ring. -/
def World.assignTimer (w : World) (t : Ref .timeline) (seq : Nat) (name : String) (v : Value) :
    World :=
  let w := w.withAssigned (.timer t seq) name v
  if name = cancelledName then
    w.withRow t ((w.row t : Timeline).withCancelled seq (w.truthy v))
  else w

/-- Why a plain value refuses an assignment. -/
def World.plainRefusal (w : World) (target : Value) (name : String) : Fault :=
  let type := w.fullTypeName target
  if target.operations.any fun op => op.word == name then .fixedMember type name
  else
    match target with
    | .moment _ _ =>
      if ["year", "month", "day"].contains name then .notWritable "datetime.date" name
      else if (w.leafHeld? target name).isSome then .notWritable type name
      else .noAttribute type name
    | .int _ _ | .bool _ =>
      if (w.leafHeld? target name).isSome then .notWritable "int" name else .noAttribute type name
    | .float _ _ =>
      if (w.leafHeld? target name).isSome then .notWritable type name else .noAttribute type name
    | _ => .noAttribute type name

/-- What a member of a closed list keeps for good. -/
def memberNames : List String := ["name", "value"]

/-- Assigns a value under a name to what is no thing. -/
def assignPlain (target : Value) (name : String) (v : Value) : Action Unit := do
  let w ← get
  match target with
  | .record _ _ _ => throw (.frozenField name)
  | .handle t seq => set (w.assignTimer t seq name v)
  | .capability c =>
    if memberNames.contains name then throw (.fixedMemberName name)
    else set (w.withAssigned (.capability c) name v)
  | .field f =>
    if memberNames.contains name then throw (.fixedMemberName name)
    else set (w.withAssigned (.field f) name v)
  | .function serial f =>
    if f.bound || f = .wallClock then throw (.noAttribute (w.fullTypeName target) name)
    else set (w.withAssigned (.function serial f) name v)
  | other => throw (w.plainRefusal other name)

/-- Assigns a value under a name. -/
def assign (target : Value) (name : String) (v : Value) : Action Unit := do
  let w ← get
  match target with
  | .object o =>
    match w.refusal? o name with
    | some fault => throw fault
    | none =>
      if name = "__class__" then throw (.notAType (w.typeName v))
      match w.assignHeld? o name v with
      | some w' => set w'
      | none => set (w.withAssigned (.thing o) name v)
  | other => assignPlain other name v

end Understudy
