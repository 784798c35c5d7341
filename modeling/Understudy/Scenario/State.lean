import Understudy.Scenario.Expression

/-!
# What is told of a thing

After a step the thing that it was about is looked at: what it keeps is read from it, one
part after the other, and a registry is asked for its entries one by one. Looking is
itself done by requests, so it may be noticed by whatever was put in their place.

## Main definitions

* `State`: what is told of a thing.
* `stateOf`: the state of a value, if it has one.
-/

namespace Understudy

/-- What is told of a thing. -/
inductive State where
  | absent
  | value (v : Value)
  | count (n : Nat)
  | list (items : List State)
  | parts (members : List (String × State))

/-- What a value holds under a name, or the absent value. -/
def partOf (v : Value) (name : String) : Action Value := do
  return (← attempt (readAttribute invoke v name)).toOption.getD .none

/-- What comes of a request to a value, or the absent value. -/
def replyOf (v : Value) (m : Method) (args : List Value) : Action Value := do
  let reply ← attempt do invoke (← readAttribute invoke v m.word) args
  return reply.toOption.getD .none

/-- The items of a value, or none. -/
def itemsOf (v : Value) : Action (List Value) := do
  return ((← get).items? v).getD []

/-- The named parts of a value as it holds them. -/
def partsOf (v : Value) : List (String × String) → Action (List (String × State))
  | [] => return []
  | (label, name) :: rest => do
    let part ← partOf v name
    return (label, .value part) :: (← partsOf v rest)

/-- The entries of contracts, as a registry answers them. -/
def entryStates (registry : Value) : List Value → Action (List State)
  | [] => return []
  | id :: rest => do
    let entry ← replyOf registry .getEntry [id]
    return .value entry :: (← entryStates registry rest)

/-- The captures in what a registry keeps, by contract. -/
def captureStates (w : World) (captures : Value) : List State :=
  let d := (w.pairsOf? captures).getD .empty
  (w.sorted d.keys).1.map fun id =>
    .list [.value id, .value ((d.get? id).getD .none)]

/-- The state of a registry. -/
def registryState (registry : Value) : Action State := do
  let ids ← itemsOf (← replyOf registry .contractIds [])
  let entries ← entryStates registry ids
  let captures ← partOf registry "_originals"
  let w ← get
  return .parts [("entries", .list entries), ("originals", .list (captureStates w captures))]

/-- The state of a policy, if there is one. -/
def policyState (policy : Value) : Action State := do
  match policy.ref? .policy with
  | some _ => return .parts (← partsOf policy [("hooks", "hooks")])
  | none => return .absent

/-- The state of an installer. -/
def installerState (installer : Value) : Action State := do
  let own ← partsOf installer [("current", "current"), ("original", "original")]
  let registry ← partOf installer "registry"
  let registryPart ← match registry.ref? .registry with
    | some _ => registryState registry
    | none => pure .absent
  return .parts (own ++ [("registry", registryPart)])

/-- The state of a session. -/
def sessionState (session : Value) : Action State := do
  let own ← partsOf session
    [("session_id", "session_id"), ("running", "running"), ("collections", "collections"),
      ("handle", "_daily_handle")]
  return .parts (own ++ [("policy", ← policyState (← partOf session "_policy"))])

/-- The state of a context. -/
def contextState (context : Value) : Action State := do
  let session ← partOf context "session"
  let sessionPart ← match session.ref? .session with
    | some _ => sessionState session
    | none => pure .absent
  let identities ← partOf context "identities"
  let identitiesPart ← match identities.ref? .installer with
    | some _ => installerState identities
    | none => pure .absent
  let active ← partOf (← partOf session "timers") "active_count"
  let platform ← partOf context "platform"
  return .parts
    [("session", sessionPart), ("identities", identitiesPart), ("active", .value active),
      ("platform", .value platform)]

/-- The state of a recorder: the delays that were armed, and the handles that were
cancelled. -/
def recorderState (recorder : Value) : Action State := do
  let arms ← itemsOf (← partOf recorder "arm_calls")
  let w ← get
  let delays := arms.map fun arming => ((w.items? arming).getD []).headD .none
  let cancels ← itemsOf (← partOf recorder "cancel_calls")
  return .parts [("arms", .list (delays.map .value)), ("cancels", .list (cancels.map .value))]

/-- The policy of the owner that an injector was made for. -/
def ownerPolicy (w : World) (owner : Value) : Value :=
  match owner.ref? .session, owner.ref? .holder with
  | some s, _ => (w.row s).policy
  | _, some h => (w.row h).policy
  | _, _ => .none

/-- The state of a component, if its kind has one. -/
def componentState? (c : Ref .component) : Action (Option State) := do
  let told := fun (label name : String) => do
    return some (State.parts (← partsOf (.ofRef c) [(label, name)]))
  match ← fetch c with
  | .host _ _ => told "invalidated" "invalidate_requested"
  | .sample _ _ => told "invalidated" "invalidate_call_count"
  | .overlay _ => told "annotations" "annotations"
  | .reporter _ _ _ _ => told "notes" "notes"
  | .plain _ _ => return none

/-- The state of a value, if it has one. -/
def stateOf (v : Value) : Action (Option State) := do
  let w ← get
  match v with
  | .object ⟨.registry, _⟩ => return some (← registryState v)
  | .object ⟨.installer, _⟩ => return some (← installerState v)
  | .object ⟨.component, i⟩ => componentState? ⟨i⟩
  | .object ⟨.session, _⟩ => return some (← sessionState v)
  | .object ⟨.policy, _⟩ => return some (← policyState v)
  | .object ⟨.injector, i⟩ =>
    return some (.parts [("policy", ← policyState (ownerPolicy w (w.injectors.get i).owner))])
  | .object ⟨.recorder, _⟩ => return some (← recorderState v)
  | .object ⟨.bank, _⟩ => return some (.parts (← partsOf v [("active", "active_count")]))
  | .object ⟨.provider, i⟩ =>
    match w.providers.get i with
    | .counted _ _ => return some (.parts (← partsOf v [("calls", "create_call_count")]))
    | .flaky _ _ _ => return some (.parts (← partsOf v [("calls", "calls")]))
    | _ => return none
  | .object ⟨.probe, _⟩ =>
    let calls ← itemsOf (← partOf v "calls")
    return some (.parts
      (("calls", .list (calls.map .value)) :: (← partsOf v [("budget", "budget")])))
  | .object ⟨.timeline, i⟩ =>
    return some (.parts ((← partsOf v [("now", "now")]) ++
      [("pending", .count (w.timelines.get i).pending)]))
  | .object ⟨.context, _⟩ => return some (← contextState v)
  | _ => return none

end Understudy
