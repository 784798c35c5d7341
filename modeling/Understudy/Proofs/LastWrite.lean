import Understudy.Proofs.RegistryQueries
import Understudy.Proofs.LastInstall

/-!
# The last write counts

Whoever uses a registry registers providers and removes them, captures services, looks them
up, and asks what is registered. What the registry holds for a contract is then the entry
that was registered for it last, unless that was removed since. So a registry is a map from
texts to entries of which the last write counts, and every query answers by that map.

A request that fails changes neither an entry nor a capture, and no request changes anything
about a contract that it is not about.

## Main definitions

* `Demand`, `Usage`: a request to a registry itself, and the requests to it so far.
* `lastWrite`: the map that the requests so far amount to.
* `Refines`: what a registry does that is such a map.

## Main statements

* `Asked.entries_after`: what one request writes.
* `Sane.answers`: a registry that holds what a map has answers by the map.
* `Usage.refines`: a registry that was new once is the map of what was written to it.
-/

namespace Understudy

/-! ## Requests -/

/-- A request to a registry: one that may change it, or a query. -/
inductive Demand where
  | deal (d : Dealing)
  | ask (q : Query)

namespace Demand

/-- What is done on a request. -/
def perform (call : Caller) (r : Ref .registry) : Demand → Action Value
  | .deal d => d.perform call r
  | .ask q => q.perform call r

/-- The requests to the registry itself, of those who keep to their types. -/
def Fits (r : Ref .registry) (w : World) : Demand → Prop
  | .deal d => d.Fits r w ∧ d.installer? = none
  | .ask _ => True

/-- The contract that a request may change something about. -/
def contract? : Demand → Option Value
  | .deal (.register _ _ contractId _) => some contractId
  | .deal (.unregister contractId _) => some contractId
  | .deal (.capture contractId _) => some contractId
  | .deal (.serve contractId _) => some contractId
  | _ => none

end Demand

/-- A request in the state in which it was made. -/
structure Asked where
  before : World
  demand : Demand

namespace Asked

variable (call : Caller) (r : Ref .registry) (a : Asked)

/-- How a request ended. -/
def outcome : Except Fault Value := a.before.outcome (a.demand.perform call r)

/-- The state that a request left, however it ended. -/
def after : World := a.before.after (a.demand.perform call r)

/-- What a request wrote: the contract, and the entry it then had, if any. A request that
failed wrote nothing. -/
def write? : Option (Value × Option Entry) :=
  match a.demand with
  | .deal (.register classId description contractId p) =>
    (a.outcome call r).toOption.map fun _ =>
      (contractId, some ⟨a.before.nextSerial, classId, description, contractId, .ofRef p⟩)
  | .deal (.unregister contractId _) =>
    (a.outcome call r).toOption.map fun _ => (contractId, none)
  | _ => none

/-- The entry of a contract after a request, given the one it had before. -/
def entry (contract : String) (was : Option Entry) : Option Entry :=
  match a.write? call r with
  | some (contractId, entry) => if contractId.text? = some contract then entry else was
  | none => was

end Asked

/-- The requests to a registry from a state on, and whatever goes on besides. -/
inductive Usage (call : Caller) (r : Ref .registry) (w₀ : World) : List Asked → World → Prop
  | start : Usage call r w₀ [] w₀
  | request {as : List Asked} {w : World} (before : Usage call r w₀ as w) (q : Demand)
      (fits : q.Fits r w) : Usage call r w₀ (as ++ [⟨w, q⟩]) (Asked.after call r ⟨w, q⟩)
  | elsewhere {as : List Asked} {w w' : World} (before : Usage call r w₀ as w)
      (aside : Aside r w w') : Usage call r w₀ as w'

/-- The entry that was written for a contract last. -/
def lastWrite (call : Caller) (r : Ref .registry) (as : List Asked) (contract : String) :
    Option Entry :=
  as.foldl (fun was a => a.entry call r contract was) none

theorem lastWrite_append (call : Caller) (r : Ref .registry) (as : List Asked) (a : Asked)
    (contract : String) : lastWrite call r (as ++ [a]) contract =
      a.entry call r contract (lastWrite call r as contract) := by
  rw [lastWrite, List.foldl_append]
  rfl

/-! ## What one request does -/

/-- A query leaves the registry alone, and every thing there is. -/
theorem Sane.aside_query {r : Ref .registry} {w : World} (h : Sane r w) (call : Caller)
    (hkeyed : (w.row r : Registry).Keyed) (q : Query) :
    Aside r w (w.after (q.perform call r)) := by
  by_cases hq : q = .contractIds
  · subst hq
    have hafter := World.after_of_run (h.intact.run_contractIds r hkeyed.texts)
    rw [Query.perform, hafter]
    exact ⟨rfl, ⟨fun hw => hw.congr rfl, Nat.le_refl _, fun _ _ => rfl, Nat.le_refl _,
      fun _ _ => rfl⟩⟩
  · have hlike := h.intact.alike_query call r h.sound hq
    exact ⟨hlike.row_registry r, .of_alike hlike⟩

section

variable {call : Caller} {r : Ref .registry} {w : World}

/-- A removal ends as a request just as it ends by itself. -/
theorem outcome_perform_unregister (call : Caller) (r : Ref .registry) (w : World)
    (contractId provider : Value) :
    w.outcome ((Dealing.unregister contractId provider).perform call r) =
      (w.outcome (unregister call r contractId provider)).map fun _ => .none := by
  rw [Dealing.perform, World.outcome, World.run_bind, World.run_eq w]
  cases w.outcome (unregister call r contractId provider) <;> rfl

/-- A registry in which something has been written. -/
def Registry.write (reg : Registry) : Option (Value × Option Entry) → Registry
  | some (_, some e) => reg.register e
  | some (contractId, none) => reg.unregister contractId
  | none => reg

/-- Registering writes what it says it wrote. -/
theorem Sane.row_asked_register (h : Sane r w) {classId description contractId : Value}
    {p : Ref .provider} (fits : (Dealing.register classId description contractId p).Fits r w) :
    let a : Asked := ⟨w, .deal (.register classId description contractId p)⟩
    (a.after call r).row r = (w.row r : Registry).write (a.write? call r) := by
  intro a
  obtain ⟨hclass, hdescription, hcontract⟩ := fits
  rcases h.intact.register_cases call r h.sound hclass hdescription hcontract p with
    ⟨fault, hrun, _⟩ | ⟨_, hok, hlike⟩
  · have hout : a.outcome call r = .error fault := World.outcome_of_run hrun
    have hafter : a.after call r = w := World.after_of_run hrun
    simp only [Asked.write?, a, hout, hafter, Except.toOption, Option.map_none, Registry.write]
  · have hout : a.outcome call r = _ := hok
    have hrow : (a.after call r).row r = (_ : Registry) := hlike.row_registry r
    rw [World.row_withRow_self] at hrow
    simp only [Asked.write?, a, hout, Except.toOption, Option.map_some, Registry.write]
    exact hrow

/-- Removing removes what it says it removed. -/
theorem Sane.row_asked_unregister (h : Sane r w) (contractId provider : Value) :
    let a : Asked := ⟨w, .deal (.unregister contractId provider)⟩
    (a.after call r).row r = (w.row r : Registry).write (a.write? call r) := by
  intro a
  have hout : a.outcome call r = _ := outcome_perform_unregister call r w contractId provider
  have hafter : a.after call r = w.after (unregister call r contractId provider) :=
    World.after_bind_pure w (unregister call r contractId provider) _
  rcases h.intact.unregister_cases call r h.sound contractId provider with
    ⟨fault, hrun, _⟩ | ⟨_, _, _, _, _, hok, hlike⟩
  · rw [World.outcome_of_run hrun] at hout
    rw [World.after_of_run hrun] at hafter
    simp only [Asked.write?, a, hout, hafter, Except.map, Except.toOption, Option.map_none,
      Registry.write]
  · rw [hok] at hout
    have hrow := hlike.row_registry r
    rw [World.row_withRow_self, ← hafter] at hrow
    simp only [Asked.write?, a, hout, Except.map, Except.toOption, Option.map_some,
      Registry.write]
    exact hrow

/-- What is written is all that changes among the entries. -/
theorem Asked.entries_after {q : Demand} (h : Sane r w) (hkeyed : (w.row r : Registry).Keyed)
    (fits : q.Fits r w) :
    ((Asked.after call r ⟨w, q⟩).row r : Registry).entries =
      ((w.row r : Registry).write (Asked.write? call r ⟨w, q⟩)).entries := by
  cases q with
  | ask q => exact congrArg Registry.entries (h.aside_query call hkeyed q).registry
  | deal d =>
    cases d with
    | register => exact congrArg Registry.entries (h.row_asked_register fits.1)
    | unregister contractId provider =>
      exact congrArg Registry.entries (h.row_asked_unregister contractId provider)
    | capture contractId capability =>
      rcases h.intact.captureOnce_cases call r h.sound contractId capability with
        ⟨_, hfailure⟩ | ⟨capture, _, hstep⟩
      · exact congrArg Registry.entries (hfailure.served.row_registry r)
      · cases hstep with
        | known _ same => exact congrArg (fun w : World => (w.row r : Registry).entries) same
        | first _ _ _ served remembered =>
          have hrow := remembered.row_registry r
          rw [World.row_withRow_self] at hrow
          exact (congrArg Registry.entries hrow).trans rfl
    | serve contractId capability =>
      exact congrArg Registry.entries
        ((h.intact.served_getService call r h.sound contractId capability).row_registry r)
    | _ => exact nomatch fits.2

/-- A request that is not about a contract changes nothing about it. -/
theorem Sane.untouched (h : Sane r w) (call : Caller) (hkeyed : (w.row r : Registry).Keyed)
    {q : Demand} (fits : q.Fits r w) {contract : Value}
    (hother : ∀ c, q.contract? = some c → ¬(c == contract) = true) :
    ((w.after (q.perform call r)).row r : Registry).entryOf? contract =
        (w.row r : Registry).entryOf? contract ∧
      ((w.after (q.perform call r)).row r : Registry).captureOf? contract =
        (w.row r : Registry).captureOf? contract := by
  cases q with
  | ask q =>
    have hrow := (h.aside_query call hkeyed q).registry
    exact ⟨by rw [Demand.perform, hrow], by rw [Demand.perform, hrow]⟩
  | deal d =>
    have hstep : Dealing.Step call r w (w.after (d.perform call r)) d := d.step h fits.1
    rw [Demand.perform]
    generalize w.after (d.perform call r) = w' at hstep
    cases hstep with
    | served served => exact ⟨by rw [served.row_registry], by rw [served.row_registry]⟩
    | @registered classId description contractId p _ placed =>
      have hne : ¬(contractId == contract) = true := hother contractId rfl
      rw [placed.row_registry, World.row_withRow_self]
      exact ⟨by rw [Registry.entryOf?_register, if_neg hne], Registry.captureOf?_register _ _ _⟩
    | @unregistered contractId _ removed =>
      have hne : ¬(contractId == contract) = true := hother contractId rfl
      rw [removed.row_registry, World.row_withRow_self]
      exact ⟨by rw [Registry.entryOf?_unregister, if_neg hne],
        Registry.captureOf?_unregister _ _ _⟩
    | @captured contractId _ _ captured =>
      refine ⟨captured.entryOf? contract, ?_⟩
      cases hbefore : (w.row r : Registry).captureOf? contract with
      | some found => exact captured.persists hbefore
      | none =>
        cases hafter : (w'.row r : Registry).captureOf? contract with
        | none => rfl
        | some found =>
          exact absurd (captured.captured_only hbefore hafter).1 (hother contractId rfl)
    | refused | installed | restored => exact nomatch fits.2

/-- A request that fails leaves the registry as it is. -/
theorem Sane.unchanged (h : Sane r w) (call : Caller) (hkeyed : (w.row r : Registry).Keyed)
    {q : Demand} (fits : q.Fits r w) {fault : Fault}
    (hfail : w.outcome (q.perform call r) = .error fault) :
    (w.after (q.perform call r)).row r = (w.row r : Registry) := by
  cases q with
  | ask q => exact (h.aside_query call hkeyed q).registry
  | deal d =>
    cases d with
    | register classId description contractId p =>
      obtain ⟨⟨hclass, hdescription, hcontract⟩, _⟩ := fits
      rcases h.intact.register_cases call r h.sound hclass hdescription hcontract p with
        ⟨_, hrun, _⟩ | ⟨_, hok, _⟩
      · exact congrArg (fun w : World => (w.row r : Registry)) (World.after_of_run hrun)
      · exact nomatch hok.symm.trans hfail
    | unregister contractId provider =>
      rcases h.intact.unregister_cases call r h.sound contractId provider with
        ⟨_, hrun, _⟩ | ⟨_, _, _, _, _, hok, _⟩
      · have hafter := World.after_bind_pure w (unregister call r contractId provider) fun _ =>
          (.none : Value)
        rw [World.after_of_run hrun] at hafter
        exact congrArg (fun w : World => (w.row r : Registry)) hafter
      · have hout := outcome_perform_unregister call r w contractId provider
        rw [hok] at hout
        exact nomatch hout.symm.trans hfail
    | capture contractId capability =>
      rcases h.intact.captureOnce_cases call r h.sound contractId capability with
        ⟨_, hfailure⟩ | ⟨_, hok, _⟩
      · exact hfailure.served.row_registry r
      · exact nomatch hok.symm.trans hfail
    | serve contractId capability =>
      exact (h.intact.served_getService call r h.sound contractId capability).row_registry r
    | _ => exact nomatch fits.2

end

/-! ## The map that a registry is -/

/-- A registry holds for each contract what a map has for it, under one key. -/
structure Registry.Holds (reg : Registry) (entry : String → Option Entry) : Prop where
  keyed : reg.Keyed
  entries (contract : Value) :
    reg.entryOf? contract = (contract.text?.bind entry).map Entry.toValue

namespace Registry.Holds

variable {reg reg' : Registry} {entry : String → Option Entry}

theorem empty : Registry.Holds {} fun _ => none where
  keyed := .empty
  entries contract := by cases contract.text? <;> rfl

variable (h : reg.Holds entry)
include h

/-- The entries are all that counts. -/
theorem congr (heq : reg'.entries = reg.entries) : reg'.Holds entry where
  keyed := ⟨fun k hk => h.keyed.texts k (heq ▸ hk), heq ▸ h.keyed.distinct⟩
  entries contract := by
    rw [entryOf?, heq]
    exact h.entries contract

theorem entryOf? {contract : Value} {s : String} (hs : contract.text? = some s) :
    reg.entryOf? contract = (entry s).map Entry.toValue := by
  rw [h.entries, hs]
  rfl

theorem entryOf?_eq_some_iff {contract : Value} {s : String} (hs : contract.text? = some s)
    (e : Entry) : reg.entryOf? contract = some e.toValue ↔ entry s = some e := by
  rw [h.entryOf? hs, Option.map_eq_some_iff]
  exact ⟨fun ⟨_, he, heq⟩ => Entry.toValue_injective heq ▸ he, fun he => ⟨e, he, rfl⟩⟩

/-- What is answered with an entry, and without one, is answered by the map. -/
theorem answer {α : Type} {x refused : α} {found : Entry → α} {contract : Value} {s : String}
    (hs : contract.text? = some s) (hnone : reg.entryOf? contract = none → x = refused)
    (hsome : ∀ e : Entry, reg.entryOf? contract = some e.toValue → x = found e) :
    x = (entry s).elim refused found := by
  have hentry := h.entryOf? hs
  cases he : entry s with
  | none =>
    rw [he] at hentry
    exact hnone hentry
  | some e =>
    rw [he] at hentry
    exact hsome e hentry

theorem register {e : Entry} (he : ∃ s, e.contractId.text? = some s) :
    (reg.register e).Holds fun t =>
      if e.contractId.text? = some t then some e else entry t where
  keyed := h.keyed.register he
  entries contract := by
    obtain ⟨s, hs⟩ := he
    rw [entryOf?_register]
    by_cases hc : contract.text? = some s
    · rw [if_pos ((Value.beq_iff_of_text? hs).2 hc), hc]
      simp [hs]
    · rw [if_neg fun hsame => hc ((Value.beq_iff_of_text? hs).1 hsame), h.entries]
      cases ht : contract.text? with
      | none => rfl
      | some t =>
        have hne : s ≠ t := fun heq => hc (by rw [ht, heq])
        simp [hs, hne]

theorem unregister {removed : Value} (hr : ∃ s, removed.text? = some s) :
    (reg.unregister removed).Holds fun t =>
      if removed.text? = some t then none else entry t where
  keyed := h.keyed.unregister removed
  entries contract := by
    obtain ⟨s, hs⟩ := hr
    rw [entryOf?_unregister]
    by_cases hc : contract.text? = some s
    · rw [if_pos ((Value.beq_iff_of_text? hs).2 hc), hc]
      simp [hs]
    · rw [if_neg fun hsame => hc ((Value.beq_iff_of_text? hs).1 hsame), h.entries]
      cases ht : contract.text? with
      | none => rfl
      | some t =>
        have hne : s ≠ t := fun heq => hc (by rw [ht, heq])
        simp [hs, hne]

end Registry.Holds

/-- What a registry does that is a map from texts to entries. -/
structure Refines (call : Caller) (r : Ref .registry) (entry : String → Option Entry) (w : World) :
    Prop where
  /-- The entries are those of the map. -/
  entries (contract : Value) :
    (w.row r : Registry).entryOf? contract = (contract.text?.bind entry).map Entry.toValue
  /-- Every entry is filed under its own contract, and neither of its ids is blank. -/
  filed (contract found : Value) (h : (w.row r : Registry).entryOf? contract = some found) :
    ∃ e : Entry, found = e.toValue ∧ e.classId.Telling ∧ e.contractId.Telling ∧
      e.contractId.text? = contract.text?
  /-- So is every entry that was captured. -/
  captured (contract found : Value) (h : (w.row r : Registry).captureOf? contract = some found) :
    ∃ (serial : Nat) (e : Entry) (c : Ref .component),
      found = Capture.toValue ⟨serial, e.toValue, .ofRef c⟩ ∧ e.classId.Telling ∧
        e.contractId.Telling ∧ e.contractId.text? = contract.text?
  /-- Registering gives back the entry that is displaced. -/
  register (classId description contractId : Value) (p : Ref .provider) (s : String)
    (hclass : classId.Telling) (hcontract : contractId.Telling)
    (hdescription : ∃ t, description.text? = some t) (hs : contractId.text? = some s) :
    w.outcome (register call r classId description contractId (.ofRef p)) =
      .ok ((entry s).elim .none Entry.toValue)
  /-- Removing succeeds exactly with the very provider of the entry. -/
  unregister (contractId provider : Value) (s : String) (hs : contractId.text? = some s) :
    w.outcome (unregister call r contractId provider) = .ok () ↔
      ∃ e, entry s = some e ∧ e.provider = provider
  /-- The entry of a contract is that of the map. -/
  getEntry (contractId : Value) (s : String) (hs : contractId.text? = some s) :
    w.outcome (getEntry call r contractId) =
      (entry s).elim (.error (w.unserved contractId)) fun e => .ok e.toValue
  /-- The provider of a contract is that of the map. -/
  lookup (contractId : Value) (s : String) (hs : contractId.text? = some s) :
    w.outcome (lookup call r contractId) =
      (entry s).elim (.error (w.unserved contractId)) fun e => .ok e.provider
  /-- A contract is served by the provider of the map. -/
  getService (contractId capability : Value) (s : String) (hs : contractId.text? = some s) :
    w.outcome (getService call r contractId capability) =
      (entry s).elim (.error (w.unserved contractId)) fun e =>
        w.outcome (createFrom call e.provider capability)
  /-- A contract is registered if it is in the map. -/
  isRegistered (contractId : Value) (s : String) (hs : contractId.text? = some s) :
    w.outcome (isRegistered r contractId) = .ok (entry s).isSome
  /-- What is in the registry are the texts that are in the map. -/
  includes (item : Value) :
    w.outcome (includes call r item) = .ok (.bool (item.text?.bind entry).isSome)
  /-- The platform is told by what is in the map. -/
  platform : w.outcome (detectPlatform call (.ofRef r)) =
    .ok ⟨w.nextSerial, (entry windowsContract).isSome, (entry macContract).isSome,
      (entry androidContract).isSome, (entry gonkContract).isSome⟩
  /-- The contract ids are what is in the map, in strictly ascending order. -/
  contractIds : ∃ (l : ListRef) (names : List String),
    w.outcome (contractIds r) = .ok (.list l) ∧
      ((w.after (contractIds r)).items l).map Value.text? = names.map some ∧
      names.Pairwise (· < ·) ∧ ∀ s, s ∈ names ↔ (entry s).isSome = true
  /-- A request that is not about a contract changes nothing about it. -/
  untouched (q : Demand) (fits : q.Fits r w) (contract : Value)
    (h : ∀ c, q.contract? = some c → ¬(c == contract) = true) :
    ((w.after (q.perform call r)).row r : Registry).entryOf? contract =
        (w.row r : Registry).entryOf? contract ∧
      ((w.after (q.perform call r)).row r : Registry).captureOf? contract =
        (w.row r : Registry).captureOf? contract
  /-- A request that fails changes nothing at all. -/
  unchanged (q : Demand) (fits : q.Fits r w) (fault : Fault)
    (h : w.outcome (q.perform call r) = .error fault) :
    (w.after (q.perform call r)).row r = (w.row r : Registry)

/-- The contract ids are strictly ascending texts. -/
theorem Registry.Holds.contractIds {reg : Registry} {entry : String → Option Entry}
    (h : reg.Holds entry) : ∃ names : List String,
      reg.contractIds.map Value.text? = names.map some ∧ names.Pairwise (· < ·) ∧
        ∀ s, s ∈ names ↔ (entry s).isSome = true := by
  let names := reg.contractIds.map fun k => k.text?.getD ""
  have hperm : reg.contractIds.Perm reg.entries.keys := List.mergeSort_perm _ _
  have hnames : reg.contractIds.map Value.text? = names.map some := by
    rw [List.map_map]
    refine List.map_congr_left fun k hk => ?_
    obtain ⟨s, hs⟩ := h.keyed.texts k (hperm.mem_iff.1 hk)
    simp [hs]
  refine ⟨names, hnames, ?_, fun s => ?_⟩
  · rw [List.pairwise_map]
    refine h.keyed.pairwise_contractIds.imp fun {a b} hlt => ?_
    obtain ⟨s, t, hs, ht, hst⟩ := hlt
    simpa [hs, ht] using hst
  · have hs : (Value.ofText s).text? = some s := rfl
    have hmem := h.keyed.mem_contractIds hs
    rw [hnames, h.entryOf? hs] at hmem
    simpa using hmem

/-- A sound entry is filed under its own contract, and its ids are not blank. -/
theorem Entry.Proper.filed {e : Entry} (h : e.Proper) {contract : Value}
    (hc : (e.contractId == contract) = true) :
    e.classId.Telling ∧ e.contractId.Telling ∧ e.contractId.text? = contract.text? := by
  obtain ⟨s, hs, _⟩ := h.contractId
  exact ⟨h.classId, h.contractId, hs.trans ((Value.beq_iff_of_text? hs).1 hc).symm⟩

namespace Sane

variable {r : Ref .registry} {w : World} {entry : String → Option Entry} (h : Sane r w)
  (hmap : (w.row r : Registry).Holds entry) (call : Caller) {contractId : Value} {s : String}
  (hs : contractId.text? = some s)
include h hmap hs

/-- Registering hands back what the map had. -/
theorem outcome_register {classId description : Value} (hclass : classId.Telling)
    (hcontract : contractId.Telling) (hdescription : ∃ t, description.text? = some t)
    (p : Ref .provider) :
    w.outcome (register call r classId description contractId (.ofRef p)) =
      .ok ((entry s).elim .none Entry.toValue) := by
  obtain ⟨t, ht, _⟩ := id hclass
  rcases h.intact.register_cases call r h.sound ⟨t, ht⟩ hdescription ⟨s, hs⟩ p with
    ⟨_, _, hblank⟩ | ⟨_, hok, _⟩
  · exact absurd ⟨hclass, hcontract⟩ hblank
  · rw [hok, hmap.entryOf? hs]
    cases entry s <;> rfl

/-- Removing succeeds exactly with the provider that the map has. -/
theorem outcome_unregister_iff (provider : Value) :
    w.outcome (unregister call r contractId provider) = .ok () ↔
      ∃ e, entry s = some e ∧ e.provider = provider := by
  rcases h.intact.unregister_cases call r h.sound contractId provider with
    ⟨_, hrun, hnone⟩ | ⟨e, he, _, _, hprovider, hok, _⟩
  · rw [World.outcome_of_run hrun]
    constructor
    · intro hok
      cases hok
    · rintro ⟨e, he, hprovider⟩
      exact absurd hprovider (hnone e ((hmap.entryOf?_eq_some_iff hs e).2 he))
  · exact iff_of_true hok ⟨e, (hmap.entryOf?_eq_some_iff hs e).1 he, hprovider⟩

theorem outcome_getEntry :
    w.outcome (getEntry call r contractId) =
      (entry s).elim (.error (w.unserved contractId)) fun e => .ok e.toValue := by
  have hk : contractId.unhashable? = none := Value.unhashable?_of_text? hs
  refine hmap.answer hs (fun hnone => ?_) fun e he => ?_
  · exact World.outcome_of_run (h.intact.run_getEntry_absent call r hk hnone)
  · exact World.outcome_of_run (h.intact.run_getEntry call r hk he)

theorem outcome_lookup :
    w.outcome (lookup call r contractId) =
      (entry s).elim (.error (w.unserved contractId)) fun e => .ok e.provider := by
  have hk : contractId.unhashable? = none := Value.unhashable?_of_text? hs
  refine hmap.answer hs (fun hnone => ?_) fun e he => ?_
  · exact World.outcome_of_run (h.intact.run_lookup_absent call r hk hnone)
  · exact World.outcome_of_run (h.intact.run_lookup call r hk he)

theorem outcome_getService (capability : Value) :
    w.outcome (getService call r contractId capability) =
      (entry s).elim (.error (w.unserved contractId)) fun e =>
        w.outcome (createFrom call e.provider capability) := by
  have hk : contractId.unhashable? = none := Value.unhashable?_of_text? hs
  refine hmap.answer hs (fun hnone => ?_) fun e he => ?_
  · exact World.outcome_of_run (h.intact.run_getService_absent call r hk hnone capability)
  · exact congrArg Prod.fst (h.intact.run_getService call r hk he capability)

theorem outcome_isRegistered :
    w.outcome (isRegistered r contractId) = .ok (entry s).isSome := by
  have hk : contractId.unhashable? = none := Value.unhashable?_of_text? hs
  rw [World.outcome_of_run (h.intact.run_isRegistered r hk), hmap.entryOf? hs, Option.isSome_map]

omit hs in
theorem outcome_includes (item : Value) :
    w.outcome (includes call r item) = .ok (.bool (item.text?.bind entry).isSome) := by
  cases ht : item.text? with
  | none => exact World.outcome_of_run (World.Intact.run_includes_other call r w ht)
  | some s =>
    rw [World.outcome_of_run (h.intact.run_includes call r ht), hmap.entryOf? ht,
      Option.isSome_map]
    rfl

omit hs in
theorem outcome_detectPlatform :
    w.outcome (detectPlatform call (.ofRef r)) =
      .ok ⟨w.nextSerial, (entry windowsContract).isSome, (entry macContract).isSome,
        (entry androidContract).isSome, (entry gonkContract).isSome⟩ := by
  have hcontract (s : String) : ((w.row r : Registry).entryOf? (.ofText s)).isSome =
      (entry s).isSome := by
    rw [hmap.entryOf? (s := s) rfl, Option.isSome_map]
  rw [World.outcome_of_run (h.intact.run_detectPlatform call r), hcontract, hcontract, hcontract,
    hcontract]

omit hs in
/-- The contract ids are answered as a new list. -/
theorem ascending_contractIds : ∃ (l : ListRef) (names : List String),
    w.outcome (contractIds r) = .ok (.list l) ∧
      ((w.after (contractIds r)).items l).map Value.text? = names.map some ∧
      names.Pairwise (· < ·) ∧ ∀ s, s ∈ names ↔ (entry s).isSome = true := by
  obtain ⟨names, hnames, hascending, hmem⟩ := hmap.contractIds
  have hrun := h.intact.run_contractIds r hmap.keyed.texts
  refine ⟨_, names, World.outcome_of_run hrun, ?_, hascending, hmem⟩
  rw [World.after_of_run hrun]
  show ((w.lists.push _).get w.lists.size).map Value.text? = _
  rw [Table.get_push, if_pos rfl, hnames]

omit hs in
/-- A registry that holds what a map has answers by the map. -/
theorem answers : Refines call r entry w where
  entries := hmap.entries
  filed contract found hf := by
    obtain ⟨e, heq, hp, hc⟩ := h.sound.entries contract found hf
    exact ⟨e, heq, hp.filed hc⟩
  captured contract found hf := by
    obtain ⟨serial, e, c, heq, hp, hc⟩ := h.sound.captures contract found hf
    exact ⟨serial, e, c, heq, hp.filed hc⟩
  register _ _ _ p _ hclass hcontract hdescription hs :=
    h.outcome_register hmap call hs hclass hcontract hdescription p
  unregister _ provider _ hs := h.outcome_unregister_iff hmap call hs provider
  getEntry _ _ hs := h.outcome_getEntry hmap call hs
  lookup _ _ hs := h.outcome_lookup hmap call hs
  getService _ capability _ hs := h.outcome_getService hmap call hs capability
  isRegistered _ _ hs := h.outcome_isRegistered hmap hs
  includes := h.outcome_includes hmap call
  platform := h.outcome_detectPlatform hmap call
  contractIds := h.ascending_contractIds hmap
  untouched _ fits _ hother := h.untouched call hmap.keyed fits hother
  unchanged _ fits _ hfail := h.unchanged call hmap.keyed fits hfail

end Sane

/-! ## Every usage -/

namespace Usage

variable {call : Caller} {r : Ref .registry} {w₀ w : World} {as : List Asked}

/-- What is written is written for a text, and an entry for its own contract. -/
theorem text_of_write {q : Demand} (h : Sane r w) (fits : q.Fits r w) {contractId : Value}
    {written : Option Entry} (hwrite : Asked.write? call r ⟨w, q⟩ = some (contractId, written)) :
    (∃ s, contractId.text? = some s) ∧ ∀ e, written = some e → e.contractId = contractId := by
  cases q with
  | ask q => cases hwrite
  | deal d =>
    cases d with
    | register classId description contract p =>
      obtain ⟨⟨_, _, hcontract⟩, _⟩ := fits
      obtain ⟨_, _, heq⟩ := Option.map_eq_some_iff.1 hwrite
      cases heq
      refine ⟨hcontract, fun e he => ?_⟩
      cases he
      rfl
    | unregister contract provider =>
      obtain ⟨v, hok, heq⟩ := Option.map_eq_some_iff.1 hwrite
      cases heq
      refine ⟨?_, fun e he => nomatch he⟩
      rcases h.intact.unregister_cases call r h.sound contractId provider with
        ⟨fault, hrun, _⟩ | ⟨e, _, hp, hc, _⟩
      · have hout : Asked.outcome call r ⟨w, .deal (.unregister contractId provider)⟩ = _ :=
          outcome_perform_unregister call r w contractId provider
        rw [World.outcome_of_run hrun] at hout
        rw [hout] at hok
        cases hok
      · obtain ⟨s, hs, _⟩ := hp.contractId
        exact ⟨s, (Value.beq_iff_of_text? hs).1 hc⟩
    | _ => cases hwrite

/-- What is written to a registry that holds what a map has is written to the map. -/
theorem holds_after {entry : String → Option Entry} {q : Demand} (h : Sane r w)
    (hmap : (w.row r : Registry).Holds entry) (fits : q.Fits r w) :
    ((Asked.after call r ⟨w, q⟩).row r : Registry).Holds fun s =>
      Asked.entry call r ⟨w, q⟩ s (entry s) := by
  have hentries : ((Asked.after call r ⟨w, q⟩).row r : Registry).entries = _ :=
    Asked.entries_after h hmap.keyed fits
  unfold Asked.entry
  cases hwrite : Asked.write? call r ⟨w, q⟩ with
  | none =>
    rw [hwrite] at hentries
    exact hmap.congr hentries
  | some written =>
    obtain ⟨contractId, written⟩ := written
    obtain ⟨htext, hown⟩ := text_of_write h fits hwrite
    rw [hwrite] at hentries
    cases written with
    | none => exact (hmap.unregister htext).congr hentries
    | some e =>
      have hcontract : e.contractId = contractId := hown e rfl
      subst hcontract
      exact (hmap.register htext).congr hentries

/-- A request keeps a registry sane. -/
theorem sane_after {entry : String → Option Entry} {q : Demand} (h : Sane r w)
    (hmap : (w.row r : Registry).Holds entry) (fits : q.Fits r w) :
    Sane r (Asked.after call r ⟨w, q⟩) := by
  cases q with
  | deal d => exact (d.step h fits.1).sane h
  | ask q => exact (h.aside_query call hmap.keyed q).sane h

/-- At any time a registry holds what was written to it last. -/
theorem holds (h : Usage call r w₀ as w) (h₀ : Sane r w₀) (hnew : w₀.row r = ({} : Registry)) :
    Sane r w ∧ (w.row r : Registry).Holds (lastWrite call r as) := by
  induction h with
  | start => exact ⟨h₀, hnew ▸ .empty⟩
  | @request as w before q fits ih =>
    obtain ⟨hsane, hmap⟩ := ih
    refine ⟨sane_after hsane hmap fits, ?_⟩
    have hlast : lastWrite call r (as ++ [⟨w, q⟩]) = fun s =>
        Asked.entry call r ⟨w, q⟩ s (lastWrite call r as s) :=
      funext fun s => lastWrite_append call r as ⟨w, q⟩ s
    rw [hlast]
    exact holds_after hsane hmap fits
  | elsewhere _ aside ih =>
    obtain ⟨hsane, hmap⟩ := ih
    exact ⟨aside.sane hsane, aside.registry ▸ hmap⟩

/-- Whatever was requested of a registry that was new once, it is the map of what was written
last. -/
theorem refines (hintact : w₀.Intact) (hnew : w₀.row r = ({} : Registry))
    (h : Usage call r w₀ as w) : Refines call r (lastWrite call r as) w := by
  have h₀ : Sane r w₀ := ⟨hintact, hnew ▸ .empty⟩
  obtain ⟨hsane, hmap⟩ := h.holds h₀ hnew
  exact hsane.answers hmap call

end Usage

/-! ## A short usage -/

/-- The sample identity is registered, the registry is asked for the contracts, and the sample
identity is removed again. -/
def benchAsked : List Asked :=
  let registered : Asked := ⟨bench, .deal benchRegister.dealing⟩
  let asked : Asked := ⟨registered.after invoke ⟨0⟩, .ask .contractIds⟩
  [registered, asked,
    ⟨asked.after invoke ⟨0⟩,
      .deal (.unregister (.ofText appInfoContract) (.ofRef (⟨0⟩ : Ref .provider)))⟩]

/-- The registry was a map at any time: first with the entry, and then without it. -/
theorem bench_refines :
    Refines invoke ⟨0⟩ (lastWrite invoke ⟨0⟩ benchAsked)
        (benchAsked[2].after invoke ⟨0⟩) ∧
      (lastWrite invoke ⟨0⟩ [benchAsked[0], benchAsked[1]] appInfoContract).isSome = true ∧
      lastWrite invoke ⟨0⟩ benchAsked appInfoContract = none := by
  have h₁ : Usage invoke ⟨0⟩ bench [benchAsked[0]] (benchAsked[0].after invoke ⟨0⟩) :=
    .request .start benchAsked[0].demand ⟨⟨⟨_, rfl⟩, ⟨_, rfl⟩, ⟨_, rfl⟩⟩, rfl⟩
  have h₂ : Usage invoke ⟨0⟩ bench [benchAsked[0], benchAsked[1]]
      (benchAsked[1].after invoke ⟨0⟩) := .request h₁ benchAsked[1].demand trivial
  have h₃ : Usage invoke ⟨0⟩ bench benchAsked (benchAsked[2].after invoke ⟨0⟩) :=
    .request h₂ benchAsked[2].demand ⟨trivial, rfl⟩
  exact ⟨Usage.refines bench_intact rfl h₃, rfl, rfl⟩

end Understudy
