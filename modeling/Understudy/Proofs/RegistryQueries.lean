import Understudy.Proofs.RegistryRequests

/-!
# What a registry answers

Most requests to a registry only ask. They read its entries or its captures, and change
nothing of them, whatever they are asked for and however they end. This module says what
each of them answers, given what the registry holds.

The ids of the contracts are answered in ascending order. Every contract is there once,
because a registry never has two keys for the same text.

## Main definitions

* `Query`: what a registry can be asked.
* `Registry.Keyed`: a registry that has one key for each contract.

## Main statements

* `World.Intact.alike_query`: asking changes nothing.
* `Registry.Keyed.pairwise_contractIds`: contract ids are strictly ascending.
-/

namespace Understudy

/-! ## Queries -/

/-- What a registry can be asked: for an entry, for its provider, whether there is one, whether
something is a contract that has one, for a capture, for the ids of the contracts, and for the
platform. -/
inductive Query where
  | entry (contractId : Value)
  | provider (contractId : Value)
  | registered (contractId : Value)
  | includes (item : Value)
  | captured (contractId : Value)
  | contractIds
  | platform

/-- What is done on a query. -/
def Query.perform (call : Caller) (r : Ref .registry) : Query → Action Value
  | .entry contractId => getEntry call r contractId
  | .provider contractId => lookup call r contractId
  | .registered contractId => do return .bool (← isRegistered r contractId)
  | .includes item => Understudy.includes call r item
  | .captured contractId => Understudy.captured call r contractId
  | .contractIds => Understudy.contractIds r
  | .platform => do return (← detectPlatform call (.ofRef r)).toValue

/-- An action that is known to change nothing is quiet there. -/
theorem World.Alike.of_run {α : Type} {w : World} {a : Action α} {x : Except Fault α}
    (h : w.run a = (x, w)) : w.Alike (w.after a) := by
  rw [after_of_run h]
  exact refl w

namespace World.Intact

variable {w : World} (hw : w.Intact) (call : Caller) (r : Ref .registry)
include hw

/-- A contract is registered if it has an entry. -/
theorem run_isRegistered {contractId : Value} (hk : contractId.unhashable? = none) :
    w.run (isRegistered r contractId) =
      (.ok ((w.row r : Registry).entryOf? contractId).isSome, w) := by
  rw [isRegistered, run_bind_of_run (hw.run_enterEntries r)]
  simp only [holds, run_bind, run_get, run_needKey, hk, run_pure]
  rfl

/-- A text is among the contracts if it has an entry. -/
theorem run_includes {item : Value} {s : String} (h : item.text? = some s) :
    w.run (includes call r item) =
      (.ok (.bool ((w.row r : Registry).entryOf? item).isSome), w) := by
  have hk : item.unhashable? = none := Value.unhashable?_of_text? h
  simp only [includes, h]
  rw [hw.run_request call r _ _ rfl, run_bind_of_run (hw.run_isRegistered r hk)]
  rfl

omit hw in
/-- What is no text is none of the contracts. -/
theorem run_includes_other (w : World) {item : Value} (h : item.text? = none) :
    w.run (includes call r item) = (.ok (.bool false), w) := by
  simp only [includes, h, run_pure]

theorem run_contains {item : Value} {s : String} (h : item.text? = some s) :
    w.run (contains call (.ofRef r) item) =
      (.ok ((w.row r : Registry).entryOf? item).isSome, w) := by
  show w.run (do
    let answer ← includes call r item
    return (← get).truthy answer) = _
  rw [run_bind_of_run (hw.run_includes call r h), run_bind_of_run (run_get w)]
  rfl

/-- The platform is told by four of the contracts. -/
theorem run_detectPlatform :
    w.run (detectPlatform call (.ofRef r)) =
      (.ok ⟨w.nextSerial, ((w.row r : Registry).entryOf? (.ofText windowsContract)).isSome,
          ((w.row r : Registry).entryOf? (.ofText macContract)).isSome,
          ((w.row r : Registry).entryOf? (.ofText androidContract)).isSome,
          ((w.row r : Registry).entryOf? (.ofText gonkContract)).isSome⟩,
        { w with nextSerial := w.nextSerial + 1 }) := by
  have hcontract (s : String) : w.run (contains call (.ofRef r) (.ofText s)) =
      (.ok ((w.row r : Registry).entryOf? (.ofText s)).isSome, w) := hw.run_contains call r rfl
  rw [detectPlatform, run_bind_of_run (hcontract _), run_bind_of_run (hcontract _),
    run_bind_of_run (hcontract _), run_bind_of_run (hcontract _),
    run_bind_of_run (run_freshSerial w)]
  rfl

theorem run_askEntry_absent {contractId : Value} (hk : contractId.unhashable? = none)
    (he : (w.row r : Registry).entryOf? contractId = none) :
    w.run (askEntry call r contractId) = (.error (w.unserved contractId), w) := by
  rw [askEntry, hw.run_request call r _ _ rfl, hw.run_getEntry_absent call r hk he]

/-- What is looked up without an entry is refused. -/
theorem run_lookup_absent {contractId : Value} (hk : contractId.unhashable? = none)
    (he : (w.row r : Registry).entryOf? contractId = none) :
    w.run (lookup call r contractId) = (.error (w.unserved contractId), w) := by
  rw [lookup, run_bind, hw.run_askEntry_absent call r hk he]

/-- It cannot be captured either. -/
theorem run_captureOnce_absent {contractId : Value} (hk : contractId.unhashable? = none)
    (h : (w.row r : Registry).captureOf? contractId = none)
    (he : (w.row r : Registry).entryOf? contractId = none) (capability : Value) :
    w.run (captureOnce call r contractId capability) = (.error (w.unserved contractId), w) := by
  have hcaptured := hw.run_captured call r hk
  rw [h] at hcaptured
  rw [captureOnce_eq, run_bind_of_run hcaptured]
  have hask := hw.run_askEntry_absent call r hk he
  exact (run_bind_of_error (outcome_of_run hask)).trans (by rw [after_of_run hask])

/-- Nor is it served. -/
theorem run_getService_absent {contractId : Value} (hk : contractId.unhashable? = none)
    (he : (w.row r : Registry).entryOf? contractId = none) (capability : Value) :
    w.run (getService call r contractId capability) = (.error (w.unserved contractId), w) := by
  rw [getService, run_bind, hw.run_request call r _ _ rfl, hw.run_lookup_absent call r hk he]

/-- The contracts are answered in order, as a new list. -/
theorem run_contractIds
    (htexts : ∀ k ∈ (w.row r : Registry).entries.keys, ∃ s, k.text? = some s) :
    w.run (contractIds r) =
      (.ok (.list (.loose w.lists.size)),
        { w with lists := w.lists.push (w.row r : Registry).contractIds }) := by
  have hall : ((w.row r : Registry).entries.keys.all fun id => id.text?.isSome) = true := by
    rw [List.all_eq_true]
    intro k hk
    obtain ⟨s, hs⟩ := htexts k hk
    rw [hs]
    rfl
  have hids : w.run (iterate (.dict (.entries r))) = (.ok (w.row r : Registry).entries.keys, w) :=
    rfl
  rw [contractIds, run_bind_of_run (hw.run_enterEntries r), run_bind_of_run hids,
    run_bind_of_run (run_get w)]
  simp only [hall, if_true]
  rfl

/-! ## Asking changes nothing -/

/-- Nothing but the log and the supply of serial numbers changes, the ids of the contracts
apart, which come as a new list. -/
theorem alike_query (hs : (w.row r : Registry).Sound) {q : Query} (hq : q ≠ .contractIds) :
    w.Alike (w.after (q.perform call r)) := by
  cases q with
  | entry contractId =>
    have hask := hw.askEntry_cases call r hs contractId
    rw [askEntry, hw.run_request call r _ _ rfl] at hask
    rcases hask with ⟨_, hrun⟩ | ⟨_, _, _, _, hrun⟩
    · exact .of_run hrun
    · exact .of_run hrun
  | provider contractId =>
    rcases hw.askEntry_cases call r hs contractId with ⟨_, hask⟩ | ⟨e, _, _, _, hask⟩
    · rw [Query.perform, lookup, after, run_bind, hask]
      exact .refl w
    · rw [Query.perform, lookup, after_bind_of_run hask]
      exact quiet_readAttribute call e.toValue (by decide) w
  | registered contractId =>
    rw [Query.perform, after_bind_pure]
    cases hk : contractId.unhashable? with
    | none => exact .of_run (hw.run_isRegistered r hk)
    | some type =>
      rw [isRegistered, after_bind_of_run (hw.run_enterEntries r)]
      simp only [holds, after, run_bind, run_get, run_needKey, hk]
      exact .refl w
  | includes item =>
    cases h : item.text? with
    | none => exact .of_run (run_includes_other call r w h)
    | some s => exact .of_run (hw.run_includes call r h)
  | captured contractId =>
    cases hk : contractId.unhashable? with
    | none => exact .of_run (hw.run_captured call r hk)
    | some type =>
      rw [Query.perform, captured, after_bind_of_run (hw.run_enterCaptures r)]
      simp only [getItem, getFrom, after, run_bind, run_needKey, hk]
      exact .refl w
  | contractIds => exact absurd rfl hq
  | platform =>
    rw [Query.perform, after_bind_pure, after_of_run (hw.run_detectPlatform call r)]
    exact ⟨w.log, w.nextSerial + 1, rfl⟩

end World.Intact

/-! ## One key for each contract -/

/-- A value that counts as a text is the same text. -/
theorem Value.beq_iff_of_text? {a b : Value} {s : String} (h : a.text? = some s) :
    (a == b) = true ↔ b.text? = some s :=
  ⟨fun hab => text?_of_beq hab h, fun hb => beq_of_text? h hb⟩

/-- A registry that has one key for each contract, which is a text. -/
structure Registry.Keyed (reg : Registry) : Prop where
  texts (k : Value) (h : k ∈ reg.entries.keys) : ∃ s, k.text? = some s
  distinct : reg.entries.keys.Pairwise fun a b => a.text? ≠ b.text?

namespace Registry.Keyed

variable {reg : Registry}

theorem empty : Registry.Keyed {} where
  texts _ h := nomatch h
  distinct := .nil

variable (h : reg.Keyed)
include h

/-- A contract has an entry exactly when its key is there. -/
theorem isSome_entryOf? {contract : Value} {s : String} (hs : contract.text? = some s) :
    (reg.entryOf? contract).isSome = true ↔ some s ∈ reg.entries.keys.map Value.text? := by
  rw [entryOf?, OrderedMap.isSome_get?_iff, List.mem_map]
  constructor
  · rintro ⟨k, hk, hsame⟩
    obtain ⟨t, ht⟩ := h.texts k hk
    have heq : contract.text? = some t := (Value.beq_iff_of_text? ht).1 hsame
    exact ⟨k, hk, ht.trans (heq.symm.trans hs)⟩
  · rintro ⟨k, hk, ht⟩
    exact ⟨k, hk, Value.beq_of_text? ht hs⟩

theorem register {e : Entry} (he : ∃ s, e.contractId.text? = some s) : (reg.register e).Keyed := by
  obtain ⟨s, hs⟩ := he
  have hkeys : (reg.register e).entries.keys = if (reg.entryOf? e.contractId).isSome
      then reg.entries.keys else reg.entries.keys ++ [e.contractId] :=
    OrderedMap.keys_put _ _ _
  cases hthere : (reg.entryOf? e.contractId).isSome with
  | true =>
    rw [if_pos hthere] at hkeys
    exact ⟨fun k hk => h.texts k (hkeys ▸ hk), hkeys ▸ h.distinct⟩
  | false =>
    rw [if_neg (Bool.eq_false_iff.1 hthere)] at hkeys
    have hnew : some s ∉ reg.entries.keys.map Value.text? := by
      rw [← h.isSome_entryOf? hs]
      exact Bool.eq_false_iff.1 hthere
    refine ⟨fun k hk => ?_, ?_⟩
    · rw [hkeys, List.mem_append, List.mem_singleton] at hk
      rcases hk with hk | rfl
      · exact h.texts k hk
      · exact ⟨s, hs⟩
    · rw [hkeys, List.pairwise_append]
      refine ⟨h.distinct, List.pairwise_singleton _ _, fun k hk k' hk' heq => ?_⟩
      obtain rfl := List.mem_singleton.1 hk'
      exact hnew (List.mem_map.2 ⟨k, hk, heq.trans hs⟩)

theorem unregister (removed : Value) : (reg.unregister removed).Keyed := by
  have hkeys : (reg.unregister removed).entries.keys =
      reg.entries.keys.filter fun k => !(k == removed) := OrderedMap.keys_erase _ _
  refine ⟨fun k hk => ?_, ?_⟩
  · rw [hkeys] at hk
    exact h.texts k (List.mem_filter.1 hk).1
  · rw [hkeys]
    exact h.distinct.sublist List.filter_sublist

omit h in
theorem contractAtMost_total (a b : Value) : contractAtMost a b || contractAtMost b a := by
  unfold contractAtMost
  cases a.text? with
  | none => cases b.text? <;> rfl
  | some s =>
    cases b.text? with
    | none => rfl
    | some t => simpa using String.le_total s t

omit h in
theorem contractAtMost_trans {a b c : Value} (hab : contractAtMost a b = true)
    (hbc : contractAtMost b c = true) : contractAtMost a c = true := by
  unfold contractAtMost at *
  cases ha : a.text? <;> cases hb : b.text? <;> cases hc : c.text? <;> simp_all
  exact String.le_trans hab hbc

/-- Contract ids are strictly ascending. -/
theorem pairwise_contractIds :
    reg.contractIds.Pairwise fun a b => ∃ s t, a.text? = some s ∧ b.text? = some t ∧ s < t := by
  have hordered : reg.contractIds.Pairwise fun a b => contractAtMost a b = true :=
    @List.pairwise_mergeSort _ contractAtMost (fun _ _ _ => contractAtMost_trans)
      contractAtMost_total _
  have hperm : reg.contractIds.Perm reg.entries.keys := List.mergeSort_perm _ _
  have hdistinct : reg.contractIds.Pairwise fun a b => a.text? ≠ b.text? :=
    (hperm.pairwise_iff fun hne => hne.symm).2 h.distinct
  refine (hordered.and hdistinct).imp_of_mem fun {a b} ha hb hboth => ?_
  obtain ⟨s, hs⟩ := h.texts a (hperm.mem_iff.1 ha)
  obtain ⟨t, ht⟩ := h.texts b (hperm.mem_iff.1 hb)
  obtain ⟨hle, hne⟩ := hboth
  have hst : s ≤ t := by simpa [contractAtMost, hs, ht] using hle
  have hstne : s ≠ t := fun heq => hne (by rw [hs, ht, heq])
  exact ⟨s, t, hs, ht, Std.lt_of_le_of_ne hst hstne⟩

/-- They are the contracts that have an entry. -/
theorem mem_contractIds {contract : Value} {s : String} (hs : contract.text? = some s) :
    some s ∈ reg.contractIds.map Value.text? ↔ (reg.entryOf? contract).isSome = true := by
  rw [h.isSome_entryOf? hs]
  have hperm : reg.contractIds.Perm reg.entries.keys := List.mergeSort_perm _ _
  exact (hperm.map _).mem_iff

end Registry.Keyed

end Understudy
