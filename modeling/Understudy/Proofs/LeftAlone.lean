import Understudy.Proofs.Hooks
import Understudy.Proofs.Keeping

/-!
# What is left alone

Environments that share a registry each have a context, an installer, an injector, a session
and a bank of timers of their own. In a later state all of them are still there. What changes
in use is the current stand-in of an installer, whether a session runs, its id, its handle and
its collections, and the timers that a bank keeps track of.

Others leave even more of it alone: whoever has nothing to do with a registry and its
environments changes neither the registry nor what is installed, and starts and stops nobody.

## Main definitions

* `Table.Grows`: what may become of the rows of a table.
* `Bank.Tidy`: a bank that keeps track of timers of timelines only.
* `World.Continues`: everything that was made is still there.
* `World.Undisturbed`: a registry and the environments over it are left alone.

## Main statements

* `World.Undisturbed.continues`: what is left alone is still there.
-/

namespace Understudy

/-! ## Tables that grow -/

/-- A write takes no row away, wherever it goes. -/
theorem Table.size_le_set {α : Type} [Inhabited α] (t : Table α) (i : Nat) (a : α) :
    t.size ≤ (t.set i a).size := by
  obtain ⟨rows⟩ := t
  simp only [size, set]
  induction rows generalizing i with
  | nil => exact Nat.zero_le _
  | cons b rest ih =>
    cases i with
    | zero => exact Nat.le_refl _
    | succ i => exact Nat.succ_le_succ (ih i)

/-- What may become of a table: each of its rows may become another one, and there may be
more of them. -/
structure Table.Grows {α : Type} [Inhabited α] (R : α → α → Prop) (t t' : Table α) : Prop where
  size : t.size ≤ t'.size
  row (i : Nat) (h : i < t.size) : R (t.get i) (t'.get i)

namespace Table.Grows

variable {α : Type} [Inhabited α] {R : α → α → Prop} {t t' t'' : Table α}

theorem refl (hR : ∀ a, R a a) (t : Table α) : t.Grows R t := ⟨Nat.le_refl _, fun _ _ => hR _⟩

theorem of_eq (hR : ∀ a, R a a) (h : t' = t) : t.Grows R t' := h ▸ refl hR t

theorem trans (hR : ∀ a b c, R a b → R b c → R a c) (h : t.Grows R t') (h' : t'.Grows R t'') :
    t.Grows R t'' where
  size := Nat.le_trans h.size h'.size
  row i hi := hR _ _ _ (h.row i hi) (h'.row i (Nat.lt_of_lt_of_le hi h.size))

theorem push (hR : ∀ a, R a a) (t : Table α) (a : α) : t.Grows R (t.push a) where
  size := by
    rw [Table.size_push]
    exact Nat.le_succ _
  row i hi := by
    rw [Table.get_push_of_lt t hi]
    exact hR _

theorem set (hR : ∀ a, R a a) {i : Nat} {a : α} (ha : R (t.get i) a) : t.Grows R (t.set i a) where
  size := Table.size_le_set t i a
  row j _ := by
    rw [Table.get_set]
    by_cases hj : j = i
    · rw [if_pos hj, hj]
      exact ha
    · rw [if_neg hj]
      exact hR _

/-- A row that was added later may be written. -/
theorem set_new (h : t.Grows R t') {i : Nat} (hi : t.size ≤ i) (hi' : i < t'.size) (a : α) :
    t.Grows R (t'.set i a) where
  size := by
    rw [Table.size_set _ hi']
    exact h.size
  row j hj := by
    rw [Table.get_set, if_neg (Nat.ne_of_lt (Nat.lt_of_lt_of_le hj hi))]
    exact h.row j hj

/-- A row that was added may be written at once. -/
theorem push_set (hR : ∀ a, R a a) (t : Table α) (a b : α) :
    t.Grows R ((t.push a).set t.size b) :=
  (push hR t a).set_new (Nat.le_refl _) (by rw [Table.size_push]; exact Nat.lt_succ_self _) b

theorem mono {R' : α → α → Prop} (hR : ∀ a b, R a b → R' a b) (h : t.Grows R t') :
    t.Grows R' t' := ⟨h.size, fun i hi => hR _ _ (h.row i hi)⟩

end Table.Grows

/-! ## What environments are made of -/

/-- An installer without its current stand-in. -/
def Installer.made (installer : Installer) : Installer := { installer with current := .none }

/-- A session without what it does: its id, its collections, whether it runs, its handle. -/
def Session.made (session : Session) : Session :=
  { session with sessionId := .none, collections := [], running := .bool false, handle := .none }

/-- A session that runs or does not run. -/
def Session.Decided (session : Session) : Prop := ∃ b, session.running = .bool b

/-- A bank that arms on a timeline or on none, and keeps track of timers of timelines only. -/
structure Bank.Tidy (bank : Bank) : Prop where
  on : ∃ t, bank.On t
  handles (v : Value) (h : v ∈ bank.active) : ∃ t seq, v = .handle t seq

theorem Bank.Tidy.add {bank : Bank} (h : bank.Tidy) (t : Ref .timeline) (seq : Nat) :
    (bank.add (.handle t seq)).Tidy where
  on := h.on
  handles v hv := by
    unfold Bank.add at hv
    split at hv
    · exact h.handles v hv
    · rcases List.mem_append.1 hv with hv | hv
      · exact h.handles v hv
      · exact ⟨t, seq, List.mem_singleton.1 hv⟩

theorem Bank.Tidy.discard {bank : Bank} (h : bank.Tidy) (handle : Value) :
    (bank.discard handle).Tidy where
  on := h.on
  handles v hv := h.handles v ((List.mem_filter.1 hv).1)

theorem Bank.tidy_empty : Bank.Tidy {} where
  on := ⟨⟨0⟩, .inr rfl⟩
  handles _ hv := nomatch hv

/-- What becomes of a session in use. -/
structure Session.Later (x y : Session) : Prop where
  made : y.made = x.made
  decided (h : x.Decided) : y.Decided

namespace Session.Later

theorem refl (x : Session) : x.Later x := ⟨rfl, fun h => h⟩

theorem trans (x y z : Session) (h : x.Later y) (h' : y.Later z) : x.Later z :=
  ⟨h'.made.trans h.made, fun hx => h'.decided (h.decided hx)⟩

end Session.Later

/-! ## Later states -/

/-- In a later state everything that environments are made of is still there, and it is what it
was but for what changes in use. -/
structure World.Continues (w w' : World) : Prop extends w.Retains w' where
  contexts : w.contexts.Grows Eq w'.contexts
  injectors : w.injectors.Grows Eq w'.injectors
  installers : w.installers.Grows (fun x y => y.made = x.made) w'.installers
  policies : w.policies.Grows (fun _ _ => True) w'.policies
  sessions : w.sessions.Grows Session.Later w'.sessions
  banks : w.banks.Grows (fun x y => x.Tidy → y.Tidy) w'.banks

namespace World.Continues

variable {w w' w'' : World}

theorem trans (h : w.Continues w') (h' : w'.Continues w'') : w.Continues w'' where
  toRetains := h.toRetains.trans h'.toRetains
  contexts := h.contexts.trans (fun _ _ _ => Eq.trans) h'.contexts
  injectors := h.injectors.trans (fun _ _ _ => Eq.trans) h'.injectors
  installers := h.installers.trans (fun _ _ _ hx hy => hy.trans hx) h'.installers
  policies := h.policies.trans (fun _ _ _ _ _ => trivial) h'.policies
  sessions := h.sessions.trans Session.Later.trans h'.sessions
  banks := h.banks.trans (fun _ _ _ hx hy ha => hy (hx ha)) h'.banks

/-- Where only the things are concerned, everything is still there. -/
theorem of_retains (h : w.Retains w') (hcontexts : w'.contexts = w.contexts)
    (hinjectors : w'.injectors = w.injectors) (hinstallers : w'.installers = w.installers)
    (hpolicies : w'.policies = w.policies) (hsessions : w'.sessions = w.sessions)
    (hbanks : w'.banks = w.banks) : w.Continues w' where
  toRetains := h
  contexts := .of_eq (fun _ => rfl) hcontexts
  injectors := .of_eq (fun _ => rfl) hinjectors
  installers := .of_eq (fun _ => rfl) hinstallers
  policies := .of_eq (fun _ => trivial) hpolicies
  sessions := .of_eq Session.Later.refl hsessions
  banks := .of_eq (fun _ h => h) hbanks

theorem of_served (h : w.Served w') : w.Continues w' :=
  of_retains (.of_served h) (by rw [h.frame]) (by rw [h.frame]) (by rw [h.frame])
    (by rw [h.frame]) (by rw [h.frame]) (by rw [h.frame])

theorem of_alike (h : w.Alike w') : w.Continues w' := of_served (.of_alike h)

theorem refl (w : World) : w.Continues w := of_alike (.refl w)

/-- A session may go on. -/
theorem withRow_session {s : Ref .session} {session : Session}
    (hlater : (w.row s : Session).Later session) :
    w.Continues (w.withRow s session) where
  toRetains := .of_eq rfl rfl rfl
  contexts := .refl (fun _ => rfl) _
  injectors := .refl (fun _ => rfl) _
  installers := .of_eq (fun _ => rfl) rfl
  policies := .refl (fun _ => trivial) _
  sessions := Table.Grows.set (R := Session.Later) Session.Later.refl hlater
  banks := .refl (fun _ h => h) _

/-- A bank may lose track of a timer. -/
theorem discard (w : World) (b : Ref .bank) (handle : Value) :
    w.Continues (w.withRow b ((w.row b : Bank).discard handle)) where
  toRetains := .of_eq rfl rfl rfl
  contexts := .refl (fun _ => rfl) _
  injectors := .refl (fun _ => rfl) _
  installers := .of_eq (fun _ => rfl) rfl
  policies := .refl (fun _ => trivial) _
  sessions := .refl Session.Later.refl _
  banks := Table.Grows.set (R := fun x y : Bank => x.Tidy → y.Tidy) (fun _ h => h)
    fun h => h.discard handle

theorem row_context (h : w.Continues w') {c : Ref .context} (hc : c.index < w.contexts.size) :
    w'.row c = (w.row c : Context) := (h.contexts.row c.index hc).symm

theorem row_injector (h : w.Continues w') {j : Ref .injector} (hj : j.index < w.injectors.size) :
    w'.row j = (w.row j : Injector) := (h.injectors.row j.index hj).symm

end World.Continues

/-! ## A registry and its environments left alone -/

/-- A registry and the environments that are there are left alone: at most sessions collected
something, have another handle, and timers were armed or taken. -/
structure World.Undisturbed (r : Ref .registry) (w w' : World) : Prop extends w.Retains w' where
  registry : w'.row r = (w.row r : Registry)
  contexts : w.contexts.Grows Eq w'.contexts
  injectors : w.injectors.Grows Eq w'.injectors
  installers : w.installers.Grows Eq w'.installers
  policies : w.policies.Grows Eq w'.policies
  sessions : w.sessions.Grows (fun x y => y.made = x.made ∧ y.running = x.running) w'.sessions
  banks : w.banks.Grows (fun x y => x.Tidy → y.Tidy) w'.banks

namespace World.Undisturbed

variable {r : Ref .registry} {w w' w'' : World}

theorem continues (h : w.Undisturbed r w') : w.Continues w' where
  toRetains := h.toRetains
  contexts := h.contexts
  injectors := h.injectors
  installers := h.installers.mono fun x y (hx : x = y) => by rw [hx]
  policies := h.policies.mono fun _ _ _ => trivial
  sessions := h.sessions.mono fun _ _ hx => ⟨hx.1, fun ⟨b, hb⟩ => ⟨b, hx.2.trans hb⟩⟩
  banks := h.banks

theorem sane (h : w.Undisturbed r w') (hs : Sane r w) : Sane r w' :=
  ⟨h.intact hs.intact, h.registry ▸ hs.sound⟩

theorem trans (h : w.Undisturbed r w') (h' : w'.Undisturbed r w'') : w.Undisturbed r w'' where
  toRetains := h.toRetains.trans h'.toRetains
  registry := h'.registry.trans h.registry
  contexts := h.contexts.trans (fun _ _ _ => Eq.trans) h'.contexts
  injectors := h.injectors.trans (fun _ _ _ => Eq.trans) h'.injectors
  installers := h.installers.trans (fun _ _ _ => Eq.trans) h'.installers
  policies := h.policies.trans (fun _ _ _ => Eq.trans) h'.policies
  sessions := h.sessions.trans
    (fun _ _ _ hx hy => ⟨hy.1.trans hx.1, hy.2.trans hx.2⟩) h'.sessions
  banks := h.banks.trans (fun _ _ _ hx hy ha => hy (hx ha)) h'.banks

/-- Where only the things are concerned, nobody is disturbed. -/
theorem of_retains (h : w.Retains w') (hregistry : w'.row r = (w.row r : Registry))
    (hcontexts : w'.contexts = w.contexts) (hinjectors : w'.injectors = w.injectors)
    (hinstallers : w'.installers = w.installers) (hpolicies : w'.policies = w.policies)
    (hsessions : w'.sessions = w.sessions) (hbanks : w'.banks = w.banks) :
    w.Undisturbed r w' where
  toRetains := h
  registry := hregistry
  contexts := .of_eq (fun _ => rfl) hcontexts
  injectors := .of_eq (fun _ => rfl) hinjectors
  installers := .of_eq (fun _ => rfl) hinstallers
  policies := .of_eq (fun _ => rfl) hpolicies
  sessions := .of_eq (fun _ => ⟨rfl, rfl⟩) hsessions
  banks := .of_eq (fun _ h => h) hbanks

theorem of_served (h : w.Served w') : w.Undisturbed r w' :=
  of_retains (.of_served h) (h.row_registry r) (by rw [h.frame]) (by rw [h.frame])
    (by rw [h.frame]) (by rw [h.frame]) (by rw [h.frame]) (by rw [h.frame])

theorem of_alike (h : w.Alike w') : w.Undisturbed r w' := of_served (.of_alike h)

theorem refl (w : World) : w.Undisturbed r w := of_alike (.refl w)

/-- A session may collect something and have another handle. -/
theorem withRow_session {s : Ref .session} {session : Session}
    (hmade : session.made = (w.row s : Session).made)
    (hrunning : session.running = (w.row s : Session).running) :
    w.Undisturbed r (w.withRow s session) where
  toRetains := .of_eq rfl rfl rfl
  registry := rfl
  contexts := .refl (fun _ => rfl) _
  injectors := .refl (fun _ => rfl) _
  installers := .refl (fun _ => rfl) _
  policies := .refl (fun _ => rfl) _
  sessions := .set (fun _ => ⟨rfl, rfl⟩) ⟨hmade, hrunning⟩
  banks := .refl (fun _ h => h) _

/-- What is left alone of a session that is there. -/
theorem session (h : w.Undisturbed r w') {s : Ref .session} (hs : s.index < w.sessions.size) :
    (w'.row s : Session).made = (w.row s : Session).made ∧
      (w'.row s : Session).running = (w.row s : Session).running :=
  h.sessions.row s.index hs

/-- A policy that is there keeps its hooks. -/
theorem row_policy (h : w.Undisturbed r w') {p : Ref .policy} (hp : p.index < w.policies.size) :
    w'.row p = (w.row p : Policy) := (h.policies.row p.index hp).symm

end World.Undisturbed

end Understudy
