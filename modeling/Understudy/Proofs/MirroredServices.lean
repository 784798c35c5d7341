import Understudy.Proofs.Fallbacks
import Understudy.Proofs.MirroredRegistries

/-!
# Services in states that mirror each other

Providers in both states hand out the same component, or refuse for the same reason, whether they
count how often they are asked or not.

## Main definitions

* `Captured`: captures of one component.

## Main statements

* `Tally.createInstance`: what a provider hands out, whatever it is asked for.
* `Tally.getService`, `Tally.captureOnce`: what is handed out under a contract.
-/

namespace Understudy

/-! ## Components -/

theorem Value.unstamped_capabilities {declared : List Value}
    (h : ∀ v ∈ declared, ∃ capability, v = .capability capability) :
    declared.map Value.unstamped = declared := by
  refine (List.map_congr_left fun v hv => ?_).trans (List.map_id _)
  obtain ⟨capability, rfl⟩ := h v hv
  rfl

/-- Components with one guise declare the same capabilities. -/
theorem Component.Regular.capabilities {c c' : Ref .component} {x y : Component} (hx : x.Regular c)
    (hy : y.Regular c') (h : x.guise = y.guise) : x.capabilities = y.capabilities := by
  cases x with
  | plain serial declared =>
    cases y with
    | plain serial' declared' =>
      have hsame := (Component.plain.inj h).2
      rwa [Value.unstamped_capabilities hx, Value.unstamped_capabilities hy] at hsame
    | _ => cases h
  | reporter serial declared notes fails =>
    cases y with
    | reporter serial' declared' notes' fails' =>
      have hsame := (Component.reporter.inj h).2.1
      rwa [Value.unstamped_capabilities hx.1, Value.unstamped_capabilities hy.1] at hsame
    | _ => cases h
  | host | sample => cases y <;> first | rfl | cases h
  | overlay => cases y <;> first | rfl | cases h

namespace World.Mirrors

variable {w v : World} (h : w.Mirrors v)
include h

theorem capabilities (c : Ref .component) :
    (w.row c : Component).capabilities = (v.row c : Component).capabilities :=
  (h.left.component c).capabilities (h.right.component c) (h.row c)

end World.Mirrors

namespace Tally

variable {w v : World} (h : w.Mirrors v) (call : Caller)
include h

theorem queryInterface (c : Ref .component) (capability : Capability) :
    Tally Value.Alike w v (Understudy.queryInterface call c (.capability capability))
      (Understudy.queryInterface call c (.capability capability)) := by
  have hsame := h.capabilities c
  cases hc : (w.row c : Component).capabilities.any (· == .capability capability) with
  | true =>
    exact settled (run_queryInterface call _ rfl hc) (run_queryInterface call _ rfl (hsame ▸ hc))
      (.result (.refl _)) h
  | false =>
    exact settled (run_queryInterface_undeclared call (h.left.capability capability) hc)
      (run_queryInterface_undeclared call (h.right.capability capability) (hsame ▸ hc)) (.fault _) h

end Tally

/-! ## Providers -/

/-- A whole number that is counted on is a whole number. -/
theorem World.run_incremented_whole (w : World) (serial : Nat) (m n : Int) :
    ∃ other, w.run (incremented (.int serial m) n) =
      (.ok (.int other (m + n)), w.retold w.log (w.nextSerial + 1)) := by
  have hrun : w.run (incremented (.int serial m) n) =
      (.ok ((Value.ofInt (m + n)).renewed w.nextSerial), w.retold w.log (w.nextSerial + 1)) := by
    rw [World.run_incremented]
    rfl
  rw [hrun, Value.renewed]
  split
  · exact ⟨0, rfl⟩
  · exact ⟨w.nextSerial, rfl⟩

/-- A count that is seen. -/
theorem World.run_countRequest_flaky {w : World} {p : Ref .provider} {c : Value} {serial : Nat}
    {n : Int} {failures : Value} (hp : w.row p = Provider.flaky c (.int serial n) failures) :
    ∃ other, w.run (countRequest p) = (.ok (),
      (w.retold w.log (w.nextSerial + 1)).withRow p (.flaky c (.int other (n + 1)) failures)) := by
  obtain ⟨other, hcounted⟩ := w.run_incremented_whole serial n 1
  refine ⟨other, ?_⟩
  rw [countRequest, run_bind_of_run (run_fetch w p), hp]
  exact run_bind_of_run hcounted

/-- Any other count is not seen. -/
theorem World.Regular.run_countRequest_unseen {w : World} (h : w.Regular) {p : Ref .provider}
    (hp : ∀ c calls failures, w.row p ≠ Provider.flaky c calls failures) :
    ∃ w', w.run (countRequest p) = (.ok (), w') ∧ w'.Regular ∧ w'.guise = w.guise := by
  have hr : (w.row p : Provider).Regular := h.provider p
  rw [countRequest, run_bind_of_run (run_fetch w p)]
  cases hrow : (w.row p : Provider) with
  | host c => exact ⟨w, rfl, h, rfl⟩
  | overlay c => exact ⟨w, rfl, h, rfl⟩
  | counted c calls =>
    rw [hrow] at hr
    obtain ⟨hc, serial, n, rfl⟩ := hr
    obtain ⟨other, hcounted⟩ := w.run_incremented_whole serial n 1
    have hsize : p.index < w.providers.size := Provider.lt_size_of_calls? (by rw [hrow]; rfl)
    have hregular : (w.retold w.log (w.nextSerial + 1)).Regular := h.alike ⟨_, _, rfl⟩
    have hrow' : ((w.retold w.log (w.nextSerial + 1)).row p : Provider) =
        .counted c (.int serial n) := hrow
    refine ⟨_, run_bind_of_run hcounted, hregular.withRow_provider p ⟨hc, other, n + 1, rfl⟩, ?_⟩
    refine guise_withRow_of_eq _ hsize ?_
    rw [hrow']
    rfl
  | flaky c calls failures => exact absurd hrow (hp c calls failures)

/-- A provider fails at first in both, and counts the same there, or in neither. -/
theorem World.Mirrors.provider_cases {w v : World} (h : w.Mirrors v) (p : Ref .provider) :
    (∃ (c : Value) (i j k l : Nat) (n m : Int), c.Names .component ∧
        w.row p = Provider.flaky c (.int i n) (.int k m) ∧
        v.row p = Provider.flaky c (.int j n) (.int l m)) ∨
      (∀ c calls failures, w.row p ≠ Provider.flaky c calls failures) ∧
        ∀ c calls failures, v.row p ≠ Provider.flaky c calls failures := by
  have hsame : (w.row p : Provider).guise = (v.row p : Provider).guise := h.row p
  have hr : (w.row p : Provider).Regular := h.left.provider p
  cases hp : (w.row p : Provider) with
  | flaky c calls failures =>
    rw [hp] at hsame hr
    obtain ⟨hnames, ⟨i, n, rfl⟩, k, m, rfl⟩ := hr
    cases hp' : (v.row p : Provider) with
    | flaky c' calls' failures' =>
      rw [hp'] at hsame
      obtain ⟨hc, hcalls, hfailures⟩ := Provider.flaky.inj hsame
      obtain ⟨j, rfl⟩ := Value.Alike.int hcalls
      obtain ⟨l, rfl⟩ := Value.Alike.int hfailures
      obtain rfl := Value.Alike.eq_of_names hc hnames
      exact .inl ⟨c', i, j, k, l, n, m, hnames, rfl, rfl⟩
    | _ =>
      rw [hp'] at hsame
      cases hsame
  | _ =>
    refine .inr ⟨fun _ _ _ hrow => (nomatch hrow), fun c calls failures hrow => ?_⟩
    rw [hp, hrow] at hsame
    cases hsame

theorem Provider.component_guise (x : Provider) : x.guise.component = x.component.unstamped := by
  cases x <;> rfl

theorem Provider.handOut_guise (x : Provider) (view : Value) :
    x.guise.handOut view.unstamped = (x.handOut view).unstamped := by
  cases x <;> rfl

theorem Provider.Regular.component {x : Provider} (h : x.Regular) :
    x.component.Names .component := by
  cases x with
  | host | overlay => exact h
  | counted | flaky => exact h.1

namespace Tally

variable {w v : World} (h : w.Mirrors v) (call : Caller)
include h

theorem countRequest (p : Ref .provider) :
    Tally (fun _ _ => True) w v (Understudy.countRequest p) (Understudy.countRequest p) := by
  have hretains {u u' : World} (hrun : u.run (Understudy.countRequest p) = (.ok (), u')) :
      u.Retains u' := World.after_of_run hrun ▸ .of_served (served_countRequest u p)
  rcases h.provider_cases p with ⟨c, i, j, k, l, n, m, hc, hp, hp'⟩ | ⟨hp, hp'⟩
  · obtain ⟨i', hrun⟩ := World.run_countRequest_flaky hp
    obtain ⟨j', hrun'⟩ := World.run_countRequest_flaky hp'
    have hnext : (w.retold w.log (w.nextSerial + 1)).Mirrors (v.retold v.log (v.nextSerial + 1)) :=
      h.alike ⟨_, _, rfl⟩ ⟨_, _, rfl⟩
    exact of_run hrun hrun' (.result trivial)
      (hnext.withRow p (hnext.left.withRow_provider p ⟨hc, ⟨i', n + 1, rfl⟩, ⟨k, m, rfl⟩⟩)
        (hnext.right.withRow_provider p ⟨hc, ⟨j', n + 1, rfl⟩, ⟨l, m, rfl⟩⟩) rfl)
      (hretains hrun) (hretains hrun')
  · obtain ⟨w', hrun, hleft, hguise⟩ := h.left.run_countRequest_unseen hp
    obtain ⟨v', hrun', hright, hguise'⟩ := h.right.run_countRequest_unseen hp'
    exact of_run hrun hrun' (.result trivial) ⟨hleft, hright, by rw [hguise, h.same, hguise']⟩
      (hretains hrun) (hretains hrun')

theorem failAtFirst (p : Ref .provider) :
    Tally (fun _ _ => True) w v (Understudy.failAtFirst p) (Understudy.failAtFirst p) := by
  refine bind_run (World.run_fetch w p) (World.run_fetch v p) ?_
  rcases h.provider_cases p with ⟨c, i, j, k, l, n, m, hc, hp, hp'⟩ | ⟨hp, hp'⟩
  · rw [hp, hp']
    refine bind_run (World.run_get w) (World.run_get v) ?_
    refine bind (orFail h (w.ordered "<=" (.int i n) (.int k m))) fun early _ w v h heq => ?_
    subst heq
    cases early with
    | true =>
      refine bind (shown h (x := .int i n) (y := .int j n) trivial rfl) fun t _ w v h heq => ?_
      subst heq
      exact throw h _
    | false => exact pure h trivial
  · cases hrow : (w.row p : Provider) with
    | flaky c calls failures => exact absurd hrow (hp c calls failures)
    | _ =>
      cases hrow' : (v.row p : Provider) with
      | flaky c calls failures => exact absurd hrow' (hp' c calls failures)
      | _ => exact pure h trivial

/-- Both hand out the same component, or refuse for the same reason. -/
theorem createInstance (p : Ref .provider) (outer : Value) (capability : Capability) :
    Tally Value.Alike w v (Understudy.createInstance call p outer (.capability capability))
      (Understudy.createInstance call p outer (.capability capability)) := by
  refine bind (countRequest h p) fun _ _ w v h _ => ?_
  refine bind (failAtFirst h p) fun _ _ w v h _ => ?_
  cases hnone : outer.isNone with
  | false => exact throw h .aggregation
  | true =>
    refine bind_run (World.run_fetch w p) (World.run_fetch v p) ?_
    have hcomponent : (w.row p : Provider).component.Alike (v.row p : Provider).component := by
      rw [Value.Alike, ← Provider.component_guise, show (w.row p : Provider).guise = _ from h.row p]
      exact Provider.component_guise _
    refine bind (request_names h call (h.left.provider p).component hcomponent
      World.contains_queryInterface _ _ fun c _ => queryInterface h call c capability)
      fun view view' w v h hview => ?_
    refine bind_run (World.run_fetch w p) (World.run_fetch v p) ?_
    suffices hhand : Tally Value.Alike w v (Pure.pure ((w.row p : Provider).handOut view))
        (Pure.pure ((v.row p : Provider).handOut view')) from
      congr (by cases (w.row p : Provider) <;> rfl) (by cases (v.row p : Provider) <;> rfl) hhand
    refine pure h ?_
    rw [Value.Alike, ← Provider.handOut_guise, ← Provider.handOut_guise, hview,
      show (w.row p : Provider).guise = _ from h.row p]
    rfl

end Tally

/-! ## Services -/

/-- Captures of one component, with entries that are alike. -/
def Captured (x y : Value) : Prop :=
  ∃ (i j : Nat) (e e' : Entry) (c : Ref .component), e.Alike e' ∧
    x = Capture.toValue ⟨i, e.toValue, .ofRef c⟩ ∧ y = Capture.toValue ⟨j, e'.toValue, .ofRef c⟩

/-- Captures of one component look the same. -/
theorem Captured.alike {x y : Value} (h : Captured x y) : x.Alike y := by
  obtain ⟨i, j, e, e', c, he, rfl, rfl⟩ := h
  show Value.tuple 0 _ = Value.tuple 0 _
  simp only [Value.allUnstamped]
  rw [he.same]

namespace Tally

variable {w v : World} (h : w.Mirrors v) (call : Caller)
include h

/-- Both are handed the same component, or are refused for the same reason. -/
theorem createFrom (p : Ref .provider) (capability : Capability) :
    Tally (Value.One .component) w v
      (Understudy.createFrom call (.ofRef p) (.capability capability))
      (Understudy.createFrom call (.ofRef p) (.capability capability)) := by
  have hcreate : Tally Value.Alike w v
      (Understudy.createFrom call (.ofRef p) (.capability capability))
      (Understudy.createFrom call (.ofRef p) (.capability capability)) :=
    request h call p (w.contains_createInstance p) (v.contains_createInstance p) _ _
      (createInstance h call p .none capability)
  refine { hcreate with concur := ?_ }
  rcases hcreate.concur.cases with ⟨x, y, hx, hy, hxy⟩ | ⟨fault, hx, hy⟩
  · obtain ⟨c, rfl, _⟩ := h.left.intact.serves call hx
    rw [hx, hy, hxy.eq_of_names (.inr ⟨c, rfl⟩)]
    exact .result ⟨c, rfl, rfl⟩
  · rw [hx, hy]
    exact .fault fault

variable (r : Ref .registry) {contract contract' : Value} {s : String}
  (hs : contract.text? = some s) (hc : contract.Alike contract')
include hs hc

theorem getService (capability : Capability) :
    Tally (Value.One .component) w v
      (Understudy.getService call r contract (.capability capability))
      (Understudy.getService call r contract' (.capability capability)) := by
  have hk : contract.unhashable? = none := Value.unhashable?_of_text? hs
  have hk' : contract'.unhashable? = none := Value.unhashable?_of_text? (hc.text?.trans hs)
  rcases h.entry_cases r hs hc with ⟨hnone, hnone'⟩ | ⟨e, e', he, hsome, hsome', _⟩
  · refine settled (h.left.intact.run_getService_absent call r hk hnone _)
      (h.right.intact.run_getService_absent call r hk' hnone' _) ?_ h
    rw [World.Mirrors.unserved hs hc w v]
    exact .fault _
  · obtain ⟨p, hp, hp'⟩ := he.provider
    refine congr (h.left.intact.run_getService call r hk hsome _)
      (h.right.intact.run_getService call r hk' hsome' _) ?_
    rw [hp, hp']
    exact createFrom h call p capability

/-- What is captured first in both is the same component. -/
theorem captureFirst (hnone : (w.row r : Registry).captureOf? contract = none)
    (hnone' : (v.row r : Registry).captureOf? contract' = none) (capability : Capability) :
    Tally Captured w v (Understudy.captureOnce call r contract (.capability capability))
      (Understudy.captureOnce call r contract' (.capability capability)) := by
  have hw := h.left.intact
  have hv := h.right.intact
  have hk : contract.unhashable? = none := Value.unhashable?_of_text? hs
  have hk' : contract'.unhashable? = none := Value.unhashable?_of_text? (hc.text?.trans hs)
  rcases h.entry_cases r hs hc with ⟨habsent, habsent'⟩ | ⟨e, e', he, hsome, hsome', hkey, hkey'⟩
  · refine settled (hw.run_captureOnce_absent call r hk hnone habsent _)
      (hv.run_captureOnce_absent call r hk' hnone' habsent' _) ?_ h
    rw [World.Mirrors.unserved hs hc w v]
    exact .fault _
  · obtain ⟨p, hp, hp'⟩ := he.provider
    refine congr (hw.run_captureOnce_of_entry call r hk hnone hsome _)
      (hv.run_captureOnce_of_entry call r hk' hnone' hsome' _) ?_
    rw [hp, hp']
    -- What is handed out is remembered with the entry, which is the same as before.
    have hcreate := createFrom h call p capability
    refine hcreate.bind_of_outcome fun service service' hok hok' hone => ?_
    obtain ⟨c, rfl, rfl⟩ := hone
    obtain ⟨c₁, hc₁, hserves⟩ := hw.serves call hok
    obtain rfl := Value.ofRef_injective hc₁
    obtain ⟨c₂, hc₂, hserves'⟩ := hv.serves call hok'
    obtain rfl := Value.ofRef_injective hc₂
    have hserved := hw.served_createFrom call p (.capability capability)
    have hserved' := hv.served_createFrom call p (.capability capability)
    obtain ⟨hremember, hlike⟩ :=
      hcreate.mirrors.left.intact.run_remember call r he.left hkey (.ofRef c)
    obtain ⟨hremember', hlike'⟩ :=
      hcreate.mirrors.right.intact.run_remember call r he.right hkey' (.ofRef c)
    refine ⟨?_, (hcreate.mirrors.capture r hs hc he ?_ ?_ _ _ ?_ ?_).alike hlike hlike',
      (World.Retains.withRow_registry _ r _).trans (.of_alike hlike),
      (World.Retains.withRow_registry _ r _).trans (.of_alike hlike')⟩
    · rw [hremember, hremember']
      exact .result ⟨_, _, e, e', c, he, rfl, rfl⟩
    · rw [hserved.row_registry r, hsome]
    · rw [hserved'.row_registry r, hsome']
    · rw [hserved.frame]
      exact hserves.there
    · rw [hserved'.frame]
      exact hserves'.there

/-- What is captured in both is the same component. -/
theorem captureOnce (capability : Capability) :
    Tally Captured w v (Understudy.captureOnce call r contract (.capability capability))
      (Understudy.captureOnce call r contract' (.capability capability)) := by
  rcases h.capture_cases r hs hc with ⟨hnone, hnone'⟩ | ⟨i, j, e, e', c, he, hsome, hsome'⟩
  · exact captureFirst h call r hs hc hnone hnone' capability
  · exact settled
      (h.left.intact.run_captureOnce_of_captured call r (h.left.registry r).sound hsome _)
      (h.right.intact.run_captureOnce_of_captured call r (h.right.registry r).sound hsome' _)
      (.result ⟨i, j, e, e', c, he, rfl, rfl⟩) h

end Tally

end Understudy
