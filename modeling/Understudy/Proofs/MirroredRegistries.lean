import Understudy.Proofs.Tallying

/-!
# Registries in states that mirror each other

Registries in both states hold entries of the same providers under the same contracts, and captures
of the same components. What is registered or removed in both, and what is asked of both, comes to
the same.

## Main statements

* `Tally.register`, `Tally.unregister`: entries come and go in both.
* `Tally.query`: both are told the same.
-/

namespace Understudy

/-! ## Texts -/

namespace Value

variable {x y : Value} {s : String}

theorem simple_of_text? (h : x.text? = some s) : x.Simple := by
  cases x <;> trivial

/-- Texts that are alike are quoted by the same text. -/
theorem Simple.quoted (hx : x.Simple) (h : x.Alike y) (w v : World) :
    w.quoted x = v.quoted y :=
  hx.congr (f := World.quoted) h
    (fun w v z hz => by
      rw [w.quoted_of_simple hz, v.quoted_of_simple ((unstamped_iff z).2 hz)]
      cases z <;> first | rfl | cases hz) w v

theorem Alike.telling (h : x.Alike y) (hx : x.Telling) : y.Telling := by
  obtain ⟨s, hs, hb⟩ := hx
  exact ⟨s, h.text?.trans hs, hb⟩

end Value

/-! ## Entries -/

/-- Two proper entries that differ in serial numbers at most. -/
structure Entry.Alike (e e' : Entry) : Prop where
  left : e.Proper
  right : e'.Proper
  same : e.toValue.Alike e'.toValue

namespace Entry.Alike

variable {e e' : Entry} (h : e.Alike e')
include h

theorem fields : e.classId.Alike e'.classId ∧ e.description.Alike e'.description ∧
    e.contractId.Alike e'.contractId ∧ e.provider.Alike e'.provider := by
  have hfields := (Value.record.inj h.same).2.2
  simp only [Value.allUnstamped, List.cons.injEq, and_true] at hfields
  exact hfields

theorem provider : ∃ p : Ref .provider, e.provider = .ofRef p ∧ e'.provider = .ofRef p := by
  obtain ⟨p, hp⟩ := h.left.provider
  exact ⟨p, hp, (h.fields.2.2.2.eq_of_names (.inr ⟨p, hp⟩)).trans hp⟩

end Entry.Alike

theorem Entry.alike_of {e e' : Entry} (he : e.Proper) (he' : e'.Proper)
    (hclass : e.classId.Alike e'.classId) (hdescription : e.description.Alike e'.description)
    (hcontract : e.contractId.Alike e'.contractId) (hprovider : e.provider = e'.provider) :
    e.Alike e' := by
  refine ⟨he, he', ?_⟩
  show Value.record .entry 0 _ = Value.record .entry 0 _
  simp only [Value.allUnstamped]
  rw [hclass, hdescription, hcontract, hprovider]

/-! ## What registries hold -/

namespace World.Mirrors

variable {w v : World} (h : w.Mirrors v) (r : Ref .registry) {contract contract' : Value}
  {s : String} (hs : contract.text? = some s) (hc : contract.Alike contract')
include h hs hc

theorem entryOf? :
    ((w.row r : Registry).entryOf? contract).map Value.unstamped =
      ((v.row r : Registry).entryOf? contract').map Value.unstamped := by
  have hentries : (w.row r : Registry).entries.unstamped = (v.row r : Registry).entries.unstamped :=
    congrArg Registry.entries (h.row r)
  rw [Registry.entryOf?, Registry.entryOf?, ← OrderedMap.get?_unstamped _ hs, hentries, hc,
    OrderedMap.get?_unstamped _ (hc.text?.trans hs)]

theorem captureOf? :
    ((w.row r : Registry).captureOf? contract).map Value.unstamped =
      ((v.row r : Registry).captureOf? contract').map Value.unstamped := by
  have hcaptures :
      (w.row r : Registry).captures.unstamped = (v.row r : Registry).captures.unstamped :=
    congrArg Registry.captures (h.row r)
  rw [Registry.captureOf?, Registry.captureOf?, ← OrderedMap.get?_unstamped _ hs, hcaptures, hc,
    OrderedMap.get?_unstamped _ (hc.text?.trans hs)]

/-- A contract has entries that are alike in both, or in neither. -/
theorem entry_cases :
    ((w.row r : Registry).entryOf? contract = none ∧
        (v.row r : Registry).entryOf? contract' = none) ∨
      ∃ e e' : Entry, e.Alike e' ∧
        (w.row r : Registry).entryOf? contract = some e.toValue ∧
        (v.row r : Registry).entryOf? contract' = some e'.toValue ∧
        (e.contractId == contract) = true ∧ (e'.contractId == contract') = true := by
  rcases found_cases (h.entryOf? r hs hc) with hnone | ⟨found, found', hleft, hright, hsame⟩
  · exact .inl hnone
  · obtain ⟨e, rfl, hp, hkey⟩ := (h.left.registry r).sound.entries _ _ hleft
    obtain ⟨e', rfl, hp', hkey'⟩ := (h.right.registry r).sound.entries _ _ hright
    exact .inr ⟨e, e', ⟨hp, hp', hsame⟩, hleft, hright, hkey, hkey'⟩

/-- A contract has captures that are alike in both, or in neither. -/
theorem capture_cases :
    ((w.row r : Registry).captureOf? contract = none ∧
        (v.row r : Registry).captureOf? contract' = none) ∨
      ∃ (i j : Nat) (e e' : Entry) (c : Ref .component), e.Alike e' ∧
        (w.row r : Registry).captureOf? contract = some (Capture.toValue ⟨i, e.toValue, .ofRef c⟩) ∧
        (v.row r : Registry).captureOf? contract' =
          some (Capture.toValue ⟨j, e'.toValue, .ofRef c⟩) := by
  rcases found_cases (h.captureOf? r hs hc) with hnone | ⟨found, found', hleft, hright, hsame⟩
  · exact .inl hnone
  · obtain ⟨i, e, c, rfl, hp, _⟩ := (h.left.registry r).sound.captures _ _ hleft
    obtain ⟨j, e', c', rfl, hp', _⟩ := (h.right.registry r).sound.captures _ _ hright
    have hitems := (Value.tuple.inj hsame).2
    simp only [Value.allUnstamped, Value.unstamped_ofRef, List.cons.injEq, and_true] at hitems
    obtain rfl := Value.ofRef_injective hitems.2
    exact .inr ⟨i, j, e, e', c, ⟨hp, hp', hitems.1⟩, hleft, hright⟩

omit h in
theorem unserved (w v : World) : w.unserved contract = v.unserved contract' := by
  rw [World.unserved, World.unserved, (Value.simple_of_text? hs).quoted hc w v]

end World.Mirrors

/-! ## What is written to registries -/

namespace Registry.Regular

variable {reg : Registry} {components : Nat} (h : reg.Regular components)
include h

theorem register {e : Entry} (he : e.Proper) : (reg.register e).Regular components where
  sound := h.sound.register he
  keyed := h.keyed.register (by
    obtain ⟨s, hs, _⟩ := he.contractId
    exact ⟨s, hs⟩)
  service := h.service

theorem unregister (removed : Value) : (reg.unregister removed).Regular components where
  sound := h.sound.unregister removed
  keyed := h.keyed.unregister removed
  service := h.service

theorem capture {contract : Value} {e : Entry} (he : reg.entryOf? contract = some e.toValue)
    (serial : Nat) {c : Ref .component} (hc : c.index < components) :
    (reg.capture contract ⟨serial, e.toValue, .ofRef c⟩).Regular components where
  sound := h.sound.capture he serial c
  keyed := ⟨h.keyed.texts, h.keyed.distinct⟩
  service other capture c' hf hc' := by
    rw [captureOf?_capture] at hf
    split at hf
    · obtain rfl := Capture.toValue_injective (Option.some.inj hf)
      obtain rfl := Value.ofRef_injective hc'
      exact hc
    · exact h.service other capture c' hf hc'

end Registry.Regular

namespace World.Mirrors

variable {w v : World} (h : w.Mirrors v) (r : Ref .registry)
include h

theorem register {e e' : Entry} (he : e.Alike e') :
    (w.withRow r ((w.row r : Registry).register e)).Mirrors
      (v.withRow r ((v.row r : Registry).register e')) := by
  refine h.withRow r (h.left.withRow_registry r ((h.left.registry r).register he.left))
    (h.right.withRow_registry r ((h.right.registry r).register he.right)) ?_
  obtain ⟨s, hs, _⟩ := he.left.contractId
  obtain ⟨s', hs', _⟩ := he.right.contractId
  have hrow : (w.row r : Registry).guise = (v.row r : Registry).guise := h.row r
  show Registry.mk _ _ = Registry.mk _ _
  rw [Registry.register, Registry.register, OrderedMap.unstamped_put _ hs,
    OrderedMap.unstamped_put _ hs', he.fields.2.2.1, he.same,
    show (w.row r : Registry).entries.unstamped = _ from congrArg Registry.entries hrow,
    show (w.row r : Registry).captures.unstamped = _ from congrArg Registry.captures hrow]
  rfl

theorem unregister {contract contract' : Value} {s : String} (hs : contract.text? = some s)
    (hc : contract.Alike contract') :
    (w.withRow r ((w.row r : Registry).unregister contract)).Mirrors
      (v.withRow r ((v.row r : Registry).unregister contract')) := by
  refine h.withRow r (h.left.withRow_registry r ((h.left.registry r).unregister contract))
    (h.right.withRow_registry r ((h.right.registry r).unregister contract')) ?_
  have hrow : (w.row r : Registry).guise = (v.row r : Registry).guise := h.row r
  show Registry.mk _ _ = Registry.mk _ _
  rw [Registry.unregister, Registry.unregister, OrderedMap.unstamped_erase _ hs,
    OrderedMap.unstamped_erase _ (hc.text?.trans hs), hc,
    show (w.row r : Registry).entries.unstamped = _ from congrArg Registry.entries hrow,
    show (w.row r : Registry).captures.unstamped = _ from congrArg Registry.captures hrow]
  rfl

theorem capture {contract contract' : Value} {s : String} (hs : contract.text? = some s)
    (hc : contract.Alike contract') {e e' : Entry} (he : e.Alike e')
    (hentry : (w.row r : Registry).entryOf? contract = some e.toValue)
    (hentry' : (v.row r : Registry).entryOf? contract' = some e'.toValue) (i j : Nat)
    {c : Ref .component} (hw : c.index < w.components.size) (hv : c.index < v.components.size) :
    (w.withRow r ((w.row r : Registry).capture contract ⟨i, e.toValue, .ofRef c⟩)).Mirrors
      (v.withRow r ((v.row r : Registry).capture contract' ⟨j, e'.toValue, .ofRef c⟩)) := by
  refine h.withRow r (h.left.withRow_registry r ((h.left.registry r).capture hentry i hw))
    (h.right.withRow_registry r ((h.right.registry r).capture hentry' j hv)) ?_
  have hrow : (w.row r : Registry).guise = (v.row r : Registry).guise := h.row r
  have hcapture : (Capture.toValue ⟨i, e.toValue, .ofRef c⟩).Alike
      (Capture.toValue ⟨j, e'.toValue, .ofRef c⟩) := by
    show Value.tuple 0 _ = Value.tuple 0 _
    simp only [Value.allUnstamped]
    rw [he.same]
  show Registry.mk _ _ = Registry.mk _ _
  rw [Registry.capture, Registry.capture, OrderedMap.unstamped_put _ hs,
    OrderedMap.unstamped_put _ (hc.text?.trans hs), hc, hcapture,
    show (w.row r : Registry).entries.unstamped = _ from congrArg Registry.entries hrow,
    show (w.row r : Registry).captures.unstamped = _ from congrArg Registry.captures hrow]
  rfl

end World.Mirrors

/-- Simple values that are alike are quoted by the same text. -/
theorem Tally.quotedText {w v : World} (h : w.Mirrors v) {x y : Value} (hx : x.Simple)
    (hxy : x.Alike y) : Tally Eq w v (Understudy.quotedText x) (Understudy.quotedText y) := by
  refine bind_run (World.run_get w) (World.run_get v) ?_
  rw [hx.quoted hxy w v]
  exact orFail h _

/-! ## Registering -/

namespace Tally

variable {w v : World} (h : w.Mirrors v) (call : Caller) (r : Ref .registry)
include h

/-- A registration is refused in both for the same reason, or displaces entries that are alike. -/
theorem register {classId description contractId classId' description' contractId' : Value}
    {s d t : String} (hs : classId.text? = some s) (hd : description.text? = some d)
    (ht : contractId.text? = some t) (hclass : classId.Alike classId')
    (hdescription : description.Alike description') (hcontract : contractId.Alike contractId')
    (p : Ref .provider) :
    Tally Value.Alike w v (Understudy.register call r classId description contractId (.ofRef p))
      (Understudy.register call r classId' description' contractId' (.ofRef p)) := by
  by_cases htelling : classId.Telling ∧ contractId.Telling
  · obtain ⟨hc, hk⟩ := htelling
    have hp : Entry.Proper ⟨w.nextSerial, classId, description, contractId, .ofRef p⟩ :=
      ⟨hc, hk, ⟨d, hd⟩, ⟨p, rfl⟩⟩
    have hp' : Entry.Proper ⟨v.nextSerial, classId', description', contractId', .ofRef p⟩ :=
      ⟨hclass.telling hc, hcontract.telling hk, ⟨d, hdescription.text?.trans hd⟩, ⟨p, rfl⟩⟩
    obtain ⟨hok, hlike⟩ := h.left.intact.run_register call r (h.left.registry r).sound hp
    obtain ⟨hok', hlike'⟩ := h.right.intact.run_register call r (h.right.registry r).sound hp'
    refine ⟨?_, (h.register r (Entry.alike_of hp hp' hclass hdescription hcontract rfl)).alike hlike
      hlike', (World.Retains.withRow_registry w r _).trans (.of_alike hlike),
      (World.Retains.withRow_registry v r _).trans (.of_alike hlike')⟩
    rw [hok, hok']
    refine .result ?_
    rcases h.entry_cases r ht hcontract with ⟨hnone, hnone'⟩ | ⟨e, e', he, hsome, hsome', _⟩
    · rw [hnone, hnone']
      exact .refl _
    · rw [hsome, hsome']
      exact he.same
  · have hblank : Text.isBlankText s = true ∨ Text.isBlankText t = true :=
      (Classical.not_and_iff_not_or_not.1 htelling).imp (Value.isBlankText_of_not_telling hs)
        (Value.isBlankText_of_not_telling ht)
    exact settled (World.Intact.run_register_blank call r hs ht hblank _ _)
      (World.Intact.run_register_blank call r (hclass.text?.trans hs) (hcontract.text?.trans ht)
        hblank _ _)
      (.fault _) h

/-- An entry is removed in both, or in neither. -/
theorem unregister {contract : Value} {s : String} (hs : contract.text? = some s)
    (provider : Value) :
    Tally (fun _ _ => True) w v (Understudy.unregister call r contract provider)
      (Understudy.unregister call r contract provider) := by
  have hk : contract.unhashable? = none := Value.unhashable?_of_text? hs
  have hrefused
      (hw : ∀ e : Entry, (w.row r : Registry).entryOf? contract = some e.toValue →
        World.indistinct e.provider provider = false)
      (hv : ∀ e : Entry, (v.row r : Registry).entryOf? contract = some e.toValue →
        World.indistinct e.provider provider = false) :
      Tally (fun _ _ => True) w v (Understudy.unregister call r contract provider)
        (Understudy.unregister call r contract provider) :=
    settled (h.left.intact.run_unregister_refused call r (h.left.registry r).sound hk hw)
      (h.right.intact.run_unregister_refused call r (h.right.registry r).sound hk hv)
      (by
        rw [World.Mirrors.unserved hs (.refl contract) w v]
        exact .fault _) h
  rcases h.entry_cases r hs (.refl contract) with
    ⟨hnone, hnone'⟩ | ⟨e, e', he, hsome, hsome', hkey, hkey'⟩
  · exact hrefused (fun e he => nomatch hnone.symm.trans he)
      (fun e he => nomatch hnone'.symm.trans he)
  · obtain ⟨p, hp, hp'⟩ := he.provider
    cases hi : World.indistinct (.ofRef p) provider with
    | true =>
      obtain ⟨hok, hlike⟩ :=
        h.left.intact.run_unregister call r hsome he.left hkey (hp.symm ▸ hi)
      obtain ⟨hok', hlike'⟩ :=
        h.right.intact.run_unregister call r hsome' he.right hkey' (hp'.symm ▸ hi)
      refine ⟨?_, (h.unregister r hs (.refl _)).alike hlike hlike',
        (World.Retains.withRow_registry w r _).trans (.of_alike hlike),
        (World.Retains.withRow_registry v r _).trans (.of_alike hlike')⟩
      rw [hok, hok']
      exact .result trivial
    | false =>
      refine hrefused (fun x hx => ?_) fun x hx => ?_
      · obtain rfl := Entry.toValue_injective (Option.some.inj (hsome.symm.trans hx))
        rwa [hp]
      · obtain rfl := Entry.toValue_injective (Option.some.inj (hsome'.symm.trans hx))
        rwa [hp']

end Tally

/-! ## Queries -/

namespace World.Mirrors

variable {w v : World} (h : w.Mirrors v)
include h

/-- The contracts of both are the same, in the same order. -/
theorem contractIds (r : Ref .registry) :
    (w.row r : Registry).contractIds.map Value.unstamped =
      (v.row r : Registry).contractIds.map Value.unstamped := by
  have hsort (reg : Registry) : reg.contractIds.map Value.unstamped =
      reg.entries.unstamped.keys.mergeSort Registry.contractAtMost := by
    rw [Registry.contractIds, List.map_mergeSort (s := Registry.contractAtMost)]
    · congr 1
      simp [OrderedMap.keys, OrderedMap.unstamped]
    · intro a _ b _
      simp only [Registry.contractAtMost, Value.text?_unstamped]
  rw [hsort, hsort,
    show (w.row r : Registry).entries.unstamped = _ from congrArg Registry.entries (h.row r)]
  rfl

theorem size_lists : w.lists.size = v.lists.size := by
  have hlists : w.guise.lists.size = v.guise.lists.size := by rw [h.same]
  simpa only [World.guise, Table.size_map] using hlists

/-- A list that is new to both. -/
theorem pushList {xs ys : List Value} (hxy : xs.map Value.unstamped = ys.map Value.unstamped) :
    World.Mirrors { w with lists := w.lists.push xs } { v with lists := v.lists.push ys } := by
  refine ⟨{ h.left with }, { h.right with }, ?_⟩
  rw [guise_pushList, guise_pushList, h.same, hxy]

end World.Mirrors

/-- A query about texts. -/
def Query.Fits : Query → Prop
  | .entry contractId | .provider contractId | .registered contractId | .captured contractId =>
    ∃ s, contractId.text? = some s
  | .includes _ | .contractIds | .platform => True

namespace Tally

variable {w v : World} (h : w.Mirrors v) (call : Caller) (r : Ref .registry)
include h

theorem isSome_entryOf? {contract : Value} {s : String} (hs : contract.text? = some s) :
    ((w.row r : Registry).entryOf? contract).isSome =
      ((v.row r : Registry).entryOf? contract).isSome := by
  rcases h.entry_cases r hs (.refl contract) with ⟨hnone, hnone'⟩ | ⟨e, e', _, hsome, hsome', _⟩
  · rw [hnone, hnone']
  · rw [hsome, hsome']
    rfl

theorem query {q : Query} (hq : q.Fits) :
    Tally Value.Alike w v (q.perform call r) (q.perform call r) := by
  have hw := h.left.intact
  have hv := h.right.intact
  cases q with
  | entry contract =>
    obtain ⟨s, hs⟩ := hq
    have hk : contract.unhashable? = none := Value.unhashable?_of_text? hs
    rcases h.entry_cases r hs (.refl contract) with ⟨hnone, hnone'⟩ | ⟨e, e', he, hsome, hsome', _⟩
    · refine settled (hw.run_getEntry_absent call r hk hnone)
        (hv.run_getEntry_absent call r hk hnone') ?_ h
      rw [World.Mirrors.unserved hs (.refl contract) w v]
      exact .fault _
    · exact settled (hw.run_getEntry call r hk hsome) (hv.run_getEntry call r hk hsome')
        (.result he.same) h
  | provider contract =>
    obtain ⟨s, hs⟩ := hq
    have hk : contract.unhashable? = none := Value.unhashable?_of_text? hs
    rcases h.entry_cases r hs (.refl contract) with ⟨hnone, hnone'⟩ | ⟨e, e', he, hsome, hsome', _⟩
    · refine settled (hw.run_lookup_absent call r hk hnone) (hv.run_lookup_absent call r hk hnone')
        ?_ h
      rw [World.Mirrors.unserved hs (.refl contract) w v]
      exact .fault _
    · exact settled (hw.run_lookup call r hk hsome) (hv.run_lookup call r hk hsome')
        (.result he.fields.2.2.2) h
  | registered contract =>
    obtain ⟨s, hs⟩ := hq
    have hk : contract.unhashable? = none := Value.unhashable?_of_text? hs
    refine bind_run (hw.run_isRegistered r hk) (hv.run_isRegistered r hk) ?_
    rw [isSome_entryOf? h r hs]
    exact pure h (.refl _)
  | includes item =>
    cases hs : item.text? with
    | none =>
      exact settled (World.Intact.run_includes_other call r w hs)
        (World.Intact.run_includes_other call r v hs) (.result (.refl _)) h
    | some s =>
      refine settled (hw.run_includes call r hs) (hv.run_includes call r hs) ?_ h
      rw [isSome_entryOf? h r hs]
      exact .result (.refl _)
  | captured contract =>
    obtain ⟨s, hs⟩ := hq
    have hk : contract.unhashable? = none := Value.unhashable?_of_text? hs
    refine settled (hw.run_captured call r hk) (hv.run_captured call r hk) (.result ?_) h
    rcases found_cases (h.captureOf? r hs (.refl contract)) with
      ⟨hnone, hnone'⟩ | ⟨found, found', hleft, hright, hsame⟩
    · rw [hnone, hnone']
      exact .refl _
    · rw [hleft, hright]
      exact hsame
  | contractIds =>
    refine of_run (hw.run_contractIds r (h.left.registry r).keyed.texts)
      (hv.run_contractIds r (h.right.registry r).keyed.texts) (.result ?_)
      (h.pushList (h.contractIds r)) (.of_eq rfl rfl rfl) (.of_eq rfl rfl rfl)
    rw [h.size_lists]
    exact .refl _
  | platform =>
    refine bind_later (hw.run_detectPlatform call r) (hv.run_detectPlatform call r)
      (.of_eq rfl rfl rfl) (.of_eq rfl rfl rfl) ?_
    refine pure (h.alike ⟨_, _, rfl⟩ ⟨_, _, rfl⟩) ?_
    rw [isSome_entryOf? h r (s := windowsContract) rfl, isSome_entryOf? h r (s := macContract) rfl,
      isSome_entryOf? h r (s := androidContract) rfl, isSome_entryOf? h r (s := gonkContract) rfl]
    rfl

end Tally

end Understudy
