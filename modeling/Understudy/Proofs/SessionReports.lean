import Understudy.Proofs.ContextAtRest

/-!
# What a session reports

A session of an environment on a new registry reports what the settings say and the labels of the
machine, until a stand-in is installed. From then on it reports what the stand-in was asked to be
and what all stand-ins are, and of the host it reports nothing but the vendor. After the
environment was shut down the session reports exactly what it did in the beginning, however many
stand-ins there were and whatever the session did in the meantime.

## Main definitions

* `World.sectionsOf?`: what a dictionary of dictionaries holds.
* `World.Reports`: what a session reports.
* `hostSections`, `Role.sections`: what is reported of the host, and of a stand-in.
* `ContextUse`: what goes on in an environment, with the stand-in that was installed last.

## Main statements

* `World.Shows.run_environment`: a session reports the answers of what is shown.
* `ContextUse.reports`: what a session reports, at any time.
-/

namespace Understudy

/-! ## Reading a report -/

/-- What a pair of a dictionary holds under a text. -/
def titled? {α : Type} (read : Value → Option α) (pair : Value × Value) : Option (String × α) := do
  return (← pair.1.text?, ← read pair.2)

theorem titled?_ofText {α : Type} {read : Value → Option α} {v : Value} {x : α} (title : String)
    (h : read v = some x) : titled? read (.ofText title, v) = some (title, x) := by
  unfold titled?
  rw [h]
  rfl

namespace World

/-- What a dictionary holds under texts. -/
def sectionOf? (w : World) (v : Value) : Option (List (String × Value)) := do
  (← w.pairsOf? v).toList.mapM (titled? some)

/-- What a dictionary of dictionaries holds under texts. -/
def sectionsOf? (w : World) (v : Value) : Option (List (String × List (String × Value))) := do
  (← w.pairsOf? v).toList.mapM (titled? w.sectionOf?)

end World

/-- What a report tells, by sections. -/
def Report.told (r : Report) : List (String × List (String × Value)) :=
  Report.sections.map fun (title, fields) =>
    (title, fields.map fun (name, field) => (name, r.answer field))

theorem mapM_eq_some_map {α β : Type} {l : List α} {f : α → Option β} {g : α → β}
    (h : ∀ x ∈ l, f x = some (g x)) : l.mapM f = some (l.map g) := by
  induction l with
  | nil => rfl
  | cons x rest ih =>
    rw [List.mapM_cons, h x List.mem_cons_self, ih fun y hy => h y (List.mem_cons_of_mem _ hy)]
    rfl

namespace Report

variable (r : Report) (w : World)

/-- The dictionary of a section is read as the section. -/
theorem sectionOf?_dict {d : Nat} (fields : List (String × Field))
    (hd : w.dicts.get d = ⟨fields.map fun (name, field) => (.ofText name, r.answer field)⟩) :
    w.sectionOf? (.dict (.loose d)) =
      some (fields.map fun (name, field) => (name, r.answer field)) := by
  have hpairs : w.pairsOf? (.dict (.loose d)) =
      some ⟨fields.map fun (name, field) => (.ofText name, r.answer field)⟩ :=
    congrArg some hd
  rw [World.sectionOf?, hpairs]
  show List.mapM _ (fields.map _) = _
  rw [List.mapM_map]
  exact mapM_eq_some_map fun _ _ => rfl

/-- The sections of a report become dictionaries, which are read as the sections as long as
there are more dictionaries at most. -/
theorem run_sectionPairs (asked : List (String × List (String × Field))) :
    ∃ (pairs : List (Value × Value)) (dicts : Table Dict),
      w.run (r.sectionPairs asked) = (.ok pairs, { w with dicts := dicts }) ∧
        w.dicts.Grows Eq dicts ∧ ∀ w' : World, dicts.Grows Eq w'.dicts →
          pairs.mapM (titled? w'.sectionOf?) =
            some (asked.map fun (title, fields) =>
              (title, fields.map fun (name, field) => (name, r.answer field))) := by
  induction asked generalizing w with
  | nil => exact ⟨[], w.dicts, rfl, .refl (fun _ => rfl) _, fun _ _ => rfl⟩
  | cons section_ rest ih =>
    obtain ⟨title, fields⟩ := section_
    let dict : Dict := ⟨fields.map fun (name, field) => (.ofText name, r.answer field)⟩
    have hnew : w.run (r.sectionValue fields) =
        (.ok (.dict (.loose w.dicts.size)), { w with dicts := w.dicts.push dict }) := rfl
    obtain ⟨pairs, dicts, hrun, hgrows, hread⟩ := ih { w with dicts := w.dicts.push dict }
    have hthere : w.dicts.size < (w.dicts.push dict).size := by
      rw [Table.size_push]
      exact Nat.lt_succ_self _
    refine ⟨(.ofText title, .dict (.loose w.dicts.size)) :: pairs, dicts, ?_,
      (Table.Grows.push (fun _ => rfl) _ dict).trans (fun _ _ _ => Eq.trans) hgrows,
      fun w' hw' => ?_⟩
    · rw [sectionPairs, World.run_bind_of_run hnew, World.run_bind_of_run hrun]
      rfl
    · have hdict : w'.dicts.get w.dicts.size = dict := by
        have hrow := (hgrows.row w.dicts.size hthere).trans
          (hw'.row w.dicts.size (Nat.lt_of_lt_of_le hthere hgrows.size))
        exact hrow.symm.trans ((Table.get_push _ _ _).trans (if_pos rfl))
      rw [List.mapM_cons, hread w' hw', titled?_ofText title (r.sectionOf?_dict w' fields hdict)]
      rfl

/-- A report becomes a dictionary of dictionaries that tells what the report does. -/
theorem run_toValue : ∃ (v : Value) (dicts : Table Dict),
    w.run r.toValue = (.ok v, { w with dicts := dicts }) ∧
      World.sectionsOf? { w with dicts := dicts } v = some r.told := by
  obtain ⟨pairs, dicts, hrun, _, hread⟩ := r.run_sectionPairs w Report.sections
  have hnew : World.run { w with dicts := dicts } (newDict ⟨pairs⟩) =
      (.ok (.dict (.loose dicts.size)), { w with dicts := dicts.push ⟨pairs⟩ }) := rfl
  refine ⟨_, _, (World.run_bind_of_run hrun).trans hnew, ?_⟩
  have hpairs : World.pairsOf? { w with dicts := dicts.push ⟨pairs⟩ }
      (.dict (.loose dicts.size)) = some ⟨pairs⟩ :=
    congrArg some ((Table.get_push _ _ _).trans (if_pos rfl))
  rw [World.sectionsOf?, hpairs]
  exact hread _ (Table.Grows.push (fun _ => rfl) _ _)

end Report

/-! ## What a session finds -/

/-- What is asked for a field that is found answers it. -/
theorem run_answersOf {w : World} {v : Value} {answer : Field → Value} (call : Caller)
    (hanswers : ∀ f : Field, w.look v f.word = .ok (.held (answer f))) (asked : List Field) :
    w.run (answersOf call v asked) = (.ok (asked.map fun f => (f, answer f)), w) := by
  induction asked with
  | nil => rfl
  | cons f rest ih =>
    have hasked : w.run (answerOf call v f) = (.ok (answer f), w) :=
      run_readAttribute_held call (hanswers f)
    rw [answersOf, World.run_bind_of_run hasked, World.run_bind_of_run ih]
    rfl

namespace World.Shows

variable {w : World} {r : Ref .registry} {c : Ref .component} {s : Ref .session}
  (h : w.Shows r c) (hw : w.Intact) (hs : (w.row s : Session).registry = .ofRef r)
  (hdeclares : (w.row c : Component).capabilities.any (· == .capability .runtime) = true)
  (call : Caller)
include h hw hs hdeclares

/-- A session finds what is shown. -/
theorem run_askIdentity :
    w.run (askSession call s .currentIdentity (currentIdentity call)) = (.ok (.ofRef c), w) := by
  have hasked : w.run (askSession call s .currentIdentity (currentIdentity call)) =
      w.run (currentIdentity call s) := hw.run_request call s [] _ rfl
  rw [hasked, currentIdentity, hw.run_identityService call hs, h.run_getService hw]
  exact run_queryInterface call _ rfl hdeclares

/-- The report of a session is the answers of what is shown. -/
theorem run_reportOf {answer : Field → Value}
    (hanswers : ∀ f : Field, w.look (.ofRef c) f.word = .ok (.held (answer f))) :
    w.run (reportOf call s) = (.ok ⟨answer⟩, w) := by
  rw [reportOf, World.run_bind_of_run (h.run_askIdentity hw hs hdeclares call),
    World.run_bind_of_run (run_answersOf call hanswers Report.order)]
  have hsame : (fun f => ((Report.order.map fun f => (f, answer f)).lookup f).getD .none) =
      answer := by
    funext f
    cases f <;> rfl
  rw [hsame]
  rfl

/-- A session reports the answers of what is shown, and changes nothing. -/
theorem run_environment {answer : Field → Value}
    (hanswers : ∀ f : Field, w.look (.ofRef c) f.word = .ok (.held (answer f))) :
    ∃ (v : Value) (dicts : Table Dict),
      w.run (environment call s) = (.ok v, { w with dicts := dicts }) ∧
        World.sectionsOf? { w with dicts := dicts } v = some (Report.mk answer).told := by
  have hreport := h.run_reportOf hw hs hdeclares call hanswers
  obtain ⟨v, dicts, hrun, htold⟩ := (Report.mk answer).run_toValue w
  exact ⟨v, dicts, (World.run_bind_of_run hreport).trans hrun, htold⟩

end World.Shows

/-- What a session reports: it does so without a fault. -/
def World.Reports (w : World) (s : Ref .session) (told : List (String × List (String × Value))) :
    Prop :=
  ∀ call : Caller, ∃ v, w.outcome (environment call s) = .ok v ∧
    (w.after (environment call s)).sectionsOf? v = some told

/-! ## What is reported -/

/-- What a stand-in is asked to be. -/
structure Role where
  id : Value
  name : Value
  version : Value
  platformVersion : Value

/-- What is reported of a stand-in: what it was asked to be, and what all stand-ins are. -/
def Role.sections (role : Role) (vendor : Value) : List (String × List (String × Value)) :=
  [("build",
      [("vendor", vendor), ("applicationName", role.name), ("applicationId", role.id),
        ("version", role.version), ("buildId", .ofText "2007010101"),
        ("platformVersion", role.platformVersion), ("platformBuildId", .ofText "2007010101")]),
    ("system", [("os", .ofText "XPCShell"), ("abi", .ofText "noarch-spidermonkey")]),
    ("settings", [("safeMode", .bool false), ("logConsoleErrors", .bool true)])]

/-- The overlay that plays a role. -/
def Role.overlay (role : Role) (fallback : Value) : Overlay :=
  .standIn role.id role.name role.version role.platformVersion fallback

/-- What a stand-in answers over something else. -/
def Role.answer (role : Role) (under : Field → Value) (f : Field) : Value :=
  ((role.overlay .none).overrides.get? f).getD (under f)

theorem Role.told_answer (role : Role) (under : Field → Value) :
    (Report.mk (role.answer under)).told = role.sections (under .vendor) := by
  simp only [Report.told, Report.sections, List.map_cons, List.map_nil, answer, overlay,
    Overlay.get?_standIn]
  rfl

/-- A stand-in answers what its role says, and else what is under it answers. -/
theorem Role.look {w : World} {role : Role} {o host : Ref .component} {notes : Dict}
    (ho : w.row o = Component.overlay { role.overlay (.ofRef host) with annotations := notes })
    (hearlier : host.index < o.index) {under : Field → Value}
    (hunder : ∀ f : Field, w.look (.ofRef host) f.word = .ok (.held (under f))) (f : Field) :
    w.look (.ofRef o) f.word = .ok (.held (role.answer under f)) := by
  have hlater (j : Ref .component) (hj : (.ofRef host : Value) = .ofRef j) : j.index < o.index := by
    obtain rfl := Value.ofRef_injective hj
    exact hearlier
  have hlayered : w.Layered (.ofRef o) [(role.overlay .none).overrides] (.ofRef host) :=
    @World.Layered.stacked w o { role.overlay (.ofRef host) with annotations := notes } [] _ ho
      hlater (.bottom _)
  rw [hlayered.look_field, outermost?, List.findSome?_cons, Role.answer]
  cases (role.overlay .none).overrides.get? f with
  | some x => rfl
  | none => exact hunder f

/-! ## An environment in use -/

/-- What is shown where a stand-in plays a role, or none does. -/
def World.Plays (w : World) (r : Ref .registry) (host : Ref .component) : Option Role → Prop
  | none => w.Shows r host
  | some role => ∃ (o : Ref .component) (notes : Dict), w.Shows r o ∧ host.index < o.index ∧
      w.row o = Component.overlay { role.overlay (.ofRef host) with annotations := notes }

theorem World.Plays.retains {w w' : World} {r : Ref .registry} {host : Ref .component}
    {played : Option Role} (h : w.Plays r host played) (hr : w.Retains w')
    (hreg : w'.row r = (w.row r : Registry)) : w'.Plays r host played := by
  cases played with
  | none => exact World.Shows.retains h hr (by rw [hreg])
  | some role =>
    obtain ⟨o, notes, hshows, hearlier, ho⟩ := h
    obtain ⟨notes', ho'⟩ := hr.row_overlay ho
    exact ⟨o, notes', hshows.retains hr (by rw [hreg]), hearlier, ho'⟩

/-- An environment whose host is built with some facts, and in which a role is played. -/
structure InRole (r : Ref .registry) (host : Ref .component) (facts : Facts) (l : ContextParts)
    (c : Ref .context) (played : Option Role) (w : World) : Prop where
  occupied : Occupied r host w
  stands : l.Stands r host c w
  built : ∃ invalidated, w.row host = Component.host facts invalidated
  unassigned (name : String) : w.assigned? host.object name = none
  plays : w.Plays r host played

namespace InRole

variable {r : Ref .registry} {host : Ref .component} {facts : Facts} {l : ContextParts}
  {c : Ref .context} {played played' : Option Role} {w w' : World}
  (h : InRole r host facts l c played w)
include h

theorem continues (hc : w.Continues w') (ho : Occupied r host w')
    (hp : w'.Plays r host played') : InRole r host facts l c played' w' where
  occupied := ho
  stands := h.stands.continues hc
  built := by
    obtain ⟨_, hhost⟩ := h.built
    exact hc.row_host hhost
  unassigned name := (hc.assigned? (.inl rfl) name).trans (h.unassigned name)
  plays := hp

/-- A role is played on as long as the registry is left alone. -/
theorem left (hc : w.Continues w') (hr : w'.row r = (w.row r : Registry)) :
    InRole r host facts l c played w' :=
  h.continues hc (h.occupied.continues hc hr) (h.plays.retains hc.toRetains hr)

theorem undisturbed (hu : w.Undisturbed r w') : InRole r host facts l c played w' :=
  h.left hu.continues hu.registry

/-- A stand-in that is installed plays its role. -/
theorem install (call : Caller) (role : Role) : InRole r host facts l c (some role)
    (w.after (installIn call c role.id role.name role.version role.platformVersion)) := by
  obtain ⟨o, _, _, hinstalled⟩ := h.occupied.install call h.stands.ofHost role.id role.name
    role.version role.platformVersion
  rw [World.after, h.stands.run_installIn h.occupied.sane.intact, ← World.after]
  obtain ⟨notes, hmade⟩ := hinstalled.made
  exact h.continues hinstalled.continues hinstalled.occupied
    ⟨o, notes, hinstalled.shows, hinstalled.earlier, hmade⟩

/-- Once the context was shut down, the host plays itself. -/
theorem shutdown (hc : Considerate r l.session l.policy w) (depth : Nat)
    (hreturns : ∃ v, (w.withRunning l.session false).outcome
      (invokeWithin depth (w.row l.policy : Policy).cancel
        [(w.row l.session : Session).handle]) = .ok v) :
    w.outcome (shutdownContext (invokeWithin depth) c) = .ok () ∧
      InRole r host facts l c none (w.after (shutdownContext (invokeWithin depth) c)) := by
  obtain ⟨hok, hcontinues, hrested⟩ := h.occupied.shutdown h.stands hc depth hreturns
  exact ⟨hok, h.continues hcontinues hrested.occupied hrested.shows⟩

end InRole

end Understudy
