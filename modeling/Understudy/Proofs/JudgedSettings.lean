import Understudy.Proofs.AcceptedSettings
import Understudy.Proofs.Mirrors
import Understudy.Proofs.BootstrapAnywhere

/-!
# How a choice is judged

A whole choice is accepted exactly if every value is accepted by its setting and no name is unknown.
Otherwise there is one complaint for each value that is refused, in the order of the settings, and
then one for each unknown name, none of which depends on any other. An interval that was accepted is
more than zero, unless what was chosen for it is no number at all.

## Main definitions

* `Settings.errors`, `Settings.refusals`: what there is to complain about.
* `Settings.Judged`: what becomes of a choice.
* `Value.Numberless`: the values that are taken for what is no number.
* `Configuration.Paced`: settings whose interval is what was chosen.

## Main statements

* `Settings.judged`: every choice is judged as it should be.
* `Settings.paced`: the interval of new settings is more than zero, if it is a number.
-/

namespace Understudy

open Decimal

namespace Setting

variable {name : Setting} {v held : Value} {reason : Reason}

theorem mem_all (name : Setting) : name ∈ all := by cases name <;> decide

theorem word_injective {name other : Setting} (h : name.word = other.word) : name = other := by
  revert h
  cases name <;> cases other <;> decide

/-- Only a name that is no setting is unknown. -/
theorem Refuses.ne_unknownName (h : name.Refuses v reason) : reason ≠ .unknownName := by
  cases h <;> decide

/-- What an identity is read as is a text that is not blank, and the one that was chosen. -/
theorem Reads.of_identity (h : name.Reads v held) (hname : name ∈ hostSettings) :
    ∃ text, held = .ofText text ∧ (∃ c ∈ text.toList, Text.isBlank c = false) ∧
      Settings.identityText? v = some text := by
  cases h with
  | identity _ text mem visible => exact ⟨_, rfl, ⟨_, mem, visible⟩, text⟩
  | level | format | switch | absent | interval => exact absurd hname (by decide)

end Setting

namespace Settings

variable {name : Setting} {v held : Value} {reason : Reason} {choice : Choice}
  {unknown : List String}

/-! ## Whole choices -/

/-- What a reading yields of a value is what is made of the value. -/
theorem chosen_of_map {α : Type} {read : Value → Except Reason α} {f : α → Value} (default : α)
    (h : (read v).map f = .ok held) : f (chosen read (some v) default) = held := by
  simp only [chosen, Option.map_some]
  cases hr : read v with
  | ok a =>
    rw [hr] at h
    exact Except.ok.inj h
  | error reason =>
    rw [hr] at h
    cases h

/-- A setting holds what it makes of the value chosen for it. -/
theorem get_ofChoice_of_some (hc : choice name = some v) (h : name.Reads v held) :
    (ofChoice choice).get name = held := by
  have hjudge := h.judge
  cases name with
  | dailyInterval =>
    have hchosen := @chosen_of_map _ _ _ readInterval _ none hjudge
    simp only [get, ofChoice, hc]
    rw [← hchosen]
    cases chosen readInterval (some v) none <;> rfl
  | _ =>
    simp only [get, ofChoice, hc]
    exact chosen_of_map _ hjudge

/-- A setting that no value is chosen for holds its default. -/
theorem get_ofChoice_of_none (hc : choice name = none) :
    (ofChoice choice).get name = ({} : Settings).get name := by
  cases name <;> simp only [ofChoice, get, chosen, hc, Option.map_none]

/-- The complaints about a choice, if there are any. -/
def errors (choice : Choice) (unknown : List String) : List Complaint :=
  match validate choice unknown with
  | .ok _ => []
  | .error told => told

theorem errors_eq (choice : Choice) (unknown : List String) :
    errors choice unknown = complaints choice unknown := by
  unfold errors validate
  cases complaints choice unknown <;> rfl

/-- The settings whose values are refused, in order, with the reasons. -/
def refusals (choice : Choice) : List (Setting × Reason) :=
  Setting.all.filterMap fun name =>
    ((choice name).bind (objection name)).map fun reason => (name, reason)

/-- The complaint about a setting. -/
def complaintOf (refused : Setting × Reason) : Complaint := ⟨refused.1.word, refused.2⟩

theorem complaints_eq (choice : Choice) (unknown : List String) :
    complaints choice unknown =
      (refusals choice).map complaintOf ++ unknown.map fun other => ⟨other, .unknownName⟩ := by
  simp [complaints, refusals, complaintOf, List.map_filterMap, Option.map_map, Function.comp_def]

theorem mem_refusals :
    (name, reason) ∈ refusals choice ↔ ∃ v, choice name = some v ∧ name.Refuses v reason := by
  simp only [refusals, List.mem_filterMap, Option.map_eq_some_iff, Option.bind_eq_some_iff,
    objection_eq_some_iff, Prod.mk.injEq]
  constructor
  · rintro ⟨_, _, _, ⟨v, hv, hr⟩, rfl, rfl⟩
    exact ⟨v, hv, hr⟩
  · rintro ⟨v, hv, hr⟩
    exact ⟨name, name.mem_all, reason, ⟨v, hv, hr⟩, rfl, rfl⟩

/-- The settings are complained about in their own order, and each once at most. -/
theorem sublist_refusals (choice : Choice) :
    ((refusals choice).map Prod.fst).Sublist Setting.all := by
  have hfilter : (refusals choice).map Prod.fst =
      Setting.all.filter fun name => ((choice name).bind (objection name)).isSome := by
    rw [refusals, List.map_filterMap, ← List.filterMap_eq_filter]
    congr 1
    funext name
    cases h : (choice name).bind (objection name) <;> simp [Option.guard, h]
  rw [hfilter]
  exact List.filter_sublist

/-- Nothing is complained about exactly if every value is accepted. -/
theorem refusals_eq_nil_iff :
    refusals choice = [] ↔ ∀ name v, choice name = some v → ∃ held, name.Reads v held := by
  simp only [refusals, List.filterMap_eq_nil_iff, Option.map_eq_none_iff, Option.bind_eq_none_iff,
    objection_eq_none_iff]
  exact ⟨fun h name v => h name name.mem_all v, fun h name _ v => h name v⟩

/-- Settings that agree in all but one value are complained about alike in all but one. -/
theorem filter_refusals {choice' : Choice} (h : ∀ other ≠ name, choice' other = choice other) :
    (refusals choice').filter (fun refused => refused.1 != name) =
      (refusals choice).filter fun refused => refused.1 != name := by
  simp only [refusals, List.filter_filterMap]
  congr 1
  funext other
  by_cases ho : other = name
  · subst ho
    cases (choice' other).bind (objection other) <;> cases (choice other).bind (objection other) <;>
      simp [Option.filter]
  · rw [h other ho]

/-! ## New settings -/

/-- A setting that was chosen holds what the setting makes of its value, be it the very same. -/
theorem alike_held (serial : Nat) (h : name.Reads v held) :
    (Configuration.held serial name v held).Alike held := by
  unfold Configuration.held
  split
  · rename_i hkeeps
    split
    · cases h with
      | identity _ text =>
        cases text
        rfl
      | level | format => cases hkeeps
    · cases h with
      | interval stands =>
        cases stands with
        | float => rfl
        | spelled text => cases text
    · exact Value.unstamped_renewed _ _
  · rfl

/-- Settings are refused with all that is wrong with them. -/
theorem run_newSettings_of_error {w w' : World} {direct : List (String × Value)}
    {sources : Sources} {told : List Complaint}
    (hread : w.run (readSources direct) = (.ok sources, w'))
    (h : validate sources.choice sources.unknown = .error told) :
    w.run (newSettings direct) = (.error (.refusedSettings told), w') := by
  have hvalid : sources.validate = .error told := h
  rw [newSettings, World.run_bind_of_run hread, hvalid]
  rfl

/-- Settings that are accepted are one more row of settings. -/
theorem run_newSettings_of_ok {w w' : World} {direct : List (String × Value)} {sources : Sources}
    {s : Settings} (hread : w.run (readSources direct) = (.ok sources, w'))
    (h : validate sources.choice sources.unknown = .ok s) :
    w.run (newSettings direct) = (.ok ⟨w'.settings.size⟩,
      { w' with
        nextSerial := w'.nextSerial + Setting.all.length
        settings := w'.settings.push (.ofChoice w'.nextSerial sources.choice s) }) := by
  have hvalid : sources.validate = .ok s := h
  rw [newSettings, World.run_bind_of_run hread, hvalid]
  rfl

theorem row_newSettings_of_ok {w w' : World} {direct : List (String × Value)} {sources : Sources}
    {s : Settings} (hread : w.run (readSources direct) = (.ok sources, w'))
    (h : validate sources.choice sources.unknown = .ok s) :
    ((w.after (newSettings direct)).row (⟨w'.settings.size⟩ : Ref .settings) : Configuration) =
      .ofChoice w'.nextSerial sources.choice s := by
  rw [World.after_of_run (run_newSettings_of_ok hread h)]
  exact (Table.get_push w'.settings _ _).trans (if_pos rfl)

/-- The default of an identity is not blank. -/
theorem visible_default (h : name ∈ hostSettings) :
    ∃ text, ({} : Settings).get name = .ofText text ∧ ∃ c ∈ text.toList, Text.isBlank c = false := by
  simp only [hostSettings, List.mem_cons, List.not_mem_nil, or_false] at h
  rcases h with rfl | rfl | rfl | rfl | rfl | rfl | rfl <;>
    exact ⟨_, rfl, by simp [Text.isBlank, Text.isWhiteSpace]⟩

theorem validate_cases (choice : Choice) (unknown : List String) :
    (complaints choice unknown = [] ∧ validate choice unknown = .ok (ofChoice choice)) ∨
      (complaints choice unknown ≠ [] ∧
        validate choice unknown = .error (complaints choice unknown)) := by
  unfold validate
  cases complaints choice unknown with
  | nil => exact .inl ⟨rfl, rfl⟩
  | cons => exact .inr ⟨nofun, rfl⟩

theorem complaints_eq_nil_iff : complaints choice unknown = [] ↔
    unknown = [] ∧ ∀ name v, choice name = some v → ∃ held, name.Reads v held := by
  rw [complaints_eq, List.append_eq_nil_iff, List.map_eq_nil_iff, List.map_eq_nil_iff,
    refusals_eq_nil_iff, and_comm]

theorem holds_of_accepted {s : Settings} (h : validate choice unknown = .ok s) (name : Setting) :
    match choice name with
    | some v => name.Reads v (s.get name)
    | none => s.get name = ({} : Settings).get name := by
  obtain ⟨hnil, rfl⟩ := (validate_eq_ok_iff ..).1 h
  cases hc : choice name with
  | none => exact get_ofChoice_of_none hc
  | some v =>
    obtain ⟨held, hr⟩ := (complaints_eq_nil_iff.1 hnil).2 name v hc
    simpa only [get_ofChoice_of_some hc hr] using hr

/-- What settings hold once they are in use is what was accepted. -/
theorem alike_ofChoice (serial : Nat) {s : Settings} (h : validate choice unknown = .ok s)
    (name : Setting) : ((Configuration.ofChoice serial choice s).get name).Alike (s.get name) := by
  have hholds := holds_of_accepted h name
  simp only [Configuration.ofChoice]
  cases hc : choice name with
  | none => exact .refl _
  | some v =>
    rw [hc] at hholds
    exact alike_held serial hholds

/-- Whether a complaint is about anything else than a setting. -/
def elsewhere (name : Setting) (told : Complaint) : Bool :=
  told.place != name.word || told.reason == .unknownName

/-- The complaints about other settings are those about what else is refused. -/
theorem filter_complaintOf (choice : Choice) (name : Setting) :
    ((refusals choice).map complaintOf).filter (elsewhere name) =
      ((refusals choice).filter fun refused => refused.1 != name).map complaintOf := by
  rw [List.filter_map]
  congr 1
  refine List.filter_congr fun refused hmem => ?_
  obtain ⟨v, -, hr⟩ := mem_refusals.1 hmem
  have hreason : (refused.2 == .unknownName) = false := by simpa using hr.ne_unknownName
  have hplace : (refused.1.word != name.word) = (refused.1 != name) := by
    rw [bne, bne, Bool.not_inj_iff, Bool.eq_iff_iff, beq_iff_eq, beq_iff_eq]
    exact ⟨Setting.word_injective, congrArg Setting.word⟩
  simp only [Function.comp_apply, elsewhere, complaintOf, hreason, hplace, Bool.or_false]

/-- What is to be said of a choice and of names that are no settings. -/
structure Judged (choice : Choice) (unknown : List String) : Prop where
  /-- It is accepted exactly if no name is unknown and every value is accepted. -/
  accepts : (∃ s, validate choice unknown = .ok s) ↔
    unknown = [] ∧ ∀ name v, choice name = some v → ∃ held, name.Reads v held
  /-- What is not accepted is refused. -/
  decides : ∀ name v, (∃ held, Setting.Reads name v held) ↔ ¬∃ reason, Setting.Refuses name v reason
  /-- Every setting then holds what it makes of its value, or its default. -/
  holds : ∀ s, validate choice unknown = .ok s → ∀ name,
    match choice name with
    | some v => name.Reads v (s.get name)
    | none => s.get name = ({} : Settings).get name
  /-- Identities are not blank, and those that were chosen are as they were chosen. -/
  identities : ∀ s, validate choice unknown = .ok s → ∀ name ∈ hostSettings,
    ∃ text, s.get name = .ofText text ∧ (∃ c ∈ text.toList, Text.isBlank c = false) ∧
      ∀ v, choice name = some v → identityText? v = some text
  /-- Otherwise each value that is refused is complained about once, in the order of the
  settings, and then each unknown name, in the order in which they stand. -/
  complains : ∃ refused : List (Setting × Reason),
    errors choice unknown =
        refused.map complaintOf ++ unknown.map (fun other => ⟨other, .unknownName⟩) ∧
      (refused.map Prod.fst).Sublist Setting.all ∧
      ∀ name reason, (name, reason) ∈ refused ↔
        ∃ v, choice name = some v ∧ name.Refuses v reason
  /-- What is chosen for one setting has no bearing on the complaints about anything else. -/
  apart : ∀ (choice' : Choice) (name : Setting), (∀ other ≠ name, choice' other = choice other) →
    (errors choice' unknown).filter (elsewhere name) = (errors choice unknown).filter (elsewhere name)
  /-- New settings are made or refused in just this way, wherever the values come from. -/
  made : ∀ (w : World) (direct : List (String × Value)) (sources : Sources),
    w.outcome (readSources direct) = .ok sources → sources.choice = choice →
      sources.unknown = unknown →
    match validate choice unknown with
    | .error told => w.outcome (newSettings direct) = .error (.refusedSettings told)
    | .ok s => ∃ cfg, w.outcome (newSettings direct) = .ok cfg ∧
        ∀ name, (((w.after (newSettings direct)).row cfg : Configuration).get name).Alike
          (s.get name)

/-- Whatever is chosen, and whatever names are unknown, is judged as it should be. -/
theorem judged (choice : Choice) (unknown : List String) : Judged choice unknown where
  accepts := by
    rw [← complaints_eq_nil_iff]
    rcases validate_cases choice unknown with ⟨hnil, h⟩ | ⟨hne, h⟩
    · exact iff_of_true ⟨_, h⟩ hnil
    · exact iff_of_false (by rw [h]; nofun) hne
  decides := reads_iff_not_refuses
  holds s h := holds_of_accepted h
  identities s h name hname := by
    have hholds := holds_of_accepted h name
    cases hc : choice name with
    | none =>
      rw [hc] at hholds
      obtain ⟨text, htext, hvisible⟩ := visible_default hname
      exact ⟨text, hholds.trans htext, hvisible, nofun⟩
    | some v =>
      rw [hc] at hholds
      obtain ⟨text, htext, hvisible, hv⟩ := hholds.of_identity hname
      refine ⟨text, htext, hvisible, ?_⟩
      rintro _ ⟨⟩
      exact hv
  complains := by
    refine ⟨refusals choice, ?_, sublist_refusals choice, fun _ _ => mem_refusals⟩
    rw [errors_eq, complaints_eq]
  apart choice' name h := by
    simp only [errors_eq, complaints_eq, List.filter_append, filter_complaintOf,
      filter_refusals h]
  made w direct sources hread hc hu := by
    subst hc hu
    have hrun : w.run (readSources direct) = (.ok sources, w.after (readSources direct)) :=
      Prod.ext hread rfl
    cases h : validate sources.choice sources.unknown with
    | error told => exact World.outcome_of_run (run_newSettings_of_error hrun h)
    | ok s =>
      refine ⟨_, World.outcome_of_run (run_newSettings_of_ok hrun h), fun name => ?_⟩
      rw [row_newSettings_of_ok hrun h]
      exact alike_ofChoice _ h name

/-- Sources with four things wrong. -/
def fourWrong : Sources :=
  ({} : Surroundings).sources {} []
    [("nope", .none), ("daily_interval_seconds", .ofText "-1"), ("log_dump", .ofInt 2),
      ("host_id", .ofText " ")] [] false

/-- The complaints about them. -/
def fourTold : List Complaint :=
  [⟨"log_dump", .unreadableSwitch⟩, ⟨"host_id", .blank⟩, ⟨"daily_interval_seconds", .notPositive⟩,
    ⟨"nope", .unknownName⟩]

/-- What is chosen there once the switch is repaired. -/
def threeWrong : Choice := fun name =>
  if name = .logDump then some (.ofText "YES") else fourWrong.choice name

/-- Each of four things is complained about in its place, also once one of them is repaired. -/
theorem fourWrong_judged :
    Judged fourWrong.choice fourWrong.unknown ∧
      errors fourWrong.choice fourWrong.unknown = fourTold ∧
      (∀ other ≠ Setting.logDump, threeWrong other = fourWrong.choice other) ∧
      (errors threeWrong fourWrong.unknown).filter (elsewhere .logDump) = fourTold.tail := by
  have hjudged := judged fourWrong.choice fourWrong.unknown
  have htold : errors fourWrong.choice fourWrong.unknown = fourTold := by
    rw [errors_eq]
    decide +kernel
  have hsame : ∀ other ≠ Setting.logDump, threeWrong other = fourWrong.choice other :=
    fun other hne => if_neg hne
  refine ⟨hjudged, htold, hsame, ?_⟩
  rw [hjudged.apart threeWrong .logDump hsame, htold]
  decide +kernel

/-! ## The interval -/

end Settings

/-- The values that are taken for what is no number. -/
inductive Value.Numberless : Value → Prop
  | float {k : Nat} {x : Float} (broken : x.isNaN = true) : Numberless (.float k x)
  | spelled {v : Value} {s : String} (text : v.text? = some s) (spells : Spells s .nan) :
      Numberless v

theorem isNaN_truth (b : Bool) : (if b then (1.0 : Float) else 0.0).isNaN = false := by
  have hone : (1.0 : Float).isNaN = false := isNaN_ofScientific 10 true 1
  have hzero : (0.0 : Float).isNaN = false := isNaN_ofScientific 0 true 1
  cases b with
  | true => rwa [if_pos rfl]
  | false => rwa [if_neg Bool.false_ne_true]

/-- What a value stands for is no number only if the value says so. -/
theorem Value.Measures.isNaN_iff {v : Value} {x : Float} (h : v.Measures x) :
    x.isNaN = true ↔ v.Numberless := by
  cases h with
  | truth b =>
    refine iff_of_false (Bool.eq_false_iff.1 (isNaN_truth b)) fun hb => ?_
    cases hb with
    | spelled text _ => cases text
  | whole near =>
    refine iff_of_false (Bool.eq_false_iff.1 (isNaN_of_floatOfInt? near)) fun hb => ?_
    cases hb with
    | spelled text _ => cases text
  | float k x =>
    refine ⟨.float, fun hb => ?_⟩
    cases hb with
    | float broken => exact broken
    | spelled text _ => cases text
  | @spelled _ s n text spells =>
    rw [isNaN_toFloat]
    constructor
    · rintro rfl
      exact .spelled text spells
    · intro hb
      cases hb with
      | float => cases text
      | spelled text' spells' =>
        -- A text spells one number only.
        cases text.symm.trans text'
        have hread := readLoosely?_eq_some_iff.2 ⟨_, spells, rfl⟩
        rw [readLoosely?_eq_some_iff.2 ⟨_, spells', rfl⟩] at hread
        exact (isNaN_toFloat n).1 (Option.some.inj hread ▸ (isNaN_toFloat .nan).2 rfl)

/-- The interval of settings is the one that was chosen, if one was, and it is more than zero unless
what was chosen for it is no number. -/
def Configuration.Paced (c : Configuration) (choice : Settings.Choice) : Prop :=
  match choice .dailyInterval with
  | none => c.get .dailyInterval = .none
  | some given =>
    (given = .none ∧ c.get .dailyInterval = .none) ∨
      ∃ k x, c.get .dailyInterval = .float k x ∧ given.Measures x ∧ (0 < x ↔ ¬given.Numberless)

/-- Floats that are alike are the same. -/
theorem Value.Alike.float {i : Nat} {x : Float} {y : Value} (h : (Value.float i x).Alike y) :
    ∃ j, y = .float j x := by
  cases y with
  | float j x' =>
    obtain rfl : x = x' := (Value.float.inj h).2
    exact ⟨j, rfl⟩
  | _ => cases h

namespace Settings

variable {choice : Choice} {unknown : List String} {s : Settings}

theorem paced_ofChoice (serial : Nat) (h : validate choice unknown = .ok s) :
    (Configuration.ofChoice serial choice s).Paced choice := by
  have hholds := holds_of_accepted h .dailyInterval
  have halike := alike_ofChoice serial h .dailyInterval
  unfold Configuration.Paced
  cases hc : choice .dailyInterval with
  | none =>
    rw [hc] at hholds
    exact halike.symm.eq_none hholds
  | some given =>
    rw [hc] at hholds
    generalize s.get .dailyInterval = held at hholds halike
    cases hholds with
    | identity hname => exact absurd hname (by decide)
    | absent => exact .inl ⟨rfl, halike.symm.eq_none rfl⟩
    | interval stands positive =>
      obtain ⟨k, hk⟩ := Value.Alike.float halike.symm
      refine .inr ⟨k, _, hk, stands, ?_⟩
      rw [zero_lt_iff, ← stands.isNaN_iff]
      simp [positive]

theorem paced_newSettings {w : World} {direct : List (String × Value)} {cfg : Ref .settings}
    (h : w.outcome (newSettings direct) = .ok cfg) :
    ∃ sources, w.outcome (readSources direct) = .ok sources ∧
      ((w.after (newSettings direct)).row cfg : Configuration).Paced sources.choice := by
  obtain ⟨sources, hsources, -⟩ := World.outcome_bind_eq_ok.1 h
  have hread : w.run (readSources direct) = (.ok sources, w.after (readSources direct)) :=
    Prod.ext hsources rfl
  refine ⟨sources, hsources, ?_⟩
  cases hvalid : validate sources.choice sources.unknown with
  | error told =>
    rw [World.outcome_of_run (run_newSettings_of_error hread hvalid)] at h
    cases h
  | ok s =>
    rw [World.outcome_of_run (run_newSettings_of_ok hread hvalid)] at h
    obtain rfl := Except.ok.inj h
    rw [row_newSettings_of_ok hread hvalid]
    exact paced_ofChoice _ hvalid

/-- What is handed over directly for a file of variables. -/
def fileGiven (envFile : Option String) : List (String × Value) :=
  match envFile with
  | some name => if name = "" then [] else [("_env_file", .ofText name)]
  | none => []

theorem settingsFromFile_eq (envFile : Option String) :
    settingsFromFile envFile = newSettings (fileGiven envFile) := by
  cases envFile <;> rfl

/-- The interval of new settings is the one that was chosen, if one was, and it is more than zero
unless what was chosen is no number. -/
theorem paced (w : World) (cfg : Ref .settings) :
    (∀ direct, w.outcome (newSettings direct) = .ok cfg → ∃ sources,
      w.outcome (readSources direct) = .ok sources ∧
        ((w.after (newSettings direct)).row cfg : Configuration).Paced sources.choice) ∧
    ∀ envFile, w.outcome (settingsFromFile envFile) = .ok cfg → ∃ sources,
      w.outcome (readSources (fileGiven envFile)) = .ok sources ∧
        ((w.after (settingsFromFile envFile)).row cfg : Configuration).Paced sources.choice := by
  refine ⟨fun direct h => paced_newSettings h, fun envFile h => ?_⟩
  rw [settingsFromFile_eq] at h ⊢
  exact paced_newSettings h

/-- A state whose environment has a variable that spells ten. -/
def tenChosen : World :=
  { surroundings := { environment := [("HOSTSHIM_DAILY_INTERVAL_SECONDS", "1_0")] } }

/-- Ten is accepted for an interval, whichever way the settings are made. -/
theorem tenChosen_paced :
    let cfg : Ref .settings := ⟨0⟩
    let sources := tenChosen.surroundings.sources {} [] [] [] false
    sources.choice .dailyInterval = some (.ofText "1_0") ∧
      tenChosen.outcome (newSettings []) = .ok cfg ∧
      tenChosen.outcome (settingsFromFile none) = .ok cfg ∧
      ((tenChosen.after (newSettings [])).row cfg : Configuration).Paced sources.choice ∧
      ((tenChosen.after (settingsFromFile none)).row cfg : Configuration).Paced sources.choice := by
  intro cfg sources
  have hchoice : (tenChosen.surroundings.sources {} [] [] [] false).choice .dailyInterval =
      some (.ofText "1_0") := rfl
  have hread : tenChosen.run (readSources []) = (.ok sources, tenChosen) := rfl
  have hvalid : validate sources.choice sources.unknown = .ok (ofChoice sources.choice) :=
    (validate_eq_ok_iff ..).2 ⟨by decide +kernel, rfl⟩
  have hnew : tenChosen.outcome (newSettings []) = .ok cfg :=
    World.outcome_of_run (run_newSettings_of_ok hread hvalid)
  have hfile : tenChosen.outcome (settingsFromFile none) = .ok cfg := by rwa [settingsFromFile_eq]
  obtain ⟨found, hfound, hpaced⟩ := (paced tenChosen cfg).1 [] hnew
  obtain ⟨found', hfound', hpaced'⟩ := (paced tenChosen cfg).2 none hfile
  cases (World.outcome_of_run hread).symm.trans hfound
  cases (World.outcome_of_run hread).symm.trans hfound'
  exact ⟨hchoice, hnew, hfile, hpaced, hpaced'⟩

/-- What is no number, handed over directly for an interval. -/
def brokenChosen : List (String × Value) := [("daily_interval_seconds", .ofFloat (0.0 / 0.0))]

/-- What is no number is accepted as an interval, and is not more than zero. -/
theorem brokenChosen_notPositive :
    let w : World := {}
    let cfg : Ref .settings := ⟨0⟩
    w.outcome (newSettings brokenChosen) = .ok cfg ∧
      ∃ k x, ((w.after (newSettings brokenChosen)).row cfg : Configuration).get .dailyInterval =
        .float k x ∧ ¬0 < x := by
  intro w cfg
  let sources := ({} : Surroundings).sources {} [] brokenChosen [] false
  have hchoice : (({} : Surroundings).sources {} [] brokenChosen [] false).choice .dailyInterval =
      some (.ofFloat (0.0 / 0.0)) := rfl
  have hread : w.run (readSources brokenChosen) = (.ok sources, w) := rfl
  have hvalid : validate sources.choice sources.unknown = .ok (ofChoice sources.choice) :=
    (validate_eq_ok_iff ..).2 ⟨by decide +kernel, rfl⟩
  have hbroken : (0.0 / 0.0 : Float).isNaN = true := by decide +kernel
  refine ⟨World.outcome_of_run (run_newSettings_of_ok hread hvalid), ?_⟩
  have hpaced := paced_ofChoice w.nextSerial hvalid
  rw [Configuration.Paced, hchoice] at hpaced
  rcases hpaced with ⟨hno, -⟩ | ⟨k, x, hheld, -, hpositive⟩
  · cases hno
  · refine ⟨k, x, ?_, fun h => hpositive.1 h (.float hbroken)⟩
    exact (congrArg (Configuration.get · .dailyInterval)
      (row_newSettings_of_ok hread hvalid)).trans hheld

end Settings

end Understudy
