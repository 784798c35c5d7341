import Understudy.Bootstrap
import Understudy.Proofs.Floats
import Understudy.Proofs.Numerals

/-!
# What settings accept

What a setting makes of a value, and why it refuses one, said without the readers: a level and a
layout by their words, a switch by a truth value or what stands for one, an identity by any text
that is not blank, an interval by what stands for a number that is not at most zero. Every value is
either accepted or refused, and the readers go by that.

## Main definitions

* `Value.Switches`, `Value.Measures`: the values that stand for a truth value, or for a number.
* `Setting.Reads`, `Setting.Refuses`: what a setting accepts, and as what, and what it refuses.
* `Settings.judge`: what the readers make of a value.

## Main statements

* `Settings.verdict`: every value is accepted or refused.
* `Settings.judge_eq_ok_iff`, `Settings.judge_eq_error_iff`: the readers go by these relations.
-/

namespace Understudy

open Decimal

/-! ## What is accepted, and what is refused -/

/-- The values that stand for a truth value. -/
inductive Value.Switches : Value → Bool → Prop
  | truth (b : Bool) : Switches (.bool b) b
  | whole (k : Nat) (b : Bool) : Switches (.int k b.toInt) b
  | float {k : Nat} {x : Float} {b : Bool}
      (same : (Parts.ofFloat x).equal (.ofInt b.toInt) = true) : Switches (.float k x) b
  | word {v : Value} {s : String} {b : Bool} (text : v.text? = some s)
      (word : (s.map Char.toLower, b) ∈ Settings.switchWords) : Switches v b

/-- The values that stand for a number, and the float that is nearest to it. -/
inductive Value.Measures : Value → Float → Prop
  | truth (b : Bool) : Measures (.bool b) (if b then 1.0 else 0.0)
  | whole {k : Nat} {n : Int} {x : Float} (near : floatOfInt? n = some x) : Measures (.int k n) x
  | float (k : Nat) (x : Float) : Measures (.float k x) x
  | spelled {v : Value} {s : String} {n : Spelling} (text : v.text? = some s)
      (spells : Spells s n) : Measures v n.toFloat

/-- The values that are neither numbers nor texts. -/
structure Value.Mute (v : Value) : Prop where
  number : v.number? = Option.none
  text : v.text? = Option.none

namespace Setting

/-- What a setting accepts, and what it makes of it. -/
inductive Reads : Setting → Value → Value → Prop
  | level {v : Value} {level : LogLevel} (word : v.text? = some level.word) :
      Reads .logLevel v (.ofText level.word)
  | format {v : Value} {format : LogFormat} (word : v.text? = some format.word) :
      Reads .logFormat v (.ofText format.word)
  | switch {v : Value} {b : Bool} (stands : v.Switches b) : Reads .logDump v (.bool b)
  /-- An identity is kept as it is, the blanks at its ends included. -/
  | identity {name : Setting} {v : Value} {s : String} {c : Char} (identity : name ∈ hostSettings)
      (text : Settings.identityText? v = some s) (mem : c ∈ s.toList)
      (visible : Text.isBlank c = false) : Reads name v (.ofText s)
  | absent : Reads .dailyInterval .none .none
  | interval {v : Value} {x : Float} (stands : v.Measures x) (positive : ¬x ≤ 0) :
      Reads .dailyInterval v (.ofFloat x)

/-- What a setting refuses, and why. -/
inductive Refuses : Setting → Value → Reason → Prop
  | level {v : Value} (noWord : ∀ level : LogLevel, v.text? ≠ some level.word) :
      Refuses .logLevel v .notALevel
  | format {v : Value} (noWord : ∀ format : LogFormat, v.text? ≠ some format.word) :
      Refuses .logFormat v .notAFormat
  | switchWord {v : Value} {s : String} (text : v.text? = some s)
      (noWord : ∀ b, (s.map Char.toLower, b) ∉ Settings.switchWords) :
      Refuses .logDump v .unreadableSwitch
  /-- A whole number of 64 bits is at least looked at. -/
  | switchWhole {k : Nat} {n : Int} (zero : n ≠ 0) (one : n ≠ 1)
      (word : -2 ^ 63 ≤ n ∧ n < 2 ^ 63) : Refuses .logDump (.int k n) .unreadableSwitch
  | switchFloat {k : Nat} {x : Float} {n : Int} (same : (Parts.ofFloat x).equal (.ofInt n) = true)
      (zero : n ≠ 0) (one : n ≠ 1) (word : -2 ^ 63 < n ∧ n < 2 ^ 63) :
      Refuses .logDump (.float k x) .unreadableSwitch
  | wideSwitch {k : Nat} {n : Int} (wide : ¬(-2 ^ 63 ≤ n ∧ n < 2 ^ 63)) :
      Refuses .logDump (.int k n) .notASwitch
  | brokenSwitch {k : Nat} {x : Float}
      (broken : ∀ n, (Parts.ofFloat x).equal (.ofInt n) = true → ¬(-2 ^ 63 < n ∧ n < 2 ^ 63)) :
      Refuses .logDump (.float k x) .notASwitch
  | muteSwitch {v : Value} (mute : v.Mute) : Refuses .logDump v .notASwitch
  | notAText {name : Setting} {v : Value} (identity : name ∈ hostSettings)
      (text : Settings.identityText? v = none) : Refuses name v .notAText
  | blank {name : Setting} {v : Value} {s : String} (identity : name ∈ hostSettings)
      (text : Settings.identityText? v = some s) (blank : ∀ c ∈ s.toList, Text.isBlank c = true) :
      Refuses name v .blank
  | notPositive {v : Value} {x : Float} (stands : v.Measures x) (least : x ≤ 0) :
      Refuses .dailyInterval v .notPositive
  | unspelled {v : Value} {s : String} (text : v.text? = some s) (noNumeral : ∀ n, ¬Spells s n) :
      Refuses .dailyInterval v .unreadableNumber
  | wideInterval {k : Nat} {n : Int} (wide : floatOfInt? n = none) :
      Refuses .dailyInterval (.int k n) .notANumber
  | muteInterval {v : Value} (present : v ≠ .none) (mute : v.Mute) :
      Refuses .dailyInterval v .notANumber

end Setting

/-! ## The readers -/

theorem LogLevel.ofWord?_eq_some_iff {w : String} {l : LogLevel} :
    LogLevel.ofWord? w = some l ↔ w = l.word := by
  constructor
  · intro h
    have hword := List.find?_some (p := fun l : LogLevel => l.word == w) h
    exact (beq_iff_eq.1 hword).symm
  · rintro rfl
    cases l <;> rfl

theorem LogFormat.ofWord?_eq_some_iff {w : String} {f : LogFormat} :
    LogFormat.ofWord? w = some f ↔ w = f.word := by
  constructor
  · intro h
    have hword := List.find?_some (p := fun f : LogFormat => f.word == w) h
    exact (beq_iff_eq.1 hword).symm
  · rintro rfl
    cases f <;> rfl

namespace Settings

/-- The words for truth values are all different. -/
theorem lookup_switchWords {w : String} {b : Bool} :
    switchWords.lookup w = some b ↔ (w, b) ∈ switchWords := by
  have hfound : ∀ entry ∈ switchWords, switchWords.lookup entry.1 = some entry.2 := by decide
  constructor
  · intro h
    obtain ⟨before, behind, heq, -⟩ := List.lookup_eq_some_iff.1 h
    rw [heq]
    exact List.mem_append_right _ List.mem_cons_self
  · exact hfound (w, b)

/-- A whole number stands for a float exactly if the two are equal. -/
theorem wholeOf?_eq_some_iff {x : Float} {n : Int} :
    wholeOf? x = some n ↔ (Parts.ofFloat x).equal (.ofInt n) = true := by
  rw [wholeOf?]
  cases Parts.ofFloat x with
  | nan | infinite => simp [Parts.equal, Parts.ofInt]
  | finite negative m e =>
    have hup : (e - min e 0).toNat = e.toNat := by omega
    have hdown : (0 - min e 0).toNat = (-e).toNat := by omega
    have hsize : Parts.units (decide (n < 0)) n.natAbs 0 (min e 0) =
        n * (Nat.pow 2 (-e).toNat : Nat) := by
      simp only [Parts.units, Parts.scaledBy, hdown, decide_eq_true_eq]
      split
      · rw [Int.ofNat_eq_natCast, Int.natCast_mul, ← Int.neg_mul, Int.ofNat_natAbs_of_nonpos (by omega),
          Int.neg_neg]
      · rw [Int.ofNat_eq_natCast, Int.natCast_mul, Int.natAbs_of_nonneg (by omega)]
    have hunit : 0 < Nat.pow 2 (-e).toNat := Nat.two_pow_pos _
    simp only [Parts.equal, Parts.ofInt, hsize, beq_iff_eq]
    simp only [Parts.units, Parts.scaledBy, hup]
    generalize m * Nat.pow 2 e.toNat = size
    generalize Nat.pow 2 (-e).toNat = unit at hunit
    have hwhole (k : Int) :
        (size % unit = 0 ∧ Int.ofNat (size / unit) = k) ↔ Int.ofNat size = k * unit := by
      constructor
      · rintro ⟨hmod, rfl⟩
        rw [Int.ofNat_eq_natCast, Int.ofNat_eq_natCast, ← Int.natCast_mul,
          Nat.div_mul_cancel (Nat.dvd_of_mod_eq_zero hmod)]
      · intro hk
        have hdvd : unit ∣ size :=
          Int.natCast_dvd_natCast.1 ⟨k, hk.trans (Int.mul_comm k unit)⟩
        refine ⟨Nat.mod_eq_zero_of_dvd hdvd, ?_⟩
        rw [Int.ofNat_eq_natCast] at hk ⊢
        rw [Int.natCast_ediv, hk, Int.mul_ediv_cancel _ (by omega)]
    cases negative with
    | false => simpa using hwhole n
    | true =>
      have hneg (a b : Int) : -a = b ↔ a = -b := by omega
      simpa [hneg, Int.neg_mul] using hwhole (-n)

/-- What a setting makes of a value. -/
def judge (name : Setting) (v : Value) : Except Reason Value :=
  match name with
  | .logLevel => (readLevel v).map fun level => .ofText level.word
  | .logFormat => (readFormat v).map fun format => .ofText format.word
  | .logDump => (readSwitch v).map Value.bool
  | .dailyInterval => (readInterval v).map fun x? => (x?.map Value.ofFloat).getD .none
  | _ => (readIdentity v).map Value.ofText

theorem judge_of_mem {name : Setting} (h : name ∈ hostSettings) (v : Value) :
    judge name v = (readIdentity v).map Value.ofText := by
  simp only [hostSettings, List.mem_cons, List.not_mem_nil, or_false] at h
  rcases h with rfl | rfl | rfl | rfl | rfl | rfl | rfl <;> rfl

/-! Every value is accepted or refused. -/

theorem verdict_identity {name : Setting} (h : name ∈ hostSettings) (v : Value) :
    (∃ held, name.Reads v held) ∨ ∃ reason, name.Refuses v reason := by
  cases ht : identityText? v with
  | none => exact .inr ⟨_, .notAText h ht⟩
  | some s =>
    by_cases hblank : ∀ c ∈ s.toList, Text.isBlank c = true
    · exact .inr ⟨_, .blank h ht hblank⟩
    · obtain ⟨c, hmem, hc⟩ : ∃ c ∈ s.toList, Text.isBlank c = false := by simpa using hblank
      exact .inl ⟨_, .identity h ht hmem hc⟩

theorem isWord_iff (n : Int) : isWord n = true ↔ -2 ^ 63 ≤ n ∧ n < 2 ^ 63 := by
  simp [isWord]

theorem verdict_switch (v : Value) :
    (∃ held, Setting.logDump.Reads v held) ∨ ∃ reason, Setting.logDump.Refuses v reason := by
  cases hn : v.number? with
  | none =>
    cases ht : v.text? with
    | none => exact .inr ⟨_, .muteSwitch ⟨hn, ht⟩⟩
    | some s =>
      by_cases hword : ∃ b, (s.map Char.toLower, b) ∈ switchWords
      · exact .inl ⟨_, .switch (.word ht hword.choose_spec)⟩
      · exact .inr ⟨_, .switchWord ht (not_exists.1 hword)⟩
  | some parts =>
    cases v with
    | bool b => exact .inl ⟨_, .switch (.truth b)⟩
    | int k n =>
      by_cases h0 : n = 0
      · subst h0
        exact .inl ⟨_, .switch (.whole k false)⟩
      by_cases h1 : n = 1
      · subst h1
        exact .inl ⟨_, .switch (.whole k true)⟩
      by_cases hword : -2 ^ 63 ≤ n ∧ n < 2 ^ 63
      · exact .inr ⟨_, .switchWhole h0 h1 hword⟩
      · exact .inr ⟨_, .wideSwitch hword⟩
    | float k x =>
      by_cases hwhole : ∃ n, (Parts.ofFloat x).equal (.ofInt n) = true ∧ -2 ^ 63 < n ∧ n < 2 ^ 63
      · obtain ⟨n, hsame, hword⟩ := hwhole
        by_cases h0 : n = 0
        · subst h0
          exact .inl ⟨_, .switch (.float (b := false) hsame)⟩
        by_cases h1 : n = 1
        · subst h1
          exact .inl ⟨_, .switch (.float (b := true) hsame)⟩
        exact .inr ⟨_, .switchFloat hsame h0 h1 hword⟩
      · exact .inr ⟨_, .brokenSwitch fun n hsame hword => hwhole ⟨n, hsame, hword⟩⟩
    | _ => cases hn

theorem verdict_interval (v : Value) :
    (∃ held, Setting.dailyInterval.Reads v held) ∨
      ∃ reason, Setting.dailyInterval.Refuses v reason := by
  by_cases hx : ∃ x, v.Measures x
  · obtain ⟨x, hx⟩ := hx
    by_cases hpos : x ≤ 0
    · exact .inr ⟨_, .notPositive hx hpos⟩
    · exact .inl ⟨_, .interval hx hpos⟩
  · by_cases hnone : v = .none
    · subst hnone
      exact .inl ⟨_, .absent⟩
    refine .inr ?_
    cases hn : v.number? with
    | none =>
      cases ht : v.text? with
      | none => exact ⟨_, .muteInterval hnone ⟨hn, ht⟩⟩
      | some s => exact ⟨_, .unspelled ht fun n hs => hx ⟨_, .spelled ht hs⟩⟩
    | some parts =>
      cases v with
      | bool b => exact absurd ⟨_, .truth b⟩ hx
      | int k n =>
        cases hnear : floatOfInt? n with
        | none => exact ⟨_, .wideInterval hnear⟩
        | some x => exact absurd ⟨x, .whole hnear⟩ hx
      | float k x => exact absurd ⟨x, .float k x⟩ hx
      | _ => cases hn

/-- Every value is accepted by a setting, or refused. -/
theorem verdict (name : Setting) (v : Value) :
    (∃ held, name.Reads v held) ∨ ∃ reason, name.Refuses v reason := by
  cases name with
  | logLevel =>
    by_cases h : ∃ level : LogLevel, v.text? = some level.word
    · exact .inl ⟨_, .level h.choose_spec⟩
    · exact .inr ⟨_, .level (not_exists.1 h)⟩
  | logFormat =>
    by_cases h : ∃ format : LogFormat, v.text? = some format.word
    · exact .inl ⟨_, .format h.choose_spec⟩
    · exact .inr ⟨_, .format (not_exists.1 h)⟩
  | logDump => exact verdict_switch v
  | dailyInterval => exact verdict_interval v
  | _ => exact verdict_identity (by decide) v

/-! The readers find it out. -/

section

variable {v : Value} {s : String}

/-- A text of a setting is read as such whatever else is looked for. -/
theorem readSwitch_of_text? (h : v.text? = some s) :
    readSwitch v =
      match switchWords.lookup (s.map Char.toLower) with
      | some b => .ok b
      | none => .error .unreadableSwitch := by
  cases v with
  | text | field => cases h; rfl
  | _ => cases h

theorem readNumber_of_text? (h : v.text? = some s) :
    readNumber v =
      match readLoosely? s with
      | some x => .ok x
      | none => .error .unreadableNumber := by
  cases v with
  | text | field => cases h; rfl
  | _ => cases h

theorem readSwitch_of_mute (h : v.Mute) : readSwitch v = .error .notASwitch := by
  obtain ⟨hnumber, htext⟩ := h
  cases v with
  | bool | int | float => cases hnumber
  | text | field => cases htext
  | _ => rfl

theorem readNumber_of_mute (h : v.Mute) : readNumber v = .error .notANumber := by
  obtain ⟨hnumber, htext⟩ := h
  cases v with
  | bool | int | float => cases hnumber
  | text | field => cases htext
  | _ => rfl

end

end Settings

open Settings

namespace Value

variable {v : Value}

/-- What stands for a number is read as the float nearest to it. -/
theorem Measures.readNumber {x : Float} (h : v.Measures x) :
    Settings.readNumber v = .ok x := by
  cases h with
  | truth b => rfl
  | whole near => simp only [Settings.readNumber, near]
  | float => rfl
  | spelled text spells =>
    rw [readNumber_of_text? text, readLoosely?_eq_some_iff.2 ⟨_, spells, rfl⟩]

theorem Measures.isNone {x : Float} (h : v.Measures x) : v.isNone = false :=
  isNone_eq_false fun hnone => by subst hnone; cases h.readNumber

/-- What stands for a truth value is read as this one. -/
theorem Switches.readSwitch {b : Bool} (h : v.Switches b) : Settings.readSwitch v = .ok b := by
  cases h with
  | truth => rfl
  | whole k => cases b <;> rfl
  | float same =>
    simp only [Settings.readSwitch, wholeOf?_eq_some_iff.2 same]
    cases b <;> rfl
  | word text word => rw [readSwitch_of_text? text, lookup_switchWords.2 word]

end Value

namespace Setting

variable {name : Setting} {v held : Value} {reason : Reason}

/-- What a setting accepts is read as what the setting makes of it. -/
theorem Reads.judge (h : name.Reads v held) : Settings.judge name v = .ok held := by
  cases h with
  | level word =>
    simp only [Settings.judge, readLevel, word, Option.bind_some,
      LogLevel.ofWord?_eq_some_iff.2 rfl, Except.map]
  | format word =>
    simp only [Settings.judge, readFormat, word, Option.bind_some,
      LogFormat.ofWord?_eq_some_iff.2 rfl, Except.map]
  | switch stands => simp only [Settings.judge, stands.readSwitch, Except.map]
  | @identity _ _ s c identity text mem visible =>
    have hvisible : Text.isBlankText s = false := by
      rw [← Bool.not_eq_true, Text.isBlankText_iff]
      intro hblank
      rw [hblank c mem] at visible
      cases visible
    simp only [judge_of_mem identity, readIdentity, text, hvisible, Bool.false_eq_true, if_false,
      Except.map]
  | absent => rfl
  | @interval _ x stands positive =>
    have hpositive : (Parts.ofFloat x).atMostZero = false :=
      Bool.eq_false_iff.2 (mt (le_zero_iff x).2 positive)
    simp [Settings.judge, readInterval, stands.isNone, stands.readNumber, hpositive, Except.map]

/-- What a setting refuses is no reading of it. -/
theorem Refuses.judge (h : name.Refuses v reason) : Settings.judge name v = .error reason := by
  cases h with
  | level noWord =>
    have hnone : v.text?.bind LogLevel.ofWord? = none := by
      refine Option.bind_eq_none_iff.2 fun s hs => Option.eq_none_iff_forall_ne_some.2 ?_
      exact fun l hl => noWord l (LogLevel.ofWord?_eq_some_iff.1 hl ▸ hs)
    simp only [Settings.judge, readLevel, hnone, Except.map]
  | format noWord =>
    have hnone : v.text?.bind LogFormat.ofWord? = none := by
      refine Option.bind_eq_none_iff.2 fun s hs => Option.eq_none_iff_forall_ne_some.2 ?_
      exact fun f hf => noWord f (LogFormat.ofWord?_eq_some_iff.1 hf ▸ hs)
    simp only [Settings.judge, readFormat, hnone, Except.map]
  | @switchWord _ s text noWord =>
    have hnone : switchWords.lookup (s.map Char.toLower) = none :=
      Option.eq_none_iff_forall_ne_some.2 fun b hb => noWord b (lookup_switchWords.1 hb)
    simp only [Settings.judge, readSwitch_of_text? text, hnone, Except.map]
  | switchWhole zero one word =>
    simp only [Settings.judge, readSwitch, if_neg zero, if_neg one, if_pos ((isWord_iff _).2 word),
      Except.map]
  | @switchFloat _ x n same zero one word =>
    have hword : isWord n = true ∧ isWord (n - 1) = true := by
      rw [isWord_iff, isWord_iff]
      omega
    simp only [Settings.judge, readSwitch, wholeOf?_eq_some_iff.2 same, if_neg zero, if_neg one,
      if_pos hword, Except.map]
  | @wideSwitch _ n wide =>
    have hword : ¬isWord n = true := mt (isWord_iff n).1 wide
    have h0 : n ≠ 0 := by omega
    have h1 : n ≠ 1 := by omega
    simp only [Settings.judge, readSwitch, if_neg h0, if_neg h1, if_neg hword, Except.map]
  | @brokenSwitch _ x broken =>
    simp only [Settings.judge, readSwitch]
    cases hn : wholeOf? x with
    | none => rfl
    | some n =>
      have hwide := broken n (wholeOf?_eq_some_iff.1 hn)
      have hword : ¬(isWord n = true ∧ isWord (n - 1) = true) := by
        rw [isWord_iff, isWord_iff]
        omega
      have h0 : n ≠ 0 := by omega
      have h1 : n ≠ 1 := by omega
      simp only [if_neg h0, if_neg h1, if_neg hword, Except.map]
  | muteSwitch mute => simp only [Settings.judge, readSwitch_of_mute mute, Except.map]
  | notAText identity text => simp only [judge_of_mem identity, readIdentity, text, Except.map]
  | blank identity text blank =>
    simp only [judge_of_mem identity, readIdentity, text, (Text.isBlankText_iff _).2 blank, if_true,
      Except.map]
  | @notPositive _ x stands least =>
    simp [Settings.judge, readInterval, stands.isNone, stands.readNumber, (le_zero_iff x).1 least,
      Except.map]
  | @unspelled _ s text noNumeral =>
    have hpresent : v.isNone = false :=
      Value.isNone_eq_false fun hnone => by subst hnone; cases text
    have hnone : readLoosely? s = none := Option.eq_none_iff_forall_ne_some.2 fun x hx =>
      noNumeral _ (readLoosely?_eq_some_iff.1 hx).choose_spec.1
    simp [Settings.judge, readInterval, hpresent, readNumber_of_text? text, hnone, Except.map]
  | wideInterval wide =>
    simp [Settings.judge, readInterval, Value.isNone, readNumber, wide, Except.map]
  | muteInterval present mute =>
    simp [Settings.judge, readInterval, Value.isNone_eq_false present, readNumber_of_mute mute,
      Except.map]

end Setting

namespace Settings

variable {name : Setting} {v held : Value} {reason : Reason}

/-- A setting reads exactly what it accepts, and makes of it what it should. -/
theorem judge_eq_ok_iff : judge name v = .ok held ↔ name.Reads v held := by
  refine ⟨fun h => ?_, Setting.Reads.judge⟩
  rcases verdict name v with ⟨held', hr⟩ | ⟨reason, hr⟩
  · rw [hr.judge] at h
    exact Except.ok.inj h ▸ hr
  · rw [hr.judge] at h
    cases h

/-- A setting objects exactly to what it refuses, and for the reason it should. -/
theorem judge_eq_error_iff : judge name v = .error reason ↔ name.Refuses v reason := by
  refine ⟨fun h => ?_, Setting.Refuses.judge⟩
  rcases verdict name v with ⟨held, hr⟩ | ⟨reason', hr⟩
  · rw [hr.judge] at h
    cases h
  · rw [hr.judge] at h
    exact Except.error.inj h ▸ hr

theorem refusal_map {α β : Type} (f : α → β) (x : Except Reason α) :
    refusal (x.map f) = refusal x := by
  cases x <;> rfl

theorem objection_eq (name : Setting) (v : Value) : objection name v = refusal (judge name v) := by
  cases name <;> exact (refusal_map _ _).symm

theorem objection_eq_some_iff : objection name v = some reason ↔ name.Refuses v reason := by
  rw [objection_eq, ← judge_eq_error_iff]
  cases judge name v <;> simp [refusal]

theorem objection_eq_none_iff : objection name v = none ↔ ∃ held, name.Reads v held := by
  simp only [objection_eq, ← judge_eq_ok_iff]
  cases judge name v <;> simp [refusal]

/-- What a setting does not refuse it accepts, and the other way round. -/
theorem reads_iff_not_refuses (name : Setting) (v : Value) :
    (∃ held, name.Reads v held) ↔ ¬∃ reason, name.Refuses v reason := by
  simp only [← objection_eq_none_iff, ← objection_eq_some_iff]
  cases objection name v <;> simp

end Settings

end Understudy
