import Mathlib
import Understudy.Decimal.Read

/-!
# Numerals

The forms in which a text can spell a number, as a grammar that says nothing of how a text is read:
a sign, and then a word or digits with a point and an exponent. The reader is shown to take exactly
the numerals, each for the number that it spells.

## Main definitions

* `Lead`, `Ciphers`, `Exponent`, `Numeral`: the parts of a numeral, and the whole.
* `Spells`: a text with a numeral in it, with white space around it or with underscores between
  its characters.

## Main statements

* `spelling?_eq_some_iff`: the reader takes exactly the numerals.
* `readLoosely?_eq_some_iff`: and exactly the texts that spell a number.
-/

namespace Understudy.Decimal

/-! ## The grammar -/

/-- A sign, or none. -/
inductive Lead : List Char → Bool → Prop
  | none : Lead [] false
  | plus : Lead ['+'] false
  | minus : Lead ['-'] true

/-- The number that follows a number in further digits. -/
def follow (value : Nat) (ds : List Char) : Nat :=
  ds.foldl (fun n d => 10 * n + (d.toNat - '0'.toNat)) value

/-- Digits, with a point before, among or behind them if there is one: the number that they make
without the point, and how many of them stand behind it. -/
inductive Ciphers : List Char → Nat → Nat → Prop
  | whole {ds : List Char} (digits : ∀ d ∈ ds, d.isDigit = true) (nonempty : ds ≠ []) :
      Ciphers ds (follow 0 ds) 0
  | pointed {ds fs : List Char} (digits : ∀ d ∈ ds ++ fs, d.isDigit = true)
      (nonempty : ds ++ fs ≠ []) : Ciphers (ds ++ '.' :: fs) (follow 0 (ds ++ fs)) fs.length

/-- A power of ten, or none. -/
inductive Exponent : List Char → Int → Prop
  | none : Exponent [] 0
  | some {c : Char} {lead ds : List Char} {negative : Bool} (mark : c = 'e' ∨ c = 'E')
      (sign : Lead lead negative) (digits : ∀ d ∈ ds, d.isDigit = true) (nonempty : ds ≠ []) :
      Exponent (c :: (lead ++ ds))
        (if negative then -Int.ofNat (follow 0 ds) else Int.ofNat (follow 0 ds))

/-- A number as it is spelled. -/
inductive Numeral : List Char → Spelling → Prop
  | nan {lead body : List Char} {negative : Bool} (sign : Lead lead negative)
      (word : String.ofList (body.map Char.toLower) = "nan") : Numeral (lead ++ body) .nan
  | infinite {lead body : List Char} {negative : Bool} (sign : Lead lead negative)
      (word : String.ofList (body.map Char.toLower) = "inf" ∨
        String.ofList (body.map Char.toLower) = "infinity") :
      Numeral (lead ++ body) (.infinite negative)
  | number {lead ciphers power : List Char} {negative : Bool} {value places : Nat} {e : Int}
      (sign : Lead lead negative) (digits : Ciphers ciphers value places)
      (exponent : Exponent power e) :
      Numeral (lead ++ (ciphers ++ power)) (.number negative value (e - Int.ofNat places))

/-- A text with a numeral in it. -/
inductive Spells (s : String) (n : Spelling) : Prop
  /-- There may be white space around it. -/
  | amid {left core right : List Char} (text : s.toList = left ++ core ++ right)
      (before : ∀ c ∈ left, Text.isWhiteSpace c = true)
      (behind : ∀ c ∈ right, Text.isWhiteSpace c = true) (numeral : Numeral core n)
  /-- Or else underscores between its characters, never two together. -/
  | spaced (underscores : '_' ∈ s.toList) (first : s.toList.head? ≠ some '_')
      (last : s.toList.getLast? ≠ some '_') (single : ¬['_', '_'] <:+: s.toList)
      (numeral : Numeral (s.toList.filter (· != '_')) n)

/-! ## Digits -/

section

variable {cs ds rest : List Char}

/-- Where there are no underscores, a run of digits is all the digits at the beginning. -/
theorem digitRun_eq (h : '_' ∉ cs) (value count : Nat) (prior : Bool) :
    digitRun value count prior cs =
      (follow value (cs.takeWhile Char.isDigit), count + (cs.takeWhile Char.isDigit).length,
        cs.dropWhile Char.isDigit) := by
  induction cs generalizing value count prior with
  | nil => rfl
  | cons c cs ih =>
    simp only [List.mem_cons, not_or] at h
    rw [digitRun.eq_def]
    simp only []
    cases hc : c.isDigit with
    | true =>
      rw [if_pos rfl, ih h.2]
      simp [hc, follow, Nat.add_assoc, Nat.add_comm 1]
    | false =>
      rw [if_neg (by simp), if_neg fun hu => h.1 hu.1.symm]
      simp [hc, follow]

/-- Digits and what follows them are told apart by the first character that is no digit. -/
theorem span_digits (hd : ∀ d ∈ ds, d.isDigit = true)
    (hr : ∀ c ∈ rest.head?, c.isDigit = false) :
    (ds ++ rest).takeWhile Char.isDigit = ds ∧ (ds ++ rest).dropWhile Char.isDigit = rest := by
  have hnone : rest.takeWhile Char.isDigit = [] ∧ rest.dropWhile Char.isDigit = rest := by
    cases rest with
    | nil => exact ⟨rfl, rfl⟩
    | cons c rest => simp [hr c rfl]
  rw [List.takeWhile_append_of_pos hd, List.dropWhile_append_of_pos hd, hnone.1, hnone.2]
  exact ⟨List.append_nil ds, rfl⟩

theorem isDigit_takeWhile (cs : List Char) : ∀ d ∈ cs.takeWhile Char.isDigit, d.isDigit = true :=
  fun _ hd => List.mem_takeWhile_imp hd

end

/-! ## Signs and exponents -/

section

variable {cs lead body power : List Char} {negative : Bool} {e : Int}

/-- What is read as a sign stands before the rest. -/
theorem lead_signed (cs : List Char) :
    ∃ lead, Lead lead (signed cs).1 ∧ cs = lead ++ (signed cs).2 := by
  unfold signed
  split
  · exact ⟨_, .minus, rfl⟩
  · exact ⟨_, .plus, rfl⟩
  · exact ⟨_, .none, rfl⟩

theorem signed_append (h : Lead lead negative) (hm : body.head? ≠ some '-')
    (hp : body.head? ≠ some '+') : signed (lead ++ body) = (negative, body) := by
  cases h with
  | plus | minus => rfl
  | none =>
    show signed body = _
    unfold signed
    split
    · exact absurd rfl hm
    · exact absurd rfl hp
    · rfl

theorem signed_digits (h : Lead lead negative) (hd : ∀ d ∈ body, d.isDigit = true) :
    signed (lead ++ body) = (negative, body) := by
  have hhead {c : Char} (hc : c.isDigit = false) : body.head? ≠ some c := by
    intro heq
    rw [hd c (List.mem_of_head? heq)] at hc
    cases hc
  exact signed_append h (hhead (by decide)) (hhead (by decide))

theorem Exponent.head (h : Exponent power e) : ∀ c ∈ power.head?, c = 'e' ∨ c = 'E' := by
  cases h with
  | none => nofun
  | some mark => rintro _ ⟨⟩; exact mark

theorem exponent?_eq_some_iff (h : '_' ∉ cs) : exponent? cs = some e ↔ Exponent cs e := by
  constructor
  · intro he
    cases cs with
    | nil => exact Option.some.inj he ▸ .none
    | cons c rest =>
      simp only [List.mem_cons, not_or] at h
      obtain ⟨lead, hlead, hrest⟩ := lead_signed rest
      simp only [exponent?] at he
      generalize signed rest = read at he hlead hrest
      obtain ⟨negative, ds⟩ := read
      have hplain : '_' ∉ ds := fun hm => h.2 (hrest ▸ List.mem_append_right _ hm)
      simp only [digitRun_eq hplain, Nat.zero_add] at he
      have hparts := List.takeWhile_append_dropWhile (p := Char.isDigit) (l := ds)
      split at he
      · rename_i hmark
        split at he
        · rename_i heq
          obtain ⟨rfl, rfl, hend⟩ := Prod.mk.inj heq |>.imp id Prod.mk.inj
          rw [hend, List.append_nil] at hparts
          have hdigits := isDigit_takeWhile ds
          rw [hparts] at he hdigits
          split at he
          · cases he
          · rename_i hne
            rw [← Option.some.inj he, hrest]
            exact .some hmark hlead hdigits fun hnil => hne (List.length_eq_zero_iff.2 hnil)
        · cases he
      · cases he
  · intro he
    cases he with
    | none => rfl
    | @some c lead ds negative mark sign digits nonempty =>
      have hplain : '_' ∉ ds := fun hm => absurd (digits _ hm) (by decide)
      have hend : ∀ c ∈ ([] : List Char).head?, c.isDigit = false := nofun
      have hspan := span_digits digits hend
      rw [List.append_nil] at hspan
      simp only [exponent?, if_pos mark, signed_digits sign digits, digitRun_eq hplain, hspan]
      simp [nonempty]

end

/-! ## Numerals -/

section

variable {cs ciphers power : List Char} {negative : Bool} {value places : Nat} {e : Int}
  {n : Spelling}

theorem follow_append (value : Nat) (ds fs : List Char) :
    follow (follow value ds) fs = follow value (ds ++ fs) := (List.foldl_append ..).symm

/-- The first character of digits with a point. -/
theorem Ciphers.head (h : Ciphers ciphers value places) (rest : List Char) :
    ∃ c tail, ciphers ++ rest = c :: tail ∧ (c.isDigit = true ∨ c = '.') := by
  cases h with
  | @whole ds digits nonempty =>
    obtain ⟨d, tail, rfl⟩ := List.exists_cons_of_ne_nil nonempty
    exact ⟨d, _, rfl, .inl (digits d List.mem_cons_self)⟩
  | @pointed ds fs digits nonempty =>
    cases ds with
    | nil => exact ⟨'.', _, rfl, .inr rfl⟩
    | cons d tail => exact ⟨d, _, rfl, .inl (digits d List.mem_cons_self)⟩

/-- What follows digits ends a run of them, if it is no digit. -/
theorem Exponent.ends (h : Exponent power e) : ∀ c ∈ power.head?, c.isDigit = false := by
  intro c hc
  rcases h.head c hc with rfl | rfl <;> decide

/-- What is read as digits with a point and an exponent is that. -/
theorem ciphers_of_magnitude? (h : '_' ∉ cs) (hn : magnitude? negative cs = some n) :
    ∃ ciphers power value places e, cs = ciphers ++ power ∧ Ciphers ciphers value places ∧
      Exponent power e ∧ n = .number negative value (e - Int.ofNat places) := by
  have hparts := List.takeWhile_append_dropWhile (p := Char.isDigit) (l := cs)
  have hdigits := isDigit_takeWhile cs
  simp only [magnitude?, digitRun_eq h, Nat.zero_add] at hn
  generalize cs.takeWhile Char.isDigit = ds at hn hparts hdigits
  generalize cs.dropWhile Char.isDigit = rest at hn hparts
  have hplain : '_' ∉ rest := fun hm => h (hparts ▸ List.mem_append_right _ hm)
  split at hn
  · rename_i after
    have hplain : '_' ∉ after := fun hm => hplain (List.mem_cons_of_mem _ hm)
    have hafter := List.takeWhile_append_dropWhile (p := Char.isDigit) (l := after)
    have hplaces := isDigit_takeWhile after
    simp only [digitRun_eq hplain, Nat.zero_add, follow_append] at hn
    generalize after.takeWhile Char.isDigit = fs at hn hafter hplaces
    generalize after.dropWhile Char.isDigit = power at hn hafter
    have hplain : '_' ∉ power := fun hm => hplain (hafter ▸ List.mem_append_right _ hm)
    split at hn
    · cases hn
    · rename_i hsome
      obtain ⟨e, he, rfl⟩ := Option.map_eq_some_iff.1 hn
      refine ⟨ds ++ '.' :: fs, power, _, _, e, ?_, .pointed ?_ ?_,
        (exponent?_eq_some_iff hplain).1 he, rfl⟩
      · rw [← hparts, ← hafter, List.append_assoc, List.cons_append]
      · exact List.forall_mem_append.2 ⟨hdigits, hplaces⟩
      · intro hnil
        rw [← List.length_append, hnil] at hsome
        exact hsome rfl
  · split at hn
    · cases hn
    · rename_i hsome
      obtain ⟨e, he, rfl⟩ := Option.map_eq_some_iff.1 hn
      refine ⟨ds, rest, _, 0, e, hparts.symm, .whole hdigits ?_,
        (exponent?_eq_some_iff hplain).1 he, by simp⟩
      rintro rfl
      exact hsome rfl

/-- Digits with a point and an exponent are read for the number that they spell. -/
theorem Ciphers.magnitude? (hc : Ciphers ciphers value places) (hp : Exponent power e)
    (h : '_' ∉ ciphers ++ power) :
    magnitude? negative (ciphers ++ power) =
      some (.number negative value (e - Int.ofNat places)) := by
  have hplain : '_' ∉ power := fun hm => h (List.mem_append_right _ hm)
  have hexponent := (exponent?_eq_some_iff hplain).2 hp
  cases hc with
  | @whole _ digits nonempty =>
    have hspan := span_digits digits hp.ends
    have hcount : ciphers.length ≠ 0 := fun hz => nonempty (List.length_eq_zero_iff.1 hz)
    simp only [Decimal.magnitude?, digitRun_eq h, hspan, Nat.zero_add, if_neg hcount]
    split
    · rcases hp.head '.' (by simp) with hno | hno <;> cases hno
    · simp [hexponent]
  | @pointed ds fs digits nonempty =>
    obtain ⟨hds, hfs⟩ := List.forall_mem_append.1 digits
    have hpoint : ∀ c ∈ ('.' :: (fs ++ power)).head?, c.isDigit = false := by
      rintro _ ⟨⟩
      decide
    have hspan := span_digits hds hpoint
    have hspan' := span_digits hfs hp.ends
    have hplain : '_' ∉ fs ++ power := fun hm =>
      h (by simpa using .inr (List.mem_append.1 hm))
    have hcount : ds.length + fs.length ≠ 0 := fun hz =>
      nonempty (List.length_eq_zero_iff.1 (by rw [List.length_append, hz]))
    rw [List.append_assoc, List.cons_append] at h ⊢
    simp only [Decimal.magnitude?, digitRun_eq h, hspan, digitRun_eq hplain, hspan', Nat.zero_add,
      follow_append, if_neg hcount, hexponent, Option.map_some]

/-- The letters of a word for a number. -/
theorem isAlpha_of_word {body : List Char}
    (h : String.ofList (body.map Char.toLower) ∈ ["inf", "infinity", "nan"]) :
    ∀ c ∈ body, c.isAlpha = true := by
  have hletters : ∀ w ∈ ["inf", "infinity", "nan"], ∀ c ∈ String.toList w, c.isAlpha = true := by
    simp
  intro c hc
  have hmem : c.toLower ∈ (String.ofList (body.map Char.toLower)).toList := by
    rw [String.toList_ofList]
    exact List.mem_map_of_mem hc
  rw [← Char.isAlpha_toLower_eq_isAlpha]
  exact hletters _ h _ hmem

theorem signed_word {lead body : List Char} (hl : Lead lead negative)
    (h : String.ofList (body.map Char.toLower) ∈ ["inf", "infinity", "nan"]) :
    signed (lead ++ body) = (negative, body) := by
  have hhead {c : Char} (hc : c.isAlpha = false) : body.head? ≠ some c := by
    intro heq
    rw [isAlpha_of_word h c (List.mem_of_head? heq)] at hc
    cases hc
  exact signed_append hl (hhead (by decide)) (hhead (by decide))

/-- Digits with a point are no word for a number. -/
theorem Ciphers.not_word (h : Ciphers ciphers value places) (rest : List Char) :
    String.ofList ((ciphers ++ rest).map Char.toLower) ∉ ["inf", "infinity", "nan"] := by
  obtain ⟨c, tail, hbody, hc⟩ := h.head rest
  intro hw
  have halpha := isAlpha_of_word hw c (by simp [hbody])
  rcases hc with hc | rfl
  · simp [Char.isAlpha, Char.isUpper, Char.isLower, Char.isDigit, UInt32.le_iff_toNat_le]
      at halpha hc
    omega
  · exact absurd halpha (by decide)

/-- Nor do they begin with a sign. -/
theorem Ciphers.signed (h : Ciphers ciphers value places) {lead : List Char}
    (hl : Lead lead negative) (rest : List Char) :
    signed (lead ++ (ciphers ++ rest)) = (negative, ciphers ++ rest) := by
  obtain ⟨c, tail, hbody, hc⟩ := h.head rest
  have hhead {d : Char} (hd : d.isDigit = false) (hp : d ≠ '.') :
      (ciphers ++ rest).head? ≠ some d := by
    rw [hbody]
    rintro ⟨⟩
    rcases hc with hc | hc
    · rw [hc] at hd
      cases hd
    · exact hp hc
  exact signed_append hl (hhead (by decide) (by decide)) (hhead (by decide) (by decide))

/-- What is read as a number is a numeral. -/
theorem numeral_of_spelling? (h : '_' ∉ cs) (hn : spelling? (String.ofList cs) = some n) :
    Numeral cs n := by
  obtain ⟨lead, hlead, hcs⟩ := lead_signed cs
  simp only [spelling?, String.toList_ofList] at hn
  generalize signed cs = read at hn hlead hcs
  obtain ⟨negative, body⟩ := read
  rw [hcs]
  split at hn
  · rename_i hword
    exact Option.some.inj hn ▸ .infinite hlead hword
  · split at hn
    · rename_i hword
      exact Option.some.inj hn ▸ .nan hlead hword
    · have hplain : '_' ∉ body := fun hm => h (hcs ▸ List.mem_append_right _ hm)
      obtain ⟨ciphers, power, value, places, e, hbody, hciphers, hpower, rfl⟩ :=
        ciphers_of_magnitude? hplain hn
      exact hbody ▸ .number hlead hciphers hpower

/-- A numeral is read for the number that it spells. -/
theorem Numeral.spelling? (hn : Numeral cs n) (h : '_' ∉ cs) :
    spelling? (String.ofList cs) = some n := by
  cases hn with
  | @nan lead body negative sign word =>
    have hno : ¬("nan" = "inf" ∨ "nan" = "infinity") := by decide
    have hmem : String.ofList (body.map Char.toLower) ∈ ["inf", "infinity", "nan"] := by
      simp [word]
    have hsigned := signed_word sign hmem
    simp only [Decimal.spelling?, String.toList_ofList, hsigned, word, if_neg hno, if_true]
  | @infinite lead body negative sign word =>
    have hmem : String.ofList (body.map Char.toLower) ∈ ["inf", "infinity", "nan"] := by
      rcases word with h | h <;> simp [h]
    have hsigned := signed_word sign hmem
    simp only [Decimal.spelling?, String.toList_ofList, hsigned, if_pos word]
  | @number lead ciphers power negative value places e sign digits exponent =>
    have hword := digits.not_word power
    simp only [List.mem_cons, List.not_mem_nil, or_false, not_or] at hword
    have hplain : '_' ∉ ciphers ++ power := fun hm => h (List.mem_append_right _ hm)
    have hmagnitude : magnitude? negative (ciphers ++ power) = some _ :=
      digits.magnitude? exponent hplain
    simp only [Decimal.spelling?, String.toList_ofList, digits.signed sign, hword, or_self,
      if_false, hmagnitude]

/-- Without underscores, the reader takes exactly the numerals. -/
theorem spelling?_eq_some_iff (h : '_' ∉ cs) :
    spelling? (String.ofList cs) = some n ↔ Numeral cs n :=
  ⟨numeral_of_spelling? h, fun hn => hn.spelling? h⟩

end

/-! ## Texts -/

section

variable {cs : List Char} {n : Spelling}

/-- A letter, a digit, a sign or a point. -/
def IsMark (c : Char) : Prop := c.isAlphanum = true ∨ c = '+' ∨ c = '-' ∨ c = '.'

theorem Lead.isMark {lead : List Char} {negative : Bool} (h : Lead lead negative) :
    ∀ c ∈ lead, IsMark c := by
  cases h <;> simp [IsMark]

theorem isMark_of_isDigit {c : Char} (h : c.isDigit = true) : IsMark c :=
  .inl (by simp [Char.isAlphanum, h])

theorem isMark_of_isAlpha {c : Char} (h : c.isAlpha = true) : IsMark c :=
  .inl (by simp [Char.isAlphanum, h])

/-- The characters of a numeral. -/
theorem Numeral.isMark (h : Numeral cs n) : ∀ c ∈ cs, IsMark c := by
  cases h with
  | nan sign word =>
    exact List.forall_mem_append.2
      ⟨sign.isMark, fun c hc => isMark_of_isAlpha (isAlpha_of_word (by simp [word]) c hc)⟩
  | @infinite lead body negative sign word =>
    have hmem : String.ofList (body.map Char.toLower) ∈ ["inf", "infinity", "nan"] := by
      rcases word with h | h <;> simp [h]
    exact List.forall_mem_append.2
      ⟨sign.isMark, fun c hc => isMark_of_isAlpha (isAlpha_of_word hmem c hc)⟩
  | number sign digits exponent =>
    refine List.forall_mem_append.2 ⟨sign.isMark, List.forall_mem_append.2 ⟨?_, ?_⟩⟩
    · cases digits with
      | whole digits => exact fun c hc => isMark_of_isDigit (digits c hc)
      | pointed digits =>
        obtain ⟨hds, hfs⟩ := List.forall_mem_append.1 digits
        refine List.forall_mem_append.2 ⟨fun c hc => isMark_of_isDigit (hds c hc), ?_⟩
        exact List.forall_mem_cons.2
          ⟨.inr (.inr (.inr rfl)), fun c hc => isMark_of_isDigit (hfs c hc)⟩
    · cases exponent with
      | none => nofun
      | some mark sign digits =>
        refine List.forall_mem_cons.2 ⟨?_, List.forall_mem_append.2
          ⟨sign.isMark, fun c hc => isMark_of_isDigit (digits c hc)⟩⟩
        rcases mark with rfl | rfl <;> exact .inl (by decide)

theorem IsMark.ne_underscore {c : Char} (h : IsMark c) : c ≠ '_' := by
  rintro rfl
  exact absurd h (by simp [IsMark])

theorem IsMark.not_isWhiteSpace {c : Char} (h : IsMark c) : Text.isWhiteSpace c = false := by
  have hbounds : 0x2b ≤ c.toNat ∧ c.toNat ≤ 0x7a := by
    rcases h with h | rfl | rfl | rfl
    · simp only [Char.isAlphanum, Char.isAlpha, Char.isUpper, Char.isLower, Char.isDigit,
        Bool.or_eq_true, Bool.and_eq_true, decide_eq_true_eq, ge_iff_le, UInt32.le_iff_toNat_le] at h
      simp at h
      omega
    all_goals decide
  simp [Text.isWhiteSpace]
  omega

theorem Numeral.not_underscore (h : Numeral cs n) : '_' ∉ cs := fun hm =>
  (h.isMark _ hm).ne_underscore rfl

/-! Taking off what stands at the ends. -/

theorem exists_of_trimBoth (p : Char → Bool) (cs : List Char) :
    ∃ left right, cs = left ++ Text.trimBoth p cs ++ right ∧ (∀ c ∈ left, p c = true) ∧
      ∀ c ∈ right, p c = true := by
  let rest := cs.dropWhile p
  refine ⟨cs.takeWhile p, (rest.reverse.takeWhile p).reverse, ?_, ?_, ?_⟩
  · have hrest : rest = (rest.reverse.dropWhile p).reverse ++ (rest.reverse.takeWhile p).reverse := by
      rw [← List.reverse_append, List.takeWhile_append_dropWhile, List.reverse_reverse]
    rw [List.append_assoc]
    exact (List.takeWhile_append_dropWhile (p := p) (l := cs)).symm.trans (congrArg _ hrest)
  · exact fun c hc => List.mem_takeWhile_imp hc
  · exact fun c hc => List.mem_takeWhile_imp (List.mem_reverse.1 hc)

theorem dropWhile_of_not {p : Char → Bool} {core rest : List Char} (hc : ∀ c ∈ core, p c = false)
    (hr : ∀ c ∈ rest, p c = true) : (core ++ rest).dropWhile p =
      if core = [] then [] else core ++ rest := by
  cases core with
  | nil => simpa using hr
  | cons c core => simp [hc c List.mem_cons_self]

theorem trimBoth_append {p : Char → Bool} {left core right : List Char}
    (hl : ∀ c ∈ left, p c = true) (hc : ∀ c ∈ core, p c = false)
    (hr : ∀ c ∈ right, p c = true) : Text.trimBoth p (left ++ core ++ right) = core := by
  rw [Text.trimBoth, List.append_assoc, List.dropWhile_append_of_pos hl, dropWhile_of_not hc hr]
  split
  · rename_i hnil
    rw [hnil]
    rfl
  · rename_i hne
    rw [List.reverse_append,
      List.dropWhile_append_of_pos fun c h => hr c (List.mem_reverse.1 h)]
    have hcore : ∀ c ∈ core.reverse, p c = false := fun c h => hc c (List.mem_reverse.1 h)
    have hnone : ∀ c ∈ ([] : List Char), p c = true := nofun
    have hback := dropWhile_of_not hcore hnone
    rw [List.append_nil, if_neg (mt List.reverse_eq_nil_iff.1 hne)] at hback
    rw [hback, List.reverse_reverse]

theorem doubledUnderscore_iff (cs : List Char) :
    doubledUnderscore cs = true ↔ ['_', '_'] <:+: cs := by
  fun_induction doubledUnderscore with
  | case1 rest => exact iff_of_true rfl ⟨[], rest, rfl⟩
  | case2 c rest hno ih =>
    rw [ih, List.infix_cons_iff]
    refine ⟨.inr, Or.rec (fun hprefix => ?_) id⟩
    obtain ⟨tail, heq⟩ := hprefix
    cases heq
    exact absurd rfl (hno _ rfl)
  | case3 => simp

theorem spacedUnderscores_iff (cs : List Char) : spacedUnderscores cs = true ↔
    cs.head? ≠ some '_' ∧ cs.getLast? ≠ some '_' ∧ ¬['_', '_'] <:+: cs := by
  simp [spacedUnderscores, ← doubledUnderscore_iff, and_assoc]

theorem spells_of_underscore {s : String} (h : '_' ∈ s.toList) :
    Spells s n ↔
      spacedUnderscores s.toList = true ∧ Numeral (s.toList.filter (· != '_')) n := by
  rw [spacedUnderscores_iff]
  constructor
  · intro hs
    cases hs with
    | spaced _ first last single numeral => exact ⟨⟨first, last, single⟩, numeral⟩
    | amid text before behind numeral =>
      -- Neither white space nor a numeral holds an underscore.
      rw [text, List.mem_append, List.mem_append] at h
      rcases h with (h | h) | h
      · exact absurd (before _ h) (by decide)
      · exact absurd h numeral.not_underscore
      · exact absurd (behind _ h) (by decide)
  · rintro ⟨⟨first, last, single⟩, numeral⟩
    exact .spaced h first last single numeral

theorem spells_of_plain {s : String} (h : '_' ∉ s.toList) :
    Spells s n ↔ Numeral (Text.trimBoth Text.isWhiteSpace s.toList) n := by
  constructor
  · intro hs
    cases hs with
    | spaced underscores => exact absurd underscores h
    | amid text before behind numeral =>
      have hcore := fun c hc => (numeral.isMark c hc).not_isWhiteSpace
      rwa [text, trimBoth_append before hcore behind]
  · intro numeral
    obtain ⟨left, right, text, before, behind⟩ :=
      exists_of_trimBoth Text.isWhiteSpace s.toList
    exact .amid text before behind numeral

/-- A text is read as a number exactly if it spells one, and then as the nearest float. -/
theorem readLoosely?_eq_some_iff {s : String} {x : Float} :
    readLoosely? s = some x ↔ ∃ n, Spells s n ∧ n.toFloat = x := by
  have hread (plain : List Char) (hplain : '_' ∉ plain) :
      (spelling? (String.ofList plain)).map Spelling.toFloat = some x ↔
        ∃ n, Numeral plain n ∧ n.toFloat = x := by
    simp only [Option.map_eq_some_iff, spelling?_eq_some_iff hplain]
  simp only [readLoosely?, List.contains_eq_mem, decide_eq_true_eq]
  split
  · rename_i hunder
    simp only [spells_of_underscore hunder]
    split
    · rename_i hspaced
      rw [Option.bind_some, hread _ (by simp)]
      simp [hspaced]
    · rename_i hspaced
      simp [hspaced]
  · rename_i hplain
    have htrim : '_' ∉ Text.trimBoth Text.isWhiteSpace s.toList := by
      intro hm
      obtain ⟨left, right, htext, -, -⟩ := exists_of_trimBoth Text.isWhiteSpace s.toList
      exact hplain (htext ▸ List.mem_append_left _ (List.mem_append_right _ hm))
    simp only [spells_of_plain hplain]
    rw [Option.bind_some, hread _ htrim]

end

end Understudy.Decimal
