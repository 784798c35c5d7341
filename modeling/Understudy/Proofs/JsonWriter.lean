import Understudy.Proofs.JsonLines

/-!
# Writing JSON

What is written as JSON is ASCII and reads back as what it was written from, at whatever depth its
lines stand. Both are shown of values without numbers, which reports are. Every text comes back: a
character is written as itself, as a short escape, as one UTF-16 unit or as two, and each of these is
read as the units of the character.

## Main definitions

* `Json.unitsOf`: the UTF-16 units of a character.
* `Json.Lettered`: a value of texts, words and objects.
* `Json.Scan.found?`: the tokens of characters from some point of the first pass on.
* `Json.Legible`: a value that both passes read as it was written.

## Main statements

* `Json.decoded_units`: the characters of the units of a text are the text.
* `Json.Lettered.isAscii_render`: what is written is ASCII.
* `Json.Lettered.read?_render`: what is written reads back.
-/

namespace Understudy

namespace Json

/-! ## Units -/

/-- The UTF-16 units of a character. -/
def unitsOf (c : Char) : List Nat :=
  if c.toNat < 0x10000 then [c.toNat]
  else [0xd800 + (c.toNat - 0x10000) / 0x400, 0xdc00 + (c.toNat - 0x10000) % 0x400]

/-- Two units that belong to a character beyond the first plane are read as the character. -/
theorem decoded_pair {c : Char} (h : 0x10000 ≤ c.toNat) (units : List Nat) :
    decoded ((0xd800 + (c.toNat - 0x10000) / 0x400) ::
      (0xdc00 + (c.toNat - 0x10000) % 0x400) :: units) = c :: decoded units := by
  have hbound : c.toNat < 0x110000 := by
    rcases isValidChar_toNat c with hlow | ⟨-, hhigh⟩ <;> omega
  have hpair : 0xd800 ≤ 0xd800 + (c.toNat - 0x10000) / 0x400 ∧
      0xd800 + (c.toNat - 0x10000) / 0x400 < 0xdc00 ∧
        0xdc00 ≤ 0xdc00 + (c.toNat - 0x10000) % 0x400 ∧
          0xdc00 + (c.toNat - 0x10000) % 0x400 < 0xe000 := by
    omega
  have hsum : 0x10000 + (0xd800 + (c.toNat - 0x10000) / 0x400 - 0xd800) * 0x400 +
      (0xdc00 + (c.toNat - 0x10000) % 0x400 - 0xdc00) = c.toNat := by
    omega
  rw [decoded, if_pos hpair, hsum, charOf_toNat]

/-- The units of a text are read as the text. -/
theorem decoded_units (s : List Char) : decoded (s.flatMap unitsOf) = s := by
  induction s with
  | nil => rfl
  | cons c rest ih =>
    rw [List.flatMap_cons, unitsOf]
    split
    · rw [List.singleton_append, decoded_cons, ih]
    · rename_i hbeyond
      rw [List.cons_append, List.singleton_append, decoded_pair (Nat.not_lt.1 hbeyond), ih]

/-! ## Escapes -/

theorem hexDigit?_digitChar (n : Nat) : hexDigit? (Nat.digitChar (n % 16)) = some (n % 16) := by
  have hall : ∀ d < 16, hexDigit? (Nat.digitChar d) = some d := by decide
  exact hall _ (Nat.mod_lt n (by decide))

namespace Scan

variable (units : List Nat) (rest : List Char)

theorem run_short {c : Char} {n : Nat} (hu : c ≠ 'u') (h : shortEscape? c = some n) :
    (text units).run ('\\' :: c :: rest) = (text (units ++ [n])).run rest := by
  have hopen : (text units).step '\\' = some (.escape units, []) := rfl
  have hclose : (Scan.escape units).step c = some (text (units ++ [n]), []) := by
    simp only [step, if_neg hu, h, Option.map_some]
  rw [run_silent hopen, run_silent hclose]

theorem run_unit {n : Nat} (h : n < 0x10000) :
    (text units).run (Json.unit n ++ rest) = (text (units ++ [n])).run rest := by
  have hopen : (text units).step '\\' = some (.escape units, []) := rfl
  have hunit : (Scan.escape units).step 'u' = some (.unit units [], []) := rfl
  have hdigit (digits : List Nat) (hless : digits.length < 3) (m : Nat) :
      (Scan.unit units digits).step (Nat.digitChar (m % 16)) =
        some (.unit units (digits ++ [m % 16]), []) := by
    simp only [step, hexDigit?_digitChar, Option.map_some, if_pos hless]
  have hlast (a b c m : Nat) : (Scan.unit units [a, b, c]).step (Nat.digitChar (m % 16)) =
      some (text (units ++ [16 * (16 * (16 * (16 * 0 + a) + b) + c) + m % 16]), []) := by
    simp only [step, hexDigit?_digitChar, Option.map_some]
    rfl
  have hhex : Json.unit n ++ rest =
      '\\' :: 'u' :: Nat.digitChar (n / 16 / 16 / 16 % 16) :: Nat.digitChar (n / 16 / 16 % 16) ::
        Nat.digitChar (n / 16 % 16) :: Nat.digitChar (n % 16) :: rest := rfl
  have hsum : 16 * (16 * (16 * (16 * 0 + n / 16 / 16 / 16 % 16) + n / 16 / 16 % 16) +
      n / 16 % 16) + n % 16 = n := by
    omega
  rw [hhex, run_silent hopen, run_silent hunit]
  refine (run_silent (hdigit [] (by simp) _) _).trans ?_
  refine (run_silent (hdigit [_] (by simp) _) _).trans ?_
  refine (run_silent (hdigit [_, _] (by simp) _) _).trans ?_
  exact (run_silent (hlast ..) rest).trans (by rw [hsum])

/-- A character is read as its units, however it is written. -/
theorem run_escape (c : Char) :
    (text units).run (Json.escape c ++ rest) = (text (units ++ unitsOf c)).run rest := by
  have hplane {n : Nat} (hn : c.toNat = n) (hlow : n < 0x10000) : unitsOf c = [n] := by
    rw [unitsOf, hn, if_pos hlow]
  have hshort (letter : Char) {n : Nat} (hc : c.toNat = n) (hlow : n < 0x10000)
      (hu : letter ≠ 'u') (h : shortEscape? letter = some n) :
      (text units).run ('\\' :: letter :: rest) = (text (units ++ unitsOf c)).run rest := by
    rw [run_short units rest hu h, hplane hc hlow]
  have hbound : c.toNat < 0x110000 := by
    rcases isValidChar_toNat c with hlow | ⟨-, hhigh⟩ <;> omega
  fun_cases Json.escape c with
  | case1 hc => exact hshort '"' (congrArg Char.toNat hc) (by decide) (by decide) rfl
  | case2 _ hc => exact hshort '\\' (congrArg Char.toNat hc) (by decide) (by decide) rfl
  | case3 _ _ hc => exact hshort 'n' (congrArg Char.toNat hc) (by decide) (by decide) rfl
  | case4 _ _ _ hc => exact hshort 'r' (congrArg Char.toNat hc) (by decide) (by decide) rfl
  | case5 _ _ _ _ hc => exact hshort 't' (congrArg Char.toNat hc) (by decide) (by decide) rfl
  | case6 _ _ _ _ _ hc => exact hshort 'b' hc (by decide) (by decide) rfl
  | case7 _ _ _ _ _ _ hc => exact hshort 'f' hc (by decide) (by decide) rfl
  | case8 hquote hbackslash _ _ _ _ _ hplain =>
    have hstep : (text units).step c = some (text (units ++ [c.toNat]), []) := by
      simp only [step, if_neg hquote, if_neg hbackslash, if_neg (Nat.not_lt.2 hplain.1)]
    rw [List.singleton_append, run_silent hstep, hplane rfl (by omega)]
  | case9 _ _ _ _ _ _ _ _ hlow =>
    rw [run_unit units rest hlow, hplane rfl hlow]
  | case10 _ _ _ _ _ _ _ _ hbeyond =>
    rw [List.append_assoc, run_unit units _ (by omega), run_unit _ _ (by omega), unitsOf,
      if_neg hbeyond, List.append_assoc]
    rfl

/-- What is written between quotes is read as the units of the text. -/
theorem run_escapes (s : List Char) :
    (text units).run (s.flatMap Json.escape ++ rest) =
      (text (units ++ s.flatMap unitsOf)).run rest := by
  induction s generalizing units with
  | nil => simp
  | cons c s ih =>
    rw [List.flatMap_cons, List.append_assoc, run_escape, ih, List.flatMap_cons, List.append_assoc]

end Scan

/-! ## What is found -/

theorem toList_lineAt (depth : Nat) :
    (lineAt depth).toList = '\n' :: List.replicate (2 * depth) ' ' := by
  simp [lineAt]

namespace Scan

/-- The tokens of characters from some point of the first pass on. -/
def found? (s : Scan) (cs : List Char) : Option (List Token) := do
  let (last, tokens) ← s.run cs
  return tokens ++ (← last.finish)

variable {s next : Scan} {c : Char} {rest letters : List Char}

theorem found?_cons {tokens : List Token} (h : s.step c = some (next, tokens))
    (rest : List Char) : s.found? (c :: rest) = (next.found? rest).map (tokens ++ ·) := by
  rw [found?, run_cons h, found?]
  cases next.run rest with
  | none => rfl
  | some behind =>
    obtain ⟨last, more⟩ := behind
    simp only [Option.map_some, Option.bind_eq_bind, Option.bind_some]
    cases last.finish <;> simp

theorem found?_silent (h : s.step c = some (next, [])) (rest : List Char) :
    s.found? (c :: rest) = next.found? rest := by
  rw [found?, run_silent h, ← found?]

theorem found?_mark {t : Token} (h : between.step c = some (between, [t])) (rest : List Char) :
    between.found? (c :: rest) = (between.found? rest).map (t :: ·) :=
  found?_cons h rest

/-- Lines begin with nothing that is found. -/
theorem found?_lineAt (depth : Nat) (rest : List Char) :
    between.found? ((lineAt depth).toList ++ rest) = between.found? rest := by
  have hspaces (n : Nat) :
      between.found? (List.replicate n ' ' ++ rest) = between.found? rest := by
    induction n with
    | zero => rfl
    | succ n ih => exact (found?_silent rfl _).trans ih
  rw [toList_lineAt, List.cons_append, found?_silent rfl, hspaces]

/-- What is written of a text is found to be the text. -/
theorem found?_quoted (s : String) (rest : List Char) :
    between.found? ((quoted s).toList ++ rest) =
      (between.found? rest).map (.text s.toList :: ·) := by
  have hclose : (text ([] ++ s.toList.flatMap unitsOf)).step '"' =
      some (between, [.text s.toList]) := by
    show some (between, [Token.text (decoded (s.toList.flatMap unitsOf))]) = _
    rw [decoded_units]
  have hwritten : (quoted s).toList ++ rest =
      '"' :: (s.toList.flatMap Json.escape ++ '"' :: rest) := by
    simp [quoted]
  rw [hwritten, found?_silent (s := between) (c := '"') rfl, found?, run_escapes, ← found?,
    found?_cons hclose]
  rfl

theorem start_of_inWord (h : inWord c = true) : start c = some (word [c], []) := by
  have hspace : isSpace c = false := by
    refine Bool.eq_false_iff.2 fun hspace => ?_
    simp only [isSpace, Bool.or_eq_true, decide_eq_true_eq] at hspace
    rcases hspace with ((rfl | rfl) | rfl) | rfl <;> revert h <;> decide
  have hquote : c ≠ '"' := by
    rintro rfl
    revert h
    decide
  simp only [start, hspace, if_neg hquote, h]
  rfl

/-- A word ends where nothing continues it. -/
theorem found?_behind (h : ∀ c ∈ rest.head?, inWord c = false) :
    (word letters).found? rest = (between.found? rest).map (.word letters :: ·) := by
  cases rest with
  | nil => rfl
  | cons c rest =>
    have hends : inWord c = false := h c rfl
    cases hstart : start c with
    | none =>
      have hno : (word letters).step c = none := by
        simp [step, hends, hstart]
      have hno' : between.step c = none := hstart
      simp [found?, run, hno, hno']
    | some begun =>
      obtain ⟨next, tokens⟩ := begun
      have hstep : (word letters).step c = some (next, .word letters :: tokens) := by
        simp [step, hends, hstart]
      have hstep' : between.step c = some (next, tokens) := hstart
      rw [found?_cons hstep, found?_cons hstep', Option.map_map]
      rfl

/-- A word is found if nothing continues it. -/
theorem found?_word (hletters : ∀ c ∈ letters, inWord c = true) (hne : letters ≠ [])
    (h : ∀ c ∈ rest.head?, inWord c = false) :
    between.found? (letters ++ rest) = (between.found? rest).map (.word letters :: ·) := by
  have hmore (begun more : List Char) (hmore : ∀ c ∈ more, inWord c = true) :
      (word begun).found? (more ++ rest) = (word (begun ++ more)).found? rest := by
    induction more generalizing begun with
    | nil => rw [List.nil_append, List.append_nil]
    | cons c more ih =>
      obtain ⟨hc, hmore⟩ := List.forall_mem_cons.1 hmore
      have hstep : (word begun).step c = some (word (begun ++ [c]), []) := by
        simp [step, hc]
      rw [List.cons_append, found?_silent hstep, ih _ hmore, List.append_assoc]
      rfl
  cases letters with
  | nil => exact absurd rfl hne
  | cons c more =>
    obtain ⟨hc, hletters⟩ := List.forall_mem_cons.1 hletters
    rw [List.cons_append, found?_silent (s := between) (start_of_inWord hc), hmore _ _ hletters]
    exact found?_behind h

end Scan

/-! ## Values without numbers -/

/-- A value of texts, words and objects. -/
inductive Lettered : Json → Prop
  | null : Lettered .null
  | bool (b : Bool) : Lettered (.bool b)
  | text (s : String) : Lettered (.text s)
  | object {members : List (String × Json)} (h : ∀ m ∈ members, Lettered m.2) :
      Lettered (.object members)

/-- A member of an object as it is written. -/
def written (depth : Nat) (m : String × Json) : String := quoted m.1 ++ ": " ++ m.2.render depth

theorem renderMembers_eq (depth : Nat) (members : List (String × Json)) :
    renderMembers depth members = members.map (written depth) := by
  induction members with
  | nil => rfl
  | cons m rest ih => rw [renderMembers, ih, List.map_cons, written]

theorem render_object (depth : Nat) (members : List (String × Json)) :
    render depth (.object members) =
      block "\x7b" "\x7d" depth (members.map (written (depth + 1))) := by
  rw [render, renderMembers_eq]

/-! ### Reading -/

/-- A value is read as it was written, whatever stands behind it, unless that continues a word. -/
def Legible (v : Json) : Prop :=
  ∃ tokens : List Token,
    (∀ (depth : Nat) (rest : List Char), (∀ c ∈ rest.head?, inWord c = false) →
      Scan.between.found? ((v.render depth).toList ++ rest) =
        (Scan.between.found? rest).map (tokens ++ ·)) ∧
    ∀ (stack : List Frame) (rest : List Token),
      (Reader.value stack).run (tokens ++ rest) = (Reader.complete v stack).run rest

theorem legible_word {v : Json} {word : String} (hwritten : ∀ depth, v.render depth = word)
    (hletters : word.toList.all inWord = true) (hne : word.toList ≠ [])
    (hvalue : ofWord? word.toList = some v) : v.Legible := by
  refine ⟨[.word word.toList], fun depth rest h => ?_, fun stack rest => ?_⟩
  · rw [hwritten, Scan.found?_word (List.all_eq_true.1 hletters) hne h]
    rfl
  · simp [Reader.run, Reader.step, Reader.start, hvalue]

theorem legible_text (s : String) : (text s).Legible := by
  refine ⟨[.text s.toList], fun depth rest _ => ?_, fun stack rest => ?_⟩
  · rw [render, Scan.found?_quoted]
    rfl
  · simp [Reader.run, Reader.step, Reader.start]

/-- A member is read behind its name as its value. -/
theorem legible_written {m : String × Json} (h : m.2.Legible) :
    ∃ tokens : List Token,
      (∀ (depth : Nat) (rest : List Char), (∀ c ∈ rest.head?, inWord c = false) →
        Scan.between.found? ((written depth m).toList ++ rest) =
          (Scan.between.found? rest).map (.text m.1.toList :: tokens ++ ·)) ∧
      ∀ (done : List (String × Json)) (stack : List Frame) (rest : List Token),
        (Reader.named done m.1 stack).run (tokens ++ rest) =
          (Reader.complete m.2 (.object done m.1 :: stack)).run rest := by
  obtain ⟨tokens, hfound, hread⟩ := h
  refine ⟨.colon :: tokens, fun depth rest hrest => ?_, fun done stack rest => ?_⟩
  · have hcolon : ": ".toList = [':', ' '] := rfl
    rw [written, String.toList_append, String.toList_append, hcolon, List.append_assoc,
      List.append_assoc, Scan.found?_quoted, List.cons_append, Scan.found?_mark rfl,
      List.singleton_append, Scan.found?_silent rfl, hfound depth rest hrest, Option.map_map,
      Option.map_map]
    rfl
  · exact hread (.object done m.1 :: stack) rest

/-- The members of an object are read behind the name of the first, the last one with the end of
the object. -/
theorem legible_members {m : String × Json} {members : List (String × Json)}
    (h : ∀ m' ∈ m :: members, m'.2.Legible) :
    ∃ tokens : List Token,
      (∀ (depth : Nat) (rest : List Char), (∀ c ∈ rest.head?, inWord c = false) →
        Scan.between.found? ((("," ++ lineAt depth).intercalate
            ((m :: members).map (written depth))).toList ++ rest) =
          (Scan.between.found? rest).map (.text m.1.toList :: tokens ++ ·)) ∧
      ∀ (done : List (String × Json)) (stack : List Frame) (rest : List Token),
        (Reader.named done m.1 stack).run (tokens ++ .closeObject :: rest) =
          (Reader.complete (.object (done ++ m :: members)) stack).run rest := by
  induction members generalizing m with
  | nil =>
    obtain ⟨tokens, hfound, hread⟩ := legible_written (h m List.mem_cons_self)
    refine ⟨tokens, fun depth rest hrest => ?_, fun done stack rest => ?_⟩
    · rw [List.map_singleton, String.intercalate_singleton, hfound depth rest hrest]
    · rw [hread]
      rfl
  | cons next members ih =>
    obtain ⟨hm, hmembers⟩ := List.forall_mem_cons.1 h
    obtain ⟨tokens, hfound, hread⟩ := legible_written hm
    obtain ⟨more, hmore, hreadMore⟩ := ih hmembers
    refine ⟨tokens ++ .comma :: .text next.1.toList :: more, fun depth rest hrest => ?_,
      fun done stack rest => ?_⟩
    · have hcomma : ",".toList = [','] := rfl
      have hends : ∀ c ∈ (',' :: ((lineAt depth).toList ++ ((("," ++ lineAt depth).intercalate
          ((next :: members).map (written depth))).toList ++ rest))).head?, inWord c = false := by
        rintro _ ⟨⟩
        rfl
      rw [List.map_cons, List.map_cons, String.intercalate_cons_cons, String.toList_append,
        String.toList_append, String.toList_append, hcomma, ← List.map_cons]
      simp only [List.append_assoc, List.cons_append, List.nil_append]
      rw [hfound depth _ hends, Scan.found?_mark rfl, Scan.found?_lineAt, hmore depth rest hrest,
        Option.map_map, Option.map_map]
      simp [Function.comp_def]
    · rw [List.append_assoc, hread]
      have hnext : (Reader.complete m.2 (.object done m.1 :: stack)).run
          (.comma :: .text next.1.toList :: (more ++ .closeObject :: rest)) =
            (Reader.named (done ++ [m]) next.1 stack).run (more ++ .closeObject :: rest) := by
        simp [Reader.run, Reader.step]
      rw [List.cons_append, List.cons_append, hnext, hreadMore, List.append_assoc]
      rfl

theorem legible_object {members : List (String × Json)} (h : ∀ m ∈ members, m.2.Legible) :
    (object members).Legible := by
  have hopen : "\x7b".toList = ['\x7b'] := rfl
  have hclose : "\x7d".toList = ['\x7d'] := rfl
  cases members with
  | nil =>
    refine ⟨[.openObject, .closeObject], fun depth rest _ => ?_, fun stack rest => rfl⟩
    have hempty : (render depth (object [])).toList = ['\x7b', '\x7d'] := by
      rw [render_object]
      simp [block]
    rw [hempty, List.cons_append, List.singleton_append, Scan.found?_mark rfl,
      Scan.found?_mark rfl, Option.map_map]
    rfl
  | cons m members =>
    obtain ⟨tokens, hfound, hread⟩ := legible_members h
    refine ⟨.openObject :: .text m.1.toList :: (tokens ++ [.closeObject]),
      fun depth rest _ => ?_, fun stack rest => ?_⟩
    · have hends : ∀ c ∈ ((lineAt depth).toList ++ '\x7d' :: rest).head?, inWord c = false := by
        rw [toList_lineAt]
        rintro _ ⟨⟩
        rfl
      rw [render_object, List.map_cons, block, if_neg (by simp), ← List.map_cons]
      simp only [String.toList_append, hopen, hclose, List.append_assoc, List.cons_append,
        List.nil_append]
      rw [Scan.found?_mark rfl, Scan.found?_lineAt, hfound _ _ hends, Scan.found?_lineAt,
        Scan.found?_mark rfl, Option.map_map, Option.map_map]
      simp [Function.comp_def]
    · have hnamed : (Reader.value stack).run
          (.openObject :: .text m.1.toList :: (tokens ++ .closeObject :: rest)) =
            (Reader.named [] m.1 stack).run (tokens ++ .closeObject :: rest) := by
        simp [Reader.run, Reader.step, Reader.start]
      rw [List.cons_append, List.cons_append, List.append_assoc, List.singleton_append, hnamed,
        hread, List.nil_append]

theorem Lettered.legible {v : Json} (h : v.Lettered) : v.Legible := by
  induction h with
  | null => exact legible_word (fun _ => rfl) (by decide) (by decide) rfl
  | bool b =>
    cases b with
    | false => exact legible_word (fun _ => rfl) (by decide) (by decide) rfl
    | true => exact legible_word (fun _ => rfl) (by decide) (by decide) rfl
  | text s => exact legible_text s
  | object _ ih => exact legible_object ih

/-- What is written reads back as what it was written from. -/
theorem Lettered.read?_render {v : Json} (h : v.Lettered) (depth : Nat) :
    read? (v.render depth) = some v := by
  obtain ⟨tokens, hfound, hread⟩ := h.legible
  have htokens : tokens? (v.render depth).toList = some tokens := by
    have hall := hfound depth [] nofun
    rw [List.append_nil] at hall
    rw [tokens?, ← Scan.found?, hall]
    exact congrArg some (List.append_nil tokens)
  have hlast := hread [] []
  rw [List.append_nil] at hlast
  rw [read?, htokens]
  simp only [Option.bind_eq_bind, Option.bind_some, hlast]
  rfl

example : quoted "\"é😀" = "\"\\\"\\u00e9\\ud83d\\ude00\"" := by decide

/-! ### Characters -/

/-- A text of ASCII characters. -/
def IsAscii (s : String) : Prop := ∀ c ∈ s.toList, c.toNat < 0x80

instance (s : String) : Decidable (IsAscii s) :=
  List.decidableBAll (fun c : Char => c.toNat < 0x80) s.toList

theorem isAscii_append {s t : String} (hs : IsAscii s) (ht : IsAscii t) : IsAscii (s ++ t) := by
  intro c hc
  rw [String.toList_append] at hc
  rcases List.mem_append.1 hc with hc | hc
  · exact hs c hc
  · exact ht c hc

theorem isAscii_intercalate {s : String} {l : List String} (hs : IsAscii s)
    (hl : ∀ t ∈ l, IsAscii t) : IsAscii (s.intercalate l) := by
  induction l with
  | nil =>
    intro c hc
    cases hc
  | cons t rest ih =>
    obtain ⟨ht, hrest⟩ := List.forall_mem_cons.1 hl
    cases rest with
    | nil => rwa [String.intercalate_singleton]
    | cons u rest =>
      rw [String.intercalate_cons_cons]
      exact isAscii_append (isAscii_append ht hs) (ih hrest)

theorem isAscii_lineAt (depth : Nat) : IsAscii (lineAt depth) := by
  intro c hc
  rw [toList_lineAt] at hc
  rcases List.mem_cons.1 hc with rfl | hc
  · decide
  · rw [List.eq_of_mem_replicate hc]
    decide

theorem isAscii_hex (width n : Nat) : ∀ c ∈ Text.hex width n, c.toNat < 0x80 := by
  have hdigit : ∀ d < 16, (Nat.digitChar d).toNat < 0x80 := by decide
  induction width generalizing n with
  | zero => exact nofun
  | succ width ih =>
    refine List.forall_mem_append.2 ⟨ih _, List.forall_mem_singleton.2 ?_⟩
    exact hdigit _ (Nat.mod_lt n (by decide))

theorem isAscii_unit (n : Nat) : ∀ c ∈ unit n, c.toNat < 0x80 :=
  List.forall_mem_cons.2 ⟨by decide, List.forall_mem_cons.2 ⟨by decide, isAscii_hex 4 n⟩⟩

theorem isAscii_escape (c : Char) : ∀ d ∈ escape c, d.toNat < 0x80 := by
  fun_cases escape c with
  | case8 _ _ _ _ _ _ _ hplain =>
    refine List.forall_mem_singleton.2 ?_
    omega
  | case9 => exact isAscii_unit _
  | case10 => exact List.forall_mem_append.2 ⟨isAscii_unit _, isAscii_unit _⟩
  | _ => exact List.forall_mem_cons.2 ⟨by decide, List.forall_mem_singleton.2 (by decide)⟩

theorem isAscii_quoted (s : String) : IsAscii (quoted s) := by
  intro c hc
  rw [quoted, String.toList_ofList] at hc
  rcases List.mem_append.1 hc with hc | hc
  · rcases List.mem_cons.1 hc with rfl | hc
    · decide
    · obtain ⟨d, -, hd⟩ := List.mem_flatMap.1 hc
      exact isAscii_escape d c hd
  · obtain rfl := List.mem_singleton.1 hc
    decide

/-- What is written is ASCII. -/
theorem Lettered.isAscii_render {v : Json} (h : v.Lettered) (depth : Nat) :
    IsAscii (v.render depth) := by
  induction h generalizing depth with
  | null => exact (by decide : IsAscii "null")
  | bool b =>
    cases b with
    | false => exact (by decide : IsAscii "false")
    | true => exact (by decide : IsAscii "true")
  | text s => exact isAscii_quoted s
  | @object members _ ih =>
    have hcolon : IsAscii ": " := by decide
    have hopen : IsAscii "\x7b" := by decide
    have hclose : IsAscii "\x7d" := by decide
    have hcomma : IsAscii "," := by decide
    have hmembers : ∀ t ∈ members.map (written (depth + 1)), IsAscii t := by
      intro t ht
      obtain ⟨m, hm, rfl⟩ := List.mem_map.1 ht
      exact isAscii_append (isAscii_append (isAscii_quoted _) hcolon) (ih m hm _)
    rw [render_object, block]
    split
    · exact isAscii_append hopen hclose
    · have hline := isAscii_lineAt (depth + 1)
      have hlines := isAscii_intercalate (isAscii_append hcomma hline) hmembers
      have hfront := isAscii_append (isAscii_append hopen hline) hlines
      exact isAscii_append (isAscii_append hfront (isAscii_lineAt depth)) hclose

end Json

end Understudy
