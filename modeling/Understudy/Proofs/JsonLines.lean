import Mathlib.Tactic.SplitIfs
import Understudy.Logging
import Understudy.Proofs.JsonReader

/-!
# Lines of the log in JSON

In JSON a record is printed as an object with its time, its level and its message, each between
quotes. They are put there as they are. So the line of a record reads as what it was meant to say
if every character of the message stands for itself between quotes, and otherwise it does not.

## Main definitions

* `Logging.Reads`: a text is one line that reads as a level and a message.
* `Logging.IsPlain`: a text of characters that stand for themselves between quotes.
* `Logging.lead`, `Logging.leadTokens`: a line before the message, and what is found there.

## Main statements

* `Logging.read?_of_plain`: the value of a line whose message is plain.
* `Logging.plain_of_read?`: no other line tells its message.
* `Logging.reads_printedText`: the two in one.
* `Logging.isPlain_severityName`: levels have plain names.
-/

namespace Understudy

open Json

namespace Logging

/-- A text is one line that reads as an object with a level and a message. -/
def Reads (text level message : String) : Prop :=
  ∃ line members, text = line ++ "\n" ∧ '\n' ∉ line.toList ∧ read? line = some (.object members) ∧
    (Json.object members).member? "level" = some (.text level) ∧
    (Json.object members).member? "message" = some (.text message)

/-- A text of characters that stand for themselves between quotes. -/
def IsPlain (s : String) : Prop := ∀ c ∈ s.toList, Plain c

instance (s : String) : Decidable (IsPlain s) := List.decidableBAll Plain s.toList

theorem isPlain_append {s t : String} : IsPlain (s ++ t) ↔ IsPlain s ∧ IsPlain t := by
  simp only [IsPlain, String.toList_append, List.mem_append, or_imp, forall_and]

/-! ## Names of levels -/

theorem isPlain_repr (n : Nat) : IsPlain n.repr := by
  intro c hc
  rw [Nat.toList_repr] at hc
  have hdigit : c.isDigit = true := Nat.isDigit_of_mem_toDigits (by decide) (by decide) hc
  obtain ⟨hlow, hhigh⟩ := Char.isDigit_iff_toNat.1 hdigit
  refine ⟨?_, ?_, Nat.le_trans (by decide) hlow⟩
  all_goals
    rintro rfl
    simp at hlow hhigh

theorem isPlain_toString (n : Int) : IsPlain (toString n) := by
  rw [Int.toString_eq_repr, Int.repr_eq_if]
  split
  · exact isPlain_repr _
  · exact isPlain_append.2 ⟨by decide, isPlain_repr _⟩

/-- Every level has a name that is plain, those without a name of their own included. -/
theorem isPlain_severityName (log : Logging) (severity : Int) :
    IsPlain (log.severityName severity) := by
  unfold severityName
  split_ifs
  case neg => exact isPlain_append.2 ⟨by decide, isPlain_toString severity⟩
  all_goals decide

/-! ## The beginning of a line -/

/-- A text between quotes. -/
def quote (s : List Char) : List Char := '"' :: (s ++ ['"'])

/-- What stands in a line before the message. -/
def lead (time level : String) : List Char :=
  '\x7b' :: (quote "time".toList ++ (':' :: ' ' :: (quote time.toList ++
    (',' :: ' ' :: (quote "level".toList ++ (':' :: ' ' :: (quote level.toList ++
      (',' :: ' ' :: (quote "message".toList ++ [':', ' ', '"'])))))))))

theorem toList_layOut (time level : String) (r : LogRecord) :
    (layOut .json time level r).toList =
      lead time level ++ (r.message.toList ++ ['"'] ++ ['\x7d']) := by
  have htime : "\x7b\"time\": \"".toList =
      '\x7b' :: (quote "time".toList ++ [':', ' ', '"']) := by decide
  have hlevel : "\", \"level\": \"".toList =
      '"' :: ',' :: ' ' :: (quote "level".toList ++ [':', ' ', '"']) := by decide
  have hmessage : "\", \"message\": \"".toList =
      '"' :: ',' :: ' ' :: (quote "message".toList ++ [':', ' ', '"']) := by decide
  have hend : "\"\x7d".toList = ['"', '\x7d'] := by decide
  simp only [layOut, lead, quote, String.toList_append, htime, hlevel, hmessage, hend,
    List.cons_append, List.append_assoc, List.nil_append]

/-- What is found in a line before the message. -/
def leadTokens (time level : String) : List Token :=
  [.openObject, .text "time".toList, .colon, .text time.toList, .comma,
    .text "level".toList, .colon, .text level.toList, .comma, .text "message".toList, .colon]

theorem run_quote {s : List Char} (h : ∀ c ∈ s, Plain c) (rest : List Char) :
    Scan.between.run (quote s ++ rest) =
      (Scan.between.run rest).map fun (last, tokens) => (last, .text s :: tokens) := by
  have hopen : Scan.between.step '"' = some (.text [], []) := by decide
  have hclose (units : List Nat) :
      (Scan.text units).step '"' = some (.between, [.text (decoded units)]) := rfl
  rw [quote, List.cons_append, Scan.run_cons hopen, List.append_assoc, Scan.run_plain h,
    List.singleton_append, Scan.run_cons (hclose _), List.nil_append, decoded_map_toNat,
    Option.map_map]
  rfl

theorem run_lead {time level : String} (htime : IsPlain time) (hlevel : IsPlain level)
    (rest : List Char) :
    Scan.between.run (lead time level ++ rest) =
      ((Scan.text []).run rest).map fun (last, tokens) =>
        (last, leadTokens time level ++ tokens) := by
  have hmark (c : Char) (t : Token) (back : List Char)
      (h : Scan.between.step c = some (.between, [t])) :
      Scan.between.run (c :: back) =
        (Scan.between.run back).map fun (last, tokens) => (last, t :: tokens) :=
    Scan.run_cons h back
  have hspace (back : List Char) : Scan.between.run (' ' :: back) = Scan.between.run back :=
    Scan.run_silent rfl back
  have hquote (back : List Char) : Scan.between.run ('"' :: back) = (Scan.text []).run back :=
    Scan.run_silent rfl back
  have hname (name : String) (h : IsPlain name) (back : List Char) := run_quote h back
  simp only [lead, leadTokens, List.cons_append, List.append_assoc, List.nil_append,
    hmark '\x7b' .openObject _ (by decide), hmark ':' .colon _ (by decide),
    hmark ',' .comma _ (by decide), hspace, hquote, run_quote htime, run_quote hlevel,
    hname "time" (by decide), hname "level" (by decide), hname "message" (by decide),
    Option.map_map]
  rfl

/-- The members of a line before the message, and the name of the message. -/
theorem run_leadTokens (time level : String) (tokens : List Token) :
    (Reader.value []).run (leadTokens time level ++ tokens) =
      (Reader.value [.object [("time", .text time), ("level", .text level)] "message"]).run
        tokens := by
  have hlead : (Reader.value []).run (leadTokens time level) =
      some (.value [.object [("time", .text time), ("level", .text level)] "message"]) := by
    simp [leadTokens, Reader.run, Reader.step, Reader.start]
  rw [Reader.run_append, hlead, Option.bind_some]

/-! ## What a line reads as -/

/-- A line of what is plain does not end before its end. -/
theorem not_mem_layOut {time level : String} (htime : IsPlain time) (hlevel : IsPlain level)
    {r : LogRecord} (h : IsPlain r.message) : '\n' ∉ (layOut .json time level r).toList := by
  have hnone {s : String} (hs : IsPlain s) : '\n' ∉ s.toList := fun hc =>
    absurd (hs _ hc) (by decide)
  rw [toList_layOut]
  simp [lead, quote, hnone htime, hnone hlevel, hnone h]

/-- A plain message reads as it is. -/
theorem read?_of_plain {time level : String} (htime : IsPlain time) (hlevel : IsPlain level)
    {r : LogRecord} (h : IsPlain r.message) :
    read? (layOut .json time level r) =
      some (.object
        [("time", .text time), ("level", .text level), ("message", .text r.message)]) := by
  have hclose : (Scan.text (r.message.toList.map Char.toNat)).run ['"', '\x7d'] =
      some (.between, [.text r.message.toList, .closeObject]) := by
    rw [Scan.run_cons (s := .text _) (c := '"') rfl, decoded_map_toNat]
    rfl
  have htokens : tokens? (layOut .json time level r).toList =
      some (leadTokens time level ++ [.text r.message.toList, .closeObject]) := by
    rw [tokens?, toList_layOut, run_lead htime hlevel, List.append_assoc, Scan.run_plain h]
    simp only [List.nil_append, List.singleton_append, hclose]
    rfl
  rw [read?, htokens]
  simp only [Option.bind_eq_bind, Option.bind_some, run_leadTokens]
  simp [Reader.run, Reader.step, Reader.start, Reader.value?]

/-- Whatever is found from the message on is shorter than the message, if that is not plain. -/
theorem exists_of_tokens? {time level : String} (htime : IsPlain time) (hlevel : IsPlain level)
    {r : LogRecord} (hplain : ¬IsPlain r.message) {tokens : List Token}
    (h : tokens? (layOut .json time level r).toList = some tokens) :
    ∃ more, tokens = leadTokens time level ++ more ∧
      ∀ t, .text t ∈ more → t.length < r.message.length := by
  rw [toList_layOut] at h
  obtain ⟨⟨last, found⟩, hrun, h⟩ := Option.bind_eq_some_iff.1 h
  obtain ⟨finished, hfinish, heq⟩ := Option.bind_eq_some_iff.1 h
  rw [run_lead htime hlevel] at hrun
  obtain ⟨⟨_, rest⟩, hrest, hfound⟩ := Option.map_eq_some_iff.1 hrun
  cases hfound
  obtain ⟨middle, quoted, behind, hquoted, hbehind, rfl⟩ := Scan.run_append_eq_some hrest
  obtain ⟨_, brace, none, hbrace, hnone, rfl⟩ := Scan.run_cons_eq_some hbehind
  cases hnone
  cases heq
  refine ⟨quoted ++ brace ++ finished, by simp, fun t ht => ?_⟩
  rcases List.mem_append.1 ht with ht | ht
  · rcases List.mem_append.1 ht with ht | ht
    · have hshorter := Scan.shorter hplain hquoted ht
      rwa [List.length_nil, Nat.zero_add, String.length_toList] at hshorter
    · exact absurd ht (Scan.not_mem_of_step_brace hbrace t)
  · exact absurd ht (Scan.not_mem_of_finish hfinish t)

/-- No member of a line is the message, unless the message is plain. -/
theorem plain_of_read? {time level : String} (htime : IsPlain time) (hlevel : IsPlain level)
    {r : LogRecord} {v : Json} (hv : read? (layOut .json time level r) = some v)
    (h : v.member? "message" = some (.text r.message)) : IsPlain r.message := by
  refine Decidable.byContradiction fun hplain => ?_
  obtain ⟨tokens, htokens, hv⟩ := Option.bind_eq_some_iff.1 hv
  obtain ⟨last, hlast, hvalue⟩ := Option.bind_eq_some_iff.1 hv
  obtain ⟨more, rfl, hshort⟩ := exists_of_tokens? htime hlevel hplain htokens
  rw [run_leadTokens] at hlast
  have hopen : (Reader.value [.object [("time", .text time), ("level", .text level)]
      "message"]).Tells "message" fun s => s.length < r.message.length := by
    refine List.forall_mem_singleton.2 fun s hs => ?_
    simp at hs
  have htells := Reader.tells_run hlast hopen fun s hs => by
    rw [String.length_ofList]
    exact hshort s hs
  obtain rfl : last = .complete v [] := by
    unfold Reader.value? at hvalue
    split at hvalue <;> cases hvalue
    rfl
  obtain ⟨members, rfl, hmem⟩ := mem_of_member? h
  exact Nat.lt_irrefl _ (htells.1 _ hmem)

/-- The line of a record without a fault reads as what it was meant to say exactly if the message
is plain. -/
theorem reads_printedText {time level : String} (htime : IsPlain time) (hlevel : IsPlain level)
    {r : LogRecord} (hfault : r.fault = none) :
    Reads (printedText .json time level r) level r.message ↔ IsPlain r.message := by
  have hprinted : printedText .json time level r = layOut .json time level r ++ "\n" := by
    rw [printedText, hfault]
  rw [hprinted]
  constructor
  · rintro ⟨line, members, heq, -, hread, -, hmessage⟩
    obtain rfl : layOut .json time level r = line := by
      simpa using heq
    exact plain_of_read? htime hlevel hread hmessage
  · intro hplain
    exact ⟨_, _, rfl, not_mem_layOut htime hlevel hplain, read?_of_plain htime hlevel hplain,
      rfl, rfl⟩

end Logging

end Understudy
