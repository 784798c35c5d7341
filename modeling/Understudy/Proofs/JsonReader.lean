import Understudy.Decimal.Read
import Understudy.Json

/-!
# Reading JSON

A text is read as JSON in two passes. The first goes through its characters and tells what is
between quotes from what is not. The second goes through what the first has found, which are the
tokens, and puts values together; the containers that are open meanwhile lie on a stack. Of members
with one name the last one counts.

What a reader finds between quotes is never longer than what stands there, and shorter as soon as
anything there does not stand for itself.

## Main definitions

* `Json.read?`: the value of a text.
* `Json.member?`: a member of an object, by its name.
* `Json.Plain`: a character that stands for itself between quotes.
* `Json.Scan`, `Json.Scan.run`: the first pass.
* `Json.Reader`, `Json.Reader.run`: the second pass.

## Main statements

* `Json.Scan.run_plain`: plain characters between quotes are found as they are.
* `Json.Scan.short`: what is found is no longer than what stands there.
* `Json.Scan.shorter`: it is shorter if what stands there is not plain.
* `Json.Reader.tells_run`: what holds of the texts that are read holds of the members of the value.
-/

namespace Understudy

namespace Json

/-! ## Texts -/

/-- A character that stands for itself between quotes. -/
def Plain (c : Char) : Prop := c ≠ '"' ∧ c ≠ '\\' ∧ 0x20 ≤ c.toNat

instance (c : Char) : Decidable (Plain c) := inferInstanceAs (Decidable (_ ∧ _))

/-- What stands for a character behind a backslash. -/
def shortEscape? : Char → Option Nat
  | '"' => some 0x22
  | '\\' => some 0x5c
  | '/' => some 0x2f
  | 'b' => some 0x08
  | 'f' => some 0x0c
  | 'n' => some 0x0a
  | 'r' => some 0x0d
  | 't' => some 0x09
  | _ => none

/-- What a digit stands for in a number to the base of sixteen. -/
def hexDigit? (c : Char) : Option Nat :=
  if '0' ≤ c ∧ c ≤ '9' then some (c.toNat - '0'.toNat)
  else if 'a' ≤ c ∧ c ≤ 'f' then some (c.toNat - 'a'.toNat + 10)
  else if 'A' ≤ c ∧ c ≤ 'F' then some (c.toNat - 'A'.toNat + 10)
  else none

/-- The character of a number, or the one that is put in place of what is no character. -/
def charOf (n : Nat) : Char := if n.isValidChar then Char.ofNat n else '\uFFFD'

/-- The characters of numbers. Two UTF-16 units that belong together are one character. -/
def decoded : List Nat → List Char
  | high :: low :: rest =>
    if 0xd800 ≤ high ∧ high < 0xdc00 ∧ 0xdc00 ≤ low ∧ low < 0xe000 then
      charOf (0x10000 + (high - 0xd800) * 0x400 + (low - 0xdc00)) :: decoded rest
    else charOf high :: decoded (low :: rest)
  | [n] => [charOf n]
  | [] => []

/-- There are no more characters than numbers. -/
theorem length_decoded_le (units : List Nat) : (decoded units).length ≤ units.length := by
  fun_induction decoded units with
  | case1 high low rest _ ih =>
    simp only [List.length_cons]
    omega
  | case2 high low rest _ ih =>
    simp only [List.length_cons] at ih ⊢
    omega
  | case3 n => exact Nat.le_refl 1
  | case4 => exact Nat.le_refl 0

theorem isValidChar_toNat (c : Char) : c.toNat.isValidChar := c.valid

theorem charOf_toNat (c : Char) : charOf c.toNat = c := by
  rw [charOf, if_pos (isValidChar_toNat c), Char.ofNat_toNat]

/-- A character of its own number is never one of two units. -/
theorem decoded_cons (c : Char) (units : List Nat) :
    decoded (c.toNat :: units) = c :: decoded units := by
  cases units with
  | nil => exact congrArg ([·]) (charOf_toNat c)
  | cons low rest =>
    have hvalid := isValidChar_toNat c
    have hunit : ¬(0xd800 ≤ c.toNat ∧ c.toNat < 0xdc00 ∧ 0xdc00 ≤ low ∧ low < 0xe000) := by
      rcases hvalid with h | ⟨h, -⟩ <;> omega
    rw [decoded, if_neg hunit, charOf_toNat]

theorem decoded_map_toNat (s : List Char) : decoded (s.map Char.toNat) = s := by
  induction s with
  | nil => rfl
  | cons c rest ih => rw [List.map_cons, decoded_cons, ih]

/-! ## Numbers and words -/

/-- Digits at the beginning, of which there has to be one, and what stands behind them. -/
def digits? (s : List Char) : Option (List Char × List Char) :=
  match s.takeWhile Char.isDigit with
  | [] => none
  | digits => some (digits, s.dropWhile Char.isDigit)

/-- What stands behind a fraction, if there is one. -/
def behindFraction? : List Char → Option (List Char)
  | '.' :: rest => (digits? rest).map Prod.snd
  | s => some s

/-- What stands behind an exponent, if there is one. -/
def behindExponent? : List Char → Option (List Char)
  | 'e' :: rest | 'E' :: rest =>
    match rest with
    | '+' :: rest | '-' :: rest => (digits? rest).map Prod.snd
    | rest => (digits? rest).map Prod.snd
  | s => some s

/-- Whether characters are a number. It does not begin with a zero that is not needed. -/
def isNumber (s : List Char) : Bool :=
  let unsigned := match s with
    | '-' :: rest => rest
    | s => s
  match digits? unsigned with
  | some (digits, rest) =>
    (digits.length == 1 || digits.head? != some '0') &&
      (behindFraction? rest).bind behindExponent? == some []
  | none => false

/-- The value of a number. One without a fraction and an exponent is whole. -/
def number? (s : List Char) : Option Json :=
  if isNumber s then
    match (String.ofList s).toInt? with
    | some n => some (.int n)
    | none => (Decimal.read? (String.ofList s)).map Json.float
  else none

/-- The value of a number or of a word. -/
def ofWord? (letters : List Char) : Option Json :=
  match String.ofList letters with
  | "null" => some .null
  | "true" => some (.bool true)
  | "false" => some (.bool false)
  | _ => number? letters

/-! ## The first pass -/

/-- What a text is made of as JSON. -/
inductive Token where
  | openArray
  | closeArray
  | openObject
  | closeObject
  | comma
  | colon
  /-- What was found between quotes. -/
  | text (s : List Char)
  /-- A number or a word. -/
  | word (letters : List Char)
  deriving DecidableEq

/-- The tokens of one character. -/
def Token.ofMark? : Char → Option Token
  | '[' => some .openArray
  | ']' => some .closeArray
  | '\x7b' => some .openObject
  | '\x7d' => some .closeObject
  | ',' => some .comma
  | ':' => some .colon
  | _ => none

/-- Whether a character may stand between tokens. -/
def isSpace (c : Char) : Bool := c = ' ' || c = '\t' || c = '\n' || c = '\r'

/-- Whether a character may stand in a number or in a word. -/
def inWord (c : Char) : Bool := c.isAlphanum || c = '-' || c = '+' || c = '.'

/-- How far the first pass is. -/
inductive Scan where
  | between
  /-- Between quotes, behind characters of which the numbers are known. -/
  | text (units : List Nat)
  /-- The same, behind a backslash. -/
  | escape (units : List Nat)
  /-- The same, in a unit that is told by four digits. -/
  | unit (units digits : List Nat)
  /-- In a number or in a word. -/
  | word (letters : List Char)
  deriving DecidableEq

namespace Scan

/-- A character that is not between quotes and continues no word. -/
def start (c : Char) : Option (Scan × List Token) :=
  if isSpace c then some (.between, [])
  else if c = '"' then some (.text [], [])
  else if inWord c then some (.word [c], [])
  else (Token.ofMark? c).map fun t => (.between, [t])

/-- One character: how far the pass is behind it, and which tokens are complete. -/
def step : Scan → Char → Option (Scan × List Token)
  | .between, c => start c
  | .word letters, c =>
    if inWord c then some (.word (letters ++ [c]), [])
    else (start c).map fun (s, tokens) => (s, .word letters :: tokens)
  | .text units, c =>
    if c = '"' then some (.between, [.text (decoded units)])
    else if c = '\\' then some (.escape units, [])
    else if c.toNat < 0x20 then none
    else some (.text (units ++ [c.toNat]), [])
  | .escape units, c =>
    if c = 'u' then some (.unit units [], [])
    else (shortEscape? c).map fun n => (.text (units ++ [n]), [])
  | .unit units digits, c =>
    (hexDigit? c).map fun d =>
      if digits.length < 3 then (.unit units (digits ++ [d]), [])
      else (.text (units ++ [(digits ++ [d]).foldl (16 * · + ·) 0]), [])

/-- Characters, one after the other. -/
def run : Scan → List Char → Option (Scan × List Token)
  | s, [] => some (s, [])
  | s, c :: rest => do
    let (next, tokens) ← s.step c
    let (last, more) ← next.run rest
    return (last, tokens ++ more)

/-- The tokens that are complete at the end of a text. -/
def finish : Scan → Option (List Token)
  | .between => some []
  | .word letters => some [.word letters]
  | _ => none

end Scan

/-- The tokens of a text. -/
def tokens? (s : List Char) : Option (List Token) := do
  let (last, tokens) ← Scan.between.run s
  return tokens ++ (← last.finish)

/-! ## The second pass -/

/-- A container that is open, with what it holds so far. -/
inductive Frame where
  | array (items : List Json)
  /-- An object, with the name of the member that is read. -/
  | object (members : List (String × Json)) (name : String)

/-- How far the second pass is, with the containers that are open, the innermost first. -/
inductive Reader where
  /-- A value has to come. -/
  | value (stack : List Frame)
  /-- An array was opened. -/
  | array (stack : List Frame)
  /-- An object was opened. -/
  | object (stack : List Frame)
  /-- Another member has to come. -/
  | member (members : List (String × Json)) (stack : List Frame)
  /-- The name of a member was read. -/
  | named (members : List (String × Json)) (name : String) (stack : List Frame)
  /-- A value was read. -/
  | complete (v : Json) (stack : List Frame)

namespace Reader

/-- The beginning of a value. -/
def start (stack : List Frame) : Token → Option Reader
  | .text s => some (.complete (.text (String.ofList s)) stack)
  | .word letters => (ofWord? letters).map fun v => .complete v stack
  | .openArray => some (.array stack)
  | .openObject => some (.object stack)
  | _ => none

/-- One token. -/
def step : Reader → Token → Option Reader
  | .value stack, t => start stack t
  | .array stack, .closeArray => some (.complete (.array []) stack)
  | .array stack, t => start (.array [] :: stack) t
  | .object stack, .closeObject => some (.complete (.object []) stack)
  | .object stack, .text name => some (.named [] (String.ofList name) stack)
  | .member members stack, .text name => some (.named members (String.ofList name) stack)
  | .named members name stack, .colon => some (.value (.object members name :: stack))
  | .complete v (.array items :: stack), .comma => some (.value (.array (items ++ [v]) :: stack))
  | .complete v (.array items :: stack), .closeArray =>
    some (.complete (.array (items ++ [v])) stack)
  | .complete v (.object members name :: stack), .comma =>
    some (.member (members ++ [(name, v)]) stack)
  | .complete v (.object members name :: stack), .closeObject =>
    some (.complete (.object (members ++ [(name, v)])) stack)
  | _, _ => none

/-- Tokens, one after the other. -/
def run : Reader → List Token → Option Reader
  | r, [] => some r
  | r, t :: rest => do (← r.step t).run rest

/-- The value that was read, if there is nothing left to be read. -/
def value? : Reader → Option Json
  | .complete v [] => some v
  | _ => none

end Reader

/-- The value of a text that is JSON. -/
def read? (s : String) : Option Json := do
  let tokens ← tokens? s.toList
  let last ← (Reader.value []).run tokens
  last.value?

/-- A member of an object. Where several have one name, the last one counts. -/
def member? : Json → String → Option Json
  | .object members, name => members.reverse.lookup name
  | _, _ => none

example : read? "\x7b\"say\": [null], \"say\": \"\\u0068i\\n\"\x7d" =
    some (.object [("say", .array [.null]), ("say", .text "hi\n")]) := by rfl

/-! ## What is found between quotes -/

namespace Scan

/-- A run is a step and the rest of the run. -/
theorem run_cons {s next : Scan} {c : Char} {tokens : List Token}
    (h : s.step c = some (next, tokens)) (rest : List Char) :
    s.run (c :: rest) = (next.run rest).map fun (last, more) => (last, tokens ++ more) := by
  simp only [run, h, Option.bind_eq_bind, Option.bind_some]
  cases next.run rest <;> rfl

/-- A run is the rest of the run behind a character with which no token is complete. -/
theorem run_silent {s next : Scan} {c : Char} (h : s.step c = some (next, []))
    (rest : List Char) : s.run (c :: rest) = next.run rest :=
  (run_cons h rest).trans Option.map_id_apply

theorem run_append (s : Scan) (front back : List Char) :
    s.run (front ++ back) = do
      let (middle, tokens) ← s.run front
      let (last, more) ← middle.run back
      return (last, tokens ++ more) := by
  induction front generalizing s with
  | nil =>
    simp only [List.nil_append, run, Option.bind_eq_bind, Option.bind_some, Option.pure_def]
    cases s.run back <;> rfl
  | cons c front ih =>
    simp only [List.cons_append, run, ih, Option.bind_eq_bind, Option.pure_def, Option.bind_assoc,
      Option.bind_some, List.append_assoc]

/-- A run over two parts is a run over the first, and one over the second from there. -/
theorem run_append_eq_some {s last : Scan} {front back : List Char} {tokens : List Token}
    (h : s.run (front ++ back) = some (last, tokens)) :
    ∃ middle first more, s.run front = some (middle, first) ∧ middle.run back = some (last, more) ∧
      tokens = first ++ more := by
  rw [run_append] at h
  obtain ⟨⟨middle, first⟩, hfront, h⟩ := Option.bind_eq_some_iff.1 h
  obtain ⟨⟨last', more⟩, hback, heq⟩ := Option.bind_eq_some_iff.1 h
  cases heq
  exact ⟨middle, first, more, hfront, hback, rfl⟩

/-- Plain characters between quotes are found as they are. -/
theorem run_plain {front : List Char} (h : ∀ c ∈ front, Plain c) (units : List Nat)
    (back : List Char) :
    (text units).run (front ++ back) = (text (units ++ front.map Char.toNat)).run back := by
  induction front generalizing units with
  | nil => simp
  | cons c front ih =>
    obtain ⟨hquote, hbackslash, hcontrol⟩ := h c (List.mem_cons_self ..)
    have hstep : step (text units) c = some (text (units ++ [c.toNat]), []) := by
      simp only [step, if_neg hquote, if_neg hbackslash, if_neg (Nat.not_lt.2 hcontrol)]
    rw [List.cons_append, run_silent hstep, ih fun c hc => h c (List.mem_cons_of_mem _ hc),
      List.append_assoc]
    rfl

/-- How many characters may be found of the text that is read, with one to spare. -/
def held : Scan → Nat
  | .text units | .escape units | .unit units _ => units.length + 1
  | .between | .word _ => 0

/-- The beginning of something holds nothing yet. -/
theorem held_start {next : Scan} {c : Char} {tokens : List Token}
    (h : start c = some (next, tokens)) : next.held ≤ 1 ∧ ∀ t, .text t ∉ tokens := by
  unfold start at h
  split at h
  · cases h
    exact ⟨Nat.zero_le _, fun _ => List.not_mem_nil⟩
  · split at h
    · cases h
      exact ⟨Nat.le_refl _, fun _ => List.not_mem_nil⟩
    · split at h
      · cases h
        exact ⟨Nat.zero_le _, fun _ => List.not_mem_nil⟩
      · obtain ⟨mark, hmark, heq⟩ := Option.map_eq_some_iff.1 h
        cases heq
        refine ⟨Nat.zero_le _, fun t ht => ?_⟩
        obtain rfl := List.mem_singleton.1 ht
        unfold Token.ofMark? at hmark
        split at hmark <;> cases hmark

/-- One character adds one at most, and what it closes is no longer than what was held. -/
theorem held_step {s next : Scan} {c : Char} {tokens : List Token}
    (h : s.step c = some (next, tokens)) :
    next.held ≤ s.held + 1 ∧ ∀ t, .text t ∈ tokens → t.length + 1 ≤ s.held := by
  cases s with
  | between =>
    obtain ⟨hheld, hnone⟩ := held_start h
    exact ⟨hheld, fun t ht => absurd ht (hnone t)⟩
  | word letters =>
    rw [step] at h
    split at h
    · cases h
      exact ⟨Nat.zero_le _, fun t ht => absurd ht List.not_mem_nil⟩
    · obtain ⟨⟨s, more⟩, hstart, heq⟩ := Option.map_eq_some_iff.1 h
      cases heq
      obtain ⟨hheld, hnone⟩ := held_start hstart
      refine ⟨hheld, fun t ht => ?_⟩
      rcases List.mem_cons.1 ht with heq | ht
      · cases heq
      · exact absurd ht (hnone t)
  | text units =>
    rw [step] at h
    split at h
    · cases h
      refine ⟨Nat.zero_le _, fun t ht => ?_⟩
      cases List.mem_singleton.1 ht
      exact Nat.succ_le_succ (length_decoded_le units)
    · split at h
      · cases h
        exact ⟨Nat.le_succ _, fun t ht => absurd ht List.not_mem_nil⟩
      · split at h
        · cases h
        · cases h
          exact ⟨by simp [held], fun t ht => absurd ht List.not_mem_nil⟩
  | escape units =>
    rw [step] at h
    split at h
    · cases h
      exact ⟨Nat.le_succ _, fun t ht => absurd ht List.not_mem_nil⟩
    · obtain ⟨n, -, heq⟩ := Option.map_eq_some_iff.1 h
      cases heq
      exact ⟨by simp [held], fun t ht => absurd ht List.not_mem_nil⟩
  | unit units digits =>
    obtain ⟨d, -, heq⟩ := Option.map_eq_some_iff.1 h
    split at heq
    · cases heq
      exact ⟨Nat.le_succ _, fun t ht => absurd ht List.not_mem_nil⟩
    · cases heq
      exact ⟨by simp [held], fun t ht => absurd ht List.not_mem_nil⟩

/-- A run is a step and the rest of the run. -/
theorem run_cons_eq_some {s last : Scan} {c : Char} {rest : List Char} {tokens : List Token}
    (h : s.run (c :: rest) = some (last, tokens)) :
    ∃ next first more, s.step c = some (next, first) ∧ next.run rest = some (last, more) ∧
      tokens = first ++ more := by
  obtain ⟨⟨next, first⟩, hstep, h⟩ := Option.bind_eq_some_iff.1 h
  obtain ⟨⟨last', more⟩, hrun, heq⟩ := Option.bind_eq_some_iff.1 h
  cases heq
  exact ⟨next, first, more, hstep, hrun, rfl⟩

/-- What is found is no longer than what stands there. -/
theorem short {s last : Scan} {cs : List Char} {tokens : List Token}
    (h : s.run cs = some (last, tokens)) {t : List Char} (ht : .text t ∈ tokens) :
    t.length + 2 ≤ s.held + cs.length := by
  induction cs generalizing s tokens with
  | nil =>
    cases h
    cases ht
  | cons c rest ih =>
    obtain ⟨next, first, more, hstep, hrun, rfl⟩ := run_cons_eq_some h
    obtain ⟨hheld, hclosed⟩ := held_step hstep
    rw [List.length_cons]
    rcases List.mem_append.1 ht with ht | ht
    · have := hclosed t ht
      omega
    · have := ih hrun ht
      omega

/-- What is found between quotes is shorter than what stands there, and so is whatever is found
behind it, if what stands there is not plain. -/
theorem shorter {front : List Char} (hfront : ¬∀ c ∈ front, Plain c) {units : List Nat}
    {last : Scan} {tokens : List Token}
    (h : (text units).run (front ++ ['"']) = some (last, tokens)) {t : List Char}
    (ht : .text t ∈ tokens) : t.length < units.length + front.length := by
  induction front generalizing units tokens with
  | nil => exact absurd (fun _ hc => absurd hc List.not_mem_nil) hfront
  | cons c front ih =>
    rw [List.cons_append] at h
    obtain ⟨next, first, more, hstep, hrun, rfl⟩ := run_cons_eq_some h
    rw [List.length_cons]
    rw [step] at hstep
    split at hstep
    -- The text is closed before its end.
    · cases hstep
      rcases List.mem_append.1 ht with ht | ht
      · cases List.mem_singleton.1 ht
        have := length_decoded_le units
        omega
      · have := short hrun ht
        simp only [held, List.length_append, List.length_singleton] at this
        omega
    · next hquote =>
      split at hstep
      -- Two characters at least stand for one.
      · cases hstep
        have := short hrun ht
        simp only [held, List.length_append, List.length_singleton] at this
        omega
      · next hbackslash =>
        split at hstep
        · cases hstep
        · next hcontrol =>
          cases hstep
          have hrest : ¬∀ c ∈ front, Plain c := fun hplain => hfront fun d hd => by
            rcases List.mem_cons.1 hd with rfl | hd
            · exact ⟨hquote, hbackslash, Nat.not_lt.1 hcontrol⟩
            · exact hplain d hd
          have := ih hrest hrun ht
          simp only [List.length_append, List.length_singleton] at this
          omega

/-- A text is not complete by the end of what is read. -/
theorem not_mem_of_finish {s : Scan} {tokens : List Token} (h : s.finish = some tokens)
    (t : List Char) : .text t ∉ tokens := by
  intro ht
  cases s with
  | between =>
    cases h
    cases ht
  | word letters =>
    cases h
    cases List.mem_singleton.1 ht
  | _ => cases h

/-- A closing brace closes no text. -/
theorem not_mem_of_step_brace {s next : Scan} {tokens : List Token}
    (h : s.step '\x7d' = some (next, tokens)) (t : List Char) : .text t ∉ tokens := by
  intro ht
  cases s with
  | text units =>
    cases h
    cases ht
  | escape units | unit units digits => cases h
  | between =>
    cases h
    cases List.mem_singleton.1 ht
  | word letters =>
    cases h
    rcases List.mem_cons.1 ht with heq | ht
    · cases heq
    · cases List.mem_singleton.1 ht

end Scan

/-! ## Members of what is read -/

/-- What is told by a value that is a text, or by those members of an object that are texts and
have a name. -/
def Tells (name : String) (P : String → Prop) : Json → Prop
  | .text s => P s
  | .object members => ∀ s, (name, .text s) ∈ members → P s
  | _ => True

/-- What is told by those members of an open object that are texts and have a name. -/
def Frame.Tells (name : String) (P : String → Prop) : Frame → Prop
  | .array _ => True
  | .object members _ => ∀ s, (name, .text s) ∈ members → P s

/-- What is told by everything that was read so far. -/
def Reader.Tells (name : String) (P : String → Prop) : Reader → Prop
  | .value stack | .array stack | .object stack => ∀ f ∈ stack, f.Tells name P
  | .member members stack | .named members _ stack =>
    (∀ s, (name, .text s) ∈ members → P s) ∧ ∀ f ∈ stack, f.Tells name P
  | .complete v stack => v.Tells name P ∧ ∀ f ∈ stack, f.Tells name P

section

variable {name : String} {P : String → Prop}

theorem tells_number {s : List Char} {v : Json} (h : number? s = some v) : v.Tells name P := by
  unfold number? at h
  split at h
  · split at h
    · cases h
      trivial
    · obtain ⟨x, -, rfl⟩ := Option.map_eq_some_iff.1 h
      trivial
  · cases h

/-- A word is no text and no object. -/
theorem tells_ofWord {letters : List Char} {v : Json} (h : ofWord? letters = some v) :
    v.Tells name P := by
  unfold ofWord? at h
  split at h
  iterate 3
    · cases h
      trivial
  · exact tells_number h

namespace Reader

theorem tells_start {stack : List Frame} {t : Token} {next : Reader}
    (h : start stack t = some next) (hstack : ∀ f ∈ stack, f.Tells name P)
    (ht : ∀ s, t = .text s → P (String.ofList s)) : next.Tells name P := by
  cases t with
  | text s =>
    cases h
    exact ⟨ht s rfl, hstack⟩
  | word letters =>
    obtain ⟨v, hv, rfl⟩ := Option.map_eq_some_iff.1 h
    exact ⟨tells_ofWord hv, hstack⟩
  | openArray | openObject =>
    cases h
    exact hstack
  | _ => cases h

/-- One more member tells the same if its value does. -/
theorem tells_append {members : List (String × Json)} {v : Json} {other : String}
    (h : ∀ s, (name, .text s) ∈ members → P s) (hv : v.Tells name P) :
    ∀ s, (name, .text s) ∈ members ++ [(other, v)] → P s := by
  intro s hs
  rcases List.mem_append.1 hs with hs | hs
  · exact h s hs
  · cases List.mem_singleton.1 hs
    exact hv

/-- One token tells the same if it is no text, or a text that does. -/
theorem tells_step {r next : Reader} {t : Token} (h : r.step t = some next)
    (hr : r.Tells name P) (ht : ∀ s, t = .text s → P (String.ofList s)) : next.Tells name P := by
  unfold step at h
  split at h
  case h_1 => exact tells_start h hr ht
  case h_2 =>
    cases h
    exact ⟨trivial, hr⟩
  case h_3 => exact tells_start h (List.forall_mem_cons.2 ⟨trivial, hr⟩) ht
  case h_4 =>
    cases h
    exact ⟨fun s hs => absurd hs List.not_mem_nil, hr⟩
  case h_5 =>
    cases h
    exact ⟨fun s hs => absurd hs List.not_mem_nil, hr⟩
  case h_6 =>
    cases h
    exact hr
  case h_7 =>
    cases h
    exact List.forall_mem_cons.2 hr
  case h_8 =>
    cases h
    exact List.forall_mem_cons.2 ⟨trivial, (List.forall_mem_cons.1 hr.2).2⟩
  case h_9 =>
    cases h
    exact ⟨trivial, (List.forall_mem_cons.1 hr.2).2⟩
  case h_10 | h_11 =>
    cases h
    obtain ⟨hopen, hstack⟩ := List.forall_mem_cons.1 hr.2
    exact ⟨tells_append hopen hr.1, hstack⟩
  case h_12 => cases h

/-- What holds of the texts that are read holds of the members of the value. -/
theorem tells_run {r last : Reader} {tokens : List Token} (h : r.run tokens = some last)
    (hr : r.Tells name P) (ht : ∀ s, .text s ∈ tokens → P (String.ofList s)) :
    last.Tells name P := by
  induction tokens generalizing r with
  | nil =>
    cases h
    exact hr
  | cons t rest ih =>
    obtain ⟨next, hstep, hrun⟩ := Option.bind_eq_some_iff.1 h
    refine ih hrun (tells_step hstep hr fun s hs => ?_) fun s hs => ?_
    · exact ht s (hs ▸ List.mem_cons_self ..)
    · exact ht s (List.mem_cons_of_mem _ hs)

theorem run_append (r : Reader) (front back : List Token) :
    r.run (front ++ back) = (r.run front).bind (·.run back) := by
  induction front generalizing r with
  | nil => rfl
  | cons t front ih =>
    simp only [List.cons_append, run, ih, Option.bind_eq_bind, Option.bind_assoc]

end Reader

/-- A member that is a text is one of the members of that name. -/
theorem mem_of_member? {v : Json} {s : String} (h : v.member? name = some (.text s)) :
    ∃ members, v = .object members ∧ (name, .text s) ∈ members := by
  cases v with
  | object members =>
    obtain ⟨_, _, heq, -⟩ := List.lookup_eq_some_iff.1 h
    have hmem : (name, .text s) ∈ members.reverse := heq ▸ List.mem_append_right _ (by simp)
    exact ⟨members, rfl, List.mem_reverse.1 hmem⟩
  | _ => cases h

end

end Json

end Understudy
