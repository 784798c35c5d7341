import Understudy.Calendar
import Understudy.Value.Request
import Understudy.Vocabulary

/-!
# Values

Identities answer whatever they were given, registries hand on whatever was
registered, and hooks receive whatever handle another hook returned. What passes
through is therefore a value of one open type, while everything that decides
something has a type of its own.

Things with an identity are numbered: a value refers to one by its kind and its
number. Lists and dictionaries can change, so a value refers to the place where
their contents are kept. What never changes carries its content with it, next to a
serial number that tells two values with equal content apart. A text or a number that
the program itself holds has the serial number zero: there is one of it only.

## Main definitions

* `Kind`, `Ref`, `Object`: references to things that are kept in tables.
* `ListRef`, `DictRef`: references to what can change its contents.
* `Function`: what can be called.
* `Value`: everything that can be passed around.
-/

namespace Understudy

/-- The kinds of things that are kept in tables. -/
inductive Kind where
  | registry
  | component
  | provider
  | installer
  | policy
  | injector
  | timeline
  | bank
  | session
  | recorder
  | probe
  | holder
  | settings
  | context
  deriving Repr, DecidableEq

/-- A reference to a thing of a known kind. -/
structure Ref (kind : Kind) where
  index : Nat
  deriving Repr, DecidableEq, Inhabited

/-- A reference to a thing of any kind. -/
structure Object where
  kind : Kind
  index : Nat
  deriving Repr, DecidableEq

/-- A reference without the knowledge of its kind in the type. -/
def Ref.object {kind : Kind} (r : Ref kind) : Object := ⟨kind, r.index⟩

/-- Where the items of a list are kept. Some things keep a list of what happened to
them, and whoever holds it sees what is added; any other list is kept by itself. -/
inductive ListRef where
  | loose (i : Nat)
  | collections (s : Ref .session)
  | arms (r : Ref .recorder)
  | cancels (r : Ref .recorder)
  | calls (p : Ref .probe)
  deriving Repr, DecidableEq

/-- Where the pairs of a dictionary are kept, in the same way. -/
inductive DictRef where
  | loose (i : Nat)
  | annotations (c : Ref .component)
  | notes (c : Ref .component)
  | entries (r : Ref .registry)
  | captures (r : Ref .registry)
  deriving Repr, DecidableEq

/-- What can be called and is no thing of its own. -/
inductive Function where
  /-- The hook that arms nothing. -/
  | idleArm
  /-- The hook that cancels nothing. -/
  | idleCancel
  /-- Tells the time of the scenario. -/
  | clock
  /-- Tells the time where nobody says which clock to ask. In a scenario it is the same
  time. -/
  | wallClock
  /-- Notes its own name. -/
  | callback (name : String)
  /-- A request to a thing, still without its arguments. -/
  | method (owner : Object) (name : Method)
  /-- Cancels one timer of a timeline. -/
  | cancelTimer (timeline : Ref .timeline) (seq : Nat)
  /-- The identity of the machine by its settings, asked of the type of such identities. -/
  | hostOfSettings
  deriving Repr, DecidableEq

/-- What a view of a dictionary shows of it. -/
inductive Aspect where
  | keys
  | values
  | items
  deriving Repr, DecidableEq

/-- The kinds of records. -/
inductive RecordKind where
  | entry
  | platform
  | collection
  deriving Repr, DecidableEq

/-- Everything that can be passed around. The serial number zero of a tuple, a set or a
request stands for what nobody has held on to yet. -/
inductive Value where
  | none
  | bool (b : Bool)
  | int (serial : Nat) (n : Int)
  | float (serial : Nat) (x : Float)
  | text (serial : Nat) (s : String)
  | list (l : ListRef)
  | tuple (serial : Nat) (items : List Value)
  | dict (d : DictRef)
  /-- The overrides of an overlay, which can only be read. -/
  | view (c : Ref .component)
  /-- The keys, the values or the pairs of a dictionary, as they are at any time. -/
  | aspect (serial : Nat) (what : Aspect) (source : Value)
  /-- A set of items that never changes. -/
  | set (serial : Nat) (items : List Value)
  | capability (c : Capability)
  | field (f : Field)
  | moment (serial : Nat) (m : Moment)
  | object (o : Object)
  | handle (timeline : Ref .timeline) (seq : Nat)
  | function (serial : Nat) (f : Function)
  /-- A request to a plain value, still without its arguments. -/
  | operation (serial : Nat) (owner : Value) (name : Operation)
  /-- What a bank of timers lets happen when its time comes on a line of another
  kind: the timer leaves the bank, and the callback runs. -/
  | expiry (bank : Ref .bank) (serial : Nat) (callback : Value)
  | record (kind : RecordKind) (serial : Nat) (fields : List Value)
  /-- A type, by its name in full and the name of its own type. -/
  | typeNamed (path genus : String)
  /-- Something of which no more than its type and its text are known. -/
  | thing (type text : String)

namespace Value

instance : Inhabited Value := ⟨.none⟩

/-- A whole number of which there is only one. -/
abbrev ofInt (n : Int) : Value := .int 0 n

/-- A float of which there is only one. -/
abbrev ofFloat (x : Float) : Value := .float 0 x

/-- A text of which there is only one. -/
abbrev ofText (s : String) : Value := .text 0 s

/-- A reference as a value. -/
def ofRef {kind : Kind} (r : Ref kind) : Value := .object r.object

/-- The thing of a given kind that a value refers to. -/
def ref? (kind : Kind) : Value → Option (Ref kind)
  | .object o => if o.kind = kind then some ⟨o.index⟩ else Option.none
  | _ => Option.none

@[simp] theorem ref?_ofRef {kind : Kind} (r : Ref kind) : (ofRef r).ref? kind = some r := by
  simp [ref?, ofRef, Ref.object]

/-- A reference can be told from its value. -/
theorem ofRef_injective {kind : Kind} {r r' : Ref kind} (h : ofRef r = ofRef r') : r = r' := by
  have hr : (ofRef r).ref? kind = some r' := h ▸ ref?_ofRef r'
  exact Option.some.inj ((ref?_ofRef r).symm.trans hr)

/-- A reference is not nothing. -/
theorem ofRef_ne_none {kind : Kind} (r : Ref kind) : ofRef r ≠ .none := by
  intro h
  cases h

/-- A value refers to one thing at most. -/
theorem eq_ofRef_of_ref? {kind : Kind} {v : Value} {r : Ref kind} (h : v.ref? kind = some r) :
    v = ofRef r := by
  cases v with
  | object o =>
    obtain ⟨k, i⟩ := o
    simp only [ref?] at h
    split at h
    · rename_i hk
      obtain rfl := hk
      cases h
      rfl
    · cases h
  | _ => cases h

/-- Whether a value is the absent one. -/
def isNone : Value → Bool
  | .none => true
  | _ => false

theorem isNone_eq_true {v : Value} : v.isNone = true ↔ v = .none := by
  cases v <;> simp [isNone]

theorem isNone_eq_false {v : Value} (h : v ≠ .none) : v.isNone = false :=
  Bool.eq_false_iff.2 fun hnone => h (isNone_eq_true.1 hnone)

/-- The text a value stands for where a text is asked for. A field stands for its
word. -/
def text? : Value → Option String
  | .text _ s => some s
  | .field f => some f.word
  | _ => Option.none

/-- The field a value asks for, by itself or by its word. -/
def field? (v : Value) : Option Field := v.text?.bind Field.ofWord?

/-- Whether a value can be called: it is a function, a request, a type or a probe. -/
def callable : Value → Bool
  | .function _ _ | .operation _ _ _ | .expiry _ _ _ | .typeNamed _ _ => true
  | .object o => o.kind == .probe
  | _ => false

/-- A request to a thing, as a value that nobody has held on to yet. -/
def method (o : Object) (m : Method) : Value := .function 0 (.method o m)

/-- Whether there is only one of a text or a number, wherever it comes from: the small
whole numbers, the empty text and the texts of one character of the first alphabet. -/
def unique : Value → Bool
  | .int _ n => -5 ≤ n && n ≤ 256
  | .text _ s =>
    match s.toList with
    | [] => true
    | [c] => c.toNat < 256
    | _ => false
  | .float _ _ => false
  | _ => true

/-- A value with a serial number of its own, if nobody has held on to it yet. -/
def stamped (serial : Nat) : Value → Value
  | .tuple 0 items => .tuple serial items
  | .set 0 items => .set serial items
  | .aspect 0 what source => .aspect serial what source
  | .moment 0 m => .moment serial m
  | .function 0 (.method o m) => .function serial (.method o m)
  | .function 0 .hostOfSettings => .function serial .hostOfSettings
  | .operation 0 owner name => .operation serial owner name
  | v => v

/-- A text or a number as one that was made just now: unless there is only one of it, it
gets a serial number of its own. -/
def renewed (serial : Nat) (v : Value) : Value :=
  if v.unique then v
  else
    match v with
    | .int _ n => .int serial n
    | .float _ x => .float serial x
    | .text _ s => .text serial s
    | v => v

end Value

end Understudy
