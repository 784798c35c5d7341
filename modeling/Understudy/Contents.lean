import Understudy.World

/-!
# What values hold, and when they are equal

A list or a dictionary is a reference to a place, and many who refer to one place see
the same contents. This module reads and writes the places, and answers the questions
about values that depend on them: whether a value counts as true, whether two values
are equal, and whether they are the very same one.

## Main definitions

* `World.items`, `World.withItems`: the items of a list.
* `World.pairs`, `World.withPairs`: the pairs of a dictionary.
* `World.truthy`: whether a value counts as true.
* `World.indistinct`, `World.equal`: being the very same, and being equal.
-/

namespace Understudy

namespace World

/-! ## Places -/

/-- The items of a list. -/
def items (w : World) : ListRef → List Value
  | .loose i => w.lists.get i
  | .collections s => (w.row s).collections
  | .arms r => (w.row r).arms
  | .cancels r => (w.row r).cancels
  | .calls p => (w.row p).calls

/-- The state with the items of a list written. -/
def withItems (w : World) (l : ListRef) (items : List Value) : World :=
  match l with
  | .loose i => { w with lists := w.lists.set i items }
  | .collections s => w.withRow s { (w.row s : Session) with collections := items }
  | .arms r => w.withRow r { (w.row r : Recorder) with arms := items }
  | .cancels r => w.withRow r { (w.row r : Recorder) with cancels := items }
  | .calls p => w.withRow p { (w.row p : Probe) with calls := items }

/-- The pairs of a dictionary. -/
def pairs (w : World) : DictRef → Dict
  | .loose i => w.dicts.get i
  | .annotations c =>
    match w.row c with
    | .overlay layer => layer.annotations
    | _ => .empty
  | .notes c =>
    match w.row c with
    | .reporter _ _ notes _ => notes
    | _ => .empty
  | .entries r => (w.row r).entries
  | .captures r => (w.row r).captures

/-- The state with the pairs of a dictionary written. -/
def withPairs (w : World) (d : DictRef) (pairs : Dict) : World :=
  match d with
  | .loose i => { w with dicts := w.dicts.set i pairs }
  | .annotations c =>
    match w.row c with
    | .overlay layer => w.withRow c (.overlay { layer with annotations := pairs })
    | _ => w
  | .notes c =>
    match w.row c with
    | .reporter serial capabilities _ fails =>
      w.withRow c (.reporter serial capabilities pairs fails)
    | _ => w
  | .entries r => w.withRow r { (w.row r : Registry) with entries := pairs }
  | .captures r => w.withRow r { (w.row r : Registry) with captures := pairs }

/-- The overrides of an overlay as pairs, under the words of the fields. -/
def overridePairs (w : World) (c : Ref .component) : Dict :=
  match w.row c with
  | .overlay layer => ⟨layer.overrides.toList.map fun (f, v) => (.ofText f.word, v)⟩
  | _ => .empty

/-- The pairs of a value, if it is a dictionary, be it one that can only be read. -/
def pairsOf? (w : World) : Value → Option Dict
  | .dict d => some (w.pairs d)
  | .view c => some (w.overridePairs c)
  | _ => none

/-- What a view of a dictionary shows: its keys, its values, or its pairs. -/
def aspectItems (w : World) (what : Aspect) (source : Value) : List Value :=
  let d := (w.pairsOf? source).getD .empty
  match what with
  | .keys => d.keys
  | .values => d.toList.map Prod.snd
  | .items => d.toList.map fun (key, v) => .tuple 0 [key, v]

/-! ## Counting as true -/

/-- Whether a value counts as true: it is not absent, not false, not zero and not
empty. -/
def truthy (w : World) : Value → Bool
  | .none => false
  | .bool b => b
  | .int _ n => n != 0
  | .float _ x => x != 0.0
  | .text _ s => s != ""
  | .list l => !(w.items l).isEmpty
  | .tuple _ items => !items.isEmpty
  | .dict d => !(w.pairs d).toList.isEmpty
  | .view c => !(w.overridePairs c).toList.isEmpty
  | .set _ items => !items.isEmpty
  | .aspect _ _ source => ((w.pairsOf? source).map fun d => !d.toList.isEmpty).getD true
  | _ => true

/-! ## Equality -/

/-- Whether two sequences are of one length and agree item by item. -/
def allAgree (agree : Value → Value → Bool) : List Value → List Value → Bool
  | [], [] => true
  | x :: xs, y :: ys => agree x y && allAgree agree xs ys
  | _, _ => false

/-- Whether two dictionaries have the same keys and agree under every one of them. -/
def pairsAgree (agree : Value → Value → Bool) (d e : Dict) : Bool :=
  d.toList.length == e.toList.length &&
    d.toList.all fun (key, v) => (e.get? key).any fun other => agree v other

/-- The values of a context in the order of its fields. -/
def contextFields (c : Context) : List Value :=
  [c.settings, c.registry, c.hostAppInfo, c.identities, c.session, c.hooks, c.platform]

/-- What a thing is compared by, if not by its identity alone. -/
def compared? (w : World) (o : Object) : Option (List Value) :=
  match o.kind with
  | .settings => some ((w.settings.get o.index).toPairs.map Prod.snd)
  | .context => some (contextFields (w.contexts.get o.index))
  | _ => none

/-! ### Being the very same -/

/-- Whether two values are the very same one. -/
def indistinct : Value → Value → Bool
  | .none, .none => true
  | .bool a, .bool b => a == b
  | .int i a, .int j b => i == j && a == b
  | .float i a, .float j b => i == j && a.toBits == b.toBits
  | .text i a, .text j b => i == j && a == b
  | .list l, .list m => l == m
  | .tuple s _, .tuple t _ => s == t && s != 0
  | .dict d, .dict e => d == e
  | .view c, .view d => c == d
  | .capability a, .capability b => a == b
  | .field a, .field b => a == b
  | .set s _, .set t _ => s == t && s != 0
  | .aspect s _ _, .aspect t _ _ => s == t && s != 0
  | .moment s _, .moment t _ => s == t && s != 0
  | .object o, .object p => o == p
  | .handle t s, .handle t' s' => t == t' && s == s'
  | .function s (.method _ _), .function t (.method _ _) => s == t && s != 0
  | .function s .hostOfSettings, .function t .hostOfSettings => s == t && s != 0
  | .function s f, .function t g => s == t && f == g
  | .operation s _ _, .operation t _ _ => s == t && s != 0
  | .expiry b s _, .expiry c t _ => b == c && s == t
  | .record k s _, .record l t _ => k == l && s == t
  | .typeNamed p _, .typeNamed q _ => p == q
  | .thing s t, .thing s' t' => s == s' && t == t'
  | _, _ => false

/-! ### Being equal -/

/-- Whether every item of a list is among those of another one. -/
def allAmong (agree : Value → Value → Bool) (xs ys : List Value) : Bool :=
  xs.all fun x => ys.any (agree x)

/-- The items of a value that compares as a set: a set, or the keys or pairs of a
dictionary. -/
def setItems? (w : World) : Value → Option (List Value)
  | .set _ items => some items
  | .aspect _ .values _ => none
  | .aspect _ what source => some (w.aspectItems what source)
  | _ => none

/-- Equality of values, down to a depth. What holds other values is equal when these are
the same or equal one by one; settings and contexts go by what they hold, and all other
things by their identity. -/
def equalWithin (w : World) : Nat → Value → Value → Bool
  | 0, _, _ => false
  | depth + 1, a, b =>
    let agree := fun x y => indistinct x y || w.equalWithin depth x y
    match a, b with
    | .list l, .list m => l == m || allAgree agree (w.items l) (w.items m)
    | .tuple s xs, .tuple t ys => (s == t && s != 0) || allAgree agree xs ys
    | .record k _ xs, .record l _ ys => k == l && allAgree agree xs ys
    | .object o, .object p =>
      o == p || (o.kind == p.kind &&
        match w.compared? o, w.compared? p with
        | some xs, some ys => allAgree agree xs ys
        | _, _ => false)
    | .operation s v m, .operation t v' m' =>
      (s == t && s != 0) || (m == m' && indistinct v v')
    | .float _ x, .float _ y => (Decimal.Parts.ofFloat x).equal (.ofFloat y)
    | a, b =>
      match w.setItems? a, w.setItems? b with
      | some xs, some ys => xs.length == ys.length && allAmong agree xs ys
      | _, _ =>
        match w.pairsOf? a, w.pairsOf? b with
        | some d, some e => indistinct a b || pairsAgree agree d e
        | none, none => indistinct a b || a == b
        | _, _ => false

end World

/-- How deep values may be nested, and calls. -/
def depthLimit : Nat := 1000

namespace World

/-- Equality of values. -/
def equal (w : World) (a b : Value) : Bool := w.equalWithin depthLimit a b

/-- Whether two values count as one among the items of something: they are the same, or
they are equal. -/
def matched (w : World) (a b : Value) : Bool := indistinct a b || w.equal a b

end World

end Understudy
