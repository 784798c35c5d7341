import Understudy.Attributes

/-!
# The text of a value

Messages show values in two ways. Quoted, a text stands between quotes; displayed,
it stands as it is. Inside a list, a tuple, a dictionary or a record, values are
always quoted.

An overlay is told by its id, its version and the names it overrides. Reading the two
may fail, and then the overlay has no text, nor has anything that holds it.

## Main definitions

* `World.quoted`, `World.display`: the two texts of a value.

## Main statements

* `World.display_text`: a text is displayed as it is.
* `World.quoted_text`: a text is quoted as a text.
-/

namespace Understudy

namespace World

/-- The name a request goes by in messages: that of the type that takes it. What every
component takes belongs to the base type, and so does what any settings take. -/
def qualifiedName (w : World) (o : Object) (m : Method) : String :=
  let type :=
    match m with
    | .queryInterface => "Component"
    | .dump | .dumpText | .duplicate => "BaseModel"
    | _ => w.title o
  type ++ "." ++ m.word

/-- The words of the fields that an overlay overrides, in ascending order. -/
def overriddenWords (layer : Overlay) : List String :=
  (layer.overrides.keys.map Field.word).mergeSort (· ≤ ·)

/-- Names with the texts of their values, between brackets after a title. -/
def labelled (title : String) (labels texts : List String) : String :=
  title ++ Value.bracketed "(" ")" (labels.zipWith (fun label text => label ++ "=" ++ text) texts)

/-- The texts of pairs, each key before its value. -/
def pairTexts (quote : Value → Except Fault String) (d : Dict) :
    Except Fault (List String) :=
  d.toList.mapM fun (key, v) => do return (← quote key) ++ ": " ++ (← quote v)

/-- The displayed text of a value, given how values are quoted. -/
def displayBy (w : World) (quote : Value → Except Fault String) (v : Value) :
    Except Fault String :=
  match v with
  | .text _ s => .ok s
  | .capability c => .ok ("Capability." ++ c.label)
  | .field f => .ok ("IdentityField." ++ f.label)
  | .moment _ m => .ok m.display
  | .view c => do
    return Value.bracketed "\x7b" "\x7d" (← pairTexts quote (w.overridePairs c))
  | .object ⟨.settings, i⟩ => do
    let held := (w.settings.get i).toPairs
    let texts ← (held.map Prod.snd).mapM quote
    return " ".intercalate
      ((held.map Prod.fst).zipWith (fun label text => label ++ "=" ++ text) texts)
  | v => quote v

/-- The quoted text of a value, down to a depth. A list or a dictionary that is met
again inside of itself is not told again. -/
def quotedWithin (w : World) : Nat → List Value → Value → Except Fault String
  | 0, _, _ => .error .tooDeep
  | depth + 1, around, v =>
    let quote := w.quotedWithin depth
    match v with
    | .list l =>
      if around.any (indistinct v) then .ok "[...]"
      else do return Value.bracketed "[" "]" (← (w.items l).mapM (quote (v :: around)))
    | .tuple _ [item] => do return "(" ++ (← quote around item) ++ ",)"
    | .tuple _ items => do return Value.bracketed "(" ")" (← items.mapM (quote around))
    | .dict d =>
      if around.any (indistinct v) then .ok "\x7b...\x7d"
      else do
        return Value.bracketed "\x7b" "\x7d" (← pairTexts (quote (v :: around)) (w.pairs d))
    | .view c => do
      let inner ← pairTexts (quote around) (w.overridePairs c)
      return "mappingproxy(" ++ Value.bracketed "\x7b" "\x7d" inner ++ ")"
    | .set _ [] => .ok "frozenset()"
    | .set _ items => do
      return "frozenset(" ++ Value.bracketed "\x7b" "\x7d" (← items.mapM (quote around)) ++ ")"
    | .aspect _ what source =>
      if around.any (indistinct v) then .ok "..."
      else do
        let shown ← (w.aspectItems what source).mapM (quote (v :: around))
        return w.typeName v ++ Value.bracketed "([" "])" shown
    | .record kind _ fields => do
      return labelled kind.title kind.labels (← fields.mapM (quote around))
    | .function _ (.method o m) => do
      return "<bound method " ++ w.qualifiedName o m ++ " of " ++ (← quote around (.object o)) ++
        ">"
    | .object o =>
      match o.kind with
      | .component =>
        match w.components.get o.index with
        | .overlay layer => do
          let id ← w.read v Field.id.word
          let version ← w.read v Field.version.word
          let words := (overriddenWords layer).map Text.quoted
          return labelled (w.title o) ["id", "version", "overrides"]
            [← quote around id, ← quote around version, Value.bracketed "[" "]" words]
        | _ => .ok ("<" ++ w.title o ++ " object>")
      | .probe => do
        return "<hook " ++ (← w.displayBy (quote around) (w.probes.get o.index).name) ++ ">"
      | .settings => do
        let held := (w.settings.get o.index).toPairs
        return labelled (w.title o) (held.map Prod.fst)
          (← (held.map Prod.snd).mapM (quote around))
      | .context => do
        return labelled (w.title o)
          ["settings", "registry", "host_app_info", "identities", "session", "hooks", "platform"]
          (← (contextFields (w.contexts.get o.index)).mapM (quote around))
      | _ => .ok ("<" ++ w.title o ++ " object>")
    | leaf => .ok ((Value.quotedLeaf? leaf).getD "")

/-- The quoted text of a value. -/
def quoted (w : World) (v : Value) : Except Fault String := w.quotedWithin depthLimit [] v

/-- The displayed text of a value. -/
def display (w : World) (v : Value) : Except Fault String := w.displayBy w.quoted v

/-- A text is displayed as it is. -/
@[simp] theorem display_text (w : World) (serial : Nat) (s : String) :
    w.display (.text serial s) = .ok s := rfl

/-- A text is quoted as a text. -/
@[simp] theorem quoted_text (w : World) (serial : Nat) (s : String) :
    w.quoted (.text serial s) = .ok (Text.quoted s) := rfl

end World

end Understudy
