import Understudy.Proofs.Mirrors

/-!
# Actions that come to the same

Two actions tally, each in one of two states that mirror each other, if they come to the same: both
fail with one fault, or both give back results that correspond, and the states they leave mirror
each other again.

What tallies is put together in the way that actions are.

## Main definitions

* `Concur`: two ends that come to the same.
* `Tally`: two actions that come to the same.

## Main statements

* `Tally.bind`: sequences tally if their parts do.
* `Tally.request`: requests to one thing tally if its answers do.
-/

namespace Understudy

section

variable {α β γ δ : Type}

/-- Two ends that come to the same: results that correspond, or one fault. -/
inductive Concur (S : α → β → Prop) : Except Fault α → Except Fault β → Prop
  | result {x : α} {y : β} (h : S x y) : Concur S (.ok x) (.ok y)
  | fault (fault : Fault) : Concur S (.error fault) (.error fault)

theorem Concur.cases {S : α → β → Prop} {x : Except Fault α} {y : Except Fault β}
    (h : Concur S x y) :
    (∃ a b, x = .ok a ∧ y = .ok b ∧ S a b) ∨ ∃ fault, x = .error fault ∧ y = .error fault := by
  cases h with
  | result hab => exact .inl ⟨_, _, rfl, rfl, hab⟩
  | fault fault => exact .inr ⟨fault, rfl, rfl⟩

theorem Concur.mono {S S' : α → β → Prop} {x : Except Fault α} {y : Except Fault β}
    (h : Concur S x y) (hS : ∀ a b, S a b → S' a b) : Concur S' x y := by
  cases h with
  | result hab => exact .result (hS _ _ hab)
  | fault fault => exact .fault fault

/-- Two actions that come to the same, each in a state of its own. Neither makes one kind of
component of another. -/
structure Tally (S : α → β → Prop) (w v : World) (a : Action α) (b : Action β) : Prop where
  concur : Concur S (w.outcome a) (v.outcome b)
  mirrors : (w.after a).Mirrors (v.after b)
  left : w.Retains (w.after a)
  right : v.Retains (v.after b)

namespace Tally

variable {S : α → β → Prop} {T : γ → δ → Prop} {w v w' v' : World} {a a' : Action α}
  {b b' : Action β} {f : α → Action γ} {g : β → Action δ}

theorem of_run {x : Except Fault α} {y : Except Fault β} (ha : w.run a = (x, w'))
    (hb : v.run b = (y, v')) (hxy : Concur S x y) (h : w'.Mirrors v') (hw : w.Retains w')
    (hv : v.Retains v') : Tally S w v a b where
  concur := by rwa [World.outcome_of_run ha, World.outcome_of_run hb]
  mirrors := by rwa [World.after_of_run ha, World.after_of_run hb]
  left := by rwa [World.after_of_run ha]
  right := by rwa [World.after_of_run hb]

/-- Actions that change nothing tally if they end alike. -/
theorem settled {x : Except Fault α} {y : Except Fault β} (ha : w.run a = (x, w))
    (hb : v.run b = (y, v)) (hxy : Concur S x y) (h : w.Mirrors v) : Tally S w v a b :=
  of_run ha hb hxy h (.refl w) (.refl v)

/-- So do actions that change no more than the log. -/
theorem of_alike {x : Except Fault α} {y : Except Fault β} (ha : w.run a = (x, w'))
    (hb : v.run b = (y, v')) (hxy : Concur S x y) (h : w.Mirrors v) (hw : w.Alike w')
    (hv : v.Alike v') : Tally S w v a b :=
  of_run ha hb hxy (h.alike hw hv) (.of_alike hw) (.of_alike hv)

/-- What is done after something else in both states. -/
theorem later (ha : w.run a = w'.run a') (hb : v.run b = v'.run b') (hw : w.Retains w')
    (hv : v.Retains v') (h : Tally S w' v' a' b') : Tally S w v a b :=
  of_run ha hb h.concur h.mirrors (hw.trans h.left) (hv.trans h.right)

/-- What actions come to is all that counts. -/
theorem congr (ha : w.run a = w.run a') (hb : v.run b = v.run b') (h : Tally S w v a' b') :
    Tally S w v a b := later ha hb (.refl w) (.refl v) h

theorem mono {S' : α → β → Prop} (h : Tally S w v a b) (hS : ∀ x y, S x y → S' x y) :
    Tally S' w v a b := { h with concur := h.concur.mono hS }

theorem pure (h : w.Mirrors v) {x : α} {y : β} (hxy : S x y) :
    Tally S w v (pure x) (pure y) := settled rfl rfl (.result hxy) h

theorem throw (h : w.Mirrors v) (fault : Fault) :
    Tally S w v (throw fault) (throw fault) := settled rfl rfl (.fault fault) h

/-- First parts that are known to come to a result, and change nothing, leave the second parts. -/
theorem bind_run {x : α} {y : β} (ha : w.run a = (.ok x, w)) (hb : v.run b = (.ok y, v))
    (h : Tally T w v (f x) (g y)) : Tally T w v (a >>= f) (b >>= g) :=
  congr (World.run_bind_of_run ha) (World.run_bind_of_run hb) h

/-- First parts that are known to come to a result are done before the second parts. -/
theorem bind_later {x : α} {y : β} (ha : w.run a = (.ok x, w')) (hb : v.run b = (.ok y, v'))
    (hw : w.Retains w') (hv : v.Retains v') (h : Tally T w' v' (f x) (g y)) :
    Tally T w v (a >>= f) (b >>= g) :=
  later (World.run_bind_of_run ha) (World.run_bind_of_run hb) hw hv h

/-- The second parts of sequences may rely on how the first ones ended. -/
theorem bind_of_outcome (hab : Tally S w v a b)
    (hfg : ∀ x y, w.outcome a = .ok x → v.outcome b = .ok y → S x y →
      Tally T (w.after a) (v.after b) (f x) (g y)) :
    Tally T w v (a >>= f) (b >>= g) := by
  rcases hab.concur.cases with ⟨x, y, ha, hb, hxy⟩ | ⟨fault, ha, hb⟩
  · exact later (World.run_bind_of_run (by rw [World.run_eq, ha]))
      (World.run_bind_of_run (by rw [World.run_eq, hb])) hab.left hab.right (hfg x y ha hb hxy)
  · exact of_run (World.run_bind_of_error ha) (World.run_bind_of_error hb) (.fault fault)
      hab.mirrors hab.left hab.right

/-- Sequences tally if their parts do. -/
theorem bind (hab : Tally S w v a b)
    (hfg : ∀ x y w' v', w'.Mirrors v' → S x y → Tally T w' v' (f x) (g y)) :
    Tally T w v (a >>= f) (b >>= g) :=
  hab.bind_of_outcome fun x y _ _ hxy => hfg x y _ _ hab.mirrors hxy

/-- What is known in both fails for the same reason, if it fails. -/
theorem orFail (h : w.Mirrors v) (x : Except Fault α) :
    Tally Eq w v (orFail x) (orFail x) := by
  cases x with
  | ok a => exact pure h rfl
  | error fault => exact throw h fault

/-- How an action ends is noted in both. -/
theorem attempt (hab : Tally S w v a b) :
    Tally (Concur S) w v (attempt a) (attempt b) :=
  of_run (World.run_attempt w a) (World.run_attempt v b) (.result hab.concur) hab.mirrors hab.left
    hab.right

/-- Simple values that are alike are told by the same text. -/
theorem shown (h : w.Mirrors v) {x y : Value} (hx : x.Simple) (hxy : x.Alike y) :
    Tally Eq w v (shown x) (shown y) := by
  obtain ⟨t, ht, ht'⟩ := hx.display hxy w v
  exact settled (by rw [World.run_shown, ht]) (by rw [World.run_shown, ht']) (.result rfl) h

/-- Actions whose results are nothing to speak of. -/
theorem nothing {a : Action Unit} {b : Action Unit} {S : Unit → Unit → Prop}
    (hab : Tally S w v a b) : Tally Value.Alike w v (nothing a) (nothing b) :=
  hab.bind fun _ _ _ _ h _ => pure h (.refl .none)

/-- What is logged is no part of a guise. -/
theorem emit (h : w.Mirrors v) (severity : Int) (logger message message' : String)
    (fault : Option String) :
    Tally (fun _ _ => True) w v (Understudy.emit severity logger message fault)
      (Understudy.emit severity logger message' fault) :=
  of_alike (World.run_emit w severity logger message fault)
    (World.run_emit v severity logger message' fault) (.result trivial) h
    (Quiet.emit _ _ _ _ w) (Quiet.emit _ _ _ _ v)

end Tally

end

/-! ## Requests -/

/-- Nothing takes requests. -/
theorem World.look_none (w : World) (m : Method) :
    w.look .none m.word = .error (.noAttribute "NoneType" m.word) := by
  cases m <;> rfl

/-- What is asked of nothing is refused. -/
theorem World.run_request_none {kind : Kind} (w : World) (call : Caller) (m : Method)
    (args : List Value) (answer : Ref kind → Action Value) :
    w.run (request call .none m args answer) =
      (.error (.noAttribute "NoneType" m.word), w) := by
  have hread : w.run (readAttribute call .none m.word) =
      (.error (.noAttribute "NoneType" m.word), w) :=
    run_readAttribute_error call (w.look_none m)
  rw [run_request_of_none call args answer rfl,
    World.run_bind_of_error (World.outcome_of_run hread), World.after_of_run hread]

namespace Tally

variable {S : Value → Value → Prop} {kind : Kind} {w v : World} {m : Method}
  {answer answer' : Ref kind → Action Value}

/-- Requests to one thing tally if its answers do. -/
theorem request (h : w.Mirrors v) (call : Caller) (r : Ref kind)
    (hm : (w.methods r.object).contains m = true) (hm' : (v.methods r.object).contains m = true)
    (args args' : List Value)
    (hanswer : Tally S w v (answer r) (answer' r)) :
    Tally S w v (Understudy.request call (.ofRef r) m args answer)
      (Understudy.request call (.ofRef r) m args' answer') :=
  congr (h.left.intact.run_request call r args answer hm)
    (h.right.intact.run_request call r args' answer' hm') hanswer

/-- Requests to nothing are refused. -/
theorem request_none (h : w.Mirrors v) (call : Caller) (m : Method) (args args' : List Value)
    (answer answer' : Ref kind → Action Value) :
    Tally S w v (Understudy.request call .none m args answer)
      (Understudy.request call .none m args' answer') :=
  settled (w.run_request_none call m args answer) (v.run_request_none call m args' answer')
    (.fault _) h

/-- Requests to one thing, or to nothing, tally if the answers of the thing do. -/
theorem request_names (h : w.Mirrors v) (call : Caller) {x y : Value} (hx : x.Names kind)
    (hxy : x.Alike y) (hm : ∀ (w : World) (r : Ref kind), (w.methods r.object).contains m = true)
    (args args' : List Value)
    (hanswer : ∀ r : Ref kind, x = .ofRef r → Tally S w v (answer r) (answer' r)) :
    Tally S w v (Understudy.request call x m args answer)
      (Understudy.request call y m args' answer') := by
  obtain rfl := hxy.eq_of_names hx
  rcases hx with rfl | ⟨r, rfl⟩
  · exact request_none h call m args args' answer answer'
  · exact request h call r (hm w r) (hm v r) args args' (hanswer r rfl)

end Tally

end Understudy
