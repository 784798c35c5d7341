/-!
# Maps that keep the order of insertion

Entries, annotations, overrides and attributes are all looked up by key and shown
in the order in which their keys first came. Writing to a key that is present
keeps its place.

## Main definitions

* `OrderedMap`: pairs in the order of insertion.
* `OrderedMap.get?`, `OrderedMap.put`, `OrderedMap.erase`: the operations.

## Main statements

* `OrderedMap.get?_put`, `OrderedMap.get?_erase`: what a look-up finds after a
  write and after a removal.
* `OrderedMap.keys_put`: a write to a present key leaves the order of the keys as
  it is, and a new key comes last.
-/

namespace Understudy

/-- A map whose pairs stand in the order in which their keys were first written. -/
structure OrderedMap (κ α : Type) where
  toList : List (κ × α)
  deriving Repr, DecidableEq

namespace OrderedMap

variable {κ α : Type}

/-- The map with no key. -/
def empty : OrderedMap κ α := ⟨[]⟩

instance : Inhabited (OrderedMap κ α) := ⟨empty⟩

/-- The keys in the order of insertion. -/
def keys (m : OrderedMap κ α) : List κ := m.toList.map Prod.fst

variable [BEq κ]

/-- The value found under a key in a list of pairs. -/
def find? (key : κ) : List (κ × α) → Option α
  | [] => none
  | (k, a) :: rest => if k == key then some a else find? key rest

/-- The pairs with the value under a key replaced, or with a new pair at the end. -/
def write (key : κ) (value : α) : List (κ × α) → List (κ × α)
  | [] => [(key, value)]
  | (k, a) :: rest => if k == key then (k, value) :: rest else (k, a) :: write key value rest

/-- The value under a key. -/
def get? (m : OrderedMap κ α) (key : κ) : Option α := find? key m.toList

/-- Writes a value under a key. -/
def put (m : OrderedMap κ α) (key : κ) (value : α) : OrderedMap κ α :=
  ⟨write key value m.toList⟩

/-- Removes a key. -/
def erase (m : OrderedMap κ α) (key : κ) : OrderedMap κ α :=
  ⟨m.toList.filter fun pair => !(pair.1 == key)⟩

/-- The map of a list of pairs; of several values under one key the last counts. -/
def ofList (pairs : List (κ × α)) : OrderedMap κ α :=
  pairs.foldl (fun m pair => m.put pair.1 pair.2) empty

/-! ## What a look-up finds -/

@[simp] theorem get?_empty (key : κ) : (empty : OrderedMap κ α).get? key = none := rfl

/-- A key that is the same as another is the same as whatever the other one is. -/
theorem beq_congr_left [PartialEquivBEq κ] {a b : κ} (h : (a == b) = true) (c : κ) :
    (a == c) = (b == c) := by
  rw [Bool.eq_iff_iff]
  exact ⟨fun k => BEq.trans (BEq.symm h) k, fun k => BEq.trans h k⟩

/-- Keys that are the same find the same. -/
theorem get?_congr [PartialEquivBEq κ] (m : OrderedMap κ α) {a b : κ} (h : (a == b) = true) :
    m.get? a = m.get? b := by
  obtain ⟨pairs⟩ := m
  simp only [get?]
  induction pairs with
  | nil => rfl
  | cons pair rest ih =>
    obtain ⟨k, x⟩ := pair
    have hk : (k == a) = (k == b) := by
      rw [Bool.eq_iff_iff]
      exact ⟨fun hka => BEq.trans hka h, fun hkb => BEq.trans hkb (BEq.symm h)⟩
    rw [find?, find?, hk, ih]

/-- A write changes what is found under its own key and nothing else. -/
theorem get?_put [PartialEquivBEq κ] (m : OrderedMap κ α) (key other : κ) (value : α) :
    (m.put key value).get? other = if key == other then some value else m.get? other := by
  obtain ⟨pairs⟩ := m
  simp only [get?, put]
  induction pairs with
  | nil => simp [write, find?]
  | cons pair rest ih =>
    obtain ⟨k, a⟩ := pair
    by_cases hk : k == key
    · by_cases h : key == other <;> simp [write, find?, hk, h, beq_congr_left hk]
    · by_cases h : key == other
      · have hko : (k == other) = false := by
          refine Bool.eq_false_iff.2 fun hko => hk ?_
          exact BEq.trans hko (BEq.symm h)
        simp [write, find?, hk, h, hko, ih]
      · by_cases hko : k == other <;> simp [write, find?, hk, h, hko, ih]

/-- A removal makes its own key absent and changes nothing else. -/
theorem get?_erase [PartialEquivBEq κ] (m : OrderedMap κ α) (key other : κ) :
    (m.erase key).get? other = if key == other then none else m.get? other := by
  obtain ⟨pairs⟩ := m
  simp only [get?, erase]
  induction pairs with
  | nil => simp [find?]
  | cons pair rest ih =>
    obtain ⟨k, a⟩ := pair
    by_cases hk : k == key
    · by_cases h : key == other <;> simp_all [find?, beq_congr_left hk]
    · by_cases h : key == other
      · have hko : (k == other) = false := by
          refine Bool.eq_false_iff.2 fun hko => hk ?_
          exact BEq.trans hko (BEq.symm h)
        simp_all [find?]
      · by_cases hko : k == other <;> simp_all [find?]

/-! ## The order of the keys -/

/-- A present key keeps its place, and a new one comes last. -/
theorem keys_put (m : OrderedMap κ α) (key : κ) (value : α) :
    (m.put key value).keys = if (m.get? key).isSome then m.keys else m.keys ++ [key] := by
  obtain ⟨pairs⟩ := m
  simp only [keys, put, get?]
  induction pairs with
  | nil => simp [write, find?]
  | cons pair rest ih =>
    obtain ⟨k, a⟩ := pair
    by_cases hk : k == key
    · simp [write, find?, hk]
    · by_cases hf : (find? key rest).isSome <;> simp [write, find?, hk, ih, hf]

/-- The keys that a removal leaves stay in order. -/
theorem keys_erase (m : OrderedMap κ α) (key : κ) :
    (m.erase key).keys = m.keys.filter fun k => !(k == key) := by
  simp only [keys, erase, List.filter_map]
  rfl

/-- Something is found under a key exactly when one of the keys counts as the same. -/
theorem isSome_get?_iff (m : OrderedMap κ α) (key : κ) :
    (m.get? key).isSome = true ↔ ∃ k ∈ m.keys, (k == key) = true := by
  obtain ⟨pairs⟩ := m
  simp only [keys, get?]
  induction pairs with
  | nil => simp [find?]
  | cons pair rest ih =>
    obtain ⟨k, a⟩ := pair
    by_cases hk : (k == key) = true
    · simp [find?, hk]
    · simp [find?, hk, ih]

end OrderedMap

end Understudy
