/-!
# Tables of rows

Everything with an identity of its own lives in a table, and is referred to by
the number of its row. A table has a row under every number: where nothing was
written yet, the row is the default one. Reading therefore never fails, and a
write is visible under its own number and nowhere else.

## Main definitions

* `Table`: the written rows, in order.
* `Table.get`, `Table.set`, `Table.push`: reading, writing and adding a row.

## Main statements

* `Table.get_set`, `Table.set_set`: what is read after a write, and after two.
* `Table.get_push`: what is read after a row was added.
* `Table.size_set`, `Table.size_push`: how many rows there are.
-/

namespace Understudy

/-- The rows written so far; all further rows are the default one. -/
structure Table (α : Type) where
  rows : List α
  deriving Repr, DecidableEq

namespace Table

variable {α : Type} [Inhabited α]

/-- The table in which every row is the default one. -/
def empty : Table α := ⟨[]⟩

instance : Inhabited (Table α) := ⟨empty⟩

/-- The number of the next row to be added. -/
def size (t : Table α) : Nat := t.rows.length

/-- The row under a number. -/
def get (t : Table α) (i : Nat) : α := t.rows.getD i default

/-- The rows with one of them written, default ones filled in up to it. -/
def write (a : α) : Nat → List α → List α
  | 0, [] => [a]
  | 0, _ :: rest => a :: rest
  | i + 1, [] => default :: write a i []
  | i + 1, b :: rest => b :: write a i rest

/-- Writes the row under a number. -/
def set (t : Table α) (i : Nat) (a : α) : Table α := ⟨write a i t.rows⟩

/-- Adds a row. Its number is the size before. -/
def push (t : Table α) (a : α) : Table α := ⟨t.rows ++ [a]⟩

/-! ## What is read -/

/-- A write is read under its own number and nowhere else. -/
theorem get_set (t : Table α) (i j : Nat) (a : α) :
    (t.set i a).get j = if j = i then a else t.get j := by
  obtain ⟨rows⟩ := t
  simp only [get, set]
  induction rows generalizing i j with
  | nil =>
    induction i generalizing j with
    | zero => cases j <;> simp [write]
    | succ i ih =>
      cases j with
      | zero => simp [write]
      | succ j => simpa [write] using ih j
  | cons b rest ih =>
    cases i with
    | zero => cases j <;> simp [write]
    | succ i =>
      cases j with
      | zero => simp [write]
      | succ j => simpa [write] using ih i j

@[simp] theorem get_set_self (t : Table α) (i : Nat) (a : α) : (t.set i a).get i = a := by
  simp [get_set]

/-- An added row is read under the number that was the size. -/
theorem get_push (t : Table α) (j : Nat) (a : α) :
    (t.push a).get j = if j = t.size then a else t.get j := by
  by_cases h : j = t.size
  · rw [if_pos h, h]
    simp [get, push, size]
  · rw [if_neg h]
    simp only [get, push, List.getD_eq_getElem?_getD]
    by_cases hlt : j < t.rows.length
    · rw [List.getElem?_append_left hlt]
    · have hle : t.rows.length ≤ j := Nat.le_of_not_lt hlt
      have hgt : (t.rows ++ [a]).length ≤ j := by
        rw [List.length_append]
        exact Nat.lt_of_le_of_ne hle (Ne.symm h)
      rw [List.getElem?_eq_none hgt, List.getElem?_eq_none hle]

/-- Beyond the rows written so far there is the default one. -/
theorem get_of_size_le (t : Table α) {i : Nat} (h : t.size ≤ i) : t.get i = default := by
  rw [get, List.getD_eq_getElem?_getD, List.getElem?_eq_none h, Option.getD_none]

/-- Adding a row leaves the others as they are. -/
theorem get_push_of_lt (t : Table α) {i : Nat} (h : i < t.size) (a : α) :
    (t.push a).get i = t.get i := by
  rw [get_push, if_neg (Nat.ne_of_lt h)]

/-- Of two writes of a row the later one counts. -/
theorem set_set (t : Table α) (i : Nat) (a b : α) : (t.set i a).set i b = t.set i b := by
  obtain ⟨rows⟩ := t
  simp only [set, mk.injEq]
  induction rows generalizing i with
  | nil =>
    induction i with
    | zero => rfl
    | succ i ih => simp only [write, ih]
  | cons c rest ih =>
    cases i with
    | zero => rfl
    | succ i => simp only [write, ih]

/-- Writing a row that is there adds none. -/
theorem size_set (t : Table α) {i : Nat} (h : i < t.size) (a : α) : (t.set i a).size = t.size := by
  obtain ⟨rows⟩ := t
  simp only [size, set] at h ⊢
  induction rows generalizing i with
  | nil => simp at h
  | cons b rest ih =>
    cases i with
    | zero => rfl
    | succ i => simpa [write] using ih (Nat.lt_of_succ_lt_succ h)

omit [Inhabited α] in
@[simp] theorem size_push (t : Table α) (a : α) : (t.push a).size = t.size + 1 := by
  simp [size, push]

end Table

end Understudy
