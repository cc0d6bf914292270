import Mathlib.Tactic

/-!
# Checked access to a vector

Indexing, slicing, inserting, removing and unsigned subtraction as partial
functions: `none` stands for the panic of the source.  Each operation comes
with the bound under which it is the total operation on lists.
-/

namespace CheckedVec

variable {α β : Type*}

/-- The difference of two unsigned numbers. -/
def sub (a b : ℕ) : Option ℕ := if b ≤ a then some (a - b) else none

def write (items : List α) (index : ℕ) (value : α) : Option (List α) :=
  if index < items.length then some (items.set index value) else none

/-- One may insert at the end. -/
def insert (items : List α) (index : ℕ) (value : α) : Option (List α) :=
  if index ≤ items.length then some (items.insertIdx index value) else none

def remove (items : List α) (index : ℕ) : Option (List α) :=
  if index < items.length then some (items.eraseIdx index) else none

def swap (items : List α) (i j : ℕ) : Option (List α) := do
  let first ← items[i]?
  let second ← items[j]?
  write (← write items i second) j first

def slice (items : List α) (start stop : ℕ) : Option (List α) :=
  if start ≤ stop ∧ stop ≤ items.length then
    some ((items.take stop).drop start)
  else none

theorem sub_of_le {a b : ℕ} (hle : b ≤ a) : sub a b = some (a - b) :=
  if_pos hle

theorem write_of_lt
    {items : List α} {index : ℕ} (hlt : index < items.length) (value : α) :
    write items index value = some (items.set index value) :=
  if_pos hlt

theorem insert_of_le
    {items : List α} {index : ℕ} (hle : index ≤ items.length) (value : α) :
    insert items index value = some (items.insertIdx index value) :=
  if_pos hle

theorem remove_of_lt
    {items : List α} {index : ℕ} (hlt : index < items.length) :
    remove items index = some (items.eraseIdx index) :=
  if_pos hlt

theorem slice_of_le
    {items : List α} {start stop : ℕ} (hle : start ≤ stop)
    (hstop : stop ≤ items.length) :
    slice items start stop = some ((items.take stop).drop start) :=
  if_pos ⟨hle, hstop⟩

theorem swap_of_lt
    {items : List α} {i j : ℕ} (hi : i < items.length)
    (hj : j < items.length) :
    swap items i j = some ((items.set i items[j]).set j items[i]) := by
  have hset : j < (items.set i items[j]).length := by
    rw [List.length_set]
    exact hj
  rw [swap, List.getElem?_eq_getElem hi, List.getElem?_eq_getElem hj]
  simp only [Option.bind_eq_bind, Option.bind_some]
  rw [write_of_lt hi, Option.bind_some, write_of_lt hset]

/-- A loop over a list fails nowhere if no turn fails. -/
theorem mapM_eq_some_map
    {items : List α} {turn : α → Option β} {result : α → β}
    (hturn : ∀ item ∈ items, turn item = some (result item)) :
    items.mapM turn = some (items.map result) := by
  induction items with
  | nil => rfl
  | cons item rest ih =>
      have hrest := ih fun next hnext =>
        hturn next (List.mem_cons_of_mem _ hnext)
      rw [List.mapM_cons, hturn item List.mem_cons_self, hrest]
      rfl

end CheckedVec
