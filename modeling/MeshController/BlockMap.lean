import Mathlib.Tactic

/-!
# Lists in blocks of one size

A map which acts on each block of a list, and the vectors a list stands for:
its front, filled up with a default value.
-/

namespace BlockMap

variable {α : Type*}

/-- The front of a list as a vector, filled up with `fill`. -/
def padded (fill : α) (size : ℕ) (list : List α) : Vector α size :=
  Vector.ofFn fun i => list.getD i fill

theorem padded_toList (fill : α) {size : ℕ} (vector : Vector α size) :
    padded fill size vector.toList = vector := by
  apply Vector.ext
  intro i hi
  simp [padded]

theorem toList_padded
    (fill : α) {size : ℕ} {list : List α} (hlength : list.length = size) :
    (padded fill size list).toList = list := by
  apply List.ext_getElem
  · simp [hlength]
  · intro i hi hlist
    simp [padded, hlist]

/-- Acts on the first `count` blocks. -/
def mapBlocks (size : ℕ) (act : List α → List α) : ℕ → List α → List α
  | 0, list => list
  | count + 1, list =>
      act (list.take size) ++ mapBlocks size act count (list.drop size)

/-- Fills a list up to whole blocks. -/
def fillUp (fill : α) (size : ℕ) (list : List α) : List α :=
  list ++ List.replicate ((size - list.length % size) % size) fill

variable {size : ℕ} {act : List α → List α}

theorem length_mapBlocks
    (hkeeps : ∀ block, block.length = size → (act block).length = size)
    {count : ℕ} {list : List α} (hlength : list.length = size * count) :
    (mapBlocks size act count list).length = size * count := by
  induction count generalizing list with
  | zero => exact hlength
  | succ count ih =>
      have hfront : (list.take size).length = size := by
        simp [hlength, Nat.mul_succ]
      have hrest : (list.drop size).length = size * count := by
        simp [hlength, Nat.mul_succ]
      rw [mapBlocks, List.length_append, hkeeps _ hfront, ih hrest]
      ring

theorem mapBlocks_mapBlocks
    {undo : List α → List α}
    (hkeeps : ∀ block, block.length = size → (act block).length = size)
    (hundo : ∀ block, block.length = size → undo (act block) = block)
    {count : ℕ} {list : List α} (hlength : list.length = size * count) :
    mapBlocks size undo count (mapBlocks size act count list) = list := by
  induction count generalizing list with
  | zero => rfl
  | succ count ih =>
      have hfront : (list.take size).length = size := by
        simp [hlength, Nat.mul_succ]
      have hrest : (list.drop size).length = size * count := by
        simp [hlength, Nat.mul_succ]
      rw [mapBlocks, mapBlocks, List.take_left' (hkeeps _ hfront),
        List.drop_left' (hkeeps _ hfront), hundo _ hfront, ih hrest,
        List.take_append_drop]

theorem dvd_length_fillUp (fill : α) (hpos : 0 < size) (list : List α) :
    size ∣ (fillUp fill size list).length := by
  have hsplit := Nat.div_add_mod list.length size
  have hlt := Nat.mod_lt list.length hpos
  rw [fillUp, List.length_append, List.length_replicate]
  by_cases hwhole : list.length % size = 0
  · rw [hwhole, Nat.sub_zero, Nat.mod_self, Nat.add_zero]
    exact Nat.dvd_of_mod_eq_zero hwhole
  · rw [Nat.mod_eq_of_lt (by omega)]
    use list.length / size + 1
    rw [Nat.mul_succ]
    omega

end BlockMap
