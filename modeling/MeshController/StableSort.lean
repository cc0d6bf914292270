import Mathlib.Data.List.Sort
import Mathlib.Tactic

/-!
# Where a stable sort puts an entry

Which row of the sorted list an entry of the list gets: before it come the
earlier entries which are not greater, and the later ones which are less.
-/

namespace StableSort

variable {α : Type*} (r : α → α → Prop) [DecidableRel r]

/-- How many entries of the list are sorted before the one at `index`, which
is `entry`. -/
def rowOf (entries : List α) (index : ℕ) (entry : α) : ℕ :=
  (entries.take index).countP (fun other => r other entry) +
    (entries.drop (index + 1)).countP (fun other => ¬ r entry other)

@[simp] theorem rowOf_cons_zero (head : α) (rest : List α) (entry : α) :
    rowOf r (head :: rest) 0 entry =
      rest.countP (fun other => ¬ r entry other) := by
  simp [rowOf]

theorem rowOf_cons_succ
    (head : α) (rest : List α) (index : ℕ) (entry : α) :
    rowOf r (head :: rest) (index + 1) entry =
      rowOf r rest index entry + if r head entry then 1 else 0 := by
  simp only [rowOf, List.take_succ_cons, List.drop_succ_cons,
    List.countP_cons, decide_eq_true_eq]
  omega

variable {r}

section Insert

variable {sorted : List α}

/-- Nothing in a sorted list is less than what is not greater than its first
entry. -/
theorem countP_eq_zero_of_le_first
    [IsTrans α r] {head first : α} {rest : List α}
    (hfirst : ∀ other ∈ rest, r first other) (hhead : r head first) :
    (first :: rest).countP (fun other => ¬ r head other) = 0 := by
  rw [List.countP_eq_zero]
  intro other hmem
  rcases List.mem_cons.mp hmem with rfl | hlater
  · simpa using hhead
  · simpa using IsTrans.trans _ _ _ hhead (hfirst other hlater)

/-- In a sorted list, what is less than an entry comes first. -/
theorem lt_countP_iff
    [IsTrans α r] (hsorted : sorted.Pairwise r)
    (head : α) {row : ℕ} {entry : α} (hentry : sorted[row]? = some entry) :
    row < sorted.countP (fun other => ¬ r head other) ↔ ¬ r head entry := by
  induction sorted generalizing row with
  | nil => simp at hentry
  | cons first rest ih =>
      obtain ⟨hfirst, hrest⟩ := List.pairwise_cons.mp hsorted
      by_cases hhead : r head first
      · have hnone := countP_eq_zero_of_le_first hfirst hhead
        have hkept := List.countP_eq_zero.mp hnone entry
          (List.mem_of_getElem? hentry)
        rw [hnone]
        simpa using hkept
      · rw [List.countP_cons_of_pos (by simpa using hhead)]
        cases row with
        | zero =>
            simp only [List.getElem?_cons_zero, Option.some.injEq] at hentry
            subst hentry
            simp [hhead]
        | succ row =>
            rw [List.getElem?_cons_succ] at hentry
            rw [Nat.succ_lt_succ_iff]
            exact ih hrest hentry

theorem getElem?_orderedInsert
    [IsTrans α r] (hsorted : sorted.Pairwise r)
    (head : α) (row : ℕ) :
    (sorted.orderedInsert r head)[row]? =
      let before := sorted.countP (fun other => ¬ r head other)
      if row < before then sorted[row]?
      else if row = before then some head
      else sorted[row - 1]? := by
  induction sorted generalizing row with
  | nil => cases row <;> simp
  | cons first rest ih =>
      obtain ⟨hfirst, hrest⟩ := List.pairwise_cons.mp hsorted
      by_cases hhead : r head first
      · have hnone := countP_eq_zero_of_le_first hfirst hhead
        rw [List.orderedInsert_cons_of_le r rest hhead, hnone]
        cases row <;> simp
      · rw [List.orderedInsert_of_not_le r rest hhead,
          List.countP_cons_of_pos (by simpa using hhead)]
        cases row with
        | zero => simp
        | succ row =>
            rw [List.getElem?_cons_succ, ih hrest]
            generalize rest.countP (fun other => ¬ r head other) = before
            cases row with
            | zero =>
                rcases Nat.eq_zero_or_pos before with rfl | hpos
                · simp
                · simp [hpos]
            | succ row => simp

end Insert

/-- The entry in a row of the sorted list is the one which is sorted into that
row. -/
theorem getElem?_insertionSort_eq_some_iff
    [Std.Total r] [IsTrans α r] (entries : List α) (row : ℕ) (entry : α) :
    (entries.insertionSort r)[row]? = some entry ↔
      ∃ index, entries[index]? = some entry ∧
        rowOf r entries index entry = row := by
  induction entries generalizing row with
  | nil => simp
  | cons head rest ih =>
      have hsorted := List.pairwise_insertionSort r rest
      have hcount : (rest.insertionSort r).countP
          (fun other => ¬ r head other) =
            rest.countP (fun other => ¬ r head other) :=
        (List.perm_insertionSort r rest).countP_eq _
      have hless : ∀ {row : ℕ}, (rest.insertionSort r)[row]? = some entry →
          (row < rest.countP (fun other => ¬ r head other) ↔
            ¬ r head entry) := by
        intro row hentry
        rw [← hcount]
        exact lt_countP_iff hsorted head hentry
      rw [List.insertionSort_cons, getElem?_orderedInsert hsorted]
      simp only [hcount]
      constructor
      · intro hrow
        split_ifs at hrow with hbefore hsame
        · obtain ⟨index, hindex, rfl⟩ := (ih row).mp hrow
          refine ⟨index + 1, by simpa using hindex, ?_⟩
          rw [rowOf_cons_succ, if_neg ((hless hrow).mp hbefore), Nat.add_zero]
        · rw [Option.some.injEq] at hrow
          refine ⟨0, by simp [hrow], ?_⟩
          rw [rowOf_cons_zero, hsame, hrow]
        · obtain ⟨index, hindex, hplace⟩ := (ih (row - 1)).mp hrow
          have hhead : r head entry := by
            by_contra hnot
            have := (hless hrow).mpr hnot
            omega
          refine ⟨index + 1, by simpa using hindex, ?_⟩
          rw [rowOf_cons_succ, if_pos hhead, hplace]
          omega
      · rintro ⟨index, hindex, hplace⟩
        cases index with
        | zero =>
            simp only [List.getElem?_cons_zero, Option.some.injEq] at hindex
            subst hindex
            rw [rowOf_cons_zero] at hplace
            simp [← hplace]
        | succ index =>
            rw [List.getElem?_cons_succ] at hindex
            have hrow : (rest.insertionSort r)[rowOf r rest index entry]? =
                some entry := (ih _).mpr ⟨index, hindex, rfl⟩
            have hplaced := hless hrow
            rw [rowOf_cons_succ] at hplace
            by_cases hhead : r head entry
            · rw [if_pos hhead] at hplace
              have hafter : ¬ rowOf r rest index entry <
                  rest.countP (fun other => ¬ r head other) := by
                intro hbefore
                exact hplaced.mp hbefore hhead
              rw [if_neg (by omega), if_neg (by omega), ← hplace,
                Nat.add_sub_cancel]
              exact hrow
            · rw [if_neg hhead, Nat.add_zero] at hplace
              rw [if_pos (by rw [← hplace]; exact hplaced.mpr hhead), ← hplace]
              exact hrow

end StableSort
