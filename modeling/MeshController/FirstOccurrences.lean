import Mathlib.Tactic

/-!
# The first entry of each key

Of a list which is read from the front, the entries whose key has not come
before.
-/

namespace FirstOccurrences

variable {Entry Key : Type*} [DecidableEq Key] (key : Entry → Key)

def firsts : List Entry → List Entry
  | [] => []
  | entry :: rest =>
      entry :: (firsts rest).filter fun other => key other ≠ key entry

variable {key}

@[simp] theorem firsts_nil : firsts key [] = [] := rfl

theorem firsts_append_singleton (entries : List Entry) (entry : Entry) :
    firsts key (entries ++ [entry]) =
      if ∃ earlier ∈ entries, key earlier = key entry then firsts key entries
      else firsts key entries ++ [entry] := by
  induction entries with
  | nil => simp [firsts]
  | cons first rest ih =>
      rw [List.cons_append, firsts, ih, firsts]
      by_cases hrest : ∃ earlier ∈ rest, key earlier = key entry
      · rw [if_pos hrest, if_pos]
        obtain ⟨earlier, hmem, hsame⟩ := hrest
        exact ⟨earlier, List.mem_cons_of_mem _ hmem, hsame⟩
      · rw [if_neg hrest, List.filter_append]
        by_cases hfirst : key first = key entry
        · rw [if_pos ⟨first, List.mem_cons_self, hfirst⟩]
          simp [hfirst]
        · have hnew : ¬ ∃ earlier ∈ first :: rest,
              key earlier = key entry := by
            rintro ⟨earlier, hmem, hsame⟩
            rcases List.mem_cons.mp hmem with rfl | hmem
            · exact hfirst hsame
            · exact hrest ⟨earlier, hmem, hsame⟩
          have hother : key entry ≠ key first := fun hsame =>
            hfirst hsame.symm
          rw [if_neg hnew]
          simp [hother]

/-- No key comes twice. -/
theorem pairwise_firsts (entries : List Entry) :
    (firsts key entries).Pairwise fun earlier later =>
      key earlier ≠ key later := by
  induction entries with
  | nil => exact List.Pairwise.nil
  | cons first rest ih =>
      rw [firsts, List.pairwise_cons]
      constructor
      · intro later hlater
        have hother := (List.mem_filter.mp hlater).2
        rw [decide_eq_true_eq] at hother
        exact hother.symm
      · exact ih.filter _

end FirstOccurrences
