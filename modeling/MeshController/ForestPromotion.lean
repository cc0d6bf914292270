import MeshController.OrderedForest

/-!
# Removing a node of a forest

A removed node is replaced by its children, and nothing else moves: the other
labels keep their order, and a node has the parent it had, or the parent of the
removed node if that was its parent.
-/

namespace OrderedForest

variable {Label : Type*}

namespace Forest

/-- Removes the node at a position of the display order. -/
def promote : Forest Label → ℕ → Forest Label
  | nil, _ => nil
  | cons _ children siblings, 0 => children.append siblings
  | cons label children siblings, index + 1 =>
      if index < children.labels.length then
        cons label (children.promote index) siblings
      else
        cons label children
          (siblings.promote (index - children.labels.length))

theorem labels_promote (forest : Forest Label) (index : ℕ) :
    (forest.promote index).labels = forest.labels.eraseIdx index := by
  induction forest generalizing index with
  | nil => rfl
  | cons label children siblings ihchildren ihsiblings =>
      cases index with
      | zero => simp [promote, labels]
      | succ index =>
          by_cases hchild : index < children.labels.length
          · rw [promote, if_pos hchild, labels, labels, ihchildren,
              List.eraseIdx_cons_succ,
              List.eraseIdx_append_of_lt_length hchild]
          · rw [promote, if_neg hchild, labels, labels, ihsiblings,
              List.eraseIdx_cons_succ,
              List.eraseIdx_append_of_length_le (by omega)]

theorem length_parents (forest : Forest Label) (parent : Option Label) :
    (forest.parents parent).length = forest.labels.length := by
  rw [← forest.map_fst_parents parent, List.length_map]

theorem mem_labels_of_getElem?_parents
    {forest : Forest Label} {parent : Option Label} {index : ℕ}
    {pair : Label × Option Label}
    (hpair : (forest.parents parent)[index]? = some pair) :
    pair.1 ∈ forest.labels := by
  rw [← forest.map_fst_parents parent]
  exact List.mem_map_of_mem (List.mem_of_getElem? hpair)

variable [DecidableEq Label]

/-- A child of the removed node goes to the removed node's parent. -/
def adopt (removed pair : Label × Option Label) : Label × Option Label :=
  if pair.2 = some removed.1 then (pair.1, removed.2) else pair

theorem map_adopt_of_not_mem
    {forest : Forest Label} {parent : Option Label}
    {removed : Label × Option Label}
    (hparent : parent ≠ some removed.1) (hforest : removed.1 ∉ forest.labels) :
    (forest.parents parent).map (adopt removed) = forest.parents parent := by
  have hsame : ∀ pair ∈ forest.parents parent, adopt removed pair = pair := by
    intro pair hmem
    unfold adopt
    rw [if_neg]
    intro hremoved
    rcases parent_of_mem_parents hmem with habove | ⟨above, hin, habove⟩
    · exact hparent (habove.symm.trans hremoved)
    · rw [habove, Option.some.injEq] at hremoved
      exact hforest (hremoved ▸ hin)
  rw [List.map_congr_left hsame, List.map_id']

theorem map_adopt_children
    {children : Forest Label} {removed : Label × Option Label}
    (hforest : removed.1 ∉ children.labels) :
    (children.parents (some removed.1)).map (adopt removed) =
      children.parents removed.2 := by
  induction children with
  | nil => rfl
  | cons label below siblings _ ih =>
      simp only [labels, List.mem_cons, List.mem_append, not_or] at hforest
      have hlabel : some label ≠ some removed.1 := by
        intro hsame
        exact hforest.1 (Option.some.inj hsame).symm
      simp only [parents, List.map_cons, List.map_append]
      rw [map_adopt_of_not_mem hlabel hforest.2.1, ih hforest.2.2]
      simp [adopt]

/-- Every other node keeps its place in the order and its parent, or is
adopted. -/
theorem parents_promote
    {forest : Forest Label} {parent : Option Label} {index : ℕ}
    (hnodup : forest.labels.Nodup)
    (hparent : ∀ label ∈ forest.labels, parent ≠ some label)
    {removed : Label × Option Label}
    (hremoved : (forest.parents parent)[index]? = some removed) :
    (forest.promote index).parents parent =
      ((forest.parents parent).eraseIdx index).map (adopt removed) := by
  induction forest generalizing parent index with
  | nil => simp [parents] at hremoved
  | cons label children siblings ihchildren ihsiblings =>
      rw [labels, List.nodup_cons, List.nodup_append'] at hnodup
      obtain ⟨hfresh, hchildren, hsiblings, hapart⟩ := hnodup
      rw [List.mem_append, not_or] at hfresh
      simp only [labels, List.mem_cons, List.mem_append] at hparent
      cases index with
      | zero =>
          rw [parents, List.getElem?_cons_zero, Option.some.injEq] at hremoved
          subst hremoved
          have htop := hparent label (Or.inl rfl)
          rw [promote, parents_append, parents, List.eraseIdx_cons_zero,
            List.map_append, map_adopt_children hfresh.1,
            map_adopt_of_not_mem htop hfresh.2]
      | succ index =>
          rw [parents, List.getElem?_cons_succ] at hremoved
          by_cases hchild : index < children.labels.length
          · rw [List.getElem?_append_left
              (by rw [length_parents]; exact hchild)] at hremoved
            have hin := mem_labels_of_getElem?_parents hremoved
            have htop := hparent removed.1 (Or.inr (Or.inl hin))
            have hbelow : ∀ other ∈ children.labels,
                some label ≠ some other := by
              intro other hother hsame
              exact hfresh.1 ((Option.some.inj hsame).symm ▸ hother)
            rw [promote, if_pos hchild, parents, parents,
              List.eraseIdx_cons_succ, List.eraseIdx_append_of_lt_length
                (by rw [length_parents]; exact hchild),
              List.map_cons, List.map_append,
              ihchildren hchildren hbelow hremoved,
              map_adopt_of_not_mem htop (hapart hin), adopt, if_neg htop]
          · have hskip : (children.parents (some label)).length ≤ index := by
              rw [length_parents]
              omega
            rw [List.getElem?_append_right hskip, length_parents] at hremoved
            have hin := mem_labels_of_getElem?_parents hremoved
            have htop := hparent removed.1 (Or.inr (Or.inr hin))
            have hlabel : some label ≠ some removed.1 := by
              intro hsame
              exact hfresh.2 ((Option.some.inj hsame).symm ▸ hin)
            have hother : removed.1 ∉ children.labels := by
              intro hchildIn
              exact hapart hchildIn hin
            have hbeside : ∀ other ∈ siblings.labels, parent ≠ some other := by
              intro other hmem
              exact hparent other (Or.inr (Or.inr hmem))
            rw [promote, if_neg hchild, parents, parents,
              List.eraseIdx_cons_succ,
              List.eraseIdx_append_of_length_le hskip, length_parents,
              List.map_cons, List.map_append,
              ihsiblings hsiblings hbeside hremoved,
              map_adopt_of_not_mem hlabel hother, adopt, if_neg htop]

end Forest

end OrderedForest
