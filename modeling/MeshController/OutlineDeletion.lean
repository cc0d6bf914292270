import MeshController.ForestPromotion
import MeshController.RegionEditor

/-!
# Deleting a region from the outline

The editor removes an entry and moves its subtree one level up.  On the forest
which the outline stands for, this is the removal of one node: its children
take its place, and every other region is saved below the parent it had.
-/

namespace MeshController

open OrderedForest

theorem promoteSubtree_eq_self
    {depth : ℕ} {rest : RegionOutline}
    (hstop : ∀ entry ∈ rest.head?, entry.2 ≤ depth) :
    promoteSubtree depth rest = rest := by
  cases rest with
  | nil => rfl
  | cons entry rest =>
      exact if_neg (Nat.not_lt.mpr (hstop entry rfl))

theorem promoteSubtree_append
    {depth : ℕ} {subtree rest : RegionOutline}
    (hstop : ∀ entry ∈ rest.head?, entry.2 ≤ depth) :
    promoteSubtree depth (subtree ++ rest) =
      promoteSubtree depth subtree ++ rest := by
  induction subtree with
  | nil => exact promoteSubtree_eq_self hstop
  | cons entry subtree ih =>
      rw [List.cons_append, promoteSubtree, promoteSubtree]
      by_cases hdeeper : entry.2 > depth
      · rw [if_pos hdeeper, if_pos hdeeper, ih, List.cons_append]
      · rw [if_neg hdeeper, if_neg hdeeper, List.cons_append]

theorem promoteSubtree_outline
    (forest : Forest String) {depth level : ℕ} (hle : depth ≤ level)
    (rest : RegionOutline) :
    promoteSubtree depth (forest.outline (level + 1) ++ rest) =
      forest.outline level ++ promoteSubtree depth rest := by
  induction forest generalizing level rest with
  | nil => rfl
  | cons label children siblings ihchildren ihsiblings =>
      have hdeeper : level + 1 > depth := by omega
      rw [Forest.outline, Forest.outline, List.cons_append, promoteSubtree,
        if_pos hdeeper, List.append_assoc, ihchildren (by omega),
        ihsiblings hle, List.cons_append, List.append_assoc]
      rfl

theorem head_outline_le
    (forest : Forest String) (depth : ℕ) :
    ∀ entry ∈ (forest.outline depth).head?, entry.2 ≤ depth := by
  intro entry hhead
  cases forest with
  | nil => cases hhead
  | cons label children siblings =>
      rw [Forest.outline, List.head?_cons, Option.mem_some] at hhead
      rw [← hhead]

theorem deleteOutlineEntry_append_left
    {front : RegionOutline} {index : ℕ} {remaining : RegionOutline}
    (hdelete : deleteOutlineEntry front index = some remaining)
    (before : RegionOutline) :
    deleteOutlineEntry (before ++ front) (before.length + index) =
      some (before ++ remaining) := by
  unfold deleteOutlineEntry at hdelete ⊢
  rcases Option.map_eq_some_iff.mp hdelete with ⟨entry, hentry, hremaining⟩
  rw [List.getElem?_append_right (Nat.le_add_right _ _),
    Nat.add_sub_cancel_left, hentry, Option.map_some, ← hremaining,
    List.take_length_add_append, Nat.add_assoc, List.drop_length_add_append,
    List.append_assoc]

theorem deleteOutlineEntry_append_right
    {front : RegionOutline} {index : ℕ} {remaining : RegionOutline}
    (hdelete : deleteOutlineEntry front index = some remaining)
    {rest : RegionOutline}
    (hstop : ∀ entry ∈ front, ∀ next ∈ rest.head?, next.2 ≤ entry.2) :
    deleteOutlineEntry (front ++ rest) index = some (remaining ++ rest) := by
  unfold deleteOutlineEntry at hdelete ⊢
  rcases Option.map_eq_some_iff.mp hdelete with ⟨entry, hentry, hremaining⟩
  have hlt : index < front.length := (List.getElem?_eq_some_iff.mp hentry).1
  rw [List.getElem?_append_left hlt, hentry, Option.map_some, ← hremaining,
    List.take_append_of_le_length hlt.le,
    List.drop_append_of_le_length hlt,
    promoteSubtree_append (hstop entry (List.mem_of_getElem? hentry)),
    List.append_assoc]

/-- In the outline of a forest, the removed node's children take its place. -/
theorem deleteOutlineEntry_outline
    {forest : Forest String} {index : ℕ} (depth : ℕ)
    (hlt : index < forest.labels.length) :
    deleteOutlineEntry (forest.outline depth) index =
      some ((forest.promote index).outline depth) := by
  induction forest generalizing index depth with
  | nil => simp [Forest.labels] at hlt
  | cons label children siblings ihchildren ihsiblings =>
      have hlength : (children.outline (depth + 1)).length =
          children.labels.length := by
        rw [← children.map_fst_outline (depth + 1), List.length_map]
      cases index with
      | zero =>
          have hstop := head_outline_le siblings depth
          have hmoved := promoteSubtree_outline children (le_refl depth)
            (siblings.outline depth)
          rw [promoteSubtree_eq_self hstop] at hmoved
          have hdelete := deleteOutlineEntry_split [] (label, depth)
            (children.outline (depth + 1) ++ siblings.outline depth)
          rw [hmoved] at hdelete
          rw [Forest.promote, Forest.outline_append]
          exact hdelete
      | succ index =>
          by_cases hchild : index < children.labels.length
          · have hinner := deleteOutlineEntry_append_left
              (ihchildren (depth + 1) hchild) [(label, depth)]
            have hstop : ∀ entry ∈
                [(label, depth)] ++ children.outline (depth + 1),
                ∀ next ∈ (siblings.outline depth).head?,
                  next.2 ≤ entry.2 := by
              intro entry hentry next hnext
              have hlow := head_outline_le siblings depth next hnext
              rcases List.mem_append.mp hentry with hroot | hbelow
              · rw [List.mem_singleton.mp hroot]
                exact hlow
              · have hdeep := Forest.depth_le_of_mem_outline hbelow
                omega
            have houter := deleteOutlineEntry_append_right hinner hstop
            rw [List.length_singleton, Nat.add_comm 1 index] at houter
            rw [Forest.promote, if_pos hchild]
            exact houter
          · have hin : index - children.labels.length <
                siblings.labels.length := by
              simp only [Forest.labels, List.length_cons,
                List.length_append] at hlt
              omega
            have houter := deleteOutlineEntry_append_left
              (ihsiblings depth hin)
              ((label, depth) :: children.outline (depth + 1))
            have hposition :
                ((label, depth) :: children.outline (depth + 1)).length +
                  (index - children.labels.length) = index + 1 := by
              rw [List.length_cons, hlength]
              omega
            rw [hposition] at houter
            rw [Forest.promote, if_neg hchild]
            exact houter

/-- A child of the deleted region is handed over to its parent. -/
def RegionConfig.handOver (deleted region : RegionConfig) : RegionConfig :=
  if region.parent = some deleted.name then
    { region with parent := deleted.parent }
  else region

theorem asRegion_adopt (removed pair : String × Option String) :
    asRegion (Forest.adopt removed pair) =
      (asRegion removed).handOver (asRegion pair) := by
  unfold Forest.adopt RegionConfig.handOver asRegion
  split <;> rfl

/-- The outline keeps its shape, every other entry survives in its order, and
is saved below the parent it had, or below the parent of the deleted entry if
that was its parent. -/
theorem delete_promotes_subtree
    {outline : RegionOutline} (hlevels : NoSkippedLevel outline)
    (hnames : (outline.map Prod.fst).Nodup) {index : ℕ}
    (hindex : index < outline.length) :
    ∃ remaining deleted,
      deleteOutlineEntry outline index = some remaining ∧
        (regionsFromOutline outline)[index]? = some deleted ∧
        NoSkippedLevel remaining ∧
        remaining.map Prod.fst = (outline.map Prod.fst).eraseIdx index ∧
        regionsFromOutline remaining =
          ((regionsFromOutline outline).eraseIdx index).map
            deleted.handOver := by
  rcases (noSkippedLevel_iff_exists_outline outline).mp hlevels with
    ⟨forest, rfl⟩
  rw [forest.map_fst_outline] at hnames
  have hlabels : index < forest.labels.length := by
    rw [← forest.map_fst_outline 0, List.length_map]
    exact hindex
  have hpair : index < (forest.parents none).length := by
    rw [forest.length_parents]
    exact hlabels
  have hremoved := List.getElem?_eq_getElem hpair
  have hparents := forest.parents_promote hnames (by simp) hremoved
  use (forest.promote index).outline 0,
    asRegion ((forest.parents none)[index])
  constructor
  · exact deleteOutlineEntry_outline 0 hlabels
  constructor
  · rw [regionsFromOutline_outline, List.getElem?_map, hremoved,
      Option.map_some]
  constructor
  · exact (noSkippedLevel_iff_exists_outline _).mpr ⟨_, rfl⟩
  constructor
  · rw [Forest.map_fst_outline, Forest.map_fst_outline, Forest.labels_promote]
  · rw [regionsFromOutline_outline, regionsFromOutline_outline, hparents,
      List.map_map, List.eraseIdx_map, List.map_map]
    exact List.map_congr_left fun pair _ => asRegion_adopt _ pair

/-- Europe is deleted, and France comes to stand below World. -/
theorem delete_promotes_france :
    ∃ remaining deleted,
      deleteOutlineEntry europeanOutline 1 = some remaining ∧
        (regionsFromOutline europeanOutline)[1]? = some deleted ∧
        regionsFromOutline remaining =
          ((regionsFromOutline europeanOutline).eraseIdx 1).map
            deleted.handOver := by
  rcases @delete_promotes_subtree europeanOutline (by decide) (by decide) 1
    (by decide) with ⟨remaining, deleted, hdelete, hregion, _, _, hregions⟩
  exact ⟨remaining, deleted, hdelete, hregion, hregions⟩

end MeshController
