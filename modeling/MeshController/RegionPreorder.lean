import MeshController.RegionTree

/-!
# The display order of the regions

When names are distinct the walk meets no region twice: a region is placed
below its parent and nowhere else.  What the walk yields is then the outline
of the hierarchy itself, and it holds the regions whose chain of parents ends
at a root.
-/

namespace MeshController

open OrderedForest

/-- The forest below a list of siblings, as the configuration declares it:
every region with all its children, in configuration order. -/
def IsHierarchy (regions : List RegionConfig) :
    List RegionConfig → Forest RegionConfig → Prop
  | siblings, .nil => siblings = []
  | siblings, .cons region children rest =>
      ∃ later, siblings = region :: later ∧
        IsHierarchy regions (childrenOf regions region.name) children ∧
        IsHierarchy regions later rest

/-- The chain of parents of a region ends after this many links, at a region
without a parent or with one which is not configured. -/
inductive ParentChain (regions : List RegionConfig) : RegionConfig → ℕ → Prop
  where
  | root {region : RegionConfig} (hmem : region ∈ regions)
      (hroot : ∀ parent ∈ region.parent,
        parent ∉ regions.map RegionConfig.name) : ParentChain regions region 0
  | child {region parent : RegionConfig} {length : ℕ}
      (hmem : region ∈ regions) (hparent : region.parent = some parent.name)
      (hchain : ParentChain regions parent length) :
      ParentChain regions region (length + 1)

theorem isRoot_iff (regions : List RegionConfig) (region : RegionConfig) :
    isRoot regions region = true ↔
      ∀ parent ∈ region.parent, parent ∉ regions.map RegionConfig.name := by
  cases hparent : region.parent with
  | none => simp [isRoot, hparent]
  | some parent => simp [isRoot, hparent]

section Hierarchy

variable {regions siblings : List RegionConfig} {forest : Forest RegionConfig}

theorem IsHierarchy.append
    {later : List RegionConfig} {others : Forest RegionConfig}
    (hfirst : IsHierarchy regions siblings forest)
    (hlater : IsHierarchy regions later others) :
    IsHierarchy regions (siblings ++ later) (forest.append others) := by
  induction forest generalizing siblings with
  | nil =>
      rw [show siblings = [] from hfirst]
      exact hlater
  | cons region children rest _ ih =>
      obtain ⟨remaining, rfl, hchildren, hrest⟩ := hfirst
      exact ⟨remaining ++ later, rfl, hchildren, ih hrest⟩

theorem IsHierarchy.labels_subset
    (hhierarchy : IsHierarchy regions siblings forest)
    (hsiblings : siblings ⊆ regions) : forest.labels ⊆ regions := by
  induction forest generalizing siblings with
  | nil => simp [Forest.labels]
  | cons region children rest ihchildren ihrest =>
      obtain ⟨later, rfl, hchildren, hrest⟩ := hhierarchy
      obtain ⟨hregion, hlater⟩ := List.cons_subset.mp hsiblings
      rw [Forest.labels, List.cons_subset, List.append_subset]
      exact ⟨hregion, ihchildren hchildren (childrenOf_subset _ _),
        ihrest hrest hlater⟩

theorem IsHierarchy.sibling_mem_outline
    (hhierarchy : IsHierarchy regions siblings forest)
    {region : RegionConfig} (hmem : region ∈ siblings) (depth : ℕ) :
    (region, depth) ∈ forest.outline depth := by
  induction forest generalizing siblings with
  | nil =>
      rw [show siblings = [] from hhierarchy] at hmem
      cases hmem
  | cons first children rest _ ihrest =>
      obtain ⟨later, rfl, _, hrest⟩ := hhierarchy
      rw [Forest.outline, List.mem_cons, List.mem_append]
      rcases List.mem_cons.mp hmem with rfl | hlater
      · exact Or.inl rfl
      · exact Or.inr (Or.inr (ihrest hrest hlater))

/-- With a region its children are in the forest, one level below it. -/
theorem IsHierarchy.child_mem_outline
    (hhierarchy : IsHierarchy regions siblings forest)
    {region child : RegionConfig} {depth level : ℕ}
    (hregion : (region, level) ∈ forest.outline depth)
    (hchild : child ∈ childrenOf regions region.name) :
    (child, level + 1) ∈ forest.outline depth := by
  induction forest generalizing siblings depth with
  | nil => simp [Forest.outline] at hregion
  | cons first children rest ihchildren ihrest =>
      obtain ⟨later, rfl, hchildren, hrest⟩ := hhierarchy
      rw [Forest.outline, List.mem_cons, List.mem_append] at hregion ⊢
      right
      rcases hregion with hfirst | hbelow | hlater
      · obtain ⟨rfl, rfl⟩ := Prod.mk.inj hfirst
        exact Or.inl (hchildren.sibling_mem_outline hchild _)
      · exact Or.inl (ihchildren hchildren hbelow)
      · exact Or.inr (ihrest hrest hlater)

theorem IsHierarchy.parentChain
    (hhierarchy : IsHierarchy regions siblings forest) {depth : ℕ}
    (hsiblings : ∀ region ∈ siblings, ParentChain regions region depth)
    {region : RegionConfig} {level : ℕ}
    (hregion : (region, level) ∈ forest.outline depth) :
    ParentChain regions region level := by
  induction forest generalizing siblings depth with
  | nil => simp [Forest.outline] at hregion
  | cons first children rest ihchildren ihrest =>
      obtain ⟨later, rfl, hchildren, hrest⟩ := hhierarchy
      obtain ⟨hfirst, hlater⟩ := List.forall_mem_cons.mp hsiblings
      rw [Forest.outline, List.mem_cons, List.mem_append] at hregion
      rcases hregion with hsame | hbelow | hafter
      · obtain ⟨rfl, rfl⟩ := Prod.mk.inj hsame
        exact hfirst
      · apply ihchildren hchildren _ hbelow
        intro child hchild
        obtain ⟨hmem, hparent⟩ := List.mem_filter.mp hchild
        exact .child hmem (of_decide_eq_true hparent) hfirst
      · exact ihrest hrest hlater hafter

/-- The hierarchy below the roots holds every chain which ends at a root. -/
theorem IsHierarchy.mem_outline_iff
    (hhierarchy : IsHierarchy regions (regions.filter (isRoot regions)) forest)
    (region : RegionConfig) (depth : ℕ) :
    (region, depth) ∈ forest.outline 0 ↔ ParentChain regions region depth := by
  constructor
  · apply hhierarchy.parentChain
    intro root hroot
    obtain ⟨hmem, hisRoot⟩ := List.mem_filter.mp hroot
    exact .root hmem ((isRoot_iff regions root).mp hisRoot)
  · intro hchain
    induction hchain with
    | root hmem hroot =>
        exact hhierarchy.sibling_mem_outline
          (List.mem_filter.mpr ⟨hmem, (isRoot_iff regions _).mpr hroot⟩) 0
    | child hmem hparent _ ih =>
        exact hhierarchy.child_mem_outline ih
          (List.mem_filter.mpr ⟨hmem, decide_eq_true hparent⟩)

end Hierarchy

/-! ### The walk comes to an end -/

/-- The recursion of the source, without fuel: visiting the siblings one after
the other returns `after`. -/
inductive Returns (regions : List RegionConfig) :
    ℕ → Placement → List RegionConfig → Placement → Prop
  where
  | nil {depth : ℕ} {placed : Placement} :
      Returns regions depth placed [] placed
  | already {depth : ℕ} {placed after : Placement} {region : RegionConfig}
      {rest : List RegionConfig} (hvisited : region.name ∈ placed.visited)
      (hrest : Returns regions depth placed rest after) :
      Returns regions depth placed (region :: rest) after
  | push {depth : ℕ} {placed middle after : Placement} {region : RegionConfig}
      {rest : List RegionConfig} (hfresh : region.name ∉ placed.visited)
      (hchildren : Returns regions (depth + 1) (placed.push depth region)
        (childrenOf regions region.name) middle)
      (hrest : Returns regions depth middle rest after) :
      Returns regions depth placed (region :: rest) after

/-- The names which are left bound the depth of the recursion. -/
theorem returns_foldl
    {regions siblings : List RegionConfig} {fuel depth : ℕ}
    {placed : Placement} (hsiblings : siblings ⊆ regions)
    (hfuel : (unplaced regions placed).card ≤ fuel) :
    Returns regions depth placed siblings
      (siblings.foldl (pushWithChildren regions fuel depth) placed) := by
  induction fuel generalizing depth placed siblings with
  | zero =>
      induction siblings with
      | nil => exact .nil
      | cons region rest ih =>
          obtain ⟨hregion, hrest⟩ := List.cons_subset.mp hsiblings
          have hvisited : region.name ∈ placed.visited := by
            by_contra hfresh
            have hless := card_unplaced_push_lt depth hregion hfresh
            omega
          exact .already hvisited (ih hrest)
  | succ fuel ihfuel =>
      induction siblings generalizing placed with
      | nil => exact .nil
      | cons region rest ih =>
          obtain ⟨hregion, hrest⟩ := List.cons_subset.mp hsiblings
          have hmore :=
            visited_pushWithChildren regions (fuel + 1) depth placed region
          have hleft := (card_unplaced_le hmore).trans hfuel
          rw [List.foldl_cons]
          by_cases hvisited : region.name ∈ placed.visited
          · rw [pushWithChildren_of_visited hvisited]
            exact .already hvisited (ih hrest hfuel)
          · have hless := card_unplaced_push_lt depth hregion hvisited
            rw [pushWithChildren, if_neg hvisited] at hleft ⊢
            exact .push hvisited
              (ihfuel (childrenOf_subset regions region.name) (by omega))
              (ih hrest hleft)

/-! ### The walk yields the hierarchy -/

/-- The parent of the region has been placed, if it has one to wait for. -/
def ParentPlaced (regions : List RegionConfig) (placed : Placement)
    (region : RegionConfig) : Prop :=
  ∀ parent ∈ regions, region.parent = some parent.name →
    parent.name ∈ placed.visited

/-- No region has been placed before its parent. -/
def ParentsPlaced (regions : List RegionConfig) (placed : Placement) : Prop :=
  ∀ region ∈ regions, region.name ∈ placed.visited →
    ParentPlaced regions placed region

/-- Between `before` and `after` the walk has placed the hierarchy below these
siblings, and no region in it had been placed. -/
structure Walked (regions : List RegionConfig) (depth : ℕ) (before : Placement)
    (siblings : List RegionConfig) (forest : Forest RegionConfig)
    (after : Placement) : Prop where
  hierarchy : IsHierarchy regions siblings forest
  out : after.out = before.out ++ (forest.outline depth).map Prod.swap
  visited : ∀ name, name ∈ after.visited ↔
    name ∈ before.visited ∨ name ∈ forest.labels.map RegionConfig.name
  fresh : ∀ region ∈ forest.labels, region.name ∉ before.visited
  inside : ∀ region ∈ forest.labels, region ∈ siblings ∨
    ∃ parent ∈ forest.labels, region.parent = some parent.name

section Walk

variable {regions : List RegionConfig} {depth : ℕ}
  {before middle after : Placement}

theorem ParentPlaced.mono
    {region : RegionConfig} (hplaced : ParentPlaced regions before region)
    (hmore : ∀ name ∈ before.visited, name ∈ after.visited) :
    ParentPlaced regions after region := by
  intro parent hmem hparent
  exact hmore _ (hplaced parent hmem hparent)

theorem Walked.nil (placed : Placement) :
    Walked regions depth placed [] .nil placed := by
  constructor <;> simp [IsHierarchy, Forest.outline, Forest.labels]

theorem Walked.visited_mono
    {siblings : List RegionConfig} {forest : Forest RegionConfig}
    (hwalked : Walked regions depth before siblings forest after) :
    ∀ name ∈ before.visited, name ∈ after.visited :=
  fun name hmem => (hwalked.visited name).mpr (Or.inl hmem)

theorem Walked.append
    {first later : List RegionConfig} {forest others : Forest RegionConfig}
    (hfirst : Walked regions depth before first forest middle)
    (hlater : Walked regions depth middle later others after) :
    Walked regions depth before (first ++ later) (forest.append others)
      after := by
  constructor
  · exact hfirst.hierarchy.append hlater.hierarchy
  · rw [hlater.out, hfirst.out, Forest.outline_append, List.map_append,
      List.append_assoc]
  · intro name
    rw [hlater.visited, hfirst.visited, Forest.labels_append, List.map_append,
      List.mem_append, or_assoc]
  · intro region hmem
    rw [Forest.labels_append, List.mem_append] at hmem
    rcases hmem with hin | hin
    · exact hfirst.fresh region hin
    · intro hvisited
      exact hlater.fresh region hin (hfirst.visited_mono _ hvisited)
  · intro region hmem
    rw [Forest.labels_append, List.mem_append] at hmem
    simp only [Forest.labels_append, List.mem_append]
    rcases hmem with hin | hin
    · rcases hfirst.inside region hin with hsibling | ⟨parent, hparent, hname⟩
      · exact Or.inl (Or.inl hsibling)
      · exact Or.inr ⟨parent, Or.inl hparent, hname⟩
    · rcases hlater.inside region hin with hsibling | ⟨parent, hparent, hname⟩
      · exact Or.inl (Or.inr hsibling)
      · exact Or.inr ⟨parent, Or.inr hparent, hname⟩

theorem Walked.push
    {region : RegionConfig} {children : Forest RegionConfig}
    (hfresh : region.name ∉ before.visited)
    (hwalked : Walked regions (depth + 1) (before.push depth region)
      (childrenOf regions region.name) children after) :
    Walked regions depth before [region] (.cons region children .nil)
      after := by
  constructor
  · exact ⟨[], rfl, hwalked.hierarchy, rfl⟩
  · rw [hwalked.out]
    simp [Placement.push, Forest.outline]
  · intro name
    rw [hwalked.visited]
    simp [Forest.labels]
    tauto
  · intro other hmem
    simp only [Forest.labels, List.append_nil, List.mem_cons] at hmem
    rcases hmem with rfl | hchild
    · exact hfresh
    · intro hvisited
      apply hwalked.fresh other hchild
      simp [hvisited]
  · intro other hmem
    simp only [Forest.labels, List.append_nil, List.mem_cons] at hmem ⊢
    rcases hmem with rfl | hchild
    · exact Or.inl (by simp)
    · right
      rcases hwalked.inside other hchild with hsibling | ⟨parent, hin, hname⟩
      · have hparent := of_decide_eq_true (List.mem_filter.mp hsibling).2
        exact ⟨region, Or.inl rfl, hparent⟩
      · exact ⟨parent, Or.inr hin, hname⟩

/-- Parents come first also after the walk. -/
theorem Walked.parentsPlaced
    {siblings : List RegionConfig} {forest : Forest RegionConfig}
    (hwalked : Walked regions depth before siblings forest after)
    (hnodup : (regions.map RegionConfig.name).Nodup)
    (hsubset : siblings ⊆ regions)
    (hsiblings : ∀ region ∈ siblings, ParentPlaced regions before region)
    (hbefore : ParentsPlaced regions before) : ParentsPlaced regions after := by
  intro region hregion hvisited
  rcases (hwalked.visited region.name).mp hvisited with hold | hnew
  · exact (hbefore region hregion hold).mono hwalked.visited_mono
  · obtain ⟨placed, hplaced, hname⟩ := List.mem_map.mp hnew
    have hsame : placed = region := List.inj_on_of_nodup_map hnodup
      (hwalked.hierarchy.labels_subset hsubset hplaced) hregion hname
    subst hsame
    rcases hwalked.inside placed hplaced with
      hsibling | ⟨above, habove, hparent⟩
    · exact (hsiblings placed hsibling).mono hwalked.visited_mono
    · intro parent _ hother
      have hnames : above.name = parent.name :=
        Option.some.inj (hparent.symm.trans hother)
      rw [← hnames, hwalked.visited]
      exact Or.inr (List.mem_map_of_mem habove)

/-- A sibling is not in the tree of another one: its parent had been placed
before both. -/
theorem Walked.other_fresh
    {siblings : List RegionConfig} {forest : Forest RegionConfig}
    (hwalked : Walked regions depth before siblings forest after)
    (hnodup : (regions.map RegionConfig.name).Nodup)
    (hsubset : siblings ⊆ regions) {other : RegionConfig}
    (hother : other ∈ regions) (hnot : other ∉ siblings)
    (hparent : ParentPlaced regions before other)
    (hfresh : other.name ∉ before.visited) :
    other.name ∉ after.visited := by
  intro hvisited
  rcases (hwalked.visited other.name).mp hvisited with hold | hnew
  · exact hfresh hold
  · obtain ⟨placed, hplaced, hname⟩ := List.mem_map.mp hnew
    have hlabels := hwalked.hierarchy.labels_subset hsubset
    have hsame : placed = other :=
      List.inj_on_of_nodup_map hnodup (hlabels hplaced) hother hname
    subst hsame
    rcases hwalked.inside placed hplaced with hsibling | ⟨above, habove, hbelow⟩
    · exact hnot hsibling
    · exact hwalked.fresh above habove
        (hparent above (hlabels habove) hbelow)

/-- The siblings can be visited next: their parents have been placed, they
have not, and what has been placed came after its parent. -/
structure Ready (regions : List RegionConfig) (placed : Placement)
    (siblings : List RegionConfig) : Prop where
  subset : siblings ⊆ regions
  nodup : siblings.Nodup
  fresh : ∀ region ∈ siblings, region.name ∉ placed.visited
  parents : ∀ region ∈ siblings, ParentPlaced regions placed region
  earlier : ParentsPlaced regions placed

theorem Ready.children
    {placed : Placement} {region : RegionConfig} {rest : List RegionConfig}
    (hnodup : (regions.map RegionConfig.name).Nodup)
    (hready : Ready regions placed (region :: rest)) :
    Ready regions (placed.push depth region)
      (childrenOf regions region.name) := by
  have hregion : region ∈ regions := hready.subset List.mem_cons_self
  have hfresh := hready.fresh region List.mem_cons_self
  have hplaced := hready.parents region List.mem_cons_self
  have hmore : ∀ name ∈ placed.visited,
      name ∈ (placed.push depth region).visited :=
    fun name hmem => List.mem_cons_of_mem _ hmem
  constructor
  · exact childrenOf_subset _ _
  · exact hnodup.of_map.filter _
  · intro child hchild hvisited
    obtain ⟨hmem, hbelow⟩ := List.mem_filter.mp hchild
    have hparent : child.parent = some region.name := of_decide_eq_true hbelow
    rcases List.mem_cons.mp hvisited with hname | hbefore
    · have hsame : child = region :=
        List.inj_on_of_nodup_map hnodup hmem hregion hname
      subst hsame
      exact hfresh (hplaced child hregion hparent)
    · exact hfresh (hready.earlier child hmem hbefore region hregion hparent)
  · intro child hchild parent _ hparent
    have hbelow : child.parent = some region.name :=
      of_decide_eq_true (List.mem_filter.mp hchild).2
    have hname : parent.name = region.name :=
      Option.some.inj (hparent.symm.trans hbelow)
    rw [hname]
    exact List.mem_cons_self
  · intro other hother hvisited
    rcases List.mem_cons.mp hvisited with hname | hbefore
    · have hsame : other = region :=
        List.inj_on_of_nodup_map hnodup hother hregion hname
      subst hsame
      exact hplaced.mono hmore
    · exact (hready.earlier other hother hbefore).mono hmore

theorem Ready.rest
    {region : RegionConfig} {rest : List RegionConfig}
    {forest : Forest RegionConfig}
    (hnodup : (regions.map RegionConfig.name).Nodup)
    (hready : Ready regions before (region :: rest))
    (hwalked : Walked regions depth before [region] forest after) :
    Ready regions after rest := by
  obtain ⟨hregion, hrest⟩ := List.cons_subset.mp hready.subset
  obtain ⟨hnot, hrestnodup⟩ := List.nodup_cons.mp hready.nodup
  have hsingle : [region] ⊆ regions := by simpa using hregion
  constructor
  · exact hrest
  · exact hrestnodup
  · intro other hmem
    have hapart : other ∉ [region] := by
      rintro hsame
      rw [List.mem_singleton.mp hsame] at hmem
      exact hnot hmem
    exact hwalked.other_fresh hnodup hsingle (hrest hmem) hapart
      (hready.parents other (List.mem_cons_of_mem _ hmem))
      (hready.fresh other (List.mem_cons_of_mem _ hmem))
  · intro other hmem
    have hplaced := hready.parents other (List.mem_cons_of_mem _ hmem)
    exact hplaced.mono hwalked.visited_mono
  · apply hwalked.parentsPlaced hnodup hsingle _ hready.earlier
    intro other hmem
    rw [List.mem_singleton.mp hmem]
    exact hready.parents region List.mem_cons_self

/-- While names are distinct the guard never fires: every sibling is placed
with its whole hierarchy. -/
theorem Returns.exists_walked
    {siblings : List RegionConfig}
    (hreturns : Returns regions depth before siblings after)
    (hnodup : (regions.map RegionConfig.name).Nodup)
    (hready : Ready regions before siblings) :
    ∃ forest, Walked regions depth before siblings forest after := by
  induction hreturns with
  | nil => exact ⟨.nil, .nil _⟩
  | already hvisited =>
      exact absurd hvisited (hready.fresh _ List.mem_cons_self)
  | push hfresh _ _ ihchildren ihrest =>
      obtain ⟨children, hchildren⟩ := ihchildren (hready.children hnodup)
      have hfirst := hchildren.push hfresh
      obtain ⟨others, hothers⟩ := ihrest (hready.rest hnodup hfirst)
      exact ⟨_, hfirst.append hothers⟩

end Walk

theorem ready_roots
    {regions : List RegionConfig}
    (hnodup : (regions.map RegionConfig.name).Nodup) :
    Ready regions .start (regions.filter (isRoot regions)) := by
  constructor
  · exact List.filter_subset_self regions
  · exact hnodup.of_map.filter _
  · simp
  · intro root hroot parent hmem hparent
    have hisRoot := (isRoot_iff regions root).mp (List.mem_filter.mp hroot).2
    exact absurd (List.mem_map_of_mem hmem) (hisRoot _ hparent)
  · intro region _ hvisited
    cases hvisited

theorem exists_isHierarchy
    {regions : List RegionConfig}
    (hnodup : (regions.map RegionConfig.name).Nodup) :
    ∃ forest, IsHierarchy regions (regions.filter (isRoot regions)) forest ∧
      flattenRegionTree regions = (forest.outline 0).map Prod.swap := by
  have hreturns : Returns regions 0 .start (regions.filter (isRoot regions))
      (pushRoots regions regions.length) :=
    returns_foldl (List.filter_subset_self regions)
      (card_unplaced_start_le regions)
  obtain ⟨forest, hwalked⟩ := hreturns.exists_walked hnodup
    (ready_roots hnodup)
  exact ⟨forest, hwalked.hierarchy, hwalked.out⟩

theorem nodup_names_flattenRegionTree (regions : List RegionConfig) :
    ((flattenRegionTree regions).map fun row => row.2.name).Nodup := by
  have hnodup := nodup_outlineFromRegions regions
  rw [outlineFromRegions, List.map_map] at hnodup
  exact hnodup

/-- The walk returns, and no name twice; of distinct names it returns the
whole hierarchy in preorder. -/
theorem flattenRegionTree_preorder (regions : List RegionConfig) :
    (∃ after,
      Returns regions 0 .start (regions.filter (isRoot regions)) after ∧
      after.out = flattenRegionTree regions) ∧
    ((flattenRegionTree regions).map fun row => row.2.name).Nodup ∧
    ((regions.map RegionConfig.name).Nodup →
      (∀ depth region, (depth, region) ∈ flattenRegionTree regions ↔
        ParentChain regions region depth) ∧
      ∃ forest, IsHierarchy regions (regions.filter (isRoot regions)) forest ∧
        flattenRegionTree regions = (forest.outline 0).map Prod.swap) := by
  refine ⟨?_, nodup_names_flattenRegionTree regions, ?_⟩
  · exact ⟨_, returns_foldl (List.filter_subset_self regions)
      (card_unplaced_start_le regions), rfl⟩
  · intro hnodup
    obtain ⟨forest, hhierarchy, hflatten⟩ := exists_isHierarchy hnodup
    constructor
    · intro depth region
      rw [← hhierarchy.mem_outline_iff, hflatten, List.mem_map]
      constructor
      · rintro ⟨⟨label, level⟩, hmem, hsame⟩
        cases hsame
        exact hmem
      · intro hmem
        exact ⟨(region, depth), hmem, rfl⟩
    · exact ⟨forest, hhierarchy, hflatten⟩

/-- A parent cycle, and a tree below an unconfigured parent. -/
def tangledRegions : List RegionConfig :=
  [{ name := "A", parent := some "B" },
    { name := "Paris", parent := some "France" },
    { name := "B", parent := some "A" },
    { name := "France", parent := some "DoesNotExist" }]

theorem flattenRegionTree_preorder_tangled :
    ParentChain tangledRegions
        { name := "Paris", parent := some "France" } 1 ∧
      ∀ depth, ¬ParentChain tangledRegions
        { name := "A", parent := some "B" } depth := by
  have hrows : flattenRegionTree tangledRegions =
      [(0, { name := "France", parent := some "DoesNotExist" }),
        (1, { name := "Paris", parent := some "France" })] := rfl
  have hchains :=
    ((flattenRegionTree_preorder tangledRegions).2.2 (by decide)).1
  rw [hrows] at hchains
  constructor
  · rw [← hchains]
    simp
  · intro depth
    rw [← hchains]
    simp

end MeshController
