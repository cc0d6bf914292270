import Mathlib.Logic.Relation
import Mathlib.Order.WellFounded
import Mathlib.Tactic
import MeshController.Config
import MeshController.OrderedForest

/-!
# The region hierarchy

Regions name their parent, while the setup wizard edits an indented outline.
`flattenRegionTree` walks the hierarchy in depth first order and marks every
name it places, so that a name is placed once even when parents form a cycle.
Whatever the regions are, what the walk yields is the outline of a forest, and
it yields every region which hangs below a root.
-/

namespace MeshController

open OrderedForest

/-- The state of the walk: the names already placed, and the rows so far. -/
structure Placement where
  visited : List String
  out : List (ℕ × RegionConfig)

namespace Placement

def start : Placement where
  visited := []
  out := []

def push (placed : Placement) (depth : ℕ) (region : RegionConfig) :
    Placement where
  visited := region.name :: placed.visited
  out := placed.out ++ [(depth, region)]

/-- The rows as the wizard shows them. -/
def entries (placed : Placement) : Outline String :=
  placed.out.map fun row => (row.2.name, row.1)

@[simp] theorem entries_start : start.entries = [] := rfl

@[simp] theorem visited_start : start.visited = [] := rfl

@[simp] theorem visited_push
    (placed : Placement) (depth : ℕ) (region : RegionConfig) :
    (placed.push depth region).visited = region.name :: placed.visited := rfl

@[simp] theorem entries_push
    (placed : Placement) (depth : ℕ) (region : RegionConfig) :
    (placed.push depth region).entries =
      placed.entries ++ [(region.name, depth)] := by
  simp [entries, push]

end Placement

def childrenOf (regions : List RegionConfig) (name : String) :
    List RegionConfig :=
  regions.filter fun region => region.parent = some name

theorem childrenOf_subset (regions : List RegionConfig) (name : String) :
    childrenOf regions name ⊆ regions :=
  List.filter_subset_self regions

/-- The recursion of the source ends because every level places a new name;
`fuel` bounds the levels, see `pushWithChildren_succ_fuel`. -/
def pushWithChildren (regions : List RegionConfig) :
    ℕ → ℕ → Placement → RegionConfig → Placement
  | 0, _, placed, _ => placed
  | fuel + 1, depth, placed, region =>
      if region.name ∈ placed.visited then placed
      else
        (childrenOf regions region.name).foldl
          (pushWithChildren regions fuel (depth + 1))
          (placed.push depth region)

theorem pushWithChildren_of_visited
    {placed : Placement} {region : RegionConfig}
    (hvisited : region.name ∈ placed.visited) (regions : List RegionConfig)
    (fuel depth : ℕ) :
    pushWithChildren regions fuel depth placed region = placed := by
  cases fuel with
  | zero => rfl
  | succ fuel => rw [pushWithChildren, if_pos hvisited]

/-- A region whose parent is not configured is a root as well. -/
def isRoot (regions : List RegionConfig) (region : RegionConfig) : Bool :=
  match region.parent with
  | none => true
  | some parent => !(regions.map RegionConfig.name).contains parent

/-- The walk from every root, in the order of the configuration. -/
def pushRoots (regions : List RegionConfig) (fuel : ℕ) : Placement :=
  (regions.filter (isRoot regions)).foldl
    (pushWithChildren regions fuel 0) .start

def flattenRegionTree (regions : List RegionConfig) :
    List (ℕ × RegionConfig) :=
  (pushRoots regions regions.length).out

abbrev RegionOutline := Outline String

def outlineFromRegions (regions : List RegionConfig) : RegionOutline :=
  (flattenRegionTree regions).map fun row => (row.2.name, row.1)

/-- The parent of an entry is the nearest preceding one which is one level
shallower. -/
def regionsFromOutline (outline : RegionOutline) : List RegionConfig :=
  outline.mapIdx fun i entry =>
    { name := entry.1
      parent :=
        if entry.2 = 0 then none
        else ((outline.take i).reverse.find?
          fun other => other.2 = entry.2 - 1).map Prod.fst }

def asRegion (pair : String × Option String) : RegionConfig where
  name := pair.1
  parent := pair.2

/-! ### The outline editor's direction -/

theorem mapIdx_parentAfter (before outline : RegionOutline) :
    outline.mapIdx (fun i entry =>
        ({ name := entry.1
           parent := parentAfter ((before ++ outline).take
            (before.length + i)) entry.2 } : RegionConfig)) =
      (parentsAfter before outline).map asRegion := by
  induction outline generalizing before with
  | nil => rfl
  | cons entry rest ih =>
      have hrest := ih (before ++ [entry])
      simp only [List.append_assoc, List.cons_append, List.nil_append,
        List.length_append, List.length_singleton] at hrest
      rw [List.mapIdx_cons, parentsAfter, List.map_cons, ← hrest]
      congr 1
      · simp [asRegion]
      · congr 1
        funext i other
        rw [Nat.add_assoc, Nat.add_comm 1 i]

theorem regionsFromOutline_eq_parentsAfter (outline : RegionOutline) :
    regionsFromOutline outline = (parentsAfter [] outline).map asRegion := by
  rw [← mapIdx_parentAfter [] outline]
  unfold regionsFromOutline
  congr 1
  funext i entry
  obtain ⟨name, depth⟩ := entry
  cases depth <;> simp [parentAfter]

theorem regionsFromOutline_outline (forest : Forest String) :
    regionsFromOutline (forest.outline 0) =
      (forest.parents none).map asRegion := by
  rw [regionsFromOutline_eq_parentsAfter, parentsAfter_outline,
    parentAfter_zero]

/-! ### What one walk places -/

/-- Between `before` and `after` the walk has placed the names of `forest`,
none of which had been placed, and has shown them as its outline. -/
structure Grown (depth : ℕ) (before : Placement) (forest : Forest String)
    (after : Placement) : Prop where
  entries : after.entries = before.entries ++ forest.outline depth
  visited : ∀ name, name ∈ after.visited ↔
    name ∈ before.visited ∨ name ∈ forest.labels
  fresh : ∀ name ∈ forest.labels, name ∉ before.visited
  nodup : forest.labels.Nodup

theorem Grown.refl (depth : ℕ) (placed : Placement) :
    Grown depth placed .nil placed := by
  constructor <;> simp [Forest.outline, Forest.labels]

theorem Grown.trans
    {depth : ℕ} {before middle after : Placement}
    {first later : Forest String}
    (hfirst : Grown depth before first middle)
    (hlater : Grown depth middle later after) :
    Grown depth before (first.append later) after := by
  constructor
  · rw [hlater.entries, hfirst.entries, Forest.outline_append,
      List.append_assoc]
  · intro name
    rw [hlater.visited, hfirst.visited, Forest.labels_append,
      List.mem_append, or_assoc]
  · intro name hmem
    rw [Forest.labels_append, List.mem_append] at hmem
    rcases hmem with hin | hin
    · exact hfirst.fresh name hin
    · intro hvisited
      exact hlater.fresh name hin ((hfirst.visited name).mpr (Or.inl hvisited))
  · rw [Forest.labels_append, List.nodup_append]
    refine ⟨hfirst.nodup, hlater.nodup, ?_⟩
    rintro name hin _ hother rfl
    exact hlater.fresh name hother ((hfirst.visited name).mpr (Or.inr hin))

theorem Grown.push
    {depth : ℕ} {before after : Placement} {region : RegionConfig}
    {children : Forest String}
    (hfresh : region.name ∉ before.visited)
    (hchildren : Grown (depth + 1) (before.push depth region) children after) :
    Grown depth before (.cons region.name children .nil) after := by
  constructor
  · rw [hchildren.entries, Placement.entries_push]
    simp [Forest.outline]
  · intro name
    rw [hchildren.visited]
    simp [Forest.labels]
    tauto
  · intro name hmem
    simp only [Forest.labels, List.append_nil, List.mem_cons] at hmem
    rcases hmem with rfl | hchild
    · exact hfresh
    · intro hvisited
      apply hchildren.fresh name hchild
      simp [hvisited]
  · simp only [Forest.labels, List.append_nil, List.nodup_cons]
    refine ⟨?_, hchildren.nodup⟩
    intro hin
    apply hchildren.fresh region.name hin
    simp

/-- The regions which the forest stands for below `parent` are configured. -/
def Declared (regions : List RegionConfig) (parent : Option String)
    (forest : Forest String) : Prop :=
  ∀ pair ∈ forest.parents parent, asRegion pair ∈ regions

theorem exists_grown_foldl
    {regions : List RegionConfig} {depth : ℕ} {parent : Option String}
    {visit : Placement → RegionConfig → Placement}
    (hvisit : ∀ placed region, ∃ forest,
      Grown depth placed forest (visit placed region) ∧
        (asRegion (region.name, parent) ∈ regions →
          Declared regions parent forest))
    (siblings : List RegionConfig) (placed : Placement) :
    ∃ forest, Grown depth placed forest (siblings.foldl visit placed) ∧
      ((∀ region ∈ siblings, asRegion (region.name, parent) ∈ regions) →
        Declared regions parent forest) := by
  induction siblings generalizing placed with
  | nil =>
      refine ⟨.nil, Grown.refl depth placed, ?_⟩
      intro _ pair hmem
      simp [Forest.parents] at hmem
  | cons region rest ih =>
      obtain ⟨first, hfirst, hfirstdeclared⟩ := hvisit placed region
      obtain ⟨later, hlater, hlaterdeclared⟩ := ih (visit placed region)
      refine ⟨first.append later, hfirst.trans hlater, ?_⟩
      intro hall pair hmem
      rw [Forest.parents_append, List.mem_append] at hmem
      rcases hmem with hin | hin
      · exact hfirstdeclared (hall region List.mem_cons_self) pair hin
      · apply hlaterdeclared _ pair hin
        intro other hother
        exact hall other (List.mem_cons_of_mem _ hother)

theorem exists_grown_pushWithChildren
    (regions : List RegionConfig) (fuel depth : ℕ) (parent : Option String)
    (placed : Placement) (region : RegionConfig) :
    ∃ forest,
      Grown depth placed forest
        (pushWithChildren regions fuel depth placed region) ∧
      (asRegion (region.name, parent) ∈ regions →
        Declared regions parent forest) := by
  induction fuel generalizing depth parent placed region with
  | zero =>
      refine ⟨.nil, Grown.refl depth placed, ?_⟩
      intro _ pair hmem
      simp [Forest.parents] at hmem
  | succ fuel ih =>
      by_cases hvisited : region.name ∈ placed.visited
      · refine ⟨.nil, ?_, ?_⟩
        · rw [pushWithChildren_of_visited hvisited]
          exact Grown.refl depth placed
        · intro _ pair hmem
          simp [Forest.parents] at hmem
      · obtain ⟨children, hgrown, hdeclared⟩ :=
          exists_grown_foldl
            (ih (depth + 1) (some region.name))
            (childrenOf regions region.name) (placed.push depth region)
        refine ⟨.cons region.name children .nil, ?_, ?_⟩
        · rw [pushWithChildren, if_neg hvisited]
          exact hgrown.push hvisited
        · intro hroot pair hmem
          simp only [Forest.parents, List.append_nil, List.mem_cons] at hmem
          rcases hmem with rfl | hchild
          · exact hroot
          · apply hdeclared _ pair hchild
            intro child hmem
            obtain ⟨hin, hparent⟩ := List.mem_filter.mp hmem
            have hsame : asRegion (child.name, some region.name) = child := by
              rw [← of_decide_eq_true hparent]
              rfl
            rw [hsame]
            exact hin

/-- Whatever the regions are, the wizard starts from the outline of a forest
of distinct names. -/
theorem exists_outlineFromRegions (regions : List RegionConfig) :
    ∃ forest : Forest String,
      outlineFromRegions regions = forest.outline 0 ∧
      Grown 0 .start forest (pushRoots regions regions.length) ∧
      ((∀ region ∈ regions.filter (isRoot regions), region.parent = none) →
        Declared regions none forest) := by
  obtain ⟨forest, hgrown, hdeclared⟩ :=
    exists_grown_foldl
      (exists_grown_pushWithChildren regions regions.length 0 none)
      (regions.filter (isRoot regions)) .start
  refine ⟨forest, ?_, hgrown, ?_⟩
  · have hentries := hgrown.entries
    rw [Placement.entries_start, List.nil_append] at hentries
    exact hentries
  intro hroots
  apply hdeclared
  intro region hmem
  have hsame : asRegion (region.name, none) = region := by
    rw [← hroots region hmem]
    rfl
  rw [hsame]
  exact List.mem_of_mem_filter hmem

theorem nodup_outlineFromRegions (regions : List RegionConfig) :
    ((outlineFromRegions regions).map Prod.fst).Nodup := by
  obtain ⟨forest, houtline, hgrown, _⟩ := exists_outlineFromRegions regions
  rw [houtline, forest.map_fst_outline]
  exact hgrown.nodup

theorem noSkippedLevel_outlineFromRegions (regions : List RegionConfig) :
    NoSkippedLevel (outlineFromRegions regions) := by
  obtain ⟨forest, houtline, _⟩ := exists_outlineFromRegions regions
  exact (noSkippedLevel_iff_exists_outline _).mpr ⟨forest, houtline⟩

/-! ### The walk reaches every region below a root -/

/-- The names which have not been placed. -/
def unplaced (regions : List RegionConfig) (placed : Placement) :
    Finset String :=
  (regions.map RegionConfig.name).toFinset.filter (· ∉ placed.visited)

/-- What the walk has placed since `before`, it has placed with all its
children. -/
def ChildrenPlaced (regions : List RegionConfig) (before after : Placement) :
    Prop :=
  ∀ name ∈ after.visited, name ∈ before.visited ∨
    ∀ child ∈ childrenOf regions name, child.name ∈ after.visited

theorem card_unplaced_le
    {regions : List RegionConfig} {before after : Placement}
    (hmore : ∀ name ∈ before.visited, name ∈ after.visited) :
    (unplaced regions after).card ≤ (unplaced regions before).card := by
  apply Finset.card_le_card
  intro name hmem
  simp only [unplaced, Finset.mem_filter] at hmem ⊢
  exact ⟨hmem.1, fun hvisited => hmem.2 (hmore name hvisited)⟩

theorem card_unplaced_push_lt
    {regions : List RegionConfig} {placed : Placement}
    {region : RegionConfig} (depth : ℕ) (hmem : region ∈ regions)
    (hfresh : region.name ∉ placed.visited) :
    (unplaced regions (placed.push depth region)).card <
      (unplaced regions placed).card := by
  have hnamed : region.name ∈ unplaced regions placed := by
    simp only [unplaced, Finset.mem_filter, List.mem_toFinset]
    exact ⟨List.mem_map_of_mem hmem, hfresh⟩
  apply (Finset.card_erase_lt_of_mem hnamed).trans_le'
  apply Finset.card_le_card
  intro name hin
  simp only [unplaced, Placement.visited_push, Finset.mem_filter,
    List.mem_cons, not_or] at hin
  rw [Finset.mem_erase]
  exact ⟨hin.2.1, Finset.mem_filter.mpr ⟨hin.1, hin.2.2⟩⟩

theorem card_unplaced_start_le (regions : List RegionConfig) :
    (unplaced regions .start).card ≤ regions.length := by
  calc
    (unplaced regions .start).card ≤
        (regions.map RegionConfig.name).toFinset.card :=
      Finset.card_filter_le _ _
    _ ≤ (regions.map RegionConfig.name).length := List.toFinset_card_le _
    _ = regions.length := List.length_map _

theorem visited_pushWithChildren
    (regions : List RegionConfig) (fuel depth : ℕ) (placed : Placement)
    (region : RegionConfig) :
    ∀ name ∈ placed.visited,
      name ∈ (pushWithChildren regions fuel depth placed region).visited := by
  obtain ⟨forest, hgrown, _⟩ :=
    exists_grown_pushWithChildren regions fuel depth none placed region
  intro name hmem
  exact (hgrown.visited name).mpr (Or.inl hmem)

theorem ChildrenPlaced.trans
    {regions : List RegionConfig} {before middle after : Placement}
    (hfirst : ChildrenPlaced regions before middle)
    (hlater : ChildrenPlaced regions middle after)
    (hmore : ∀ name ∈ middle.visited, name ∈ after.visited) :
    ChildrenPlaced regions before after := by
  intro name hmem
  rcases hlater name hmem with hmiddle | hchildren
  · rcases hfirst name hmiddle with hbefore | hchildren
    · exact Or.inl hbefore
    · exact Or.inr fun child hchild => hmore _ (hchildren child hchild)
  · exact Or.inr hchildren

/-- With enough fuel a list of siblings is placed, and below them every
descendant. -/
theorem childrenPlaced_foldl
    {regions : List RegionConfig} {fuel depth : ℕ}
    (hvisit : ∀ placed, (unplaced regions placed).card ≤ fuel →
      ∀ region ∈ regions,
        region.name ∈
          (pushWithChildren regions fuel depth placed region).visited ∧
        ChildrenPlaced regions placed
          (pushWithChildren regions fuel depth placed region))
    {siblings : List RegionConfig} (hsiblings : siblings ⊆ regions)
    {placed : Placement} (hfuel : (unplaced regions placed).card ≤ fuel) :
    (∀ region ∈ siblings, region.name ∈
      (siblings.foldl (pushWithChildren regions fuel depth) placed).visited) ∧
    (∀ name ∈ placed.visited, name ∈
      (siblings.foldl (pushWithChildren regions fuel depth) placed).visited) ∧
    ChildrenPlaced regions placed
      (siblings.foldl (pushWithChildren regions fuel depth) placed) := by
  induction siblings generalizing placed with
  | nil =>
      refine ⟨by simp, by simp, ?_⟩
      intro name hmem
      exact Or.inl hmem
  | cons region rest ih =>
      obtain ⟨hregion, hrest⟩ := List.cons_subset.mp hsiblings
      obtain ⟨hplaced, hchildren⟩ := hvisit placed hfuel region hregion
      have hmore :=
        visited_pushWithChildren regions fuel depth placed region
      obtain ⟨hothers, hkept, hbelow⟩ :=
        ih hrest ((card_unplaced_le hmore).trans hfuel)
      refine ⟨?_, ?_, hchildren.trans hbelow hkept⟩
      · intro other hmem
        rcases List.mem_cons.mp hmem with rfl | hin
        · exact hkept _ hplaced
        · exact hothers other hin
      · intro name hmem
        exact hkept name (hmore name hmem)

theorem childrenPlaced_pushWithChildren
    {regions : List RegionConfig} {fuel depth : ℕ} {placed : Placement}
    (hfuel : (unplaced regions placed).card ≤ fuel)
    {region : RegionConfig} (hregion : region ∈ regions) :
    region.name ∈
        (pushWithChildren regions fuel depth placed region).visited ∧
      ChildrenPlaced regions placed
        (pushWithChildren regions fuel depth placed region) := by
  induction fuel generalizing depth placed region with
  | zero =>
      refine ⟨?_, fun name hmem => Or.inl hmem⟩
      by_contra hvisited
      have hfresh : region.name ∉ placed.visited := hvisited
      have hless := card_unplaced_push_lt depth hregion hfresh
      omega
  | succ fuel ih =>
      by_cases hvisited : region.name ∈ placed.visited
      · rw [pushWithChildren_of_visited hvisited]
        exact ⟨hvisited, fun name hmem => Or.inl hmem⟩
      · rw [pushWithChildren, if_neg hvisited]
        have hless := card_unplaced_push_lt depth hregion hvisited
        obtain ⟨hchildren, hkept, hbelow⟩ :=
          childrenPlaced_foldl
            (fun placed hfuel region hregion => ih hfuel hregion)
            (childrenOf_subset regions region.name)
            (by omega : (unplaced regions
              (placed.push depth region)).card ≤ fuel)
        refine ⟨hkept _ (by simp), ?_⟩
        intro name hmem
        rcases hbelow name hmem with hpushed | hothers
        · rcases List.mem_cons.mp hpushed with rfl | hbefore
          · exact Or.inr hchildren
          · exact Or.inl hbefore
        · exact Or.inr hothers

theorem foldl_pushWithChildren_succ_fuel
    {regions : List RegionConfig} {fuel depth : ℕ}
    (hsame : ∀ placed, (unplaced regions placed).card ≤ fuel →
      ∀ region ∈ regions,
        pushWithChildren regions (fuel + 1) depth placed region =
          pushWithChildren regions fuel depth placed region)
    {siblings : List RegionConfig} (hsiblings : siblings ⊆ regions)
    {placed : Placement} (hfuel : (unplaced regions placed).card ≤ fuel) :
    siblings.foldl (pushWithChildren regions (fuel + 1) depth) placed =
      siblings.foldl (pushWithChildren regions fuel depth) placed := by
  induction siblings generalizing placed with
  | nil => rfl
  | cons region rest ih =>
      obtain ⟨hregion, hrest⟩ := List.cons_subset.mp hsiblings
      have hmore :=
        visited_pushWithChildren regions fuel depth placed region
      rw [List.foldl_cons, List.foldl_cons, hsame placed hfuel region hregion]
      exact ih hrest ((card_unplaced_le hmore).trans hfuel)

theorem pushWithChildren_succ_fuel
    {regions : List RegionConfig} {fuel depth : ℕ} {placed : Placement}
    (hfuel : (unplaced regions placed).card ≤ fuel)
    {region : RegionConfig} (hregion : region ∈ regions) :
    pushWithChildren regions (fuel + 1) depth placed region =
      pushWithChildren regions fuel depth placed region := by
  induction fuel generalizing depth placed region with
  | zero =>
      have hvisited : region.name ∈ placed.visited := by
        by_contra hfresh
        have hless := card_unplaced_push_lt depth hregion hfresh
        omega
      simp only [pushWithChildren_of_visited hvisited]
  | succ fuel ih =>
      by_cases hvisited : region.name ∈ placed.visited
      · simp only [pushWithChildren_of_visited hvisited]
      · have hless := card_unplaced_push_lt depth hregion hvisited
        rw [pushWithChildren, pushWithChildren.eq_def, if_neg hvisited]
        simp only [if_neg hvisited]
        exact foldl_pushWithChildren_succ_fuel
          (fun placed hfuel region hregion => ih hfuel hregion)
          (childrenOf_subset regions region.name) (by omega)

theorem flattenRegionTree_eq_of_le
    {regions : List RegionConfig} {fuel : ℕ} (hfuel : regions.length ≤ fuel) :
    (pushRoots regions fuel).out = flattenRegionTree regions := by
  induction fuel, hfuel using Nat.le_induction with
  | base => rfl
  | succ fuel hle ih =>
      rw [← ih]
      congr 1
      exact foldl_pushWithChildren_succ_fuel
        (fun placed hplaced region hregion =>
          pushWithChildren_succ_fuel hplaced hregion)
        (List.filter_subset_self regions)
        ((card_unplaced_start_le regions).trans hle)

/-! ### From an outline to the regions and back -/

theorem childrenOf_map_asRegion
    (pairs : List (String × Option String)) (name : String) :
    childrenOf (pairs.map asRegion) name =
      (pairs.filter fun pair => pair.2 = some name).map asRegion := by
  rw [childrenOf, List.filter_map]
  congr 1

theorem grown_foldl_roots
    {pairs : List (String × Option String)} {forest : Forest String}
    {fuel depth : ℕ} {placed : Placement} (parent : Option String)
    (hhangs : Hangs pairs forest)
    (hfuel : forest.labels.length ≤ fuel)
    (hfresh : ∀ name ∈ forest.labels, name ∉ placed.visited)
    (hnodup : forest.labels.Nodup) :
    Grown depth placed forest
      (((forest.roots parent).map asRegion).foldl
        (pushWithChildren (pairs.map asRegion) fuel depth) placed) := by
  induction forest generalizing fuel depth placed parent with
  | nil => exact Grown.refl depth placed
  | cons name children siblings ihchildren ihsiblings =>
      obtain ⟨hbelow, hhangchildren, hhangsiblings⟩ := hhangs
      simp only [Forest.labels, List.nodup_cons, List.mem_append,
        List.nodup_append, not_or] at hnodup
      obtain ⟨⟨hnotchild, hnotsibling⟩, hchildren, hsiblings, hapart⟩ :=
        hnodup
      simp only [Forest.labels, List.mem_cons, List.mem_append] at hfresh
      simp only [Forest.labels, List.length_cons, List.length_append] at hfuel
      obtain ⟨levels, rfl⟩ : ∃ levels, fuel = levels + 1 :=
        ⟨fuel - 1, by omega⟩
      have hname : name ∉ placed.visited := hfresh name (Or.inl rfl)
      let region := asRegion (name, parent)
      have hwalk : Grown (depth + 1) (placed.push depth region) children
          (((children.roots (some name)).map asRegion).foldl
            (pushWithChildren (pairs.map asRegion) levels (depth + 1))
            (placed.push depth region)) := by
        apply ihchildren (some name) hhangchildren (by omega) _ hchildren
        intro other hmem hvisited
        rcases List.mem_cons.mp hvisited with hsame | hbefore
        · have hother : other = name := hsame
          exact hnotchild (hother ▸ hmem)
        · exact hfresh other (Or.inr (Or.inl hmem)) hbefore
      have hfirst : Grown depth placed (.cons name children .nil)
          (pushWithChildren (pairs.map asRegion) (levels + 1) depth placed
            region) := by
        rw [pushWithChildren, if_neg (show region.name ∉ placed.visited from
          hname), childrenOf_map_asRegion, show region.name = name from rfl,
          hbelow]
        exact Grown.push hname hwalk
      refine hfirst.trans (ihsiblings parent hhangsiblings (by omega) ?_
        hsiblings)
      intro other hmem hvisited
      rcases (hfirst.visited other).mp hvisited with hbefore | hplaced
      · exact hfresh other (Or.inr (Or.inr hmem)) hbefore
      · simp only [Forest.labels, List.append_nil, List.mem_cons] at hplaced
        rcases hplaced with rfl | hchild
        · exact hnotsibling hmem
        · exact hapart other hchild other hmem rfl

theorem filter_isRoot_parents (forest : Forest String) :
    ((forest.parents none).map asRegion).filter
        (isRoot ((forest.parents none).map asRegion)) =
      (forest.roots none).map asRegion := by
  have hnames :
      ((forest.parents none).map asRegion).map RegionConfig.name =
        forest.labels := by
    rw [List.map_map]
    exact forest.map_fst_parents none
  have hroots :
      (forest.parents none).filter (fun pair => pair.2 = none) =
        forest.roots none := filter_parents_self (by simp)
  rw [List.filter_map, ← hroots]
  congr 1
  apply List.filter_congr
  intro pair hmem
  rcases Forest.parent_of_mem_parents hmem with hroot | ⟨above, habove, hpair⟩
  · simp [isRoot, asRegion, hroot]
  · rw [Function.comp_apply, isRoot, hnames]
    simp [asRegion, hpair, habove]

theorem outlineFromRegions_parents
    {forest : Forest String} (hnodup : forest.labels.Nodup) :
    outlineFromRegions ((forest.parents none).map asRegion) =
      forest.outline 0 := by
  have hlength :
      ((forest.parents none).map asRegion).length = forest.labels.length := by
    rw [List.length_map, ← forest.map_fst_parents none, List.length_map]
  have hgrown : Grown 0 .start forest _ :=
    grown_foldl_roots none (hangs_parents hnodup) hlength.ge (by simp) hnodup
  have hentries := hgrown.entries
  rw [Placement.entries_start, List.nil_append, ← filter_isRoot_parents]
    at hentries
  exact hentries

/-! ### From the regions to an outline and back -/

def ParentsConfigured (regions : List RegionConfig) : Prop :=
  ∀ region ∈ regions, ∀ parent ∈ region.parent,
    parent ∈ regions.map RegionConfig.name

/-- Some region of this name has this parent. -/
def HasParent (regions : List RegionConfig) (name parent : String) : Prop :=
  ∃ region ∈ regions, region.name = name ∧ region.parent = some parent

/-- Following parents never comes back to the same name. -/
def AcyclicParents (regions : List RegionConfig) : Prop :=
  ∀ name, ¬Relation.TransGen (HasParent regions) name name

theorem AcyclicParents.of_rank
    {regions : List RegionConfig} (rank : String → ℕ)
    (hrank : ∀ region ∈ regions, ∀ parent ∈ region.parent,
      rank parent < rank region.name) :
    AcyclicParents regions := by
  intro name hcycle
  have hless : ∀ other, Relation.TransGen (HasParent regions) name other →
      rank other < rank name := by
    intro other hchain
    induction hchain with
    | single hparent =>
        obtain ⟨region, hmem, rfl, hregion⟩ := hparent
        exact hrank region hmem _ hregion
    | tail _ hparent ih =>
        obtain ⟨region, hmem, rfl, hregion⟩ := hparent
        exact (hrank region hmem _ hregion).trans ih
  exact lt_irrefl _ (hless name hcycle)

/-- Induction from the roots down, for acyclic parents. -/
theorem AcyclicParents.induction
    {regions : List RegionConfig} (hacyclic : AcyclicParents regions)
    (hparents : ParentsConfigured regions) (Holds : String → Prop)
    (hstep : ∀ region ∈ regions,
      (∀ parent ∈ region.parent, Holds parent) → Holds region.name) :
    ∀ region ∈ regions, Holds region.name := by
  let Above (parent name : String) : Prop :=
    Relation.TransGen (HasParent regions) name parent
  have hstrict : IsStrictOrder String Above :=
    { irrefl := hacyclic
      trans := fun _ _ _ hfirst hlater => hlater.trans hfirst }
  have hfounded :
      (Set.WellFoundedOn
        {name | name ∈ regions.map RegionConfig.name} Above) :=
    (List.finite_toSet _).wellFoundedOn
  intro region hregion
  have hnamed : region.name ∈ regions.map RegionConfig.name :=
    List.mem_map_of_mem hregion
  apply hfounded.induction hnamed
  intro name hname hall
  obtain ⟨other, hother, rfl⟩ := List.mem_map.mp hname
  apply hstep other hother
  intro parent hparent
  exact hall parent (hparents other hother parent hparent)
    (Relation.TransGen.single ⟨other, hother, rfl, hparent⟩)

theorem isRoot_eq_of_parentsConfigured
    {regions : List RegionConfig} (hparents : ParentsConfigured regions)
    {region : RegionConfig} (hmem : region ∈ regions) :
    isRoot regions region = region.parent.isNone := by
  cases hparent : region.parent with
  | none => simp [isRoot, hparent]
  | some parent =>
      have hnamed := hparents region hmem parent hparent
      simp only [isRoot, hparent, Option.isNone_some, Bool.not_eq_false',
        List.contains_iff_mem]
      exact hnamed

/-- The walk places every region: its chain of parents ends at a root. -/
theorem mem_visited_of_acyclicParents
    {regions : List RegionConfig} (hparents : ParentsConfigured regions)
    (hacyclic : AcyclicParents regions) :
    ∀ region ∈ regions,
      region.name ∈ (pushRoots regions regions.length).visited := by
  obtain ⟨hroots, _, hchildren⟩ :
      (∀ region ∈ regions.filter (isRoot regions),
        region.name ∈ (pushRoots regions regions.length).visited) ∧
      _ ∧ ChildrenPlaced regions .start (pushRoots regions regions.length) :=
    childrenPlaced_foldl
      (fun _ hfuel _ hregion => childrenPlaced_pushWithChildren hfuel hregion)
      (List.filter_subset_self regions) (card_unplaced_start_le regions)
  apply hacyclic.induction hparents fun name =>
    name ∈ (pushRoots regions regions.length).visited
  intro region hmem hparent
  cases habove : region.parent with
  | none =>
      apply hroots region
      rw [List.mem_filter, isRoot_eq_of_parentsConfigured hparents hmem, habove]
      exact ⟨hmem, rfl⟩
  | some parent =>
      rcases hchildren parent (hparent parent habove) with hstart | hplaced
      · simp at hstart
      · apply hplaced region
        exact List.mem_filter.mpr ⟨hmem, decide_eq_true habove⟩

theorem regionsFromOutline_outlineFromRegions_perm
    {regions : List RegionConfig}
    (hnodup : (regions.map RegionConfig.name).Nodup)
    (hparents : ParentsConfigured regions)
    (hacyclic : AcyclicParents regions) :
    (regionsFromOutline (outlineFromRegions regions)).Perm regions := by
  obtain ⟨forest, houtline, hgrown, hdeclared⟩ :=
    exists_outlineFromRegions regions
  have hforest : Declared regions none forest := by
    apply hdeclared
    intro region hmem
    obtain ⟨hin, hroot⟩ := List.mem_filter.mp hmem
    rw [isRoot_eq_of_parentsConfigured hparents hin] at hroot
    exact Option.isNone_iff_eq_none.mp hroot
  have hnames :
      ((forest.parents none).map asRegion).map RegionConfig.name =
        forest.labels := by
    rw [List.map_map]
    exact forest.map_fst_parents none
  rw [houtline, regionsFromOutline_outline]
  rw [List.perm_ext_iff_of_nodup (List.Nodup.of_map RegionConfig.name
    (hnames ▸ hgrown.nodup)) (List.Nodup.of_map RegionConfig.name hnodup)]
  intro region
  constructor
  · intro hmem
    obtain ⟨pair, hpair, rfl⟩ := List.mem_map.mp hmem
    exact hforest pair hpair
  · intro hmem
    have hvisited := mem_visited_of_acyclicParents hparents hacyclic region hmem
    have hlabel : region.name ∈ forest.labels := by
      simpa using (hgrown.visited region.name).mp hvisited
    rw [← hnames] at hlabel
    obtain ⟨other, hother, hsame⟩ := List.mem_map.mp hlabel
    obtain ⟨pair, hpair, rfl⟩ := List.mem_map.mp hother
    -- names are distinct, so the region found under the name is this one
    have heq : asRegion pair = region :=
      List.inj_on_of_nodup_map hnodup (hforest pair hpair) hmem hsame
    rw [← heq]
    exact hother

/-- Region lists and outlines are two ways to write the same hierarchy: an
outline without a skipped level comes back unchanged, and well founded
regions come back in some order with the parents they had. -/
theorem regionsFromOutline_outlineFromRegions_inverse :
    (∀ outline : RegionOutline, (outline.map Prod.fst).Nodup →
      NoSkippedLevel outline →
        outlineFromRegions (regionsFromOutline outline) = outline) ∧
    (∀ regions : List RegionConfig,
      (regions.map RegionConfig.name).Nodup → ParentsConfigured regions →
        AcyclicParents regions →
          (regionsFromOutline (outlineFromRegions regions)).Perm regions) := by
  constructor
  · intro outline hnodup hnested
    obtain ⟨forest, rfl⟩ := (noSkippedLevel_iff_exists_outline _).mp hnested
    rw [Forest.map_fst_outline] at hnodup
    rw [regionsFromOutline_outline, outlineFromRegions_parents hnodup]
  · intro regions hnodup hparents hacyclic
    exact regionsFromOutline_outlineFromRegions_perm hnodup hparents hacyclic

/-- France is listed before the regions above it. -/
def europeanRegions : List RegionConfig :=
  [{ name := "France", parent := some "Europe" },
    { name := "World", parent := none },
    { name := "Europe", parent := some "World" },
    { name := "Asia", parent := some "World" }]

def europeanOutline : RegionOutline :=
  [("World", 0), ("Europe", 1), ("France", 2), ("Asia", 1)]

theorem europeanRegions_outline_inverse :
    outlineFromRegions (regionsFromOutline europeanOutline) =
        europeanOutline ∧
      (regionsFromOutline (outlineFromRegions europeanRegions)).Perm
        europeanRegions := by
  obtain ⟨houtline, hregions⟩ := regionsFromOutline_outlineFromRegions_inverse
  constructor
  · exact houtline europeanOutline (by decide) (by decide)
  · refine hregions europeanRegions (by decide) ?_ ?_
    · unfold ParentsConfigured
      decide
    · apply AcyclicParents.of_rank fun name =>
        if name = "World" then 0 else if name = "France" then 2 else 1
      decide

end MeshController
