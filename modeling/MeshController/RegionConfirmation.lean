import MeshController.RegionEditor

/-!
# Confirming the region tree at once

The editor saves what its outline says, and an outline of distinct names says
something well formed: no name twice, every parent configured, no cycle of
parents.  Confirming without an edit gives back the configured regions exactly
when they were so before.
-/

namespace MeshController

open OrderedForest

/-- The regions form a forest: this is what an outline can say. -/
structure WellFormedRegions (regions : List RegionConfig) : Prop where
  nodup : (regions.map RegionConfig.name).Nodup
  configured : ParentsConfigured regions
  acyclic : AcyclicParents regions

/-- The result of opening the editor and pressing Enter. -/
def confirmAtOnce (regions : List RegionConfig) :
    Option (List RegionConfig) := do
  let editor ← RegionEditor.step (.start regions) .enter
  editor.result

@[simp] theorem confirmAtOnce_eq (regions : List RegionConfig) :
    confirmAtOnce regions =
      some (regionsFromOutline (outlineFromRegions regions)) := rfl

/-! ### What an outline says -/

theorem names_regionsFromOutline (outline : RegionOutline) :
    (regionsFromOutline outline).map RegionConfig.name =
      outline.map Prod.fst := by
  apply List.ext_getElem?
  intro i
  simp only [List.getElem?_map, getElem?_regionsFromOutline, Option.map_map]
  rfl

theorem parent_mem_take
    {outline : RegionOutline} {region : RegionConfig}
    (hregion : region ∈ regionsFromOutline outline) {parent : String}
    (hparent : parent ∈ region.parent) :
    ∃ i, (outline.map Prod.fst)[i]? = some region.name ∧
      parent ∈ (outline.map Prod.fst).take i := by
  obtain ⟨i, hget⟩ := List.mem_iff_getElem?.mp hregion
  rw [getElem?_regionsFromOutline, Option.map_eq_some_iff] at hget
  obtain ⟨⟨name, depth⟩, hentry, rfl⟩ := hget
  refine ⟨i, by simp [hentry], ?_⟩
  cases depth with
  | zero => cases hparent
  | succ depth =>
      obtain ⟨above, hfound, rfl⟩ := Option.map_eq_some_iff.mp hparent
      have habove := List.mem_of_find?_eq_some hfound
      rw [← List.map_take]
      exact List.mem_map_of_mem (List.mem_reverse.mp habove)

/-- Any outline of distinct names says something well formed. -/
theorem wellFormed_regionsFromOutline
    {outline : RegionOutline} (hnodup : (outline.map Prod.fst).Nodup) :
    WellFormedRegions (regionsFromOutline outline) := by
  constructor
  · rw [names_regionsFromOutline]
    exact hnodup
  · intro region hregion parent hparent
    obtain ⟨i, _, habove⟩ := parent_mem_take hregion hparent
    rw [names_regionsFromOutline]
    exact List.mem_of_mem_take habove
  · apply AcyclicParents.of_rank fun name => (outline.map Prod.fst).idxOf name
    intro region hregion parent hparent
    obtain ⟨i, hname, habove⟩ := parent_mem_take hregion hparent
    obtain ⟨hlt, hget⟩ := List.getElem?_eq_some_iff.mp hname
    -- a name stands where it is first found, since it stands nowhere else
    have hregionat : (outline.map Prod.fst).idxOf region.name = i := by
      rw [← hget]
      exact hnodup.idxOf_getElem i hlt
    obtain ⟨j, hj, hparentat⟩ := List.mem_take_iff_getElem.mp habove
    have hbefore : (outline.map Prod.fst).idxOf parent = j := by
      rw [← hparentat]
      exact hnodup.idxOf_getElem j _
    simp only [hregionat, hbefore]
    omega

theorem WellFormedRegions.of_perm
    {saved regions : List RegionConfig} (hperm : saved.Perm regions)
    (hsaved : WellFormedRegions saved) : WellFormedRegions regions := by
  constructor
  · exact (hperm.map RegionConfig.name).nodup_iff.mp hsaved.nodup
  · intro region hregion parent hparent
    rw [← (hperm.map RegionConfig.name).mem_iff]
    exact hsaved.configured region (hperm.mem_iff.mpr hregion) parent hparent
  · intro name hcycle
    have hsame : HasParent regions ≤ HasParent saved := by
      rintro other above ⟨region, hregion, hname, hparent⟩
      exact ⟨region, hperm.mem_iff.mpr hregion, hname, hparent⟩
    exact hsaved.acyclic name (Relation.TransGen.mono hsame name name hcycle)

/-! ### Confirming changes nothing -/

/-- Enter keeps every region with its parent exactly when the names are
distinct, every parent is configured and no chain of parents is a cycle. -/
theorem confirmAtOnce_perm_iff (regions : List RegionConfig) :
    (∃ saved, confirmAtOnce regions = some saved ∧ saved.Perm regions) ↔
      WellFormedRegions regions := by
  constructor
  · rintro ⟨saved, hsaved, hperm⟩
    rw [confirmAtOnce_eq, Option.some.injEq] at hsaved
    subst hsaved
    exact (wellFormed_regionsFromOutline
      (nodup_outlineFromRegions regions)).of_perm hperm
  · intro hregions
    exact ⟨_, confirmAtOnce_eq regions,
      regionsFromOutline_outlineFromRegions_perm hregions.nodup
        hregions.configured hregions.acyclic⟩

/-- Without any edit one of two regions named Centre is gone, and France has
lost its parent. -/
theorem confirmAtOnce_drops_region :
    ¬∀ regions, ∃ saved, confirmAtOnce regions = some saved ∧
      saved.Perm regions := by
  intro hall
  let regions : List RegionConfig :=
    [{ name := "France", parent := some "Europe" },
      { name := "Centre", parent := some "France" },
      { name := "Spain", parent := none },
      { name := "Centre", parent := some "Spain" }]
  obtain ⟨saved, hsaved, hperm⟩ := hall regions
  have hkept : confirmAtOnce regions =
      some [{ name := "France", parent := none },
        { name := "Centre", parent := some "France" },
        { name := "Spain", parent := none }] := rfl
  rw [hkept, Option.some.injEq] at hsaved
  subst hsaved
  have hlength := hperm.length_eq
  cases hlength

/-- What has been confirmed once is confirmed again as it is. -/
theorem confirmAtOnce_idempotent
    {regions saved : List RegionConfig}
    (hsaved : confirmAtOnce regions = some saved) :
    confirmAtOnce saved = some saved := by
  rw [confirmAtOnce_eq, Option.some.injEq] at hsaved
  subst hsaved
  obtain ⟨forest, houtline, hgrown, _⟩ := exists_outlineFromRegions regions
  rw [houtline, regionsFromOutline_outline, confirmAtOnce_eq,
    outlineFromRegions_parents hgrown.nodup, regionsFromOutline_outline]

end MeshController
