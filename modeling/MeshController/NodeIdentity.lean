import MeshController.DiscoveredNodes
import MeshController.LabelledRun

/-!
# Whose values an entry holds

The mirror and what is loaded from the database are keyed by a prefix, which
two nodes can share.  Then an entry passes from one node to the other, along
with every value which the new owner's sighting did not carry.
-/

namespace MeshController

open KeyedStore LabelledRun

/-- The store and everything which was heard so far. -/
structure NodeHistory where
  store : NodeStore
  heard : List DiscoveredNode

/-- `selected` is the order in which a restarted daemon reads the rows. -/
inductive NodeAction where
  | hear (sighting : Sighting) (written : Bool)
  | restart (selected : List RepeaterRow)

/-- The value of an entry comes from a sighting of the entry's own key. -/
def OwnValue {Value : Type*}
    (heard : List DiscoveredNode) (carries : DiscoveredNode → Option Value)
    (entry : DiscoveredNode) : Prop :=
  ∀ value, carries entry = some value →
    ∃ s ∈ heard, s.publicKeyHex = entry.publicKeyHex ∧
      carries s = some value

/-- No value of an entry was carried by a sighting of another node only. -/
structure OwnValues
    (heard : List DiscoveredNode) (entry : DiscoveredNode) : Prop where
  position : OwnValue heard DiscoveredNode.position entry
  snr : OwnValue heard DiscoveredNode.lastSnr entry
  rssi : OwnValue heard DiscoveredNode.lastRssi entry
  hopCount : OwnValue heard DiscoveredNode.lastHopCount entry

/-- The sighting leaves nothing of the entry it meets. -/
def DiscoveredNode.Supersedes (node existing : DiscoveredNode) : Prop :=
  (node.position.isSome = true ∨ existing.position = none) ∧
    (node.lastSnr.isSome = true ∨ existing.lastSnr = none) ∧
    (node.lastRssi.isSome = true ∨ existing.lastRssi = none) ∧
    (node.lastHopCount.isSome = true ∨ existing.lastHopCount = none)

instance (node existing : DiscoveredNode) :
    Decidable (node.Supersedes existing) :=
  inferInstanceAs (Decidable (_ ∧ _))

namespace NodeHistory

def start : NodeHistory where
  store := .hydrate .empty []
  heard := []

def step (state : NodeHistory) : NodeAction → Option NodeHistory
  | .hear sighting written =>
      some {
        store := (state.store.upsertDiscoveredNode sighting.node written).1
        heard := state.heard ++ [sighting.node] }
  | .restart selected =>
      if selected.Perm state.store.db.rows then
        some { state with store := .hydrate state.store.db selected }
      else none

/-- A row is only written next to rows of other prefixes, and an entry of
another node is superseded. -/
def KeepsApart (state : NodeHistory) : NodeAction → Prop
  | .hear sighting written =>
      (written = true → ∀ row ∈ state.store.db.rows,
        row.publicKeyPrefixHex = sighting.node.publicKeyPrefixHex →
          row.publicKeyHex = sighting.node.publicKeyHex) ∧
      ∀ existing,
        state.store.discoveredRepeaters sighting.node.publicKeyPrefixHex =
            some existing →
          existing.publicKeyHex = sighting.node.publicKeyHex ∨
            sighting.node.Supersedes existing
  | .restart _ => True

/-- Every entry and every row is made of its own node's values, and no two
nodes with a row share a prefix. -/
structure Identified (state : NodeHistory) : Prop where
  entries : ∀ publicKeyPrefixHex entry,
    state.store.discoveredRepeaters publicKeyPrefixHex = some entry →
      OwnValues state.heard entry
  rows : ∀ row ∈ state.store.db.rows, OwnValues state.heard row.node
  apart : ∀ row ∈ state.store.db.rows, ∀ other ∈ state.store.db.rows,
    row.publicKeyPrefixHex = other.publicKeyPrefixHex →
      row.publicKeyHex = other.publicKeyHex

end NodeHistory

/-! ## Merging -/

theorem DiscoveredNode.position_mergedWith (existing node : DiscoveredNode) :
    (existing.mergedWith node).position =
      node.position.or existing.position := by
  by_cases hposition : node.lat ≠ 0 ∨ node.lon ≠ 0 <;>
    simp [DiscoveredNode.position, DiscoveredNode.mergedWith, hposition]

section Values

variable {Value : Type*} {carries : DiscoveredNode → Option Value}
  {heard : List DiscoveredNode} {entry existing node : DiscoveredNode}

theorem OwnValue.later (hown : OwnValue heard carries entry)
    (node : DiscoveredNode) : OwnValue (heard ++ [node]) carries entry := by
  intro value hvalue
  rcases hown value hvalue with ⟨s, hmem, hsame⟩
  exact ⟨s, List.mem_append_left _ hmem, hsame⟩

theorem ownValue_of_heard : OwnValue (heard ++ [node]) carries node := by
  intro value hvalue
  exact ⟨node, by simp, rfl, hvalue⟩

theorem OwnValue.merged
    (hown : OwnValue heard carries existing)
    (hmerge : carries (existing.mergedWith node) =
      (carries node).or (carries existing))
    (hkept : existing.publicKeyHex = node.publicKeyHex ∨
      (carries node).isSome = true ∨ carries existing = none) :
    OwnValue (heard ++ [node]) carries (existing.mergedWith node) := by
  intro value hvalue
  rw [hmerge] at hvalue
  cases hnode : carries node with
  | some new =>
      rw [hnode, Option.some_or] at hvalue
      exact ⟨node, by simp, rfl, hnode.trans hvalue⟩
  | none =>
      rw [hnode, Option.none_or] at hvalue
      rcases hkept with hsame | hcarries | hnone
      · rcases hown value hvalue with ⟨s, hmem, hkey, hcarried⟩
        exact ⟨s, List.mem_append_left _ hmem, hkey.trans hsame, hcarried⟩
      · simp [hnode] at hcarries
      · simp [hnone] at hvalue

end Values

theorem OwnValues.later
    {heard : List DiscoveredNode} {entry : DiscoveredNode}
    (hown : OwnValues heard entry) (node : DiscoveredNode) :
    OwnValues (heard ++ [node]) entry where
  position := hown.position.later node
  snr := hown.snr.later node
  rssi := hown.rssi.later node
  hopCount := hown.hopCount.later node

theorem ownValues_of_heard
    (heard : List DiscoveredNode) (node : DiscoveredNode) :
    OwnValues (heard ++ [node]) node where
  position := ownValue_of_heard
  snr := ownValue_of_heard
  rssi := ownValue_of_heard
  hopCount := ownValue_of_heard

theorem OwnValues.merged
    {heard : List DiscoveredNode} {existing node : DiscoveredNode}
    (hown : OwnValues heard existing)
    (hkept : existing.publicKeyHex = node.publicKeyHex ∨
      node.Supersedes existing) :
    OwnValues (heard ++ [node]) (existing.mergedWith node) where
  position := hown.position.merged (existing.position_mergedWith node)
    (hkept.imp_right fun hnone => hnone.1)
  snr := hown.snr.merged rfl (hkept.imp_right fun hnone => hnone.2.1)
  rssi := hown.rssi.merged rfl (hkept.imp_right fun hnone => hnone.2.2.1)
  hopCount := hown.hopCount.merged rfl
    (hkept.imp_right fun hnone => hnone.2.2.2)

/-! ## The database -/

theorem RepeaterDb.mem_upsert
    {db : RepeaterDb} {sighting : Sighting} {row : RepeaterRow}
    (hmem : row ∈ (db.upsert sighting.node).rows) :
    row ∈ db.rows ∨ row.node = sighting.node ∨
      ∃ old ∈ db.rows, old.publicKeyHex = sighting.node.publicKeyHex ∧
        row.node = old.node.mergedWith sighting.node := by
  rcases KeyedStore.mem_upsert hmem with
    hold | hfresh | ⟨old, hold, hsame, hrow⟩
  · exact Or.inl hold
  · right
    left
    rw [hfresh, RepeaterRow.node_ofSighting]
  · right
    right
    refine ⟨old, hold, hsame, ?_⟩
    rw [hrow, RepeaterRow.node_onConflict]

theorem RepeaterDb.mem_of_loadAll
    {selected : List RepeaterRow} {publicKeyPrefixHex : String}
    {entry : DiscoveredNode}
    (hload : loadAll selected publicKeyPrefixHex = some entry) :
    ∃ row ∈ selected, row.publicKeyPrefixHex = publicKeyPrefixHex ∧
      row.node = entry := by
  rw [loadAll_eq, Option.map_eq_some_iff] at hload
  rcases hload with ⟨row, hlast, hnode⟩
  have hmem := List.mem_of_getLast? hlast
  rw [List.mem_filter, decide_eq_true_iff] at hmem
  exact ⟨row, hmem.1, hmem.2, hnode⟩

theorem RepeaterDb.exists_loadAll
    {selected : List RepeaterRow} {row : RepeaterRow} (hmem : row ∈ selected) :
    ∃ entry, loadAll selected row.publicKeyPrefixHex = some entry := by
  rw [← Option.isSome_iff_exists, loadAll_eq, Option.isSome_map,
    List.getLast?_isSome]
  intro hempty
  have hnone := List.filter_eq_nil_iff.mp hempty row hmem
  simp at hnone

namespace NodeHistory

theorem start_identified : start.Identified where
  entries := by
    intro publicKeyPrefixHex entry hentry
    simp [start, RepeaterDb.loadAll] at hentry
  rows := by
    intro row hmem
    simp [start, RepeaterDb.empty] at hmem
  apart := by
    intro row hmem
    simp [start, RepeaterDb.empty] at hmem

theorem Identified.mirrorAfterHear
    {state : NodeHistory} (hgood : state.Identified)
    {sighting : Sighting} {written : Bool}
    (hapart : state.KeepsApart (.hear sighting written))
    {publicKeyPrefixHex : String} {entry : DiscoveredNode}
    (hentry : (state.store.upsertDiscoveredNode sighting.node
      written).1.discoveredRepeaters publicKeyPrefixHex = some entry) :
    OwnValues (state.heard ++ [sighting.node]) entry := by
  rw [state.store.discoveredRepeaters_upsert] at hentry
  by_cases hfront : publicKeyPrefixHex = sighting.node.publicKeyPrefixHex
  · subst hfront
    rw [Function.update_self] at hentry
    cases hmet : state.store.discoveredRepeaters
        sighting.node.publicKeyPrefixHex with
    | none =>
        rw [hmet, absorb, Option.some.injEq] at hentry
        rw [← hentry]
        exact ownValues_of_heard state.heard sighting.node
    | some existing =>
        rw [hmet, absorb, Option.some.injEq] at hentry
        rw [← hentry]
        exact (hgood.entries _ existing hmet).merged
          (hapart.2 existing hmet)
  · rw [Function.update_of_ne hfront] at hentry
    exact (hgood.entries _ entry hentry).later sighting.node

theorem Identified.rowsAfterUpsert
    {state : NodeHistory} (hgood : state.Identified) (sighting : Sighting) :
    ∀ row ∈ (state.store.db.upsert sighting.node).rows,
      OwnValues (state.heard ++ [sighting.node]) row.node := by
  intro row hmem
  rcases RepeaterDb.mem_upsert hmem with
    hold | hfresh | ⟨old, hold, hsame, hrow⟩
  · exact (hgood.rows row hold).later sighting.node
  · rw [hfresh]
    exact ownValues_of_heard state.heard sighting.node
  · rw [hrow]
    exact (hgood.rows old hold).merged (Or.inl hsame)

/-- A written row is the only one of its prefix. -/
theorem Identified.apartAfterUpsert
    {state : NodeHistory} (hgood : state.Identified) {sighting : Sighting}
    (halone : ∀ row ∈ state.store.db.rows,
      row.publicKeyPrefixHex = sighting.node.publicKeyPrefixHex →
        row.publicKeyHex = sighting.node.publicKeyHex) :
    ∀ row ∈ (state.store.db.upsert sighting.node).rows,
      ∀ other ∈ (state.store.db.upsert sighting.node).rows,
        row.publicKeyPrefixHex = other.publicKeyPrefixHex →
          row.publicKeyHex = other.publicKeyHex := by
  have hnew : ∀ row ∈ (state.store.db.upsert sighting.node).rows,
      row ∈ state.store.db.rows ∨
        row.publicKeyHex = sighting.node.publicKeyHex := by
    intro row hmem
    rcases RepeaterDb.mem_upsert hmem with hold | hfresh | ⟨old, _, _, hrow⟩
    · exact Or.inl hold
    · exact Or.inr (congrArg DiscoveredNode.publicKeyHex hfresh)
    · exact Or.inr (congrArg DiscoveredNode.publicKeyHex hrow)
  have hfront : ∀ row : RepeaterRow,
      row.publicKeyHex = sighting.node.publicKeyHex →
        row.publicKeyPrefixHex = sighting.node.publicKeyPrefixHex := by
    intro row hkey
    rw [row.prefix_eq, hkey, sighting.node.prefix_eq]
  intro row hrow other hother hsame
  rcases hnew row hrow with hold | hsighted
  · rcases hnew other hother with hotherOld | hotherSighted
    · exact hgood.apart row hold other hotherOld hsame
    · rw [hotherSighted]
      apply halone row hold
      rw [hsame, hfront other hotherSighted]
  · rcases hnew other hother with hotherOld | hotherSighted
    · rw [hsighted]
      symm
      apply halone other hotherOld
      rw [← hsame, hfront row hsighted]
    · rw [hsighted, hotherSighted]

theorem Identified.afterHear
    {state : NodeHistory} (hgood : state.Identified)
    {sighting : Sighting} {written : Bool}
    (hapart : state.KeepsApart (.hear sighting written)) :
    Identified {
      store := (state.store.upsertDiscoveredNode sighting.node written).1
      heard := state.heard ++ [sighting.node] } := by
  constructor
  · intro publicKeyPrefixHex entry hentry
    exact hgood.mirrorAfterHear hapart hentry
  · intro row hmem
    rw [state.store.db_upsert] at hmem
    cases written with
    | true => exact hgood.rowsAfterUpsert sighting row hmem
    | false => exact (hgood.rows row hmem).later sighting.node
  · simp only [state.store.db_upsert]
    cases written with
    | true => exact hgood.apartAfterUpsert (hapart.1 rfl)
    | false => exact hgood.apart

theorem Identified.afterRestart
    {state : NodeHistory} (hgood : state.Identified)
    {selected : List RepeaterRow}
    (hselected : selected.Perm state.store.db.rows) :
    { state with
      store := .hydrate state.store.db selected }.Identified := by
  constructor
  · intro publicKeyPrefixHex entry hentry
    rcases RepeaterDb.mem_of_loadAll hentry with ⟨row, hmem, _, hnode⟩
    rw [← hnode]
    exact hgood.rows row (hselected.mem_iff.mp hmem)
  · exact hgood.rows
  · exact hgood.apart

theorem Identified.afterStep
    {state next : NodeHistory} {action : NodeAction}
    (hgood : state.Identified) (hapart : state.KeepsApart action)
    (hstep : state.step action = some next) : next.Identified := by
  cases action with
  | hear sighting written =>
      simp only [step, Option.some.injEq] at hstep
      rw [← hstep]
      exact hgood.afterHear hapart
  | restart selected =>
      rcases LabelledRun.guarded_eq_some_iff.mp hstep with ⟨hselected, rfl⟩
      exact hgood.afterRestart hselected

/-- As long as nodes are kept apart, every entry is made of its own node's
values, and every node with a row is loaded. -/
theorem identity_kept_of_keepsApart
    {actions : List NodeAction} {final : NodeHistory}
    (hapart : MeetsAlong step KeepsApart start actions)
    (hrun : run step start actions = some final) :
    (∀ publicKeyPrefixHex entry,
      final.store.discoveredRepeaters publicKeyPrefixHex = some entry →
        OwnValues final.heard entry) ∧
    ∀ selected : List RepeaterRow, selected.Perm final.store.db.rows →
      ∀ row ∈ final.store.db.rows, ∃ publicKeyPrefixHex entry,
        RepeaterDb.loadAll selected publicKeyPrefixHex = some entry ∧
          entry.publicKeyHex = row.publicKeyHex := by
  have hgood := invariant_of_run
    (fun _ _ _ hgood hallowed hnext =>
      Identified.afterStep hgood hallowed hnext)
    start_identified hapart hrun
  refine ⟨hgood.entries, ?_⟩
  intro selected hselected row hmem
  have hrow := hselected.mem_iff.mpr hmem
  rcases RepeaterDb.exists_loadAll hrow with ⟨entry, hload⟩
  rcases RepeaterDb.mem_of_loadAll hload with ⟨other, hother, hsame, hnode⟩
  have hkey := hgood.apart other (hselected.mem_iff.mp hother) row hmem hsame
  refine ⟨_, entry, hload, ?_⟩
  rw [← hnode]
  exact hkey

theorem identity_kept_of_keepsApart_two_sightings :
    ∃ final,
      run step start [.hear (overheard "60" (48, 2) 100) true,
        .hear (overheard "60" (0, 0) 200) true] = some final ∧
      ∀ entry, final.store.discoveredRepeaters "0a1b2c3d4e5f" = some entry →
        OwnValues final.heard entry := by
  refine ⟨_, rfl, ?_⟩
  have hkept := @identity_kept_of_keepsApart
    [.hear (overheard "60" (48, 2) 100) true,
      .hear (overheard "60" (0, 0) 200) true] _ ?_ rfl
  · exact hkept.1 "0a1b2c3d4e5f"
  · refine ⟨⟨?_, ?_⟩, ⟨?_, ?_⟩, trivial⟩
    · intro _ row hmem
      simp [start, RepeaterDb.empty] at hmem
    · intro existing hmet
      simp [start, RepeaterDb.loadAll] at hmet
    · decide
    · intro existing hmet
      left
      exact (congrArg DiscoveredNode.publicKeyHex
        (Option.some.inj hmet)).symm

/-- Two nodes share a prefix.  The second one carries no position, so it gets
the position of the first. -/
theorem identity_mixed_of_shared_prefix :
    ¬ ∀ (actions : List NodeAction) (final : NodeHistory),
      run step start actions = some final →
      (∀ publicKeyPrefixHex entry,
        final.store.discoveredRepeaters publicKeyPrefixHex = some entry →
          OwnValues final.heard entry) ∧
      ∀ selected : List RepeaterRow, selected.Perm final.store.db.rows →
        ∀ row ∈ final.store.db.rows, ∃ publicKeyPrefixHex entry,
          RepeaterDb.loadAll selected publicKeyPrefixHex = some entry ∧
            entry.publicKeyHex = row.publicKeyHex := by
  intro hclaim
  have hmixed := (hclaim
    [.hear (overheard "60" (48, 2) 100) true,
      .hear (overheard "70" (0, 0) 200) true] _ rfl).1
    "0a1b2c3d4e5f" _ rfl
  rcases hmixed.position (48, 2) (by decide) with
    ⟨s, hmem, hkey, hposition⟩
  have hheard : s = (overheard "60" (48, 2) 100).node ∨
      s = (overheard "70" (0, 0) 200).node := by
    simpa [start] using hmem
  rcases hheard with hfirst | hsecond
  · rw [hfirst] at hkey
    revert hkey
    decide
  · rw [hsecond] at hposition
    revert hposition
    decide

end NodeHistory

end MeshController
