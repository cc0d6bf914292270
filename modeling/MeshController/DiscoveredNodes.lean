import MeshController.KeyedStore
import MeshController.MeshCommands

/-!
# Overheard nodes

A sighting is merged twice: into the database row of its full key, where an
absent value is NULL, and into the in-memory entry of its key prefix.  As long
as a prefix belongs to one key only, both hold for each field what the last
sighting which carried it said.
-/

namespace MeshController

open KeyedStore

/-- A row of the table `repeaters`. -/
structure RepeaterRow where
  publicKeyHex : String
  publicKeyPrefixHex : String
  name : String
  advType : UInt8
  lat : Option ℚ
  lon : Option ℚ
  lastSnr : Option ℚ
  lastRssi : Option ℤ
  lastHopCount : Option UInt8
  firstSeenUnix : ℤ
  lastSeenUnix : ℤ
  sightingCount : ℕ
  prefix_of_key : publicKeyPrefixHex.toList = publicKeyHex.toList.take 12

/-- The row `load_all` reads back as a node. -/
def RepeaterRow.node (row : RepeaterRow) : DiscoveredNode where
  publicKeyHex := row.publicKeyHex
  publicKeyPrefixHex := row.publicKeyPrefixHex
  name := row.name
  advType := row.advType
  isRepeater := row.advType = 2
  lat := row.lat.getD 0
  lon := row.lon.getD 0
  lastSnr := row.lastSnr
  lastRssi := row.lastRssi
  lastHopCount := row.lastHopCount
  lastSeenUnix := row.lastSeenUnix
  prefix_of_key := row.prefix_of_key

/-- The node with the columns it does not determine. -/
def RepeaterRow.columns (row : RepeaterRow) :
    DiscoveredNode × (Option ℚ × Option ℚ) × ℤ × ℕ :=
  (row.node, (row.lat, row.lon), row.firstSeenUnix, row.sightingCount)

theorem RepeaterRow.columns_injective :
    Function.Injective RepeaterRow.columns := by
  intro first second hcolumns
  cases first
  cases second
  simp only [columns, node, Prod.mk.injEq, DiscoveredNode.mk.injEq]
    at hcolumns
  simp [hcolumns]

instance : DecidableEq RepeaterRow :=
  RepeaterRow.columns_injective.decidableEq

/-- The values of the `INSERT`. -/
def RepeaterRow.ofSighting (node : DiscoveredNode) : RepeaterRow where
  publicKeyHex := node.publicKeyHex
  publicKeyPrefixHex := node.publicKeyPrefixHex
  name := node.name
  advType := node.advType
  lat := if node.lat = 0 ∧ node.lon = 0 then none else some node.lat
  lon := if node.lat = 0 ∧ node.lon = 0 then none else some node.lon
  lastSnr := node.lastSnr
  lastRssi := node.lastRssi
  lastHopCount := node.lastHopCount
  firstSeenUnix := node.lastSeenUnix
  lastSeenUnix := node.lastSeenUnix
  sightingCount := 1
  prefix_of_key := node.prefix_of_key

/-- The `ON CONFLICT` clause; `COALESCE` takes the first value which is not
NULL. -/
def RepeaterRow.onConflict (excluded existing : RepeaterRow) : RepeaterRow where
  publicKeyHex := excluded.publicKeyHex
  publicKeyPrefixHex := excluded.publicKeyPrefixHex
  name := excluded.name
  advType := excluded.advType
  lat := excluded.lat.or existing.lat
  lon := excluded.lon.or existing.lon
  lastSnr := excluded.lastSnr.or existing.lastSnr
  lastRssi := excluded.lastRssi.or existing.lastRssi
  lastHopCount := excluded.lastHopCount.or existing.lastHopCount
  firstSeenUnix := existing.firstSeenUnix
  lastSeenUnix := excluded.lastSeenUnix
  sightingCount := existing.sightingCount + 1
  prefix_of_key := excluded.prefix_of_key

theorem RepeaterRow.onConflict_keeps_key (excluded existing : RepeaterRow)
    (_ : existing.publicKeyHex = excluded.publicKeyHex) :
    (excluded.onConflict existing).publicKeyHex = excluded.publicKeyHex := rfl

/-- The table has one row for each full key. -/
structure RepeaterDb where
  rows : List RepeaterRow
  one_row_each : (rows.map RepeaterRow.publicKeyHex).Nodup

namespace RepeaterDb

def empty : RepeaterDb where
  rows := []
  one_row_each := List.nodup_nil

def upsert (db : RepeaterDb) (node : DiscoveredNode) : RepeaterDb where
  rows := KeyedStore.upsert RepeaterRow.publicKeyHex
    (.ofSighting node) (RepeaterRow.ofSighting node).onConflict db.rows
  one_row_each :=
    nodup_upsert (RepeaterRow.onConflict_keeps_key _) db.one_row_each

/-- `selected` are the rows in the order in which the query returns them. -/
def loadAll (selected : List RepeaterRow) : String → Option DiscoveredNode :=
  selected.foldl
    (fun nodes row =>
      Function.update nodes row.publicKeyPrefixHex (some row.node))
    fun _ => none

def nodeOf (db : RepeaterDb) (publicKeyHex : String) : Option DiscoveredNode :=
  (get RepeaterRow.publicKeyHex db.rows publicKeyHex).map
    RepeaterRow.node

end RepeaterDb

/-- The entry after a sighting.  Its prefix is the key it is stored under,
which is the sighting's own. -/
def DiscoveredNode.mergedWith (existing node : DiscoveredNode) :
    DiscoveredNode :=
  { node with
    lat := if node.lat ≠ 0 ∨ node.lon ≠ 0 then node.lat else existing.lat
    lon := if node.lat ≠ 0 ∨ node.lon ≠ 0 then node.lon else existing.lon
    lastSnr := node.lastSnr.or existing.lastSnr
    lastRssi := node.lastRssi.or existing.lastRssi
    lastHopCount := node.lastHopCount.or existing.lastHopCount }

/-- The database and its in-memory mirror. -/
structure NodeStore where
  db : RepeaterDb
  discoveredRepeaters : String → Option DiscoveredNode

namespace NodeStore

/-- What `AppState::new` starts from. -/
def hydrate (db : RepeaterDb) (selected : List RepeaterRow) : NodeStore where
  db := db
  discoveredRepeaters := RepeaterDb.loadAll selected

@[simp] theorem db_hydrate (db : RepeaterDb) (selected : List RepeaterRow) :
    (hydrate db selected).db = db := rfl

@[simp] theorem discoveredRepeaters_hydrate
    (db : RepeaterDb) (selected : List RepeaterRow) :
    (hydrate db selected).discoveredRepeaters = RepeaterDb.loadAll selected :=
  rfl

/-- `written` tells whether the database could be written.  The second
component tells whether the node is new. -/
def upsertDiscoveredNode
    (store : NodeStore) (node : DiscoveredNode) (written : Bool) :
    NodeStore × Bool :=
  let db := if written then store.db.upsert node else store.db
  match store.discoveredRepeaters node.publicKeyPrefixHex with
  | some existing =>
      ({ db := db
         discoveredRepeaters := Function.update store.discoveredRepeaters
           node.publicKeyPrefixHex (some (existing.mergedWith node)) }, false)
  | none =>
      ({ db := db
         discoveredRepeaters := Function.update store.discoveredRepeaters
           node.publicKeyPrefixHex (some node) }, true)

end NodeStore

/-- A node as it is heard: a repeater is told by its advertiser type. -/
structure Sighting where
  node : DiscoveredNode
  isRepeater_eq : node.isRepeater = decide (node.advType = 2)

theorem isRepeater_of_extractDiscoveredNode
    {event : MeshCoreEvent} {nowUnix : ℤ} {node : DiscoveredNode}
    (hheard : extractDiscoveredNode event nowUnix = some node) :
    node.isRepeater = decide (node.advType = 2) := by
  unfold extractDiscoveredNode at hheard
  split at hheard
  next log _ =>
    split at hheard
    · split at hheard
      · contradiction
      · rw [Option.some.injEq] at hheard
        rw [← hheard]
    · contradiction
  next => contradiction

/-! ## One key at a time -/

/-- What one more sighting of a key makes of its entry. -/
def absorb : Option DiscoveredNode → DiscoveredNode → Option DiscoveredNode
  | none, node => some node
  | some existing, node => some (existing.mergedWith node)

theorem RepeaterRow.node_ofSighting (sighting : Sighting) :
    (RepeaterRow.ofSighting sighting.node).node = sighting.node := by
  obtain ⟨node, hrepeater⟩ := sighting
  have hlat : (if node.lat = 0 ∧ node.lon = 0 then none
      else some node.lat).getD 0 = node.lat := by
    split
    next hzero => exact hzero.1.symm
    next => rfl
  have hlon : (if node.lat = 0 ∧ node.lon = 0 then none
      else some node.lon).getD 0 = node.lon := by
    split
    next hzero => exact hzero.2.symm
    next => rfl
  simp only [RepeaterRow.node, RepeaterRow.ofSighting, hlat, hlon, ← hrepeater]

/-- The two merges agree. -/
theorem RepeaterRow.node_onConflict
    (sighting : Sighting) (existing : RepeaterRow) :
    ((RepeaterRow.ofSighting sighting.node).onConflict existing).node =
      existing.node.mergedWith sighting.node := by
  obtain ⟨node, hrepeater⟩ := sighting
  have hcarries : (node.lat ≠ 0 ∨ node.lon ≠ 0) ↔
      ¬ (node.lat = 0 ∧ node.lon = 0) := by tauto
  by_cases hposition : node.lat = 0 ∧ node.lon = 0 <;>
    simp [RepeaterRow.node, RepeaterRow.onConflict, RepeaterRow.ofSighting,
      DiscoveredNode.mergedWith, hcarries, hposition, ← hrepeater]

theorem RepeaterDb.nodeOf_upsert_self (db : RepeaterDb) (sighting : Sighting) :
    (db.upsert sighting.node).nodeOf sighting.node.publicKeyHex =
      absorb (db.nodeOf sighting.node.publicKeyHex) sighting.node := by
  have hrow := get_upsert_self
    (RepeaterRow.ofSighting sighting.node).onConflict_keeps_key db.rows
  have hkey : sighting.node.publicKeyHex =
      (RepeaterRow.ofSighting sighting.node).publicKeyHex := rfl
  unfold RepeaterDb.nodeOf RepeaterDb.upsert
  rw [hkey, hrow]
  cases get RepeaterRow.publicKeyHex db.rows
      (RepeaterRow.ofSighting sighting.node).publicKeyHex with
  | none =>
      simp [absorb, RepeaterRow.node_ofSighting]
  | some existing =>
      simp [absorb, RepeaterRow.node_onConflict]

theorem RepeaterDb.nodeOf_upsert_of_ne
    (db : RepeaterDb) (node : DiscoveredNode) {publicKeyHex : String}
    (hother : publicKeyHex ≠ node.publicKeyHex) :
    (db.upsert node).nodeOf publicKeyHex = db.nodeOf publicKeyHex := by
  unfold RepeaterDb.nodeOf RepeaterDb.upsert
  rw [get_upsert_of_ne
    (RepeaterRow.ofSighting node).onConflict_keeps_key hother]

theorem NodeStore.discoveredRepeaters_upsert
    (store : NodeStore) (node : DiscoveredNode) (written : Bool) :
    (store.upsertDiscoveredNode node written).1.discoveredRepeaters =
      Function.update store.discoveredRepeaters node.publicKeyPrefixHex
        (absorb (store.discoveredRepeaters node.publicKeyPrefixHex) node) := by
  unfold NodeStore.upsertDiscoveredNode
  cases store.discoveredRepeaters node.publicKeyPrefixHex <;> rfl

theorem NodeStore.db_upsert
    (store : NodeStore) (node : DiscoveredNode) (written : Bool) :
    (store.upsertDiscoveredNode node written).1.db =
      if written then store.db.upsert node else store.db := by
  unfold NodeStore.upsertDiscoveredNode
  cases store.discoveredRepeaters node.publicKeyPrefixHex <;> rfl

/-! ## Loading -/

theorem DiscoveredNode.prefix_eq (node : DiscoveredNode) :
    node.publicKeyPrefixHex = keyPrefixHex node.publicKeyHex := by
  apply String.toList_inj.mp
  simpa [keyPrefixHex] using node.prefix_of_key

theorem RepeaterRow.prefix_eq (row : RepeaterRow) :
    row.publicKeyPrefixHex = keyPrefixHex row.publicKeyHex :=
  row.node.prefix_eq

/-- Of the rows with one prefix, the last one is kept. -/
theorem RepeaterDb.loadAll_eq
    (selected : List RepeaterRow) (publicKeyPrefixHex : String) :
    loadAll selected publicKeyPrefixHex =
      ((selected.filter fun row =>
        row.publicKeyPrefixHex = publicKeyPrefixHex).getLast?).map
          RepeaterRow.node := by
  have hread := read_foldl
    (fun (nodes : String → Option DiscoveredNode) k => nodes k)
    (fun nodes (row : RepeaterRow) =>
      Function.update nodes row.publicKeyPrefixHex (some row.node))
    (fun _ row => some row.node)
    (fun row => row.publicKeyPrefixHex)
    (fun _ _ => Function.update_self ..)
    (fun _ _ _ hother => Function.update_of_ne hother ..)
    (fun _ => none) selected publicKeyPrefixHex
  unfold loadAll
  rw [hread]
  generalize selected.filter _ = rows
  induction rows using List.reverseRecOn with
  | nil => rfl
  | append_singleton rows row ih => simp

theorem RepeaterDb.loadAll_eq_nodeOf
    {db : RepeaterDb} {selected : List RepeaterRow}
    (hselected : selected.Perm db.rows) {publicKeyHex : String}
    (hunique : ∀ row ∈ db.rows,
      row.publicKeyPrefixHex = keyPrefixHex publicKeyHex →
        row.publicKeyHex = publicKeyHex) :
    loadAll selected (keyPrefixHex publicKeyHex) = db.nodeOf publicKeyHex := by
  rw [loadAll_eq]
  unfold nodeOf
  congr 1
  cases hlast : (selected.filter fun row =>
      row.publicKeyPrefixHex = keyPrefixHex publicKeyHex).getLast? with
  | none =>
      have hnone := List.getLast?_eq_none_iff.mp hlast
      cases hget : get RepeaterRow.publicKeyHex db.rows
          publicKeyHex with
      | none => rfl
      | some row =>
          have hkey : row.publicKeyHex = publicKeyHex := key_of_get hget
          have hmem := hselected.mem_iff.mpr (mem_of_get hget)
          have hempty := List.filter_eq_nil_iff.mp hnone row hmem
          simp [row.prefix_eq, hkey] at hempty
  | some row =>
      have hmem := List.mem_of_getLast? hlast
      rw [List.mem_filter] at hmem
      have hrow := hselected.mem_iff.mp hmem.1
      have hkey := hunique row hrow (by simpa using hmem.2)
      rw [← hkey]
      exact (get_of_mem db.one_row_each hrow).symm

/-! ## The last value which was carried -/

def DiscoveredNode.position (node : DiscoveredNode) : Option (ℚ × ℚ) :=
  if node.lat ≠ 0 ∨ node.lon ≠ 0 then some (node.lat, node.lon) else none

theorem DiscoveredNode.position_getD (node : DiscoveredNode) :
    node.position.getD (0, 0) = (node.lat, node.lon) := by
  unfold DiscoveredNode.position
  split
  next => rfl
  next hnone =>
    have hzero : node.lat = 0 ∧ node.lon = 0 := by tauto
    rw [hzero.1, hzero.2]
    rfl

/-- What is to be known of a node after these sightings of it. -/
def specification (sightings : List DiscoveredNode) : Option DiscoveredNode :=
  sightings.getLast?.map fun last =>
    let position :=
      (lastCarried DiscoveredNode.position sightings).getD (0, 0)
    { last with
      lat := position.1
      lon := position.2
      lastSnr := lastCarried (fun s => s.lastSnr) sightings
      lastRssi := lastCarried (fun s => s.lastRssi) sightings
      lastHopCount := lastCarried (fun s => s.lastHopCount) sightings }

theorem specification_concat
    (sightings : List DiscoveredNode) (node : DiscoveredNode) :
    specification (sightings ++ [node]) =
      absorb (specification sightings) node := by
  have hconcat : specification (sightings ++ [node]) =
      some { node with
        lat := ((node.position.or
          (lastCarried DiscoveredNode.position sightings)).getD (0, 0)).1
        lon := ((node.position.or
          (lastCarried DiscoveredNode.position sightings)).getD (0, 0)).2
        lastSnr := node.lastSnr.or
          (lastCarried (fun s => s.lastSnr) sightings)
        lastRssi := node.lastRssi.or
          (lastCarried (fun s => s.lastRssi) sightings)
        lastHopCount := node.lastHopCount.or
          (lastCarried (fun s => s.lastHopCount) sightings) } := by
    simp [specification, lastCarried_concat]
  rw [hconcat]
  cases hlast : sightings.getLast? with
  | none =>
      have hempty := List.getLast?_eq_none_iff.mp hlast
      subst hempty
      simp [specification, absorb, lastCarried, node.position_getD]
  | some last =>
      by_cases hposition : node.lat ≠ 0 ∨ node.lon ≠ 0 <;>
        simp [specification, absorb, hlast, DiscoveredNode.mergedWith,
          DiscoveredNode.position, hposition]

theorem foldl_absorb (sightings : List DiscoveredNode) :
    sightings.foldl absorb none = specification sightings := by
  induction sightings using List.reverseRecOn with
  | nil => rfl
  | append_singleton sightings node ih =>
      rw [List.foldl_append, ih, specification_concat]
      rfl

/-! ## After a sequence of sightings -/

def heardOf (publicKeyHex : String) (sightings : List Sighting) :
    List DiscoveredNode :=
  (sightings.filter fun s => s.node.publicKeyHex = publicKeyHex).map
    Sighting.node

/-- The database which these sightings built. -/
def databaseAfter (sightings : List Sighting) : RepeaterDb :=
  sightings.foldl (fun db s => db.upsert s.node) .empty

/-- Every write of the database succeeds. -/
def NodeStore.afterSightings
    (store : NodeStore) (sightings : List Sighting) : NodeStore :=
  sightings.foldl
    (fun store s => (store.upsertDiscoveredNode s.node true).1) store

theorem nodeOf_databaseAfter (sightings : List Sighting)
    (publicKeyHex : String) :
    (databaseAfter sightings).nodeOf publicKeyHex =
      specification (heardOf publicKeyHex sightings) := by
  have hread := read_foldl
    RepeaterDb.nodeOf
    (fun db (s : Sighting) => db.upsert s.node)
    (fun known s => absorb known s.node)
    (fun s => s.node.publicKeyHex)
    RepeaterDb.nodeOf_upsert_self
    (fun db s _ hother => db.nodeOf_upsert_of_ne s.node hother)
    .empty sightings publicKeyHex
  unfold databaseAfter heardOf
  rw [hread, ← foldl_absorb, List.foldl_map]
  rfl

theorem exists_sighting_of_row
    {sightings : List Sighting} {row : RepeaterRow}
    (hmem : row ∈ (databaseAfter sightings).rows) :
    ∃ s ∈ sightings, s.node.publicKeyHex = row.publicKeyHex := by
  have hnode := nodeOf_databaseAfter sightings row.publicKeyHex
  rw [RepeaterDb.nodeOf,
    get_of_mem (databaseAfter sightings).one_row_each hmem] at hnode
  cases hheard : heardOf row.publicKeyHex sightings with
  | nil => simp [hheard, specification] at hnode
  | cons first rest =>
      have hfirst : first ∈ heardOf row.publicKeyHex sightings := by
        simp [hheard]
      rcases List.mem_map.mp hfirst with ⟨s, hs, _⟩
      rw [List.mem_filter, decide_eq_true_iff] at hs
      exact ⟨s, hs⟩

theorem NodeStore.db_afterSightings
    (store : NodeStore) (sightings : List Sighting) :
    (store.afterSightings sightings).db =
      sightings.foldl (fun db s => db.upsert s.node) store.db := by
  unfold NodeStore.afterSightings
  induction sightings generalizing store with
  | nil => rfl
  | cons s rest ih =>
      rw [List.foldl_cons, List.foldl_cons, ih, store.db_upsert]
      rfl

theorem NodeStore.discoveredRepeaters_afterSightings
    (store : NodeStore) (sightings : List Sighting)
    (publicKeyPrefixHex : String) :
    (store.afterSightings sightings).discoveredRepeaters publicKeyPrefixHex =
      ((sightings.filter fun s =>
        s.node.publicKeyPrefixHex = publicKeyPrefixHex).map
          Sighting.node).foldl absorb
            (store.discoveredRepeaters publicKeyPrefixHex) := by
  rw [List.foldl_map]
  apply read_foldl NodeStore.discoveredRepeaters _
    (fun known (s : Sighting) => absorb known s.node)
    (fun s => s.node.publicKeyPrefixHex)
  · intro store s
    rw [store.discoveredRepeaters_upsert, Function.update_self]
  · intro store s k hother
    rw [store.discoveredRepeaters_upsert, Function.update_of_ne hother]

/-- A prefix which only one of the sighted keys has selects the sightings of
that key. -/
theorem filter_prefix_eq_filter_key
    {sightings : List Sighting} {publicKeyHex : String}
    (hunique : ∀ s ∈ sightings,
      s.node.publicKeyPrefixHex = keyPrefixHex publicKeyHex →
        s.node.publicKeyHex = publicKeyHex) :
    (sightings.filter fun s =>
      s.node.publicKeyPrefixHex = keyPrefixHex publicKeyHex) =
        sightings.filter fun s => s.node.publicKeyHex = publicKeyHex := by
  apply List.filter_congr
  intro s hmem
  rw [decide_eq_decide]
  constructor
  · exact hunique s hmem
  · intro hkey
    rw [s.node.prefix_eq, hkey]

/-- A prefix which only one of the sighted keys has is the prefix of the rows
of that key only. -/
theorem key_of_lone_front_row
    {sightings : List Sighting} {publicKeyHex : String}
    (hunique : ∀ s ∈ sightings,
      s.node.publicKeyPrefixHex = keyPrefixHex publicKeyHex →
        s.node.publicKeyHex = publicKeyHex) :
    ∀ row ∈ (databaseAfter sightings).rows,
      row.publicKeyPrefixHex = keyPrefixHex publicKeyHex →
        row.publicKeyHex = publicKeyHex := by
  intro row hmem hfront
  rcases exists_sighting_of_row hmem with ⟨s, hs, hkey⟩
  rw [← hkey]
  apply hunique s hs
  rw [s.node.prefix_eq, hkey, ← row.prefix_eq, hfront]

theorem loadAll_eq_specification
    {sightings : List Sighting} {selected : List RepeaterRow}
    {publicKeyHex : String}
    (hselected : selected.Perm (databaseAfter sightings).rows)
    (hunique : ∀ s ∈ sightings,
      s.node.publicKeyPrefixHex = keyPrefixHex publicKeyHex →
        s.node.publicKeyHex = publicKeyHex) :
    RepeaterDb.loadAll selected (keyPrefixHex publicKeyHex) =
      specification (heardOf publicKeyHex sightings) := by
  rw [RepeaterDb.loadAll_eq_nodeOf hselected (key_of_lone_front_row hunique),
    nodeOf_databaseAfter]

/-- The mirror goes on from what was loaded. -/
theorem mirror_eq_specification
    {earlier sightings : List Sighting}
    {selected : List RepeaterRow} {publicKeyHex : String}
    (hselected : selected.Perm (databaseAfter earlier).rows)
    (hunique : ∀ s ∈ earlier ++ sightings,
      s.node.publicKeyPrefixHex = keyPrefixHex publicKeyHex →
        s.node.publicKeyHex = publicKeyHex) :
    ((NodeStore.hydrate (databaseAfter earlier) selected).afterSightings
        sightings).discoveredRepeaters (keyPrefixHex publicKeyHex) =
      specification (heardOf publicKeyHex (earlier ++ sightings)) := by
  have hearlier : ∀ s ∈ earlier,
      s.node.publicKeyPrefixHex = keyPrefixHex publicKeyHex →
        s.node.publicKeyHex = publicKeyHex := by
    intro s hmem
    exact hunique s (List.mem_append_left _ hmem)
  have hlater : ∀ s ∈ sightings,
      s.node.publicKeyPrefixHex = keyPrefixHex publicKeyHex →
        s.node.publicKeyHex = publicKeyHex := by
    intro s hmem
    exact hunique s (List.mem_append_right _ hmem)
  have hjoined : heardOf publicKeyHex (earlier ++ sightings) =
      heardOf publicKeyHex earlier ++ heardOf publicKeyHex sightings := by
    simp [heardOf]
  rw [NodeStore.discoveredRepeaters_afterSightings,
    filter_prefix_eq_filter_key hlater,
    NodeStore.discoveredRepeaters_hydrate,
    loadAll_eq_specification hselected hearlier,
    hjoined, ← foldl_absorb, ← foldl_absorb, List.foldl_append]
  rfl

theorem db_afterSightings_hydrate
    (earlier sightings : List Sighting) (selected : List RepeaterRow) :
    ((NodeStore.hydrate (databaseAfter earlier) selected).afterSightings
      sightings).db = databaseAfter (earlier ++ sightings) := by
  rw [NodeStore.db_afterSightings, NodeStore.db_hydrate]
  unfold databaseAfter
  rw [List.foldl_append]

/-- For a key whose prefix no other key has, the mirror after any sightings,
what a restart would load, and the specification agree. -/
theorem mirror_and_database_meet_specification
    {earlier sightings : List Sighting}
    {selected reloaded : List RepeaterRow} {publicKeyHex : String}
    (hselected : selected.Perm (databaseAfter earlier).rows)
    (hreloaded : reloaded.Perm
      ((NodeStore.hydrate (databaseAfter earlier) selected).afterSightings
        sightings).db.rows)
    (hunique : ∀ s ∈ earlier ++ sightings,
      s.node.publicKeyPrefixHex = keyPrefixHex publicKeyHex →
        s.node.publicKeyHex = publicKeyHex) :
    ((NodeStore.hydrate (databaseAfter earlier) selected).afterSightings
        sightings).discoveredRepeaters (keyPrefixHex publicKeyHex) =
      specification (heardOf publicKeyHex (earlier ++ sightings)) ∧
    RepeaterDb.loadAll reloaded (keyPrefixHex publicKeyHex) =
      specification (heardOf publicKeyHex (earlier ++ sightings)) := by
  constructor
  · exact mirror_eq_specification hselected hunique
  · rw [db_afterSightings_hydrate] at hreloaded
    exact loadAll_eq_specification hreloaded hunique

def ridgeFront : String :=
  "0a1b2c3d4e5f60718293a4b5c6d7e8f90a1b2c3d4e5f60718293a4b5c6d7e8"

/-- Keys which differ in their last byte only. -/
def ridgeKey (lastByte : String) : String := ridgeFront ++ lastByte

def overheard (lastByte : String) (position : ℚ × ℚ) (lastSeenUnix : ℤ) :
    Sighting where
  node := {
    name := "ridge"
    publicKeyHex := ridgeKey lastByte
    publicKeyPrefixHex := "0a1b2c3d4e5f"
    isRepeater := true
    advType := 2
    lat := position.1
    lon := position.2
    lastSeenUnix := lastSeenUnix
    lastSnr := some 4
    lastRssi := some (-90)
    lastHopCount := some 2
    prefix_of_key := by
      have hlong : 12 ≤ ridgeFront.toList.length := by decide
      rw [ridgeKey, String.toList_append, List.take_append_of_le_length hlong]
      decide }
  isRepeater_eq := rfl

theorem mirror_and_database_meet_specification_restart :
    ∃ selected, selected.Perm
        (databaseAfter [overheard "60" (48, 2) 100]).rows ∧
      ((NodeStore.hydrate (databaseAfter [overheard "60" (48, 2) 100])
        selected).afterSightings [overheard "60" (0, 0) 200]
          ).discoveredRepeaters (keyPrefixHex (ridgeKey "60")) =
        some (overheard "60" (48, 2) 200).node := by
  refine ⟨_, List.Perm.refl _, ?_⟩
  have hmeets := (@mirror_and_database_meet_specification
    [overheard "60" (48, 2) 100] [overheard "60" (0, 0) 200] _ _
    (ridgeKey "60") (List.Perm.refl _) (List.Perm.refl _) (by decide)).1
  exact hmeets

end MeshController
