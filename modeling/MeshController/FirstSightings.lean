import MeshController.FirstOccurrences
import MeshController.NodeIdentity
import MeshController.SnapshotCoherence

/-!
# Newly heard repeaters

The first time a repeater is heard, and only then, the clients are told; not
if it is a contact of the node already.  What has been heard is remembered by
the in-memory mirror, and over restarts by the database.
-/

namespace MeshController

open FirstOccurrences KeyedStore LabelledRun

/-- A sighting, and whether its node was a contact at that moment. -/
structure LoggedSighting where
  node : DiscoveredNode
  registered : Bool

def LoggedSighting.publicKeyPrefixHex (logged : LoggedSighting) : String :=
  logged.node.publicKeyPrefixHex

/-- What the clients are told if the node is new. -/
def LoggedSighting.announcement (logged : LoggedSighting) :
    Option MeshEventKind :=
  if logged.registered then none
  else some (.repeaterHeard logged.node.name logged.node.publicKeyPrefixHex)

/-- `contacts` is the client's cached contact list, `announced` the broadcasts
about heard repeaters; `log` has every sighting of every lifetime. -/
structure Discovery where
  store : NodeStore
  contacts : List ContactDto
  announced : List MeshEventKind
  log : List LoggedSighting

inductive DiscoveryAction where
  | hear (sighting : Sighting) (written : Bool)
  | fetchContacts (contacts : List ContactDto)
  | restart (selected : List RepeaterRow)

namespace Discovery

def start : Discovery where
  store := .hydrate .empty []
  contacts := []
  announced := []
  log := []

def isRegistered (discovery : Discovery) (node : DiscoveredNode) : Bool :=
  discovery.contacts.any fun c =>
    c.publicKeyPrefixHex = node.publicKeyPrefixHex

def handleDiscoveredNode
    (discovery : Discovery) (node : DiscoveredNode) (written : Bool) :
    Discovery :=
  let (store, isNew) := discovery.store.upsertDiscoveredNode node written
  { discovery with
    store := store
    announced :=
      if isNew && !discovery.isRegistered node then
        discovery.announced ++
          [.repeaterHeard node.name node.publicKeyPrefixHex]
      else discovery.announced
    log := discovery.log ++ [⟨node, discovery.isRegistered node⟩] }

def step (discovery : Discovery) : DiscoveryAction → Option Discovery
  | .hear sighting written =>
      some (discovery.handleDiscoveredNode sighting.node written)
  | .fetchContacts contacts => some { discovery with contacts := contacts }
  | .restart selected =>
      if selected.Perm discovery.store.db.rows then
        some { discovery with
          store := .hydrate discovery.store.db selected
          contacts := [] }
      else none

/-- The database can be written. -/
def Written (_ : Discovery) : DiscoveryAction → Prop
  | .hear _ written => written = true
  | _ => True

/-! ## What is broadcast -/

/-- The broadcasts as they should be: the first sighting of each node decides
about it. -/
def expected (log : List LoggedSighting) : List MeshEventKind :=
  (firsts LoggedSighting.publicKeyPrefixHex log).filterMap
    LoggedSighting.announcement

theorem expected_append_singleton
    (log : List LoggedSighting) (logged : LoggedSighting) :
    expected (log ++ [logged]) =
      if ∃ earlier ∈ log,
          earlier.publicKeyPrefixHex = logged.publicKeyPrefixHex then
        expected log
      else expected log ++ logged.announcement.toList := by
  rw [expected, firsts_append_singleton]
  split_ifs with hheard
  · rfl
  · rw [List.filterMap_append, expected]
    cases hannounced : logged.announcement <;> simp [hannounced]

theorem announced_handleDiscoveredNode
    (discovery : Discovery) (node : DiscoveredNode) (written : Bool) :
    (discovery.handleDiscoveredNode node written).announced =
      discovery.announced ++
        if (discovery.store.upsertDiscoveredNode node written).2 = true then
          (LoggedSighting.mk node
            (discovery.isRegistered node)).announcement.toList
        else [] := by
  simp only [handleDiscoveredNode]
  cases (discovery.store.upsertDiscoveredNode node written).2 <;>
    cases hregistered : discovery.isRegistered node <;>
      simp [LoggedSighting.announcement]

/-! ## What has been heard -/

def Heard (discovery : Discovery) (publicKeyPrefixHex : String) : Prop :=
  ∃ logged ∈ discovery.log, logged.publicKeyPrefixHex = publicKeyPrefixHex

/-- The mirror and the database know exactly what has been heard. -/
structure Remembers (discovery : Discovery) : Prop where
  mirror : ∀ publicKeyPrefixHex,
    (discovery.store.discoveredRepeaters publicKeyPrefixHex).isSome = true ↔
      discovery.Heard publicKeyPrefixHex
  rows : ∀ publicKeyPrefixHex,
    (∃ row ∈ discovery.store.db.rows,
        row.publicKeyPrefixHex = publicKeyPrefixHex) ↔
      discovery.Heard publicKeyPrefixHex
  announced : discovery.announced = expected discovery.log

theorem start_remembers : start.Remembers where
  mirror := by
    intro publicKeyPrefixHex
    simp [start, Heard, RepeaterDb.loadAll]
  rows := by
    intro publicKeyPrefixHex
    simp [start, Heard, RepeaterDb.empty]
  announced := rfl

theorem exists_row_iff (db : RepeaterDb) (publicKeyPrefixHex : String) :
    (∃ row ∈ db.rows, row.publicKeyPrefixHex = publicKeyPrefixHex) ↔
      ∃ publicKeyHex ∈ db.rows.map RepeaterRow.publicKeyHex,
        keyPrefixHex publicKeyHex = publicKeyPrefixHex := by
  constructor
  · rintro ⟨row, hrow, rfl⟩
    exact ⟨row.publicKeyHex, List.mem_map_of_mem hrow, row.prefix_eq.symm⟩
  · rintro ⟨publicKeyHex, hmem, rfl⟩
    obtain ⟨row, hrow, rfl⟩ := List.mem_map.mp hmem
    exact ⟨row, hrow, row.prefix_eq⟩

theorem exists_row_upsert_iff
    (db : RepeaterDb) (node : DiscoveredNode) (publicKeyPrefixHex : String) :
    (∃ row ∈ (db.upsert node).rows,
        row.publicKeyPrefixHex = publicKeyPrefixHex) ↔
      (∃ row ∈ db.rows, row.publicKeyPrefixHex = publicKeyPrefixHex) ∨
        node.publicKeyPrefixHex = publicKeyPrefixHex := by
  have hkeys : (db.upsert node).rows.map RepeaterRow.publicKeyHex =
      if node.publicKeyHex ∈ db.rows.map RepeaterRow.publicKeyHex then
        db.rows.map RepeaterRow.publicKeyHex
      else db.rows.map RepeaterRow.publicKeyHex ++ [node.publicKeyHex] :=
    keys_upsert (RepeaterRow.ofSighting node).onConflict_keeps_key db.rows
  rw [exists_row_iff, exists_row_iff, hkeys, node.prefix_eq]
  split_ifs with hknown
  · constructor
    · exact Or.inl
    · rintro (hrow | rfl)
      · exact hrow
      · exact ⟨node.publicKeyHex, hknown, rfl⟩
  · constructor
    · rintro ⟨publicKeyHex, hmem, rfl⟩
      rcases List.mem_append.mp hmem with hold | hnew
      · exact Or.inl ⟨publicKeyHex, hold, rfl⟩
      · right
        rw [List.mem_singleton.mp hnew]
    · rintro (⟨publicKeyHex, hold, hfront⟩ | rfl)
      · exact ⟨publicKeyHex, List.mem_append_left _ hold, hfront⟩
      · exact ⟨node.publicKeyHex, by simp, rfl⟩

theorem heard_handleDiscoveredNode_iff
    (discovery : Discovery) (node : DiscoveredNode) (written : Bool)
    (publicKeyPrefixHex : String) :
    (discovery.handleDiscoveredNode node written).Heard publicKeyPrefixHex ↔
      discovery.Heard publicKeyPrefixHex ∨
        node.publicKeyPrefixHex = publicKeyPrefixHex := by
  simp [Heard, handleDiscoveredNode, or_and_right, exists_or,
    LoggedSighting.publicKeyPrefixHex]

theorem isNew_iff (store : NodeStore) (node : DiscoveredNode)
    (written : Bool) :
    (store.upsertDiscoveredNode node written).2 = true ↔
      store.discoveredRepeaters node.publicKeyPrefixHex = none := by
  unfold NodeStore.upsertDiscoveredNode
  cases store.discoveredRepeaters node.publicKeyPrefixHex <;> simp

theorem Remembers.hear {discovery : Discovery}
    (hgood : discovery.Remembers) (node : DiscoveredNode) :
    (discovery.handleDiscoveredNode node true).Remembers where
  mirror := by
    intro publicKeyPrefixHex
    rw [heard_handleDiscoveredNode_iff, ← hgood.mirror]
    change ((discovery.store.upsertDiscoveredNode node
      true).1.discoveredRepeaters publicKeyPrefixHex).isSome = true ↔ _
    rw [NodeStore.discoveredRepeaters_upsert]
    by_cases hsame : publicKeyPrefixHex = node.publicKeyPrefixHex
    · subst hsame
      cases discovery.store.discoveredRepeaters node.publicKeyPrefixHex <;>
        simp [absorb]
    · have hother : node.publicKeyPrefixHex ≠ publicKeyPrefixHex :=
        fun heq => hsame heq.symm
      simp [hsame, hother]
  rows := by
    intro publicKeyPrefixHex
    rw [heard_handleDiscoveredNode_iff, ← hgood.rows]
    change (∃ row ∈ (discovery.store.upsertDiscoveredNode node true).1.db.rows,
      row.publicKeyPrefixHex = publicKeyPrefixHex) ↔ _
    rw [NodeStore.db_upsert, if_pos rfl]
    exact exists_row_upsert_iff discovery.store.db node publicKeyPrefixHex
  announced := by
    have hheard := hgood.mirror node.publicKeyPrefixHex
    have hnew := isNew_iff discovery.store node true
    have hlog : (discovery.handleDiscoveredNode node true).log =
        discovery.log ++ [⟨node, discovery.isRegistered node⟩] := rfl
    rw [announced_handleDiscoveredNode, hlog, expected_append_singleton,
      hgood.announced]
    cases hmet : discovery.store.discoveredRepeaters
        node.publicKeyPrefixHex with
    | some existing =>
        have hknown : ∃ earlier ∈ discovery.log,
            earlier.publicKeyPrefixHex = (LoggedSighting.mk node
              (discovery.isRegistered node)).publicKeyPrefixHex := by
          apply hheard.mp
          rw [hmet]
          rfl
        have hold : ¬ (discovery.store.upsertDiscoveredNode node true).2 =
            true := by
          rw [hnew, hmet]
          simp
        rw [if_neg hold, if_pos hknown, List.append_nil]
    | none =>
        have hunknown : ¬ ∃ earlier ∈ discovery.log,
            earlier.publicKeyPrefixHex = (LoggedSighting.mk node
              (discovery.isRegistered node)).publicKeyPrefixHex := by
          intro hknown
          have hsome := hheard.mpr hknown
          rw [hmet] at hsome
          cases hsome
        rw [if_pos (hnew.mpr hmet), if_neg hunknown]

theorem Remembers.restart {discovery : Discovery}
    (hgood : discovery.Remembers) {selected : List RepeaterRow}
    (hselected : selected.Perm discovery.store.db.rows) :
    { discovery with
      store := .hydrate discovery.store.db selected
      contacts := [] }.Remembers where
  mirror := by
    intro publicKeyPrefixHex
    have hrows := hgood.rows publicKeyPrefixHex
    change (RepeaterDb.loadAll selected publicKeyPrefixHex).isSome = true ↔
      discovery.Heard publicKeyPrefixHex
    rw [← hrows, Option.isSome_iff_exists]
    constructor
    · rintro ⟨entry, hentry⟩
      obtain ⟨row, hrow, hfront, _⟩ := RepeaterDb.mem_of_loadAll hentry
      exact ⟨row, hselected.mem_iff.mp hrow, hfront⟩
    · rintro ⟨row, hrow, rfl⟩
      exact RepeaterDb.exists_loadAll (hselected.mem_iff.mpr hrow)
  rows := hgood.rows
  announced := hgood.announced

theorem Remembers.afterStep {discovery next : Discovery}
    {action : DiscoveryAction} (hgood : discovery.Remembers)
    (hwritten : Written discovery action)
    (hstep : step discovery action = some next) : next.Remembers := by
  cases action with
  | hear sighting written =>
      rw [step, Option.some.injEq] at hstep
      rw [← hstep, hwritten]
      exact hgood.hear sighting.node
  | fetchContacts contacts =>
      rw [step, Option.some.injEq] at hstep
      rw [← hstep]
      exact ⟨hgood.mirror, hgood.rows, hgood.announced⟩
  | restart selected =>
      obtain ⟨hselected, rfl⟩ := guarded_eq_some_iff.mp hstep
      exact hgood.restart hselected

/-- A repeater is heard twice, with a restart in between. -/
def heardAcrossRestart : List DiscoveryAction :=
  [.hear (overheard "60" (48, 2) 100) true,
    .restart (databaseAfter [overheard "60" (48, 2) 100]).rows,
    .hear (overheard "60" (0, 0) 200) true]

def TaskStep.told : TaskStep → Option MeshEventKind
  | .mesh (.broadcast kind) => some kind
  | _ => none

/-- The steps the mesh task takes for a heard node tell the clients what is
announced here. -/
theorem told_handleDiscoveredNodeSteps
    {daemon : Daemon} {view : EventView} {discovery : Discovery}
    {node : DiscoveredNode} (written : Bool)
    (hmirror : findDiscovered daemon.discovered node.publicKeyPrefixHex =
      discovery.store.discoveredRepeaters node.publicKeyPrefixHex)
    (hcontacts : discovery.contacts = view.cachedContacts) :
    (discovery.handleDiscoveredNode node written).announced =
      discovery.announced ++
        (handleDiscoveredNodeSteps daemon view node).filterMap
          TaskStep.told := by
  have hnew := isNew_iff discovery.store node written
  rw [announced_handleDiscoveredNode]
  unfold handleDiscoveredNodeSteps isRegistered
  rw [hmirror, hcontacts]
  cases hmet : discovery.store.discoveredRepeaters
      node.publicKeyPrefixHex with
  | some existing =>
      have hold : ¬ (discovery.store.upsertDiscoveredNode node written).2 =
          true := by
        rw [hnew, hmet]
        simp
      rw [if_neg hold]
      simp [TaskStep.told]
  | none =>
      rw [if_pos (hnew.mpr hmet)]
      cases hregistered : view.cachedContacts.any fun c =>
          c.publicKeyPrefixHex = node.publicKeyPrefixHex with
      | false =>
          simp only [LoggedSighting.announcement]
          rfl
      | true =>
          simp only [LoggedSighting.announcement]
          rfl

end Discovery

end MeshController
