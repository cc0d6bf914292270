import MeshController.ContactPruning
import MeshController.DiscoveredNodes

/-!
# The contact list of the snapshot is complete

The list is made of the companion's contacts and of the nodes which were only
overheard, each annotated from the configured repeaters and the stored
telemetry.  Nothing is lost or doubled, whatever the overlap of the two sources
and in whatever order the map of the overheard nodes is walked.
-/

namespace MeshController

open KeyedStore

theorem DiscoveredNode.publicKeyPrefixHex_mergedWith
    (existing node : DiscoveredNode) :
    (existing.mergedWith node).publicKeyPrefixHex =
      node.publicKeyPrefixHex := rfl

/-- The map `discovered_repeaters`: every node is stored under its own
prefix. -/
structure DiscoveredRepeaters where
  nodes : List DiscoveredNode
  one_each : (nodes.map DiscoveredNode.publicKeyPrefixHex).Nodup

namespace DiscoveredRepeaters

def find (discovered : DiscoveredRepeaters) :
    String → Option DiscoveredNode :=
  get DiscoveredNode.publicKeyPrefixHex discovered.nodes

def empty : DiscoveredRepeaters where
  nodes := []
  one_each := List.nodup_nil

/-- A row which was read later takes the place of an earlier one. -/
def insert (discovered : DiscoveredRepeaters) (node : DiscoveredNode) :
    DiscoveredRepeaters where
  nodes := KeyedStore.upsert DiscoveredNode.publicKeyPrefixHex node
    (fun _ => node) discovered.nodes
  one_each := nodup_upsert (fun _ _ => rfl) discovered.one_each

def upsert (discovered : DiscoveredRepeaters) (node : DiscoveredNode) :
    DiscoveredRepeaters where
  nodes := KeyedStore.upsert DiscoveredNode.publicKeyPrefixHex node
    (fun existing => existing.mergedWith node) discovered.nodes
  one_each := nodup_upsert
    (fun existing _ => existing.publicKeyPrefixHex_mergedWith node)
    discovered.one_each

/-- The map after a start and some sightings. -/
def after
    (selected : List RepeaterRow) (heard : List DiscoveredNode) :
    DiscoveredRepeaters :=
  heard.foldl upsert
    (selected.foldl (fun nodes row => nodes.insert row.node) empty)

theorem find_insert (discovered : DiscoveredRepeaters) (node : DiscoveredNode) :
    (discovered.insert node).find =
      Function.update discovered.find node.publicKeyPrefixHex (some node) := by
  funext k
  by_cases hkey : k = node.publicKeyPrefixHex
  · have hself : (discovered.insert node).find node.publicKeyPrefixHex =
        some ((discovered.find node.publicKeyPrefixHex).elim node
          fun _ => node) := get_upsert_self (fun _ _ => rfl) discovered.nodes
    rw [hkey, Function.update_self, hself]
    cases discovered.find node.publicKeyPrefixHex <;> rfl
  · rw [Function.update_of_ne hkey]
    exact get_upsert_of_ne (fun _ _ => rfl) hkey discovered.nodes

theorem find_upsert (discovered : DiscoveredRepeaters) (node : DiscoveredNode) :
    (discovered.upsert node).find =
      Function.update discovered.find node.publicKeyPrefixHex
        (absorb (discovered.find node.publicKeyPrefixHex) node) := by
  funext k
  by_cases hkey : k = node.publicKeyPrefixHex
  · have hself : (discovered.upsert node).find node.publicKeyPrefixHex =
        some ((discovered.find node.publicKeyPrefixHex).elim node
          fun existing => existing.mergedWith node) :=
      get_upsert_self
        (fun existing _ => existing.publicKeyPrefixHex_mergedWith node)
        discovered.nodes
    rw [hkey, Function.update_self, hself]
    cases discovered.find node.publicKeyPrefixHex <;> rfl
  · rw [Function.update_of_ne hkey]
    exact get_upsert_of_ne
      (fun existing _ => existing.publicKeyPrefixHex_mergedWith node) hkey
      discovered.nodes

/-- This map holds what the daemon's mirror of the database holds. -/
theorem find_after
    (db : RepeaterDb) (selected : List RepeaterRow)
    (heard : List DiscoveredNode) (written : DiscoveredNode → Bool) :
    (after selected heard).find =
      (heard.foldl (fun store node =>
        (store.upsertDiscoveredNode node (written node)).1)
          (NodeStore.hydrate db selected)).discoveredRepeaters := by
  have hload : ∀ nodes : DiscoveredRepeaters,
      (selected.foldl (fun nodes row => nodes.insert row.node) nodes).find =
        selected.foldl
          (fun (found : String → Option DiscoveredNode) (row : RepeaterRow) =>
            Function.update found row.publicKeyPrefixHex (some row.node))
          nodes.find := by
    induction selected with
    | nil => intro nodes; rfl
    | cons row rest ih =>
        intro nodes
        rw [List.foldl_cons, List.foldl_cons, ih, find_insert]
        rfl
  induction heard using List.reverseRecOn with
  | nil => exact hload empty
  | append_singleton heard node ih =>
      rw [after, List.foldl_append, List.foldl_append, List.foldl_cons,
        List.foldl_nil, List.foldl_cons, List.foldl_nil,
        NodeStore.discoveredRepeaters_upsert, ← ih]
      exact find_upsert _ node

end DiscoveredRepeaters

/-- The telemetry map after the readings were stored one after another, each
under the prefix it was asked for. -/
def telemetryAfter (stored : List (String × TelemetryDto)) :
    String → Option TelemetryDto :=
  stored.foldl
    (fun telemetry reading =>
      Function.update telemetry reading.1 (some reading.2))
    fun _ => none

def lastStored
    (stored : List (String × TelemetryDto)) (publicKeyPrefixHex : String) :
    Option TelemetryDto :=
  ((stored.filter fun reading =>
    reading.1 = publicKeyPrefixHex).getLast?).map Prod.snd

theorem telemetryAfter_eq_lastStored
    (stored : List (String × TelemetryDto)) (publicKeyPrefixHex : String) :
    telemetryAfter stored publicKeyPrefixHex =
      lastStored stored publicKeyPrefixHex := by
  have hread := read_foldl
    (fun (telemetry : String → Option TelemetryDto) k => telemetry k)
    (fun telemetry (reading : String × TelemetryDto) =>
      Function.update telemetry reading.1 (some reading.2))
    (fun _ reading => some reading.2) Prod.fst
    (fun _ _ => Function.update_self ..)
    (fun _ _ _ hother => Function.update_of_ne hother ..)
    (fun _ => none) stored publicKeyPrefixHex
  unfold telemetryAfter lastStored
  rw [hread]
  generalize stored.filter _ = readings
  induction readings using List.reverseRecOn with
  | nil => rfl
  | append_singleton readings reading ih => simp

/-! ## What an entry of the list shows -/

/-- A contact of the companion, registered. -/
structure ContactDto.ShowsContact (dto : ContactDto) (c : Contact) :
    Prop where
  registered : dto.registered = true
  name : dto.name = c.advName
  publicKeyPrefixHex : dto.publicKeyPrefixHex = c.prefixHex
  lastAdvertUnix : dto.lastAdvertUnix = c.lastAdvert
  position : dto.lat = degrees c.advLat ∧ dto.lon = degrees c.advLon
  contactType : dto.contactType = c.contactType

/-- A node which was only overheard, not registered. -/
structure ContactDto.ShowsNode (dto : ContactDto) (node : DiscoveredNode) :
    Prop where
  registered : dto.registered = false
  name : dto.name = node.name
  publicKeyPrefixHex : dto.publicKeyPrefixHex = node.publicKeyPrefixHex
  lastAdvertUnix : dto.lastAdvertUnix = node.lastSeenUnix.toNat % 2 ^ 32
  position : dto.lat = node.lat ∧ dto.lon = node.lon
  contactType : dto.contactType = node.advType

/-- The annotation is decided by the prefix alone. -/
structure ContactDto.AnnotatedFrom
    (managedRepeaters : List ManagedRepeater)
    (stored : List (String × TelemetryDto)) (dto : ContactDto) : Prop where
  repeaterStatus : dto.repeaterStatus =
    (managedRepeaters.find? fun entry =>
      entry.matches dto.publicKeyPrefixHex).map ManagedRepeater.status
  managed : dto.managed = true ↔
    dto.repeaterStatus = some .managed ∨ dto.repeaterStatus = some .supervised
  lastTelemetry : dto.lastTelemetry = lastStored stored dto.publicKeyPrefixHex

section Snapshot

variable (managedRepeaters : List ManagedRepeater)
  (stored : List (String × TelemetryDto))

theorem annotatedFrom_annotateContact (contact : ContactDto) :
    (annotateContact managedRepeaters (telemetryAfter stored)
      contact).AnnotatedFrom managedRepeaters stored := by
  constructor
  · rfl
  · simp [annotateContact, isAutomatedStatus]
  · exact telemetryAfter_eq_lastStored stored _

theorem annotatedFrom_ofDiscovered (node : DiscoveredNode) :
    (ContactDto.ofDiscovered managedRepeaters (telemetryAfter stored)
      node).AnnotatedFrom managedRepeaters stored := by
  constructor
  · rfl
  · simp [ContactDto.ofDiscovered, isAutomatedStatus]
  · exact telemetryAfter_eq_lastStored stored _

theorem showsContact_annotateContact (c : Contact) :
    (annotateContact managedRepeaters (telemetryAfter stored)
      (.ofContact c)).ShowsContact c := by
  constructor <;>
    simp [annotateContact, ContactDto.ofContact, Contact.prefixHex]

theorem showsNode_ofDiscovered (node : DiscoveredNode) :
    (ContactDto.ofDiscovered managedRepeaters (telemetryAfter stored)
      node).ShowsNode node := by
  constructor <;> simp [ContactDto.ofDiscovered]

/-- The snapshot's list from the companion's contacts and the values of the
map, in the order in which they are walked. -/
def snapshotOf
    (companion : List Contact) (values : List DiscoveredNode) :
    List ContactDto :=
  buildSnapshotContacts managedRepeaters (companion.map ContactDto.ofContact)
    values (telemetryAfter stored)

variable {companion : List Contact} {values : List DiscoveredNode}

theorem mem_snapshotOf_iff {dto : ContactDto} :
    dto ∈ snapshotOf managedRepeaters stored companion values ↔
      (∃ c ∈ companion, dto = annotateContact managedRepeaters
        (telemetryAfter stored) (.ofContact c)) ∨
      ∃ node ∈ values,
        node.publicKeyPrefixHex ∉ companion.map Contact.prefixHex ∧
          dto = .ofDiscovered managedRepeaters (telemetryAfter stored)
            node := by
  have hknown : ((companion.map ContactDto.ofContact).map
      (annotateContact managedRepeaters (telemetryAfter stored))).map
        (fun c => c.publicKeyPrefixHex) =
      companion.map Contact.prefixHex := by
    simp only [List.map_map]
    rfl
  unfold snapshotOf buildSnapshotContacts
  simp only [hknown, List.mem_append, List.mem_map, List.mem_filter,
    decide_eq_true_eq]
  constructor
  · rintro (⟨_, ⟨c, hc, rfl⟩, rfl⟩ | ⟨node, ⟨hnode, hnew⟩, rfl⟩)
    · exact Or.inl ⟨c, hc, rfl⟩
    · exact Or.inr ⟨node, hnode, hnew, rfl⟩
  · rintro (⟨c, hc, rfl⟩ | ⟨node, hnode, hnew, rfl⟩)
    · exact Or.inl ⟨_, ⟨c, hc, rfl⟩, rfl⟩
    · exact Or.inr ⟨node, ⟨hnode, hnew⟩, rfl⟩

theorem nodup_prefixes_snapshotOf
    (hdistinct : (companion.map Contact.prefixHex).Nodup)
    (hvalues : (values.map DiscoveredNode.publicKeyPrefixHex).Nodup) :
    ((snapshotOf managedRepeaters stored companion values).map
      ContactDto.publicKeyPrefixHex).Nodup := by
  unfold snapshotOf buildSnapshotContacts
  simp only [List.map_append, List.map_map]
  rw [List.nodup_append']
  constructor
  · exact hdistinct
  constructor
  · exact hvalues.sublist (List.filter_sublist.map _)
  · intro publicKeyPrefixHex hcompanion hovereard
    rcases List.mem_map.mp hovereard with ⟨node, hnode, rfl⟩
    have hnew := (List.mem_filter.mp hnode).2
    rw [decide_eq_true_eq] at hnew
    exact hnew hcompanion

end Snapshot

/-- Every contact of the companion stands in the list exactly once, and so
does every overheard node whose prefix is not among theirs; nothing else does,
and every entry is annotated from the first configured entry and from the last
reading for its prefix. -/
theorem snapshot_contacts_complete
    (companion : List Contact)
    (hdistinct : (companion.map Contact.prefixHex).Nodup)
    (discovered : DiscoveredRepeaters) {values : List DiscoveredNode}
    (hvalues : values.Perm discovered.nodes)
    (managedRepeaters : List ManagedRepeater)
    (stored : List (String × TelemetryDto)) :
    (∀ c ∈ companion, ∃ dto : ContactDto, dto.ShowsContact c ∧
      (snapshotOf managedRepeaters stored companion values).filter
        (fun other => other.publicKeyPrefixHex = c.prefixHex) = [dto]) ∧
      (∀ node ∈ discovered.nodes,
        node.publicKeyPrefixHex ∉ companion.map Contact.prefixHex →
          ∃ dto : ContactDto, dto.ShowsNode node ∧
            (snapshotOf managedRepeaters stored companion values).filter
              (fun other =>
                other.publicKeyPrefixHex = node.publicKeyPrefixHex) = [dto]) ∧
      ∀ dto ∈ snapshotOf managedRepeaters stored companion values,
        ((∃ c ∈ companion, dto.ShowsContact c) ∨
          ∃ node ∈ discovered.nodes,
            node.publicKeyPrefixHex ∉ companion.map Contact.prefixHex ∧
              dto.ShowsNode node) ∧
          dto.AnnotatedFrom managedRepeaters stored := by
  have hnodup := nodup_prefixes_snapshotOf managedRepeaters stored hdistinct
    ((hvalues.map _).nodup_iff.mpr discovered.one_each)
  constructor
  · intro c hc
    have hshows := showsContact_annotateContact managedRepeaters stored c
    have hmem := (mem_snapshotOf_iff managedRepeaters stored).mpr
      (Or.inl (b := ∃ node ∈ values, node.publicKeyPrefixHex ∉
        companion.map Contact.prefixHex ∧ _) ⟨c, hc, rfl⟩)
    exact ⟨_, hshows, filter_key_of_mem hnodup hmem⟩
  constructor
  · intro node hnode hnew
    have hshows := showsNode_ofDiscovered managedRepeaters stored node
    have hmem := (mem_snapshotOf_iff managedRepeaters stored).mpr
      (Or.inr ⟨node, hvalues.mem_iff.mpr hnode, hnew, rfl⟩)
    exact ⟨_, hshows, filter_key_of_mem hnodup hmem⟩
  · intro dto hmem
    rcases (mem_snapshotOf_iff managedRepeaters stored).mp hmem with
      ⟨c, hc, rfl⟩ | ⟨node, hnode, hnew, rfl⟩
    · exact ⟨Or.inl ⟨c, hc, showsContact_annotateContact _ _ c⟩,
        annotatedFrom_annotateContact _ _ _⟩
    · exact ⟨Or.inr ⟨node, hvalues.mem_iff.mp hnode, hnew,
        showsNode_ofDiscovered _ _ node⟩, annotatedFrom_ofDiscovered _ _ node⟩

/-- A node which was overheard once. -/
def valley : DiscoveredNode where
  name := "valley"
  publicKeyHex := "0a1b2c3d4e5f60718293a4b5c6d7e8f9" ++
    "0a1b2c3d4e5f60718293a4b5c6d7e8f9"
  publicKeyPrefixHex := "0a1b2c3d4e5f"
  isRepeater := true
  advType := 2
  lat := 48
  lon := 2
  lastSeenUnix := 100
  lastSnr := none
  lastRssi := none
  lastHopCount := none
  prefix_of_key := by decide

/-- The hilltop repeater is a contact and was overheard as well, its entry is
in the configuration and a reading of it in the store; the map of what was
overheard is walked backwards. -/
theorem snapshot_contacts_complete_valley :
    ∃ shown, snapshotOf [⟨"hilltop", "abababababab", none, .supervised⟩]
        [("abababababab", ⟨100, []⟩)] [hilltop] [heardHilltop, valley] =
          shown ∧
      (∃ dto : ContactDto, dto.ShowsContact hilltop ∧
        shown.filter (fun other =>
          other.publicKeyPrefixHex = hilltop.prefixHex) = [dto]) ∧
      (∃ dto : ContactDto, dto.ShowsNode valley ∧
        shown.filter (fun other =>
          other.publicKeyPrefixHex = valley.publicKeyPrefixHex) = [dto]) ∧
      ∀ dto ∈ shown, dto.AnnotatedFrom
        [⟨"hilltop", "abababababab", none, .supervised⟩]
        [("abababababab", ⟨100, []⟩)] := by
  have hcomplete := snapshot_contacts_complete [hilltop]
    (List.nodup_singleton _)
    ((DiscoveredRepeaters.empty.upsert valley).upsert heardHilltop)
    (List.Perm.swap valley heardHilltop [])
    [⟨"hilltop", "abababababab", none, .supervised⟩]
    [("abababababab", ⟨100, []⟩)]
  refine ⟨_, rfl, ?_, ?_, ?_⟩
  · exact hcomplete.1 hilltop (List.mem_singleton_self hilltop)
  · exact hcomplete.2.1 valley List.mem_cons_self (by decide)
  · intro dto hmem
    exact (hcomplete.2.2 dto hmem).2

end MeshController
