import MeshController.ManagedRepeaters
import MeshController.PacketLog

/-!
# Contacts

The companion's own contacts, the nodes which were only overheard, and the
contact list of the snapshot which is built from both.
-/

namespace MeshController

open HexEncoding

structure TelemetryReading where
  channel : UInt8
  label : String
  value : ℚ
  unit : String
deriving DecidableEq

structure TelemetryDto where
  fetchedAtUnix : ℤ
  readings : List TelemetryReading
deriving DecidableEq

/-- A contact as the companion stores it; positions are in millionths of a
degree. -/
structure Contact where
  publicKey : Vector UInt8 32
  contactType : UInt8
  advName : String
  lastAdvert : ℕ
  advLat : ℤ
  advLon : ℤ
deriving DecidableEq

structure ContactDto where
  name : String
  publicKeyPrefixHex : String
  lastAdvertUnix : ℕ
  lat : ℚ
  lon : ℚ
  registered : Bool
  managed : Bool
  repeaterStatus : Option RepeaterStatus
  contactType : UInt8
  lastTelemetry : Option TelemetryDto
deriving DecidableEq

def Contact.prefixBytes (c : Contact) : List UInt8 :=
  c.publicKey.toList.take 6

def ContactDto.ofContact (c : Contact) : ContactDto where
  name := c.advName
  publicKeyPrefixHex := hexEncode c.prefixBytes
  lastAdvertUnix := c.lastAdvert
  lat := degrees c.advLat
  lon := degrees c.advLon
  registered := true
  managed := false
  repeaterStatus := none
  contactType := c.contactType
  lastTelemetry := none

/-- A node whose advertisement was overheard.  Its full key is known, and the
prefix which names it is the front of that key. -/
structure DiscoveredNode where
  name : String
  publicKeyHex : String
  publicKeyPrefixHex : String
  isRepeater : Bool
  advType : UInt8
  lat : ℚ
  lon : ℚ
  lastSeenUnix : ℤ
  lastSnr : Option ℚ
  lastRssi : Option ℤ
  lastHopCount : Option UInt8
  prefix_of_key : publicKeyPrefixHex.toList = publicKeyHex.toList.take 12
deriving DecidableEq

def extractDiscoveredNode
    (event : MeshCoreEvent) (nowUnix : ℤ) : Option DiscoveredNode :=
  match event.payload with
  | .logData log =>
      match log.header, log.advertisement with
      | some header, some adv =>
          if header.payloadType ≠ .advert then none
          else
            let publicKeyHex := hexEncode adv.publicKey.toList
            some {
              name := adv.name.getD ""
              publicKeyHex := publicKeyHex
              publicKeyPrefixHex := String.ofList (publicKeyHex.toList.take 12)
              isRepeater := adv.advType = 2
              advType := adv.advType
              lat := (adv.lat.map degrees).getD 0
              lon := (adv.lon.map degrees).getD 0
              lastSeenUnix := nowUnix
              lastSnr := some log.snr
              lastRssi := some log.rssi
              lastHopCount := some header.pathLen
              prefix_of_key := by simp }
      | _, _ => none
  | _ => none

def isRepeaterOrRoom (contactType : UInt8) : Bool :=
  contactType = 2 || contactType = 3

def isAutomatedStatus (status : Option RepeaterStatus) : Bool :=
  status = some .managed || status = some .supervised

/-- What the snapshot adds to a contact of the companion. -/
def annotateContact
    (managedRepeaters : List ManagedRepeater)
    (telemetry : String → Option TelemetryDto)
    (contact : ContactDto) : ContactDto :=
  let status :=
    matchingRepeaterStatus managedRepeaters contact.publicKeyPrefixHex
  { contact with
    repeaterStatus := status
    managed := isAutomatedStatus status
    lastTelemetry := telemetry contact.publicKeyPrefixHex }

def ContactDto.ofDiscovered
    (managedRepeaters : List ManagedRepeater)
    (telemetry : String → Option TelemetryDto)
    (node : DiscoveredNode) : ContactDto :=
  let status := matchingRepeaterStatus managedRepeaters node.publicKeyPrefixHex
  { name := node.name
    publicKeyPrefixHex := node.publicKeyPrefixHex
    lastAdvertUnix := node.lastSeenUnix.toNat % 2 ^ 32
    lat := node.lat
    lon := node.lon
    registered := false
    managed := isAutomatedStatus status
    repeaterStatus := status
    contactType := node.advType
    lastTelemetry := telemetry node.publicKeyPrefixHex }

/-- `fetched` is the contact list the node answered with. -/
def buildSnapshotContacts
    (managedRepeaters : List ManagedRepeater)
    (fetched : List ContactDto)
    (discovered : List DiscoveredNode)
    (telemetry : String → Option TelemetryDto) : List ContactDto :=
  let contacts := fetched.map (annotateContact managedRepeaters telemetry)
  let knownPrefixes := contacts.map fun c => c.publicKeyPrefixHex
  contacts ++
    (discovered.filter fun node =>
      node.publicKeyPrefixHex ∉ knownPrefixes).map
        (ContactDto.ofDiscovered managedRepeaters telemetry)

theorem repeaterStatus_of_mem_buildSnapshotContacts
    {managedRepeaters : List ManagedRepeater}
    {fetched : List ContactDto} {discovered : List DiscoveredNode}
    {telemetry : String → Option TelemetryDto} {contact : ContactDto}
    (hmem : contact ∈ buildSnapshotContacts managedRepeaters fetched
      discovered telemetry) :
    contact.repeaterStatus =
      matchingRepeaterStatus managedRepeaters contact.publicKeyPrefixHex := by
  unfold buildSnapshotContacts at hmem
  rcases List.mem_append.mp hmem with hcompanion | hdiscovered
  · rcases List.mem_map.mp hcompanion with ⟨c, _, hc⟩
    subst contact
    rfl
  · rcases List.mem_map.mp hdiscovered with ⟨node, _, hnode⟩
    subst contact
    rfl

theorem managed_of_mem_buildSnapshotContacts
    {managedRepeaters : List ManagedRepeater}
    {fetched : List ContactDto} {discovered : List DiscoveredNode}
    {telemetry : String → Option TelemetryDto} {contact : ContactDto}
    (hmem : contact ∈ buildSnapshotContacts managedRepeaters fetched
      discovered telemetry) :
    contact.managed = isAutomatedStatus contact.repeaterStatus := by
  unfold buildSnapshotContacts at hmem
  rcases List.mem_append.mp hmem with hcompanion | hdiscovered
  · rcases List.mem_map.mp hcompanion with ⟨c, _, hc⟩
    subst contact
    rfl
  · rcases List.mem_map.mp hdiscovered with ⟨node, _, hnode⟩
    subst contact
    rfl

theorem DiscoveredNode.prefix_matches_key (node : DiscoveredNode) :
    asciiLowercase node.publicKeyPrefixHex <+:
      asciiLowercase node.publicKeyHex := by
  unfold asciiLowercase
  rw [node.prefix_of_key, List.map_take]
  exact List.take_prefix _ _

end MeshController
