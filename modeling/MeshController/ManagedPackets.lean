import MeshController.Contacts
import MeshController.PacketGroups
import MeshController.RawPacket

/-!
# Packets of managed repeaters

The packet page marks a group which was sent by, sent to or relayed by a
managed repeater.  The path of every member is cut into the hashes of its
hops.  The endpoint hashes are read off one member only, although the grouping
key leaves out the payload version, which decides whether a packet has any.
-/

namespace MeshController

open HexEncoding WindowGrouping

def hashMatchesAManagedRepeater
    (hashHex : String) (contacts : List ContactDto) : Bool :=
  contacts.any fun c =>
    c.managed &&
      (asciiLowercase hashHex).isPrefixOf (asciiLowercase c.publicKeyPrefixHex)

/-- `chunks` of a text whose length is a multiple of `size`. -/
def chunks {α : Type*} (size : ℕ) (letters : List α) : List (List α) :=
  (List.range (letters.length / size)).map fun i =>
    (letters.drop (i * size)).take size

/-- The path is ASCII text, as the source expects: its bytes are its
characters. -/
def pathHopHashes (pathHex : String) (hashSize : UInt8) : List String :=
  let chunkLen := hashSize.toNat * 2
  if chunkLen = 0 ∨ ¬chunkLen ∣ pathHex.length then []
  else (chunks chunkLen pathHex.toList).map String.ofList

/-- Whether a packet is from or to a managed repeater. -/
def PacketLogEntry.endpointIsManagedRepeater
    (entry : PacketLogEntry) (contacts : List ContactDto) : Bool :=
  match entry.header with
  | none => false
  | some header =>
      [header.destHashHex, header.srcHashHex].reduceOption.any fun hash =>
        hashMatchesAManagedRepeater hash contacts

/-- The latest member stands for the group. -/
def PacketGroup.endpointIsManagedRepeater
    (group : PacketGroup) (contacts : List ContactDto) : Bool :=
  group.latest.endpointIsManagedRepeater contacts

def PacketGroup.relayedByManagedRepeater
    (group : PacketGroup) (contacts : List ContactDto) : Bool :=
  group.members.any fun member =>
    match member.header with
    | none => false
    | some header =>
        (pathHopHashes header.pathHex header.pathHashSize).any fun hop =>
          hashMatchesAManagedRepeater hop contacts

theorem hashMatchesAManagedRepeater_iff
    (hashHex : String) (contacts : List ContactDto) :
    hashMatchesAManagedRepeater hashHex contacts = true ↔
      ∃ contact ∈ contacts, contact.managed = true ∧
        asciiLowercase hashHex <+:
          asciiLowercase contact.publicKeyPrefixHex := by
  simp [hashMatchesAManagedRepeater]

/-! ### Relays -/

theorem chunks_flatten
    {α : Type*} {size : ℕ} (hsize : 0 < size) {pieces : List (List α)}
    (hpieces : ∀ piece ∈ pieces, piece.length = size) :
    chunks size pieces.flatten = pieces := by
  induction pieces with
  | nil => simp [chunks]
  | cons piece rest ih =>
      obtain ⟨hpiece, hrest⟩ := List.forall_mem_cons.mp hpieces
      have hcount : (piece ++ rest.flatten).length / size =
          rest.flatten.length / size + 1 := by
        rw [List.length_append, hpiece, Nat.add_div_left _ hsize]
      have hlater : ∀ i, (piece ++ rest.flatten).drop ((i + 1) * size) =
          rest.flatten.drop (i * size) := by
        intro i
        rw [Nat.succ_mul, Nat.add_comm, ← hpiece, List.drop_length_add_append]
      rw [List.flatten_cons, chunks, hcount, List.range_succ_eq_map,
        List.map_cons, List.map_map]
      congr 1
      · simp [← hpiece]
      · calc
          _ = chunks size rest.flatten := by
            rw [chunks]
            apply List.map_congr_left
            intro i _
            rw [Function.comp_apply, hlater]
          _ = rest := ih hrest

/-- The path of the header is these hops, one after the other. -/
structure CarriesHops (header : PacketHeaderInfo) (hops : List (List UInt8)) :
    Prop where
  sized : 1 ≤ header.pathHashSize.toNat
  aligned : ∀ hop ∈ hops, hop.length = header.pathHashSize.toNat
  path : header.pathHex = hexEncode hops.flatten

theorem hexDigits_flatten (hops : List (List UInt8)) :
    hexDigits hops.flatten = (hops.map hexDigits).flatten := by
  induction hops with
  | nil => rfl
  | cons hop rest ih => simp [hexDigits_append, ih]

/-- The path is cut exactly where one hop ends and the next begins. -/
theorem pathHopHashes_of_carriesHops
    {header : PacketHeaderInfo} {hops : List (List UInt8)}
    (hcarries : CarriesHops header hops) :
    pathHopHashes header.pathHex header.pathHashSize =
      hops.map hexEncode := by
  have hsize : 0 < header.pathHashSize.toNat * 2 := by
    have hsized := hcarries.sized
    omega
  have hletters : header.pathHex.toList = (hops.map hexDigits).flatten := by
    rw [hcarries.path, toList_hexEncode, hexDigits_flatten]
  have hpieces : ∀ piece ∈ hops.map hexDigits,
      piece.length = header.pathHashSize.toNat * 2 := by
    intro piece hmem
    obtain ⟨hop, hhop, rfl⟩ := List.mem_map.mp hmem
    rw [length_hexDigits, hcarries.aligned hop hhop, Nat.mul_comm]
  have hlength : header.pathHashSize.toNat * 2 ∣ header.pathHex.length := by
    rw [← String.length_toList, hletters, List.length_flatten]
    apply List.dvd_sum
    intro length hmem
    obtain ⟨piece, hpiece, rfl⟩ := List.mem_map.mp hmem
    exact dvd_of_eq (hpieces piece hpiece).symm
  have haligned : ¬(header.pathHashSize.toNat * 2 = 0 ∨
      ¬header.pathHashSize.toNat * 2 ∣ header.pathHex.length) := by
    rintro (hzero | hother)
    · exact hsize.ne' hzero
    · exact hother hlength
  rw [pathHopHashes, if_neg haligned, hletters, chunks_flatten hsize hpieces,
    List.map_map]
  rfl

/-- Every member is looked at hop by hop: a group counts as relayed exactly
when a hop of one of its members is a managed repeater, and no hash is read
across two hops. -/
theorem relayedByManagedRepeater_iff
    {group : PacketGroup} {hops : PacketLogEntry → List (List UInt8)}
    (hpaths : ∀ member ∈ group.members, ∀ header ∈ member.header,
      CarriesHops header (hops member)) :
    (∀ member ∈ group.members, ∀ header ∈ member.header,
      pathHopHashes header.pathHex header.pathHashSize =
        (hops member).map hexEncode) ∧
    ∀ contacts, group.relayedByManagedRepeater contacts = true ↔
      ∃ member ∈ group.members, member.header.isSome ∧
        ∃ hop ∈ hops member, ∃ contact ∈ contacts, contact.managed = true ∧
          asciiLowercase (hexEncode hop) <+:
            asciiLowercase contact.publicKeyPrefixHex := by
  have hsplit : ∀ member ∈ group.members, ∀ header ∈ member.header,
      pathHopHashes header.pathHex header.pathHashSize =
        (hops member).map hexEncode := by
    intro member hmember header hheader
    exact pathHopHashes_of_carriesHops (hpaths member hmember header hheader)
  refine ⟨hsplit, fun contacts => ?_⟩
  rw [PacketGroup.relayedByManagedRepeater, List.any_eq_true]
  apply exists_congr
  intro member
  rw [and_congr_right_iff]
  intro hmember
  cases hheader : member.header with
  | none => simp
  | some header =>
      simp only [hsplit member hmember header hheader, List.any_map,
        List.any_eq_true, Function.comp_apply, hashMatchesAManagedRepeater_iff,
        Option.isSome_some, true_and]

def managedContact (publicKeyPrefixHex : String) : ContactDto where
  name := "hilltop"
  publicKeyPrefixHex := publicKeyPrefixHex
  lastAdvertUnix := 0
  lat := 0
  lon := 0
  registered := true
  managed := true
  repeaterStatus := some .managed
  contactType := 2
  lastTelemetry := none

/-- Heard directly and, ten seconds later, over three hops. -/
def relayedGroup : PacketGroup where
  members :=
    [{ heardPacket 2 20 "TextMsg" "aabb" with
        header := (heardPacket 2 20 "TextMsg" "aabb").header.map fun header =>
          { header with pathHashSize := 2, pathHex := "1122deadbeef" } },
      heardPacket 1 10 "TextMsg" "aabb"]
  nonempty := by simp

/-- The second hop is found in either case of the letters; the last byte of
the first hop and the first byte of the second are no hop. -/
theorem relayedByManagedRepeater_aligned :
    relayedGroup.relayedByManagedRepeater [managedContact "DEADbeefcafe"] =
        true ∧
      ¬relayedGroup.relayedByManagedRepeater [managedContact "22debeefcafe"] =
        true := by
  let hops : PacketLogEntry → List (List UInt8) := fun member =>
    if member.id = 2 then [[0x11, 0x22], [0xde, 0xad], [0xbe, 0xef]] else []
  have hpaths : ∀ member ∈ relayedGroup.members, ∀ header ∈ member.header,
      CarriesHops header (hops member) := by
    intro member hmember header hheader
    simp only [relayedGroup, heardPacket, List.mem_cons, List.not_mem_nil,
      or_false] at hmember
    rcases hmember with rfl | rfl
    · simp only [Option.map_some, Option.mem_def, Option.some.injEq] at hheader
      subst header
      exact ⟨by decide, by decide, by decide⟩
    · simp only [Option.mem_def, Option.some.injEq] at hheader
      subst header
      exact ⟨by decide, by decide, by decide⟩
  have hrelayed := (@relayedByManagedRepeater_iff relayedGroup hops hpaths).2
  rw [hrelayed, hrelayed]
  constructor
  · exact ⟨_, List.mem_cons_self, rfl, [0xde, 0xad], by decide, _,
      List.mem_singleton_self _, rfl, by decide⟩
  · decide

/-! ### Endpoints -/

/-- The endpoint hashes of a decoded packet. -/
def PacketLogEntry.endpointHashes (entry : PacketLogEntry) :
    Option (Option String × Option String) :=
  entry.header.map fun header => (header.destHashHex, header.srcHashHex)

theorem endpointIsManagedRepeater_congr
    {first second : PacketLogEntry}
    (hhashes : first.endpointHashes = second.endpointHashes)
    (contacts : List ContactDto) :
    first.endpointIsManagedRepeater contacts =
      second.endpointIsManagedRepeater contacts := by
  unfold PacketLogEntry.endpointHashes at hhashes
  unfold PacketLogEntry.endpointIsManagedRepeater
  cases hfirst : first.header with
  | none =>
      cases hsecond : second.header with
      | none => rfl
      | some header => simp [hfirst, hsecond] at hhashes
  | some header =>
      cases hsecond : second.header with
      | none => simp [hfirst, hsecond] at hhashes
      | some other =>
          simp only [hfirst, hsecond, Option.map_some, Option.some.injEq,
            Prod.mk.injEq] at hhashes
          simp only [hhashes.1, hhashes.2]

/-- Any member of a group of the list can stand for it. -/
def RepresentativeIndependent (packets : List PacketLogEntry) : Prop :=
  ∀ group ∈ groupPackets packets,
    ∀ first ∈ group.members, ∀ second ∈ group.members,
      first.endpointHashes = second.endpointHashes ∧
        ∀ contacts, first.endpointIsManagedRepeater contacts =
          second.endpointIsManagedRepeater contacts

/-- A payload of this type and length starts with endpoint hashes, if it is of
the first version. -/
def HoldsHashes (payloadType : String) (payloadLen : ℕ) : Prop :=
  payloadType ∈ ["Req", "Response", "TextMsg", "Path"] ∧ 2 ≤ payloadLen ∨
    payloadType = "AnonReq" ∧ 1 ≤ payloadLen

/-- Both payloads are of the first version, or neither is, where the payload
holds endpoint hashes. -/
def VersionsAgree (first second : PacketLogEntry) : Prop :=
  ∀ firstHeader ∈ first.header, ∀ secondHeader ∈ second.header,
    HoldsHashes firstHeader.payloadType first.payloadLen →
      (firstHeader.payloadVersion = 0 ↔ secondHeader.payloadVersion = 0)

theorem debugName_injective {first second : PayloadType}
    (heq : first.debugName = second.debugName) : first = second := by
  revert heq
  cases first <;> cases second <;> decide

theorem extractDestSrcHashes_of_ne_zero
    (payloadType : PayloadType) {version : UInt8} (hversion : version ≠ 0)
    (payload : List UInt8) :
    extractDestSrcHashes payloadType version payload = (none, none) := by
  unfold extractDestSrcHashes
  rw [if_pos hversion]

theorem extractDestSrcHashes_zero_eq_none_iff
    (payloadType : PayloadType) (payload : List UInt8) :
    extractDestSrcHashes payloadType 0 payload = (none, none) ↔
      ¬HoldsHashes payloadType.debugName payload.length := by
  cases payloadType <;>
    simp [extractDestSrcHashes, HoldsHashes, PayloadType.debugName,
      addressHashSize]

/-- Only a payload with endpoint hashes tells the versions apart. -/
theorem extractDestSrcHashes_eq_iff
    (payloadType : PayloadType) (first second : UInt8) (payload : List UInt8) :
    extractDestSrcHashes payloadType first payload =
        extractDestSrcHashes payloadType second payload ↔
      (HoldsHashes payloadType.debugName payload.length →
        (first = 0 ↔ second = 0)) := by
  have hzero := extractDestSrcHashes_zero_eq_none_iff payloadType payload
  by_cases hfirst : first = 0
  · by_cases hsecond : second = 0
    · simp [hfirst, hsecond]
    · rw [extractDestSrcHashes_of_ne_zero payloadType hsecond, hfirst, hzero]
      simp [hsecond]
  · rw [extractDestSrcHashes_of_ne_zero payloadType hfirst]
    by_cases hsecond : second = 0
    · rw [hsecond, eq_comm, hzero]
      simp [hfirst]
    · rw [extractDestSrcHashes_of_ne_zero payloadType hsecond]
      simp [hfirst, hsecond]

section Recorded

variable [MeshcoreRs]

/-- The entry was built from a raw event. -/
def PacketLogEntry.Recorded (entry : PacketLogEntry) : Prop :=
  ∃ event id nowUnix, buildPacketLogEntry event id nowUnix = some entry

theorem PacketLogEntry.Recorded.exists_log
    {entry : PacketLogEntry} (hrecorded : entry.Recorded) :
    ∃ log : LogData,
      entry.header = log.header.map (fun header =>
        packetHeaderInfo header log.payload log.advertisement) ∧
      entry.payloadHex = hexEncode log.payload ∧
      entry.payloadLen = log.payload.length := by
  obtain ⟨event, id, nowUnix, hbuild⟩ := hrecorded
  unfold buildPacketLogEntry at hbuild
  split at hbuild
  next log _ =>
    simp only [Option.some.injEq] at hbuild
    subst entry
    exact ⟨log, rfl, rfl, rfl⟩
  next => contradiction

/-- Two recorded packets with the same payload have the same endpoint hashes
unless their versions disagree. -/
theorem endpointHashes_eq_iff
    {first second : PacketLogEntry}
    (hfirst : first.Recorded) (hsecond : second.Recorded)
    (hsame : SamePayload first second) :
    first.endpointHashes = second.endpointHashes ↔
      VersionsAgree first second := by
  obtain ⟨firstLog, hfirstHeader, hfirstHex, hfirstLen⟩ := hfirst.exists_log
  obtain ⟨secondLog, hsecondHeader, hsecondHex, _⟩ := hsecond.exists_log
  obtain ⟨_, _, hheader, hother, htype, hpayload⟩ :=
    (samePayload_iff hfirstHex hsecondHex).mp hsame
  rw [hfirstHeader, Option.map_eq_some_iff] at hheader
  rw [hsecondHeader, Option.map_eq_some_iff] at hother
  obtain ⟨firstPacket, hfirstPacket, rfl⟩ := hheader
  obtain ⟨secondPacket, hsecondPacket, rfl⟩ := hother
  have htypes : firstPacket.payloadType = secondPacket.payloadType :=
    debugName_injective htype
  have hhashes := extractDestSrcHashes_eq_iff firstPacket.payloadType
    firstPacket.payloadVersion secondPacket.payloadVersion firstLog.payload
  simp only [PacketLogEntry.endpointHashes, VersionsAgree, hfirstHeader,
    hsecondHeader, hfirstPacket, hsecondPacket, hfirstLen, Option.map_some,
    Option.some.injEq, Option.mem_def, packetHeaderInfo, Prod.mk.eta,
    forall_eq', ← hpayload, ← htypes]
  exact hhashes

/-- A group has one answer for all its members exactly when, at every two
receptions it puts together, the payload versions agree on whether there are
endpoint hashes. -/
theorem representativeIndependent_iff
    {packets : List PacketLogEntry}
    (hrecorded : ∀ packet ∈ packets, packet.Recorded) :
    RepresentativeIndependent packets ↔
      ∀ newer older : Fin packets.length, NextReception newer older →
        (packets.get newer).atUnix - (packets.get older).atUnix ≤
            groupWindowSecs →
          VersionsAgree (packets.get newer) (packets.get older) := by
  have huniform := (grouped_groupPositions packets).uniform_iff
    fun position => (packets.get position).endpointHashes
  have hpositions : RepresentativeIndependent packets ↔
      ∀ group ∈ groupPositions packets,
        ∀ first ∈ group.members, ∀ second ∈ group.members,
          (packets.get first).endpointHashes =
            (packets.get second).endpointHashes := by
    rw [RepresentativeIndependent, groupPackets_eq_map, List.forall_mem_map]
    simp only [Cluster.members_map, List.forall_mem_map]
    constructor
    · intro hall group hgroup first hfirst second hsecond
      exact (hall group hgroup first hfirst second hsecond).1
    · intro hall group hgroup first hfirst second hsecond
      have hhashes := hall group hgroup first hfirst second hsecond
      exact ⟨hhashes, endpointIsManagedRepeater_congr hhashes⟩
  rw [hpositions, huniform]
  simp only [linked_iff, and_imp]
  apply forall₂_congr
  intro newer older
  apply forall₂_congr
  intro hnext _
  exact endpointHashes_eq_iff (hrecorded _ (packets.get_mem newer))
    (hrecorded _ (packets.get_mem older)) hnext.same

end Recorded

/-! ### A packet of another version -/

def textMessage (payloadVersion : UInt8) : MeshCoreEvent where
  eventType := .logData
  payload := .logData
    { snr := 0
      rssi := 0
      header := some
        { routeType := .flood
          payloadType := .textMsg
          payloadVersion := payloadVersion
          transportCode := none
          pathLen := 0
          pathHashSize := 1
          path := [] }
      advertisement := none
      payload := [0xde, 0xad, 0x01] }

/-- The log after packets of these versions were heard ten seconds apart, the
last one first. -/
def heardVersions (newest oldest : UInt8) : List PacketLogEntry :=
  [(newest, 2, 20), (oldest, 1, 10)].filterMap fun (version, id, atUnix) =>
    @buildPacketLogEntry wireValues (textMessage version) id atUnix

theorem recorded_heardVersions (newest oldest : UInt8) :
    ∀ packet ∈ heardVersions newest oldest,
      @PacketLogEntry.Recorded wireValues packet := by
  intro packet hmem
  obtain ⟨⟨version, id, atUnix⟩, _, hbuild⟩ := List.mem_filterMap.mp hmem
  exact ⟨textMessage version, id, atUnix, hbuild⟩

/-- The copy of another version has no endpoint hashes, and asking it instead
of the other member hides a managed repeater. -/
theorem representative_hides_endpoint :
    (∀ packet ∈ heardVersions 1 0,
      @PacketLogEntry.Recorded wireValues packet) ∧
    ¬RepresentativeIndependent (heardVersions 1 0) := by
  refine ⟨recorded_heardVersions 1 0, ?_⟩
  intro hall
  have hanswers : ∀ group ∈ groupPackets (heardVersions 1 0),
      ∀ first ∈ group.members, ∀ second ∈ group.members,
        first.endpointIsManagedRepeater [managedContact "deadbeefcafe"] =
          second.endpointIsManagedRepeater [managedContact "deadbeefcafe"] :=
    fun group hgroup first hfirst second hsecond =>
      (hall group hgroup first hfirst second hsecond).2 _
  revert hanswers
  decide

/-- Two copies of the first version. -/
theorem representativeIndependent_same_version :
    RepresentativeIndependent (heardVersions 0 0) := by
  rw [@representativeIndependent_iff wireValues _
    (recorded_heardVersions 0 0)]
  intro newer older _ _ firstHeader hfirst secondHeader hsecond _
  have hversions : ∀ packet ∈ heardVersions 0 0, ∀ header ∈ packet.header,
      header.payloadVersion = 0 := by decide
  have hnewer := hversions _ (List.get_mem _ newer) firstHeader hfirst
  have holder := hversions _ (List.get_mem _ older) secondHeader hsecond
  simp [hnewer, holder]

end MeshController
