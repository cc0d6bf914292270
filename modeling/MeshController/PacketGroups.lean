import MeshController.PacketLog
import MeshController.WindowGrouping

/-!
# Groups of one transmission

A packet is heard once from its sender and once from each repeater which
relays it.  The packet page groups the receptions with the same payload type
and payload which follow each other within `groupWindowSecs`.  The packets are
listed newest first, so a packet is identified by its position in the list.
-/

namespace MeshController

open HexEncoding WindowGrouping WindowGrouping.Criterion

def groupWindowSecs : ℤ := 90

abbrev PacketGroup := Cluster PacketLogEntry

def groupKey (entry : PacketLogEntry) : Option String :=
  entry.header.map fun header =>
    header.payloadType ++ ":" ++ entry.payloadHex

def receptions : Criterion PacketLogEntry String where
  key := groupKey
  stamp := fun entry => entry.atUnix
  window := groupWindowSecs

def groupPackets (packets : List PacketLogEntry) : List PacketGroup :=
  receptions.group packets

/-! ### What the key says -/

/-- Two packets of one grouping key. -/
def SamePayload (first second : PacketLogEntry) : Prop :=
  (groupKey first).isSome ∧ groupKey first = groupKey second

instance (first second : PacketLogEntry) :
    Decidable (SamePayload first second) :=
  inferInstanceAs (Decidable (_ ∧ _))

/-- A separator which is in neither ending separates. -/
theorem append_cons_inj_of_not_mem
    {α : Type*} {first second firstEnd secondEnd : List α} {separator : α}
    (hfirst : separator ∉ firstEnd) (hsecond : separator ∉ secondEnd)
    (heq : first ++ separator :: firstEnd = second ++ separator :: secondEnd) :
    first = second ∧ firstEnd = secondEnd := by
  rcases List.append_eq_append_iff.mp heq with
    ⟨middle, hmiddle, hend⟩ | ⟨middle, hmiddle, hend⟩
  · cases middle with
    | nil => simpa [hmiddle] using hend
    | cons head rest =>
        rw [List.cons_append, List.cons.injEq] at hend
        exact absurd (by simp [hend.2]) hfirst
  · cases middle with
    | nil => simpa [hmiddle, eq_comm] using hend
    | cons head rest =>
        rw [List.cons_append, List.cons.injEq] at hend
        exact absurd (by simp [hend.2]) hsecond

theorem colon_not_mem_hexDigits (bytes : List UInt8) :
    ':' ∉ hexDigits bytes := by
  have hdigit : ∀ i : Fin 16, Nat.digitChar i.val ≠ ':' := by decide
  induction bytes with
  | nil => simp
  | cons byte rest ih =>
      have hbyte := byte.toNat_lt
      have hhigh := hdigit ⟨byte.toNat / 16, by omega⟩
      have hlow := hdigit ⟨byte.toNat % 16, by omega⟩
      simp [byteDigits, ih, hhigh.symm, hlow.symm]

/-- The key is the payload type and the bytes of the payload. -/
theorem samePayload_iff
    {first second : PacketLogEntry} {firstBytes secondBytes : List UInt8}
    (hfirst : first.payloadHex = hexEncode firstBytes)
    (hsecond : second.payloadHex = hexEncode secondBytes) :
    SamePayload first second ↔
      ∃ firstHeader secondHeader, first.header = some firstHeader ∧
        second.header = some secondHeader ∧
        firstHeader.payloadType = secondHeader.payloadType ∧
        firstBytes = secondBytes := by
  constructor
  · rintro ⟨hkeyed, hkey⟩
    cases hheader : first.header with
    | none => simp [groupKey, hheader] at hkeyed
    | some firstHeader =>
        cases hother : second.header with
        | none => simp [groupKey, hheader, hother] at hkey
        | some secondHeader =>
            simp only [groupKey, hheader, hother, hfirst, hsecond,
              Option.map_some, Option.some.injEq] at hkey
            have hletters := congrArg String.toList hkey
            simp only [String.toList_append, toList_hexEncode,
              List.append_assoc] at hletters
            obtain ⟨htype, hbytes⟩ := append_cons_inj_of_not_mem
              (colon_not_mem_hexDigits _) (colon_not_mem_hexDigits _) hletters
            exact ⟨firstHeader, secondHeader, rfl, rfl,
              String.toList_inj.mp htype, hexDigits_injective hbytes⟩
  · rintro ⟨firstHeader, secondHeader, hheader, hother, htype, rfl⟩
    simp [SamePayload, groupKey, hheader, hother, htype, hfirst, hsecond]

/-! ### Positions -/

section Positions

variable (packets : List PacketLogEntry)

def receptionsAt : Criterion (Fin packets.length) String :=
  receptions.comap packets.get

/-- The groups, by the positions of their members. -/
def groupPositions : List (Cluster (Fin packets.length)) :=
  (receptionsAt packets).group (List.finRange packets.length)

theorem groupPackets_eq_map :
    groupPackets packets =
      (groupPositions packets).map (Cluster.map packets.get) := by
  have hpackets := List.map_get_finRange packets
  calc
    groupPackets packets =
        receptions.group ((List.finRange packets.length).map packets.get) := by
      rw [hpackets]
      rfl
    _ = (groupPositions packets).map (Cluster.map packets.get) :=
      receptions.group_map packets.get _

theorem grouped_groupPositions :
    (receptionsAt packets).Grouped (List.finRange packets.length)
      (groupPositions packets) :=
  grouped_group _ (List.pairwise_lt_finRange _)

variable {packets}

/-- Two receptions of a payload, and no other between them. -/
structure NextReception (newer older : Fin packets.length) : Prop where
  newer_lt : newer < older
  same : SamePayload (packets.get newer) (packets.get older)
  between : ∀ other, newer < other → other < older →
    ¬SamePayload (packets.get newer) (packets.get other)

/-- One packet, or two receptions of a payload such that each reception
between them is stamped at most the window after the one before it. -/
def SameTransmission (first second : Fin packets.length) : Prop :=
  first = second ∨
    SamePayload (packets.get first) (packets.get second) ∧
      ∀ newer older : Fin packets.length, NextReception newer older →
        SamePayload (packets.get newer) (packets.get first) →
          min first second ≤ newer → older ≤ max first second →
            (packets.get newer).atUnix - (packets.get older).atUnix ≤
              groupWindowSecs

theorem consecutive_iff (newer older : Fin packets.length) :
    (receptionsAt packets).Consecutive (List.finRange packets.length)
      newer older ↔ NextReception newer older := by
  constructor
  · intro hnext
    refine ⟨hnext.newer_lt, ⟨hnext.keyed, hnext.same_key⟩, ?_⟩
    intro other habove hbelow hsame
    exact hnext.between other (List.mem_finRange other) habove hbelow
      hsame.2.symm
  · intro hnext
    refine ⟨List.mem_finRange _, List.mem_finRange _, hnext.newer_lt,
      hnext.same.1, hnext.same.2, ?_⟩
    intro other _ habove hbelow hsame
    exact hnext.between other habove hbelow ⟨hnext.same.1, hsame.symm⟩

theorem linked_iff (newer older : Fin packets.length) :
    (receptionsAt packets).Linked (List.finRange packets.length)
      newer older ↔
        NextReception newer older ∧
          (packets.get newer).atUnix - (packets.get older).atUnix ≤
            groupWindowSecs := by
  rw [← consecutive_iff]
  exact ⟨fun hlinked => ⟨hlinked.toConsecutive, hlinked.gap⟩,
    fun ⟨hnext, hgap⟩ => ⟨hnext, hgap⟩⟩

theorem connected_iff (first second : Fin packets.length) :
    (receptionsAt packets).Connected (List.finRange packets.length)
      first second ↔ SameTransmission first second := by
  have hkeys : ∀ newer,
      (receptionsAt packets).key newer = groupKey (packets.get newer) :=
    fun _ => rfl
  have hextremes : (groupKey (packets.get first)).isSome →
      groupKey (packets.get first) = groupKey (packets.get second) →
        ((receptionsAt packets).GapsWithin (List.finRange packets.length)
          (min first second) (max first second) ↔
            ∀ newer older : Fin packets.length, NextReception newer older →
              SamePayload (packets.get newer) (packets.get first) →
                min first second ≤ newer → older ≤ max first second →
                  (packets.get newer).atUnix - (packets.get older).atUnix ≤
                    groupWindowSecs) := by
    intro hkeyed hkey
    have hmin : groupKey (packets.get (min first second)) =
        groupKey (packets.get first) := by
      rcases min_choice first second with hmin | hmin
      · rw [hmin]
      · rw [hmin, hkey]
    constructor
    · intro hgaps newer older hnext hsame
      exact hgaps newer older ((consecutive_iff newer older).mpr hnext)
        (hsame.2.trans hmin.symm)
    · intro hgaps newer older hnext hsame
      exact hgaps newer older ((consecutive_iff newer older).mp hnext)
        ⟨hnext.keyed, hsame.trans hmin⟩
  constructor
  · rintro (hsame | ⟨hkeyed, hkey, hgaps⟩)
    · exact Or.inl hsame
    · exact Or.inr ⟨⟨hkeyed, hkey⟩, (hextremes hkeyed hkey).mp hgaps⟩
  · rintro (hsame | ⟨⟨hkeyed, hkey⟩, hgaps⟩)
    · exact Or.inl hsame
    · exact Or.inr ⟨hkeyed, hkey, (hextremes hkeyed hkey).mpr hgaps⟩

/-! ### The partition -/

variable (packets) in
/-- What grouping promises about the positions it puts together: every packet
is in one group, an undecoded one alone, and a group holds the receptions of
one payload with no gap beyond the window, newest first. -/
structure TransmissionPartition
    (groups : List (List (Fin packets.length))) : Prop where
  placed : groups.flatten.Perm (List.finRange packets.length)
  alone : ∀ packet, (packets.get packet).header = none → [packet] ∈ groups
  same : ∀ group ∈ groups, ∀ first ∈ group, ∀ second ∈ group,
    groupKey (packets.get first) = groupKey (packets.get second)
  together : ∀ first second : Fin packets.length,
    SamePayload (packets.get first) (packets.get second) →
      ((∃ group ∈ groups, first ∈ group ∧ second ∈ group) ↔
        ∀ newer older : Fin packets.length, NextReception newer older →
          SamePayload (packets.get newer) (packets.get first) →
            min first second ≤ newer → older ≤ max first second →
              |(packets.get newer).atUnix - (packets.get older).atUnix| ≤
                groupWindowSecs)
  ordered : ∀ group ∈ groups, group.Pairwise (· < ·)

theorem exists_group_iff_sameTransmission (first second : Fin packets.length) :
    (∃ group ∈ groupPositions packets,
        first ∈ group.members ∧ second ∈ group.members) ↔
      SameTransmission first second := by
  rw [← connected_iff]
  exact (grouped_groupPositions packets).exists_group_iff
    (List.nodup_finRange _) (List.mem_finRange _) (List.mem_finRange _)

theorem sameTransmission_groupKey
    {first second : Fin packets.length}
    (hsame : SameTransmission first second) :
    groupKey (packets.get first) = groupKey (packets.get second) := by
  rcases hsame with rfl | ⟨hpayload, _⟩
  · rfl
  · exact hpayload.2

theorem eq_singleton_of_forall_eq
    {α : Type*} {members : List α} (hnodup : members.Nodup) {entry : α}
    (hmem : entry ∈ members) (hall : ∀ other ∈ members, other = entry) :
    members = [entry] := by
  cases members with
  | nil => simp at hmem
  | cons head rest =>
      have hhead := hall head List.mem_cons_self
      cases rest with
      | nil => rw [hhead]
      | cons second others =>
          have hsecond := hall second (by simp)
          simp [hhead, hsecond] at hnodup

theorem transmissionPartition_groupPositions
    (hrecorded : packets.Pairwise fun newer older =>
      older.atUnix ≤ newer.atUnix) :
    TransmissionPartition packets
      ((groupPositions packets).map Cluster.members) := by
  have hgrouped := grouped_groupPositions packets
  have hnodup := List.nodup_finRange packets.length
  have hgroups : ∀ first second : Fin packets.length,
      (∃ group ∈ (groupPositions packets).map Cluster.members,
        first ∈ group ∧ second ∈ group) ↔ SameTransmission first second := by
    intro first second
    rw [← exists_group_iff_sameTransmission]
    simp
  constructor
  · rw [← List.flatMap_def]
    exact hgrouped.placed
  · intro packet hheader
    obtain ⟨group, hgroup, hmem⟩ :=
      hgrouped.exists_group (List.mem_finRange packet)
    have hsingle : group.members = [packet] := by
      refine eq_singleton_of_forall_eq
        (hgrouped.members_sorted hgroup).nodup hmem ?_
      intro other hother
      rcases (exists_group_iff_sameTransmission packet other).mp
        ⟨group, hgroup, hmem, hother⟩ with hsame | ⟨⟨hkeyed, _⟩, _⟩
      · exact hsame.symm
      · simp [groupKey, -List.get_eq_getElem, hheader] at hkeyed
    rw [← hsingle]
    exact List.mem_map_of_mem hgroup
  · intro group hgroup first hfirst second hsecond
    exact sameTransmission_groupKey
      ((hgroups first second).mp ⟨group, hgroup, hfirst, hsecond⟩)
  · intro first second hpayload
    have habs : ∀ newer older : Fin packets.length, newer < older →
        |(packets.get newer).atUnix - (packets.get older).atUnix| =
          (packets.get newer).atUnix - (packets.get older).atUnix := by
      intro newer older hlt
      have hle := List.pairwise_iff_get.mp hrecorded newer older hlt
      exact abs_of_nonneg (by omega)
    rw [hgroups]
    constructor
    · rintro (rfl | ⟨_, hgaps⟩) newer older hnext hsame habove hbelow
      · have hless := hnext.newer_lt.trans_le hbelow
        rw [max_self] at hless
        rw [min_self] at habove
        exact absurd hless (not_lt.mpr habove)
      · rw [habs newer older hnext.newer_lt]
        exact hgaps newer older hnext hsame habove hbelow
    · intro hgaps
      refine Or.inr ⟨hpayload, ?_⟩
      intro newer older hnext hsame habove hbelow
      rw [← habs newer older hnext.newer_lt]
      exact hgaps newer older hnext hsame habove hbelow
  · intro group hgroup
    obtain ⟨cluster, hcluster, rfl⟩ := List.mem_map.mp hgroup
    exact hgrouped.members_sorted hcluster

end Positions

/-- A decoded packet, heard directly at `atUnix`. -/
def heardPacket
    (id : ℕ) (atUnix : ℤ) (payloadType payloadHex : String) :
    PacketLogEntry where
  id := id
  atUnix := atUnix
  snr := 0
  rssi := 0
  header := some
    { routeType := "Flood"
      routeTypeRaw := 1
      payloadType := payloadType
      payloadTypeRaw := 2
      payloadVersion := 0
      hops := 0
      pathHashSize := 1
      pathHex := ""
      transportCodeHex := none
      destHashHex := none
      srcHashHex := none
      channelHashHex := none
      anonReqSenderPublicKeyHex := none
      advertisement := none
      control := none }
  payloadHex := payloadHex
  payloadLen := payloadHex.length / 2

/-- For packets which were recorded in the order of their timestamps, the
groups are the transmissions, whatever other packets lie in between; the key
is the payload type and the bytes of the payload. -/
theorem groupPackets_partition
    {packets : List PacketLogEntry}
    (hrecorded : packets.Pairwise fun newer older =>
      older.atUnix ≤ newer.atUnix) :
    (groupPackets packets).map Cluster.members =
        ((groupPositions packets).map Cluster.members).map
          (List.map packets.get) ∧
      TransmissionPartition packets
        ((groupPositions packets).map Cluster.members) ∧
      ∀ (first second : PacketLogEntry) (firstBytes secondBytes : List UInt8),
        first.payloadHex = hexEncode firstBytes →
          second.payloadHex = hexEncode secondBytes →
            (SamePayload first second ↔
              ∃ firstHeader secondHeader, first.header = some firstHeader ∧
                second.header = some secondHeader ∧
                firstHeader.payloadType = secondHeader.payloadType ∧
                firstBytes = secondBytes) := by
  refine ⟨?_, transmissionPartition_groupPositions hrecorded, ?_⟩
  · rw [groupPackets_eq_map, List.map_map, List.map_map]
    rfl
  · intro first second firstBytes secondBytes hfirst hsecond
    exact samePayload_iff hfirst hsecond

/-- A message and its relayed copy, with an acknowledgement in between. -/
theorem groupPackets_partition_relayed :
    TransmissionPartition
      [heardPacket 3 130 "TextMsg" "aabb", heardPacket 2 120 "Ack" "01",
        heardPacket 1 100 "TextMsg" "aabb"]
      ((groupPositions
        [heardPacket 3 130 "TextMsg" "aabb", heardPacket 2 120 "Ack" "01",
          heardPacket 1 100 "TextMsg" "aabb"]).map Cluster.members) := by
  refine (@groupPackets_partition _ ?_).2.1
  simp [heardPacket]

/-! ### The order of the groups -/

/-- Groups come in the order of their most recent members. -/
def LatestFirst (packets : List PacketLogEntry) : Prop :=
  (groupPositions packets).Pairwise fun first later =>
    first.latest < later.latest

/-- No transmission is heard entirely between two receptions of another one. -/
def NoneEnclosed (packets : List PacketLogEntry) : Prop :=
  ∀ newest inner oldest : Fin packets.length, newest < inner → inner < oldest →
    SameTransmission newest oldest → ¬SameTransmission newest inner →
      ∃ other, SameTransmission inner other ∧ (other < newest ∨ oldest < other)

theorem latestFirst_iff (packets : List PacketLogEntry) :
    groupPackets packets =
        (groupPositions packets).map (Cluster.map packets.get) ∧
      (LatestFirst packets ↔ NoneEnclosed packets) := by
  refine ⟨groupPackets_eq_map packets, ?_⟩
  rw [LatestFirst, (grouped_groupPositions packets).latest_sorted_iff
    (List.nodup_finRange _)]
  simp only [NoneEnclosed, List.mem_finRange, connected_iff, true_and,
    forall_const]

/-- The acknowledgement is listed before the message heard after it. -/
theorem latestFirst_fails_when_enclosed :
    ¬LatestFirst
      [heardPacket 3 130 "TextMsg" "aabb", heardPacket 2 120 "Ack" "01",
        heardPacket 1 100 "TextMsg" "aabb"] := by
  unfold LatestFirst
  decide

/-! ### Clock steps -/

/-- Adjacent members of a group are stamped at most the window apart. -/
def WithinWindow (packets : List PacketLogEntry) : Prop :=
  ∀ group ∈ groupPackets packets, group.members.IsChain fun newer older =>
    |newer.atUnix - older.atUnix| ≤ groupWindowSecs

/-- Adjacent members are within the window in both directions exactly when
no reception is stamped more than the window before the one it follows. -/
theorem withinWindow_iff (packets : List PacketLogEntry) :
    WithinWindow packets ↔
      ∀ newer older : Fin packets.length, NextReception newer older →
        (packets.get older).atUnix - (packets.get newer).atUnix ≤
          groupWindowSecs := by
  have hgaps := (grouped_groupPositions packets).gaps_iff
    (show (0 : ℤ) ≤ groupWindowSecs by decide)
  simp only [consecutive_iff] at hgaps
  rw [WithinWindow, groupPackets_eq_map, List.forall_mem_map]
  simp only [Cluster.members_map, List.isChain_map]
  exact hgaps

/-- The clock is set back by an hour between two copies of a packet. -/
theorem withinWindow_fails_after_clock_step :
    ¬WithinWindow
      [heardPacket 2 100 "TextMsg" "aabb",
        heardPacket 1 3700 "TextMsg" "aabb"] := by
  unfold WithinWindow
  decide

end MeshController
