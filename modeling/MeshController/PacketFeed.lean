import MeshController.BroadcastChannel
import MeshController.LabelledRun
import MeshController.TuiApp

/-!
# From the radio to a client's packet list

The mesh task records packets, in two steps each: into the rotating log, then
on the broadcast channel.  A client's handler subscribes, greets, sends the
backlog, and from then on forwards what it receives.  `PacketFeed` is the
state the two share; a run interleaves their steps in any order.

The handler never misses a packet, because it subscribes before it reads the
backlog.  What it may do is send a packet twice.
-/

namespace MeshController

open LabelledRun

/-- How far the handler of one client has come. -/
inductive FeedPhase where
  | accepted
  | subscribed
  | greeted
  | synced
  | forwarding
deriving DecidableEq

/-- `recording` is the packet which is in the log and not yet broadcast.
`recorded` is the history of the log, oldest first, and `sent` what the
handler has written to its client. -/
structure PacketFeed where
  packetLog : List PacketLogEntry
  packetLogCapacity : ℕ
  nextPacketId : ℕ
  recording : Option PacketLogEntry
  recorded : List PacketLogEntry
  phase : FeedPhase
  packetLogRx : BroadcastReceiver PacketLogEntry
  sent : List ServerMessage
  capacity_pos : 0 < packetLogCapacity
deriving DecidableEq

namespace PacketFeed

def broadcastCapacity : ℕ := 256

def start (config : Config) : PacketFeed where
  packetLog := []
  packetLogCapacity := max config.daemon.packetLogCapacity 1
  nextPacketId := 1
  recording := none
  recorded := []
  phase := .accepted
  packetLogRx := BroadcastReceiver.subscribe _
  sent := []
  capacity_pos := by omega

def evictIfFull (feed : PacketFeed) : List PacketLogEntry :=
  if feed.packetLog.length ≥ feed.packetLogCapacity then
    feed.packetLog.dropLast
  else feed.packetLog

/-- The first half of `record_packet`, under the lock of the log. -/
def pushToLog (feed : PacketFeed) (entry : PacketLogEntry) : PacketFeed :=
  { feed with
    packetLog := entry :: feed.evictIfFull
    recording := some entry
    recorded := feed.recorded ++ [entry] }

/-- The second half of `record_packet`; it only reaches subscribers. -/
def broadcastPacket (feed : PacketFeed) (entry : PacketLogEntry) :
    PacketFeed :=
  { feed with
    recording := none
    packetLogRx :=
      if feed.phase = .accepted then feed.packetLogRx
      else feed.packetLogRx.deliver broadcastCapacity entry }

/-- A raw event takes a packet id whether or not it is a packet. -/
def receiveRawEvent [MeshcoreRs]
    (feed : PacketFeed) (event : MeshCoreEvent) (nowUnix : ℤ) : PacketFeed :=
  let counted := { feed with nextPacketId := feed.nextPacketId + 1 }
  match buildPacketLogEntry event feed.nextPacketId nowUnix with
  | none => counted
  | some entry => counted.pushToLog entry

def say (feed : PacketFeed) (message : ServerMessage) (phase : FeedPhase) :
    PacketFeed :=
  { feed with phase := phase, sent := feed.sent ++ [message] }

end PacketFeed

def ServerMessage.carriesPackets : ServerMessage → Bool
  | .packetLog _ => true
  | .packetLogEntry _ => true
  | _ => false

inductive FeedAction where
  | rawEvent (event : MeshCoreEvent) (nowUnix : ℤ)
  | broadcastPacket
  | subscribe
  | sendHello
  | sendSnapshot (snapshot : Snapshot)
  | sendPacketLog
  | forwardPacket
  | sendOther (message : ServerMessage)

def PacketFeed.step [MeshcoreRs] : Machine PacketFeed FeedAction
  | feed, .rawEvent event nowUnix =>
      if feed.recording = none then some (feed.receiveRawEvent event nowUnix)
      else none
  | feed, .broadcastPacket => feed.recording.map feed.broadcastPacket
  | feed, .subscribe =>
      if feed.phase = .accepted then
        some { feed with
          phase := .subscribed
          packetLogRx := BroadcastReceiver.subscribe _ }
      else none
  | feed, .sendHello =>
      if feed.phase = .subscribed then
        some (feed.say (.hello protocolVersion) .greeted)
      else none
  | feed, .sendSnapshot snapshot =>
      if feed.phase = .greeted then
        some (feed.say (.snapshot snapshot) .synced)
      else none
  | feed, .sendPacketLog =>
      if feed.phase = .synced then
        some (feed.say (.packetLog feed.packetLog) .forwarding)
      else none
  | feed, .forwardPacket =>
      if feed.phase = .forwarding then
        feed.packetLogRx.receive.map fun received =>
          { feed with packetLogRx := received.2 }.say
            (.packetLogEntry received.1) .forwarding
      else none
  | feed, .sendOther message =>
      if feed.phase = .forwarding ∧ message.carriesPackets = false then
        some (feed.say message .forwarding)
      else none

/-- What the mesh task and the handler can do, with what each move needs. -/
inductive PacketFeed.Moves [MeshcoreRs] (feed : PacketFeed) :
    FeedAction → PacketFeed → Prop where
  | rawEvent (event : MeshCoreEvent) (nowUnix : ℤ)
      (hidle : feed.recording = none) :
      Moves feed (.rawEvent event nowUnix) (feed.receiveRawEvent event nowUnix)
  | broadcastPacket {entry : PacketLogEntry}
      (hrecording : feed.recording = some entry) :
      Moves feed .broadcastPacket (feed.broadcastPacket entry)
  | subscribe (haccepted : feed.phase = .accepted) :
      Moves feed .subscribe
        { feed with
          phase := .subscribed
          packetLogRx := BroadcastReceiver.subscribe _ }
  | sendHello (hsubscribed : feed.phase = .subscribed) :
      Moves feed .sendHello (feed.say (.hello protocolVersion) .greeted)
  | sendSnapshot (snapshot : Snapshot) (hgreeted : feed.phase = .greeted) :
      Moves feed (.sendSnapshot snapshot)
        (feed.say (.snapshot snapshot) .synced)
  | sendPacketLog (hsynced : feed.phase = .synced) :
      Moves feed .sendPacketLog
        (feed.say (.packetLog feed.packetLog) .forwarding)
  | forwardPacket {entry : PacketLogEntry}
      {rest : BroadcastReceiver PacketLogEntry}
      (hforwarding : feed.phase = .forwarding)
      (hreceive : feed.packetLogRx.receive = some (entry, rest)) :
      Moves feed .forwardPacket
        ({ feed with packetLogRx := rest }.say (.packetLogEntry entry)
          .forwarding)
  | sendOther {message : ServerMessage}
      (hforwarding : feed.phase = .forwarding)
      (hquiet : message.carriesPackets = false) :
      Moves feed (.sendOther message) (feed.say message .forwarding)

theorem PacketFeed.moves_of_step [MeshcoreRs]
    {feed next : PacketFeed} {action : FeedAction}
    (hstep : PacketFeed.step feed action = some next) :
    feed.Moves action next := by
  cases action with
  | rawEvent event nowUnix =>
      rcases LabelledRun.guarded_eq_some_iff.mp hstep with ⟨hidle, rfl⟩
      exact .rawEvent event nowUnix hidle
  | broadcastPacket =>
      simp only [PacketFeed.step, Option.map_eq_some_iff] at hstep
      rcases hstep with ⟨entry, hrecording, rfl⟩
      exact .broadcastPacket hrecording
  | subscribe =>
      rcases LabelledRun.guarded_eq_some_iff.mp hstep with ⟨haccepted, rfl⟩
      exact .subscribe haccepted
  | sendHello =>
      rcases LabelledRun.guarded_eq_some_iff.mp hstep with ⟨hsubscribed, rfl⟩
      exact .sendHello hsubscribed
  | sendSnapshot snapshot =>
      rcases LabelledRun.guarded_eq_some_iff.mp hstep with ⟨hgreeted, rfl⟩
      exact .sendSnapshot snapshot hgreeted
  | sendPacketLog =>
      rcases LabelledRun.guarded_eq_some_iff.mp hstep with ⟨hsynced, rfl⟩
      exact .sendPacketLog hsynced
  | forwardPacket =>
      simp only [PacketFeed.step, Option.ite_none_right_eq_some,
        Option.map_eq_some_iff] at hstep
      rcases hstep with ⟨hforwarding, received, hreceive, rfl⟩
      exact .forwardPacket hforwarding hreceive
  | sendOther message =>
      rcases LabelledRun.guarded_eq_some_iff.mp hstep with
        ⟨⟨hforwarding, hquiet⟩, rfl⟩
      exact .sendOther hforwarding hquiet

def forwardedEntries (messages : List ServerMessage) : List PacketLogEntry :=
  messages.filterMap fun message =>
    match message with
    | .packetLogEntry entry => some entry
    | _ => none

theorem forwardedEntries_append (first second : List ServerMessage) :
    forwardedEntries (first ++ second) =
      forwardedEntries first ++ forwardedEntries second := by
  simp [forwardedEntries]

theorem forwardedEntries_of_quiet
    {messages : List ServerMessage}
    (hquiet : ∀ message ∈ messages, message.carriesPackets = false) :
    forwardedEntries messages = [] := by
  apply List.filterMap_eq_nil_iff.mpr
  intro message hmem
  have hmessage := hquiet message hmem
  cases message <;> simp_all [ServerMessage.carriesPackets]

theorem mem_of_mem_forwardedEntries
    {messages : List ServerMessage} {entry : PacketLogEntry}
    (hmem : entry ∈ forwardedEntries messages) :
    ServerMessage.packetLogEntry entry ∈ messages := by
  rcases List.mem_filterMap.mp hmem with ⟨message, hmessage, hentry⟩
  cases message <;> simp_all

/-! ## The rotating log -/

/-- The log holds the newest recorded packets, as many as fit. -/
structure PacketFeed.LogInvariant (feed : PacketFeed) : Prop where
  idsIncrease : feed.recorded.Pairwise fun a b => a.id < b.id
  idsUsed : ∀ entry ∈ feed.recorded, entry.id < feed.nextPacketId
  logNewest :
    feed.packetLog = feed.recorded.reverse.take feed.packetLogCapacity

theorem PacketFeed.start_logInvariant (config : Config) :
    (PacketFeed.start config).LogInvariant := by
  constructor <;> simp [PacketFeed.start]

theorem PacketFeed.evictIfFull_eq_take
    {feed : PacketFeed} {history : List PacketLogEntry}
    (hlog : feed.packetLog = history.take feed.packetLogCapacity) :
    feed.evictIfFull = history.take (feed.packetLogCapacity - 1) := by
  have hpos := feed.capacity_pos
  unfold PacketFeed.evictIfFull
  split
  next hfull =>
    have hlong : feed.packetLogCapacity ≤ history.length := by
      rw [hlog, List.length_take] at hfull
      omega
    rw [hlog, List.dropLast_eq_take, List.length_take, List.take_take]
    congr 1
    omega
  next hroom =>
    have hshort : history.length ≤ feed.packetLogCapacity - 1 := by
      rw [hlog, List.length_take] at hroom
      omega
    rw [hlog, List.take_of_length_le (by omega),
      List.take_of_length_le hshort]

theorem PacketFeed.LogInvariant.afterPush
    {feed : PacketFeed} {entry : PacketLogEntry}
    (hgood : feed.LogInvariant) (hid : entry.id = feed.nextPacketId) :
    ({ feed with nextPacketId := feed.nextPacketId + 1 }.pushToLog
      entry).LogInvariant := by
  have hpos := feed.capacity_pos
  have hevict := PacketFeed.evictIfFull_eq_take hgood.logNewest
  constructor
  · apply List.pairwise_append.mpr
    refine ⟨hgood.idsIncrease, List.pairwise_singleton _ _, ?_⟩
    intro older holder newest hnewest
    have hused := hgood.idsUsed older holder
    simp only [List.mem_singleton] at hnewest
    rw [hnewest, hid]
    exact hused
  · intro other hother
    simp only [PacketFeed.pushToLog] at hother ⊢
    rcases List.mem_append.mp hother with hold | hnew
    · have hused := hgood.idsUsed other hold
      omega
    · simp only [List.mem_singleton] at hnew
      rw [hnew, hid]
      omega
  · have htake := List.take_cons (a := entry)
      (l := feed.recorded.reverse) hpos
    simp only [PacketFeed.pushToLog, List.reverse_append,
      List.reverse_singleton, List.singleton_append]
    rw [htake, ← hevict]
    rfl

section Steps

variable [MeshcoreRs]

theorem PacketFeed.LogInvariant.afterRawEvent
    {feed : PacketFeed} (hgood : feed.LogInvariant)
    (event : MeshCoreEvent) (nowUnix : ℤ) :
    (feed.receiveRawEvent event nowUnix).LogInvariant := by
  unfold PacketFeed.receiveRawEvent
  split
  next =>
    refine ⟨hgood.idsIncrease, ?_, hgood.logNewest⟩
    intro entry hentry
    exact Nat.lt_succ_of_lt (hgood.idsUsed entry hentry)
  next entry hbuild =>
    exact hgood.afterPush (id_of_buildPacketLogEntry hbuild)

theorem PacketFeed.LogInvariant.afterStep
    {feed next : PacketFeed} {action : FeedAction}
    (hgood : feed.LogInvariant)
    (hstep : PacketFeed.step feed action = some next) :
    next.LogInvariant := by
  cases PacketFeed.moves_of_step hstep with
  | rawEvent event nowUnix => exact hgood.afterRawEvent event nowUnix
  | broadcastPacket | subscribe | sendHello | sendSnapshot | sendPacketLog
  | forwardPacket | sendOther =>
      exact ⟨hgood.idsIncrease, hgood.idsUsed, hgood.logNewest⟩

/-! ## What a subscriber has yet to see -/

/-- Of the packets recorded after `earlier`, each is forwarded, waiting in the
receiver, or about to be broadcast, in this order. -/
def PacketFeed.PendingFrom
    (feed : PacketFeed) (earlier : List PacketLogEntry) : Prop :=
  feed.packetLogRx.lagged = false →
    feed.recorded = earlier ++ (forwardedEntries feed.sent ++
      (feed.packetLogRx.backlog ++ feed.recording.toList))

theorem PacketFeed.PendingFrom.afterRawEvent
    {feed : PacketFeed} {earlier : List PacketLogEntry}
    (hpending : feed.PendingFrom earlier) (hidle : feed.recording = none)
    (event : MeshCoreEvent) (nowUnix : ℤ) :
    (feed.receiveRawEvent event nowUnix).PendingFrom earlier := by
  unfold PacketFeed.receiveRawEvent
  split
  next => exact hpending
  next entry hbuild =>
    intro hkept
    have hrecorded := hpending hkept
    rw [hidle] at hrecorded
    simp only [PacketFeed.pushToLog]
    rw [hrecorded]
    simp

omit [MeshcoreRs] in
theorem PacketFeed.PendingFrom.afterBroadcast
    {feed : PacketFeed} {earlier : List PacketLogEntry}
    {entry : PacketLogEntry}
    (hpending : feed.PendingFrom earlier)
    (hsubscribed : feed.phase ≠ .accepted)
    (hrecording : feed.recording = some entry) :
    (feed.broadcastPacket entry).PendingFrom earlier := by
  intro hkept
  simp only [PacketFeed.broadcastPacket, hsubscribed, if_false] at hkept ⊢
  have hrecorded := hpending (BroadcastReceiver.lagged_of_deliver hkept)
  rw [hrecorded, hrecording, BroadcastReceiver.backlog_of_deliver hkept]
  simp

omit [MeshcoreRs] in
theorem PacketFeed.PendingFrom.afterForward
    {feed : PacketFeed} {earlier : List PacketLogEntry}
    {entry : PacketLogEntry} {rx : BroadcastReceiver PacketLogEntry}
    (hpending : feed.PendingFrom earlier)
    (hreceive : feed.packetLogRx.receive = some (entry, rx)) :
    ({ feed with packetLogRx := rx }.say (.packetLogEntry entry)
      .forwarding).PendingFrom earlier := by
  intro hkept
  have hsplit := BroadcastReceiver.receive_eq_some_iff.mp hreceive
  have hrecorded := hpending (hsplit.2 ▸ hkept)
  simp only [PacketFeed.say, forwardedEntries_append]
  rw [hrecorded, hsplit.1]
  simp [forwardedEntries]

omit [MeshcoreRs] in
theorem PacketFeed.PendingFrom.afterSaying
    {feed : PacketFeed} {earlier : List PacketLogEntry}
    (hpending : feed.PendingFrom earlier)
    {message : ServerMessage} (hsilent : forwardedEntries [message] = [])
    (phase : FeedPhase) :
    (feed.say message phase).PendingFrom earlier := by
  intro hkept
  have hrecorded := hpending hkept
  simp only [PacketFeed.say, forwardedEntries_append, hsilent,
    List.append_nil]
  exact hrecorded

theorem PacketFeed.PendingFrom.afterStep
    {feed next : PacketFeed} {action : FeedAction}
    {earlier : List PacketLogEntry}
    (hpending : feed.PendingFrom earlier)
    (hsubscribed : feed.phase ≠ .accepted)
    (hstep : PacketFeed.step feed action = some next) :
    next.PendingFrom earlier := by
  cases PacketFeed.moves_of_step hstep with
  | rawEvent event nowUnix hidle =>
      exact hpending.afterRawEvent hidle event nowUnix
  | broadcastPacket hrecording =>
      exact hpending.afterBroadcast hsubscribed hrecording
  | subscribe haccepted => exact absurd haccepted hsubscribed
  | sendHello | sendSnapshot | sendPacketLog =>
      exact hpending.afterSaying rfl _
  | forwardPacket _ hreceive => exact hpending.afterForward hreceive
  | @sendOther message _ hquiet =>
      have hsilent : forwardedEntries [message] = [] :=
        forwardedEntries_of_quiet (by simpa using hquiet)
      exact hpending.afterSaying hsilent .forwarding

end Steps

end MeshController
