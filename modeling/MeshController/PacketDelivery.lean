import MeshController.PacketFeed
import MeshController.RawPacket

/-!
# What a client gets of the packet log

A run of the packet feed has two parts: up to the step which reads the
backlog, and after it.  In the second part every packet is accounted for:
nothing the log held at the read or got later is missing.  Whether a packet
arrives twice depends on what was still under way at the read.
-/

namespace MeshController

open LabelledRun

namespace PacketFeed

section Accounting

variable [MeshcoreRs]

@[simp] theorem phase_receiveRawEvent
    (feed : PacketFeed) (event : MeshCoreEvent) (nowUnix : ℤ) :
    (feed.receiveRawEvent event nowUnix).phase = feed.phase := by
  unfold receiveRawEvent
  split <;> rfl

@[simp] theorem sent_receiveRawEvent
    (feed : PacketFeed) (event : MeshCoreEvent) (nowUnix : ℤ) :
    (feed.receiveRawEvent event nowUnix).sent = feed.sent := by
  unfold receiveRawEvent
  split <;> rfl

@[simp] theorem packetLogRx_receiveRawEvent
    (feed : PacketFeed) (event : MeshCoreEvent) (nowUnix : ℤ) :
    (feed.receiveRawEvent event nowUnix).packetLogRx = feed.packetLogRx := by
  unfold receiveRawEvent
  split <;> rfl

theorem recorded_receiveRawEvent
    (feed : PacketFeed) (event : MeshCoreEvent) (nowUnix : ℤ) :
    feed.recorded <+: (feed.receiveRawEvent event nowUnix).recorded := by
  unfold receiveRawEvent
  split
  next => exact List.prefix_refl _
  next => exact List.prefix_append _ _

/-! ## Up to the read of the backlog -/

structure BeforeRead (feed : PacketFeed) : Prop where
  reading : feed.phase ≠ .forwarding
  quiet : ∀ message ∈ feed.sent, message.carriesPackets = false
  unsubscribed :
    feed.phase = .accepted → feed.packetLogRx = BroadcastReceiver.subscribe _
  pending : ∃ earlier, feed.PendingFrom earlier

omit [MeshcoreRs] in
theorem start_beforeRead (config : Config) :
    (start config).BeforeRead := by
  constructor
  · simp [start]
  · simp [start]
  · intro _
    rfl
  · have hnothing : (start config).PendingFrom [] := by
      intro _
      simp [start, forwardedEntries]
    exact ⟨[], hnothing⟩

omit [MeshcoreRs] in
theorem BeforeRead.afterBroadcast
    {feed : PacketFeed} {entry : PacketLogEntry}
    (hbefore : feed.BeforeRead) (hrecording : feed.recording = some entry) :
    (feed.broadcastPacket entry).BeforeRead := by
  rcases hbefore.pending with ⟨earlier, hpending⟩
  by_cases haccepted : feed.phase = .accepted
  · have hrx := hbefore.unsubscribed haccepted
    have hmissed : (feed.broadcastPacket entry).PendingFrom
        (earlier ++ [entry]) := by
      intro _
      have hrecorded := hpending (by rw [hrx]; rfl)
      have hsilent := forwardedEntries_of_quiet hbefore.quiet
      simp only [broadcastPacket, haccepted, if_true]
      rw [hrecorded, hrecording, hsilent, hrx]
      simp
    constructor
    · exact hbefore.reading
    · exact hbefore.quiet
    · intro _
      simp [broadcastPacket, haccepted, hrx]
    · exact ⟨earlier ++ [entry], hmissed⟩
  · constructor
    · exact hbefore.reading
    · exact hbefore.quiet
    · intro hphase
      exact absurd hphase haccepted
    · exact ⟨earlier, hpending.afterBroadcast haccepted hrecording⟩

omit [MeshcoreRs] in
theorem BeforeRead.afterSaying
    {feed : PacketFeed} (hbefore : feed.BeforeRead)
    {message : ServerMessage} (hquiet : message.carriesPackets = false)
    {phase : FeedPhase} (hreading : phase ≠ .forwarding)
    (hsubscribed : phase ≠ .accepted) :
    (feed.say message phase).BeforeRead := by
  rcases hbefore.pending with ⟨earlier, hpending⟩
  have hsilent : forwardedEntries [message] = [] :=
    forwardedEntries_of_quiet (by simpa using hquiet)
  constructor
  · exact hreading
  · intro other hother
    rcases List.mem_append.mp hother with hold | hnew
    · exact hbefore.quiet other hold
    · simp only [List.mem_singleton] at hnew
      rw [hnew]
      exact hquiet
  · intro haccepted
    exact absurd haccepted hsubscribed
  · exact ⟨earlier, hpending.afterSaying hsilent phase⟩

theorem BeforeRead.afterStep
    {feed next : PacketFeed} {action : FeedAction}
    (hbefore : feed.BeforeRead) (hother : action ≠ .sendPacketLog)
    (hstep : step feed action = some next) : next.BeforeRead := by
  rcases hbefore.pending with ⟨earlier, hpending⟩
  cases moves_of_step hstep with
  | rawEvent event nowUnix hidle =>
      constructor
      · simpa using hbefore.reading
      · simpa using hbefore.quiet
      · simpa using hbefore.unsubscribed
      · exact ⟨earlier, hpending.afterRawEvent hidle event nowUnix⟩
  | broadcastPacket hrecording => exact hbefore.afterBroadcast hrecording
  | subscribe haccepted =>
      rw [← hbefore.unsubscribed haccepted]
      constructor
      · simp
      · exact hbefore.quiet
      · simp
      · exact ⟨earlier, hpending⟩
  | sendHello | sendSnapshot =>
      exact hbefore.afterSaying rfl (by simp) (by simp)
  | sendPacketLog => exact absurd rfl hother
  | forwardPacket hforwarding | sendOther hforwarding =>
      exact absurd hforwarding hbefore.reading

/-! ## After the read of the backlog -/

/-- `atRead` was recorded when the log was read as `backlog`, and `earlier`
had been broadcast before the handler subscribed. -/
structure AfterRead
    (earlier atRead backlog : List PacketLogEntry) (feed : PacketFeed) :
    Prop where
  forwarding : feed.phase = .forwarding
  conversation : ∃ greeting stream,
    feed.sent = greeting ++ .packetLog backlog :: stream ∧
    (∀ message ∈ greeting, message.carriesPackets = false) ∧
    ∀ again, ServerMessage.packetLog again ∉ stream
  earlier_before : feed.packetLogRx.lagged = false → earlier <+: atRead
  recorded : atRead <+: feed.recorded
  pending : feed.PendingFrom earlier

omit [MeshcoreRs] in
theorem BeforeRead.afterReading
    {feed : PacketFeed} (hbefore : feed.BeforeRead)
    {earlier : List PacketLogEntry} (hpending : feed.PendingFrom earlier) :
    (feed.say (.packetLog feed.packetLog) .forwarding).AfterRead
      earlier feed.recorded feed.packetLog := by
  constructor
  · rfl
  · exact ⟨feed.sent, [], rfl, hbefore.quiet, by simp⟩
  · intro hkept
    rw [hpending hkept]
    exact List.prefix_append _ _
  · exact List.prefix_refl _
  · exact hpending.afterSaying rfl _

omit [MeshcoreRs] in
theorem AfterRead.afterStreaming
    {earlier atRead backlog : List PacketLogEntry} {feed : PacketFeed}
    (hafter : feed.AfterRead earlier atRead backlog)
    {rx : BroadcastReceiver PacketLogEntry}
    (hlagged : rx.lagged = feed.packetLogRx.lagged)
    {message : ServerMessage}
    (hother : ∀ again, message ≠ .packetLog again)
    (hpending : ({ feed with packetLogRx := rx }.say message
      .forwarding).PendingFrom earlier) :
    ({ feed with packetLogRx := rx }.say message .forwarding).AfterRead
      earlier atRead backlog := by
  rcases hafter.conversation with ⟨greeting, stream, hsent, hquiet, hstream⟩
  have hsentNow : ({ feed with packetLogRx := rx }.say message
      .forwarding).sent =
        greeting ++ .packetLog backlog :: (stream ++ [message]) := by
    simp [say, hsent]
  have hstreamNow : ∀ again,
      ServerMessage.packetLog again ∉ stream ++ [message] := by
    intro again hmem
    rcases List.mem_append.mp hmem with hold | hnew
    · exact hstream again hold
    · simp only [List.mem_singleton] at hnew
      exact hother again hnew.symm
  constructor
  · rfl
  · exact ⟨greeting, stream ++ [message], hsentNow, hquiet, hstreamNow⟩
  · intro hkept
    exact hafter.earlier_before (hlagged ▸ hkept)
  · exact hafter.recorded
  · exact hpending

theorem AfterRead.afterStep
    {earlier atRead backlog : List PacketLogEntry} {feed next : PacketFeed}
    {action : FeedAction}
    (hafter : feed.AfterRead earlier atRead backlog)
    (hstep : step feed action = some next) :
    next.AfterRead earlier atRead backlog := by
  have hsubscribed : feed.phase ≠ .accepted := by
    rw [hafter.forwarding]
    simp
  have hpending := hafter.pending.afterStep hsubscribed hstep
  have hother : ∀ {phase : FeedPhase}, feed.phase = phase →
      phase = .forwarding := by
    intro phase hphase
    rw [← hphase]
    exact hafter.forwarding
  cases moves_of_step hstep with
  | rawEvent event nowUnix =>
      constructor
      · simpa using hafter.forwarding
      · simpa using hafter.conversation
      · simpa using hafter.earlier_before
      · exact hafter.recorded.trans
          (feed.recorded_receiveRawEvent event nowUnix)
      · exact hpending
  | broadcastPacket =>
      constructor
      · exact hafter.forwarding
      · exact hafter.conversation
      · intro hkept
        simp only [broadcastPacket, hsubscribed, if_false] at hkept
        exact hafter.earlier_before (BroadcastReceiver.lagged_of_deliver hkept)
      · exact hafter.recorded
      · exact hpending
  | forwardPacket _ hreceive =>
      have hsplit := BroadcastReceiver.receive_eq_some_iff.mp hreceive
      exact hafter.afterStreaming hsplit.2 (by simp) hpending
  | sendOther _ hquiet =>
      apply hafter.afterStreaming rfl ?_ hpending
      intro again heq
      rw [heq] at hquiet
      contradiction
  | subscribe hphase | sendHello hphase | sendSnapshot _ hphase
  | sendPacketLog hphase => cases hother hphase

theorem forwarding_of_step
    {feed next : PacketFeed} {action : FeedAction}
    (hforwarding : feed.phase = .forwarding)
    (hstep : step feed action = some next) : next.phase = .forwarding := by
  cases moves_of_step hstep with
  | rawEvent => simpa using hforwarding
  | broadcastPacket => exact hforwarding
  | forwardPacket | sendOther | sendPacketLog => rfl
  | subscribe hphase | sendHello hphase | sendSnapshot _ hphase =>
      rw [hforwarding] at hphase
      cases hphase

def ConnectionInvariant (feed : PacketFeed) : Prop :=
  feed.BeforeRead ∨ feed.phase = .forwarding

theorem ConnectionInvariant.afterStep
    {feed next : PacketFeed} {action : FeedAction}
    (hgood : feed.ConnectionInvariant)
    (hstep : step feed action = some next) : next.ConnectionInvariant := by
  rcases hgood with hbefore | hforwarding
  · by_cases hread : action = .sendPacketLog
    · right
      subst action
      cases moves_of_step hstep
      rfl
    · exact Or.inl (hbefore.afterStep hread hstep)
  · exact Or.inr (forwarding_of_step hforwarding hstep)

theorem beforeRead_of_run
    {config : Config} {actions : List FeedAction} {final : PacketFeed}
    (hrun : run step (start config) actions = some final)
    (hreading : final.phase ≠ .forwarding) : final.BeforeRead := by
  have hstart : (start config).ConnectionInvariant :=
    Or.inl (start_beforeRead config)
  have hfinal := invariant_of_every_step
    (fun _ _ _ hgood hstep => ConnectionInvariant.afterStep hgood hstep)
    hstart hrun
  exact hfinal.resolve_right hreading

theorem afterRead_of_run
    {earlier atRead backlog : List PacketLogEntry} {feed final : PacketFeed}
    {actions : List FeedAction} (hafter : feed.AfterRead earlier atRead backlog)
    (hrun : run step feed actions = some final) :
    final.AfterRead earlier atRead backlog :=
  invariant_of_every_step
    (fun _ _ _ hafter hstep => hafter.afterStep hstep) hafter hrun

/-! ## Draining what is pending -/

theorem exists_drained_run
    (feed : PacketFeed) (hforwarding : feed.phase = .forwarding) :
    ∃ drained,
      run step feed
        (List.replicate feed.packetLogRx.backlog.length .forwardPacket) =
          some drained ∧
      drained.phase = .forwarding ∧ drained.recorded = feed.recorded ∧
      drained.recording = feed.recording ∧
      drained.packetLogRx.backlog = [] ∧
      drained.packetLogRx.lagged = feed.packetLogRx.lagged := by
  generalize hbacklog : feed.packetLogRx.backlog = backlog
  induction backlog generalizing feed with
  | nil => exact ⟨feed, rfl, hforwarding, rfl, rfl, hbacklog, rfl⟩
  | cons entry rest ih =>
      let rx : BroadcastReceiver PacketLogEntry :=
        { feed.packetLogRx with backlog := rest }
      let next := { feed with packetLogRx := rx }.say (.packetLogEntry entry)
        .forwarding
      have hreceive : feed.packetLogRx.receive = some (entry, rx) := by
        simp [BroadcastReceiver.receive, hbacklog, rx]
      have hstep : step feed .forwardPacket = some next := by
        simp [step, hforwarding, hreceive, next]
      obtain ⟨drained, hrun, hrest⟩ := ih next rfl rfl
      refine ⟨drained, ?_, hrest⟩
      rw [List.length_cons, List.replicate_succ, run_cons_some hstep]
      exact hrun

/-- Nothing stops the two tasks from finishing what is under way. -/
theorem exists_settled_run
    (feed : PacketFeed) (hforwarding : feed.phase = .forwarding) :
    ∃ finishing settled,
      run step feed finishing = some settled ∧
      settled.recorded = feed.recorded ∧ settled.recording = none ∧
      settled.packetLogRx.backlog = [] ∧
      settled.packetLogRx.lagged = feed.packetLogRx.lagged := by
  obtain ⟨drained, hdrain, hphase, hrecorded, hrecording, hempty, hlagged⟩ :=
    exists_drained_run feed hforwarding
  cases hnow : drained.recording with
  | none =>
      exact ⟨_, drained, hdrain, hrecorded, hnow, hempty, hlagged⟩
  | some entry =>
      have hstep : step drained .broadcastPacket =
          some (drained.broadcastPacket entry) := by
        simp [step, hnow]
      have hdeliver : (drained.broadcastPacket entry).packetLogRx.lagged =
          drained.packetLogRx.lagged := by
        simp [broadcastPacket, hphase, BroadcastReceiver.deliver, hempty,
          broadcastCapacity]
      obtain ⟨settled, hsettle, -, hlast, hidle, hquiet, hlag⟩ :=
        exists_drained_run (drained.broadcastPacket entry) hphase
      refine ⟨_, settled, run_append_eq_some_iff.mpr ⟨drained, hdrain,
        run_cons_eq_some_iff.mpr ⟨_, hstep, hsettle⟩⟩, ?_, hidle, hquiet, ?_⟩
      · rw [hlast]
        exact hrecorded
      · rw [hlag, hdeliver, hlagged]

/-! ## No gap -/

omit [MeshcoreRs] in
theorem AfterRead.accounted
    {earlier atRead backlog : List PacketLogEntry} {feed : PacketFeed}
    (hafter : feed.AfterRead earlier atRead backlog)
    (hkept : feed.packetLogRx.lagged = false) :
    ∃ overlap later, feed.recorded = atRead ++ later ∧
      forwardedEntries feed.sent ++
        (feed.packetLogRx.backlog ++ feed.recording.toList) =
          overlap ++ later := by
  rcases hafter.earlier_before hkept with ⟨overlap, hoverlap⟩
  rcases hafter.recorded with ⟨later, hlater⟩
  refine ⟨overlap, later, hlater.symm, ?_⟩
  have hrecorded := hafter.pending hkept
  rw [← hlater, ← hoverlap, List.append_assoc] at hrecorded
  exact (List.append_cancel_left hrecorded).symm

/-- Every packet of the log at the read of the backlog is in the backlog
message, and every later one is forwarded, waiting, or about to be broadcast;
the tasks can always finish, and then it has been forwarded.  Packets are
forwarded in the order in which they were recorded. -/
theorem no_packet_is_missed
    {config : Config} {before after : List FeedAction}
    {reading read final : PacketFeed}
    (hbefore : run step (start config) before = some reading)
    (hread : step reading .sendPacketLog = some read)
    (hafter : run step read after = some final)
    (hkept : final.packetLogRx.lagged = false) :
    ServerMessage.packetLog reading.packetLog ∈ final.sent ∧
    forwardedEntries final.sent <:+: final.recorded ∧
    ∃ overlap later,
      final.recorded = reading.recorded ++ later ∧
      forwardedEntries final.sent ++
        (final.packetLogRx.backlog ++ final.recording.toList) =
          overlap ++ later ∧
      ∃ finishing settled,
        run step final finishing = some settled ∧
        settled.recorded = final.recorded ∧
        ∀ entry ∈ later,
          ServerMessage.packetLogEntry entry ∈ settled.sent := by
  simp only [step, Option.ite_none_right_eq_some,
    Option.some.injEq] at hread
  have hunread := beforeRead_of_run hbefore (by simp [hread.1])
  obtain ⟨earlier, hpending⟩ := hunread.pending
  have hstart :
      read.AfterRead earlier reading.recorded reading.packetLog := by
    rw [← hread.2]
    exact hunread.afterReading hpending
  have hfinal := afterRead_of_run hstart hafter
  obtain ⟨overlap, later, hlater, haccounted⟩ := hfinal.accounted hkept
  obtain ⟨finishing, settled, hsettle, hsame, hidle, hquiet, hlagged⟩ :=
    exists_settled_run final hfinal.forwarding
  have hsettled := afterRead_of_run hfinal hsettle
  have hsettledKept : settled.packetLogRx.lagged = false := by
    rw [hlagged]
    exact hkept
  refine ⟨?_, ?_, overlap, later, hlater, haccounted, finishing, settled,
    hsettle, hsame, ?_⟩
  · obtain ⟨greeting, stream, hsent, _⟩ := hfinal.conversation
    rw [hsent]
    exact List.mem_append_right _ List.mem_cons_self
  · have hrecorded := hfinal.pending hkept
    exact ⟨earlier, _, by rw [hrecorded, List.append_assoc]⟩
  · intro entry hentry
    obtain ⟨overlap', later', hlater', haccounted'⟩ :=
      hsettled.accounted hsettledKept
    have hsamelater : later' = later := by
      rw [hsame, hlater] at hlater'
      exact (List.append_cancel_left hlater').symm
    rw [hidle, hquiet, hsamelater] at haccounted'
    apply mem_of_mem_forwardedEntries
    simp only [Option.toList_none, List.append_nil] at haccounted'
    rw [haccounted']
    exact List.mem_append_right _ hentry

end Accounting

def heardPacket (payload : UInt8) : MeshCoreEvent where
  eventType := .logData
  payload := .logData ⟨4, -90, none, none, [payload]⟩

theorem no_packet_is_missed_two_packets :
    ∃ reading read final,
      run (@step wireValues) (start Config.bare)
        [.subscribe, .rawEvent (heardPacket 1) 0, .sendHello,
          .sendSnapshot Snapshot.default] = some reading ∧
      @step wireValues reading .sendPacketLog = some read ∧
      run (@step wireValues) read
        [.broadcastPacket, .rawEvent (heardPacket 2) 0] = some final ∧
      ServerMessage.packetLog reading.packetLog ∈ final.sent := by
  refine ⟨_, _, _, rfl, rfl, rfl, ?_⟩
  exact (@no_packet_is_missed wireValues Config.bare
    [.subscribe, .rawEvent (heardPacket 1) 0, .sendHello,
      .sendSnapshot Snapshot.default]
    [.broadcastPacket, .rawEvent (heardPacket 2) 0] _ _ _
    rfl rfl rfl rfl).1

/-! ## Newest first, and only once -/

/-- No id twice, and the most recent packet at the front. -/
def NewestFirst (packets : List PacketLogEntry) : Prop :=
  packets.Pairwise fun newer older => older.id < newer.id

instance (packets : List PacketLogEntry) : Decidable (NewestFirst packets) :=
  inferInstanceAs (Decidable (packets.Pairwise _))

theorem packets_applyServerMessage_of_quiet
    (app : App) {message : ServerMessage}
    (hquiet : message.carriesPackets = false) :
    (app.applyServerMessage message).1.packets = app.packets := by
  cases message with
  | event event => exact app.packets_pushEvent event
  | packetLog backlog => contradiction
  | packetLogEntry entry => contradiction
  | hello version | snapshot snap | error text
  | telemetryResult key reading => rfl

theorem packets_afterMessages_of_quiet
    (app : App) {messages : List ServerMessage}
    (hquiet : ∀ message ∈ messages, message.carriesPackets = false) :
    (app.afterMessages messages).packets = app.packets := by
  induction messages generalizing app with
  | nil => rfl
  | cons message rest ih =>
      have hfirst := packets_applyServerMessage_of_quiet app
        (hquiet message List.mem_cons_self)
      rw [App.afterMessages_cons, ← hfirst]
      apply ih
      intro other hother
      exact hquiet other (List.mem_cons_of_mem _ hother)

/-- Without a further backlog the client's list grows at the front. -/
theorem packets_afterMessages_of_stream
    (app : App) (base : List PacketLogEntry)
    (hbase : app.packets = base.take maxPackets)
    {messages : List ServerMessage}
    (hstream : ∀ again, ServerMessage.packetLog again ∉ messages) :
    (app.afterMessages messages).packets =
      ((forwardedEntries messages).reverse ++ base).take maxPackets := by
  induction messages generalizing app base with
  | nil => exact hbase
  | cons message rest ih =>
      have hrest : ∀ again, ServerMessage.packetLog again ∉ rest :=
        fun again hmem => hstream again (List.mem_cons_of_mem _ hmem)
      rw [App.afterMessages_cons]
      by_cases hquiet : message.carriesPackets = false
      · have hsame := packets_applyServerMessage_of_quiet app hquiet
        have hsilent : forwardedEntries (message :: rest) =
            forwardedEntries rest := by
          rw [← List.singleton_append, forwardedEntries_append,
            forwardedEntries_of_quiet (by simpa using hquiet),
            List.nil_append]
        rw [hsilent]
        exact ih _ base (hsame.trans hbase) hrest
      · cases message with
        | packetLogEntry entry =>
            have hpush := App.packets_pushPacket_take hbase entry
            refine (ih _ (entry :: base) hpush hrest).trans ?_
            simp [forwardedEntries]
        | packetLog backlog =>
            exact absurd List.mem_cons_self (hstream backlog)
        | hello version | snapshot snap | error text | event event
        | telemetryResult key reading => exact absurd rfl hquiet

theorem newestFirst_of_sublist_reverse
    {packets history : List PacketLogEntry}
    (hids : history.Pairwise fun a b => a.id < b.id)
    (hsublist : packets.Sublist history.reverse) : NewestFirst packets :=
  (List.pairwise_reverse.mpr hids).sublist hsublist

/-- When the backlog is read, no packet is under way to the client. -/
def BacklogReadSettled : PacketFeed → FeedAction → Prop
  | feed, .sendPacketLog =>
      feed.packetLogRx.backlog = [] ∧ feed.recording = none
  | _, _ => True

instance : ∀ feed action, Decidable (BacklogReadSettled feed action)
  | feed, .sendPacketLog =>
      inferInstanceAs (Decidable
        (feed.packetLogRx.backlog = [] ∧ feed.recording = none))
  | _, .rawEvent .. => isTrue trivial
  | _, .broadcastPacket => isTrue trivial
  | _, .subscribe => isTrue trivial
  | _, .sendHello => isTrue trivial
  | _, .sendSnapshot _ => isTrue trivial
  | _, .forwardPacket => isTrue trivial
  | _, .sendOther _ => isTrue trivial

section Settled

variable [MeshcoreRs]

structure SettledInvariant (feed : PacketFeed) : Prop where
  log : feed.LogInvariant
  connection : feed.BeforeRead ∨
    ∃ atRead backlog, feed.AfterRead atRead atRead backlog ∧
      backlog.Sublist atRead.reverse

theorem SettledInvariant.afterStep
    {feed next : PacketFeed} {action : FeedAction}
    (hgood : feed.SettledInvariant)
    (hsettled : BacklogReadSettled feed action)
    (hstep : step feed action = some next) : next.SettledInvariant := by
  have hlog := hgood.log.afterStep hstep
  rcases hgood.connection with hbefore | ⟨atRead, backlog, hafter, hsub⟩
  · by_cases hread : action = .sendPacketLog
    · subst action
      have hempty : feed.packetLogRx.backlog = [] := hsettled.1
      have hidle : feed.recording = none := hsettled.2
      have hsilent := forwardedEntries_of_quiet hbefore.quiet
      have hpending : feed.PendingFrom feed.recorded := by
        intro _
        simp [hempty, hidle, hsilent]
      rcases guarded_eq_some_iff.mp hstep with ⟨_, rfl⟩
      have hafter := hbefore.afterReading hpending
      have hsub : feed.packetLog.Sublist feed.recorded.reverse := by
        rw [hgood.log.logNewest]
        exact List.take_sublist _ _
      exact ⟨hlog, Or.inr ⟨feed.recorded, feed.packetLog, hafter, hsub⟩⟩
    · exact ⟨hlog, Or.inl (hbefore.afterStep hread hstep)⟩
  · exact ⟨hlog, Or.inr ⟨atRead, backlog, hafter.afterStep hstep, hsub⟩⟩

omit [MeshcoreRs] in
theorem AfterRead.streamed_recorded
    {atRead backlog : List PacketLogEntry} {feed : PacketFeed}
    (hafter : feed.AfterRead atRead atRead backlog)
    (hkept : feed.packetLogRx.lagged = false)
    {greeting stream streamed : List ServerMessage}
    (hsent : feed.sent = greeting ++ .packetLog backlog :: stream)
    (hquiet : ∀ message ∈ greeting, message.carriesPackets = false)
    (hstreamed : streamed <+: stream) :
    atRead ++ forwardedEntries streamed <+: feed.recorded := by
  have hforwarded : forwardedEntries feed.sent = forwardedEntries stream := by
    rw [hsent, forwardedEntries_append, forwardedEntries_of_quiet hquiet]
    rfl
  have hbefore : forwardedEntries streamed <+: forwardedEntries stream :=
    hstreamed.filterMap _
  rw [hafter.pending hkept, hforwarded]
  apply (List.prefix_append_right_inj atRead).mpr
  exact hbefore.trans (List.prefix_append _ _)

omit [MeshcoreRs] in
theorem SettledInvariant.newestFirst
    {feed : PacketFeed} (hgood : feed.SettledInvariant)
    (hkept : feed.packetLogRx.lagged = false)
    {app : App} (happ : NewestFirst app.packets)
    {received : List ServerMessage} (hreceived : received <+: feed.sent) :
    NewestFirst (app.afterMessages received).packets := by
  rcases hgood.connection with hbefore | ⟨atRead, backlog, hafter, hsub⟩
  · rw [packets_afterMessages_of_quiet app
      fun message hmem => hbefore.quiet message (hreceived.subset hmem)]
    exact happ
  · rcases hafter.conversation with ⟨greeting, stream, hsent, hquiet, hstream⟩
    rw [hsent] at hreceived
    rcases List.prefix_or_prefix_of_prefix hreceived
      (List.prefix_append greeting _) with hshort | hlong
    · rw [packets_afterMessages_of_quiet app
        fun message hmem => hquiet message (hshort.subset hmem)]
      exact happ
    · rcases hlong with ⟨rest, rfl⟩
      have hgreeted := packets_afterMessages_of_quiet app hquiet
      rw [App.afterMessages_append]
      rw [List.prefix_append_right_inj, List.prefix_cons_iff] at hreceived
      rcases hreceived with hnone | ⟨streamed, hrest, hstreamed⟩
      · rw [hnone, App.afterMessages_nil, hgreeted]
        exact happ
      · have hnoLog : ∀ again, ServerMessage.packetLog again ∉ streamed :=
          fun again hmem => hstream again (hstreamed.subset hmem)
        have hpackets := packets_afterMessages_of_stream
          ((app.afterMessages greeting).setPacketLog backlog) backlog rfl
          hnoLog
        have hrecorded :=
          hafter.streamed_recorded hkept hsent hquiet hstreamed
        rw [hrest, App.afterMessages_cons]
        refine hpackets ▸ newestFirst_of_sublist_reverse
          hgood.log.idsIncrease ?_
        have hall : (forwardedEntries streamed).reverse ++ atRead.reverse <:+
            feed.recorded.reverse := by
          rw [← List.reverse_append]
          exact List.reverse_suffix.mpr hrecorded
        have hshown := List.take_sublist maxPackets
          ((forwardedEntries streamed).reverse ++ backlog)
        exact hshown.trans ((hsub.append_left _).trans hall.sublist)

/-- If nothing was under way to the client when its backlog was read, its
packet list is newest first and names no packet twice, whenever it is looked
at. -/
theorem newestFirst_of_settled_read
    {config : Config} {actions : List FeedAction} {final : PacketFeed}
    (hsettled :
      MeetsAlong step BacklogReadSettled (start config) actions)
    (hrun : run step (start config) actions = some final)
    (hkept : final.packetLogRx.lagged = false)
    {app : App} (happ : NewestFirst app.packets)
    {received : List ServerMessage} (hreceived : received <+: final.sent) :
    NewestFirst (app.afterMessages received).packets := by
  have hstart : (start config).SettledInvariant :=
    ⟨start_logInvariant config, Or.inl (start_beforeRead config)⟩
  have hfinal := invariant_of_run
    (fun _ _ _ hgood hallowed hstep =>
      SettledInvariant.afterStep hgood hallowed hstep)
    hstart hsettled hrun
  exact hfinal.newestFirst hkept happ hreceived

end Settled

theorem newestFirst_of_settled_read_two_packets :
    ∃ final,
      run (@step wireValues) (start Config.bare)
        [.rawEvent (heardPacket 1) 0, .broadcastPacket, .subscribe, .sendHello,
          .sendSnapshot Snapshot.default, .sendPacketLog,
          .rawEvent (heardPacket 2) 0, .broadcastPacket, .forwardPacket] =
        some final ∧
      NewestFirst (App.new.afterMessages final.sent).packets := by
  refine ⟨_, rfl, ?_⟩
  exact @newestFirst_of_settled_read wireValues Config.bare
    [.rawEvent (heardPacket 1) 0, .broadcastPacket, .subscribe, .sendHello,
      .sendSnapshot Snapshot.default, .sendPacketLog,
      .rawEvent (heardPacket 2) 0, .broadcastPacket, .forwardPacket] _
    (by decide) rfl rfl App.new (by decide) _ (List.prefix_refl _)

/-- A packet which is in the log but not yet broadcast when the backlog is
read reaches the client twice. -/
theorem not_newestFirst_of_packet_under_way :
    ¬ ∀ (config : Config) (actions : List FeedAction) (final : PacketFeed),
      run (@step wireValues) (start config) actions = some final →
      final.packetLogRx.lagged = false →
      ∀ app : App, NewestFirst app.packets →
      ∀ received, received <+: final.sent →
        NewestFirst (app.afterMessages received).packets := by
  intro hclaim
  have htwice := hclaim Config.bare
    [.subscribe, .sendHello, .sendSnapshot Snapshot.default,
      .rawEvent (heardPacket 1) 0, .sendPacketLog, .broadcastPacket,
      .forwardPacket]
    _ rfl rfl App.new (by decide) _ (List.prefix_refl _)
  exact absurd htwice (by decide)

end PacketFeed

end MeshController
