import MeshController.BroadcastChannel
import MeshController.BrokerWorker

/-!
# The published connection status

The mesh task writes the connection flag of the snapshot and broadcasts every
transition; a broker worker keeps a copy of the flag, taken from the broadcasts
and, at each new broker connection, from the snapshot.  On the way up the
snapshot is written first, on the way down it is written last, and this is
where a worker can pick up a value which nobody corrects.
-/

namespace MeshController

open LabelledRun

/-- `opening` has written the snapshot and not yet announced it, `closing` has
announced the disconnect and not yet written it. -/
inductive MeshPhase where
  | down
  | opening
  | up
  | closing
deriving DecidableEq

inductive WorkerPhase where
  | unsubscribed
  | subscribed
  | idle
  | reading
  | publishing
deriving DecidableEq

structure StatusBoard where
  config : MqttBrokerConfig
  meshPhase : MeshPhase
  meshConnected : Bool
  selfInfo : Option SelfInfoDto
  meshEvents : BroadcastReceiver MeshEventKind
  workerPhase : WorkerPhase
  flags : BrokerFlags
  lastPublished : Option Bool
deriving DecidableEq

inductive StatusAction where
  | connect (selfInfo : Option SelfInfoDto)
  | connectFails
  | announceConnected
  | streamConnected
  | tick (selfInfo : Option SelfInfoDto)
  | broadcastOther (kind : MeshEventKind)
  | announceDisconnected
  | clearSnapshot
  | subscribe
  | readInitial
  | connAck
  | readSnapshot
  | meshEvent
  | pollError
  | heartbeat
  | publish (deviceInfo : Option DeviceInfoDto)
      (nodeStats : Option NodeStatsDto) (now : ℤ)
deriving DecidableEq

def meshFlag : MeshEventKind → Option Bool
  | .connected => some true
  | .disconnected => some false
  | _ => none

namespace StatusBoard

def broadcastCapacity : ℕ := 256

def start (config : MqttBrokerConfig) : StatusBoard where
  config := config
  meshPhase := .down
  meshConnected := false
  selfInfo := none
  meshEvents := BroadcastReceiver.subscribe _
  workerPhase := .unsubscribed
  flags := { mqttConnected := false, meshConnected := false }
  lastPublished := none

def broadcast (board : StatusBoard) (kind : MeshEventKind) : StatusBoard :=
  { board with
    meshEvents :=
      if board.workerPhase = .unsubscribed then board.meshEvents
      else board.meshEvents.deliver broadcastCapacity kind }

def setFlag (board : StatusBoard) (flag : Bool) : StatusBoard :=
  { board with
    workerPhase := .publishing
    flags := { board.flags with meshConnected := flag } }

/-- One received event: a transition is copied and published, anything else
is dropped. -/
def handleMeshEvent (board : StatusBoard) (kind : MeshEventKind) :
    StatusBoard :=
  match meshFlag kind with
  | some flag => board.setFlag flag
  | none => board

/-- The view `publish_current_status` reads when it runs. -/
def view (board : StatusBoard) (deviceInfo : Option DeviceInfoDto)
    (nodeStats : Option NodeStatsDto) (now : ℤ) : WorkerView where
  selfInfo := board.selfInfo
  meshConnected := board.meshConnected
  deviceInfo := deviceInfo
  nodeStats := nodeStats
  now := now

def finishPublish (board : StatusBoard) (deviceInfo : Option DeviceInfoDto)
    (nodeStats : Option NodeStatsDto) (now : ℤ) : StatusBoard :=
  { board with
    workerPhase := .idle
    lastPublished :=
      if publishCurrentStatus board.config
          (board.view deviceInfo nodeStats now) board.flags.meshConnected = []
      then board.lastPublished
      else some board.flags.meshConnected }

def step (board : StatusBoard) : StatusAction → Option StatusBoard
  | .connect selfInfo =>
      if board.meshPhase = .down then
        some { board with
          meshPhase := .opening, meshConnected := true, selfInfo := selfInfo }
      else none
  | .connectFails =>
      if board.meshPhase = .down then
        some { board with meshConnected := false }
      else none
  | .announceConnected =>
      if board.meshPhase = .opening then
        some ({ board with meshPhase := .up }.broadcast .connected)
      else none
  | .streamConnected =>
      if board.meshPhase = .up then some (board.broadcast .connected) else none
  | .tick selfInfo =>
      if board.meshPhase = .up then some { board with selfInfo := selfInfo }
      else none
  | .broadcastOther kind =>
      if meshFlag kind = none then some (board.broadcast kind) else none
  | .announceDisconnected =>
      if board.meshPhase = .up then
        some ({ board with meshPhase := .closing }.broadcast .disconnected)
      else none
  | .clearSnapshot =>
      if board.meshPhase = .closing then
        some { board with meshPhase := .down, meshConnected := false }
      else none
  | .subscribe =>
      if board.workerPhase = .unsubscribed then
        some { board with
          workerPhase := .subscribed
          meshEvents := BroadcastReceiver.subscribe _ }
      else none
  | .readInitial =>
      if board.workerPhase = .subscribed then
        some { board with
          workerPhase := .idle
          flags := {
            mqttConnected := false, meshConnected := board.meshConnected } }
      else none
  | .connAck =>
      if board.workerPhase = .idle then
        some { board with
          workerPhase := .reading
          flags := { board.flags with mqttConnected := true } }
      else none
  | .readSnapshot =>
      if board.workerPhase = .reading then
        some (board.setFlag board.meshConnected)
      else none
  | .meshEvent =>
      if board.workerPhase = .idle then
        board.meshEvents.receive.map fun received =>
          { board with meshEvents := received.2 }.handleMeshEvent received.1
      else none
  | .pollError =>
      if board.workerPhase = .idle then
        some { board with flags := { board.flags with mqttConnected := false } }
      else none
  | .heartbeat =>
      if board.workerPhase = .idle ∧ board.flags.mqttConnected = true then
        some { board with workerPhase := .publishing }
      else none
  | .publish deviceInfo nodeStats now =>
      if board.workerPhase = .publishing then
        some (board.finishPublish deviceInfo nodeStats now)
      else none

/-! ## The flag the worker will end up with -/

/-- The flag the mesh task has announced, or is about to announce. -/
def announcedFlag (board : StatusBoard) : Option Bool :=
  match board.meshPhase with
  | .down => some false
  | .opening => none
  | .up => some true
  | .closing => some false

def transitions (events : List MeshEventKind) : List Bool :=
  events.filterMap meshFlag

/-- The worker goes by its own copy of the flag: it has a connection, and has
read the snapshot since it got it. -/
def usesFlag (board : StatusBoard) : Prop :=
  board.flags.mqttConnected = true ∧
    (board.workerPhase = .idle ∨ board.workerPhase = .publishing)

/-- The last transition under way to the worker is the announced one; if none
is under way, its copy is. -/
def WillAgree (board : StatusBoard) : Prop :=
  ∀ flag, board.announcedFlag = some flag →
    (transitions board.meshEvents.backlog).getLast? = some flag ∨
      (transitions board.meshEvents.backlog = [] ∧
        (board.usesFlag → board.flags.meshConnected = flag))

structure Agreement (board : StatusBoard) : Prop where
  snapshot : board.meshConnected = true ↔ board.meshPhase ≠ .down
  copy : board.meshEvents.lagged = false → board.WillAgree
  published : board.workerPhase = .idle →
    ∀ flag, board.lastPublished = some flag → flag = board.flags.meshConnected
  fresh : board.workerPhase = .unsubscribed ∨ board.workerPhase = .subscribed →
    board.lastPublished = none ∧ board.flags.mqttConnected = false
  unsubscribed : board.workerPhase = .unsubscribed →
    board.meshEvents = BroadcastReceiver.subscribe _
  muted : board.config.enableHighLevelMessages = false →
    board.lastPublished = none

theorem start_agreement (config : MqttBrokerConfig) :
    (start config).Agreement := by
  constructor
  · simp [start]
  · intro _ flag _
    right
    simp [start, transitions, usesFlag]
  · simp [start]
  · simp [start]
  · intro _
    exact rfl
  · intro _
    exact rfl

/-- What a run must not do: read the snapshot for a new broker connection
while the mesh task is between announcing a disconnect and writing it, with
the announcement already handled; or skip a publish for want of the node's
identity when the other flag was published before. -/
def KeepsInStep (board : StatusBoard) : StatusAction → Prop
  | .readSnapshot =>
      board.meshPhase = .closing →
        .disconnected ∈ board.meshEvents.backlog
  | .publish .. =>
      board.selfInfo = none →
        board.lastPublished = none ∨
          board.lastPublished = some board.flags.meshConnected
  | _ => True

instance (board : StatusBoard) :
    ∀ action, Decidable (board.KeepsInStep action)
  | .readSnapshot => inferInstanceAs (Decidable (_ → _))
  | .publish .. => inferInstanceAs (Decidable (_ → _))
  | .connect _ => isTrue trivial
  | .connectFails => isTrue trivial
  | .announceConnected => isTrue trivial
  | .streamConnected => isTrue trivial
  | .tick _ => isTrue trivial
  | .broadcastOther _ => isTrue trivial
  | .announceDisconnected => isTrue trivial
  | .clearSnapshot => isTrue trivial
  | .subscribe => isTrue trivial
  | .readInitial => isTrue trivial
  | .connAck => isTrue trivial
  | .meshEvent => isTrue trivial
  | .pollError => isTrue trivial
  | .heartbeat => isTrue trivial

/-! ## Steps of the mesh task -/

theorem transitions_concat (events : List MeshEventKind)
    (kind : MeshEventKind) :
    transitions (events ++ [kind]) =
      transitions events ++ (meshFlag kind).toList := by
  cases hflag : meshFlag kind <;> simp [transitions, hflag]

theorem WillAgree.of_unsubscribed
    {board : StatusBoard} (hworker : board.workerPhase = .unsubscribed)
    (hevents : board.meshEvents = BroadcastReceiver.subscribe _) :
    board.WillAgree := by
  intro flag _
  right
  refine ⟨by simp [hevents, transitions], ?_⟩
  intro huses
  rcases huses.2 with hidle | hpublishing
  · rw [hworker] at hidle
    contradiction
  · rw [hworker] at hpublishing
    contradiction

theorem lagged_of_broadcast
    {board : StatusBoard} {kind : MeshEventKind}
    (hkept : (board.broadcast kind).meshEvents.lagged = false) :
    board.meshEvents.lagged = false := by
  unfold broadcast at hkept
  by_cases hworker : board.workerPhase = .unsubscribed
  · simpa [hworker] using hkept
  · simp only [hworker, if_false] at hkept
    exact BroadcastReceiver.lagged_of_deliver hkept

theorem transitions_broadcast
    {board : StatusBoard} {kind : MeshEventKind}
    (hworker : board.workerPhase ≠ .unsubscribed)
    (hkept : (board.broadcast kind).meshEvents.lagged = false) :
    transitions (board.broadcast kind).meshEvents.backlog =
      transitions board.meshEvents.backlog ++ (meshFlag kind).toList := by
  simp only [broadcast, hworker, if_false] at hkept ⊢
  rw [BroadcastReceiver.backlog_of_deliver hkept, transitions_concat]

theorem willAgree_of_announcement
    {board : StatusBoard} {kind : MeshEventKind} {flag : Bool}
    (hkind : meshFlag kind = some flag)
    (hannounced : board.announcedFlag = some flag)
    (hevents : board.workerPhase = .unsubscribed →
      board.meshEvents = BroadcastReceiver.subscribe _)
    (hkept : (board.broadcast kind).meshEvents.lagged = false) :
    (board.broadcast kind).WillAgree := by
  by_cases hworker : board.workerPhase = .unsubscribed
  · have hnext : (board.broadcast kind).workerPhase = .unsubscribed := hworker
    apply WillAgree.of_unsubscribed hnext
    simpa [broadcast, hworker] using hevents hworker
  · intro other hother
    left
    rw [transitions_broadcast hworker hkept, hkind]
    have hsame : other = flag := by
      have hboth : some other = some flag := hother.symm.trans hannounced
      simpa using hboth
    rw [hsame]
    simp

theorem willAgree_of_other_broadcast
    {board : StatusBoard} {kind : MeshEventKind}
    (hkind : meshFlag kind = none)
    (hevents : board.workerPhase = .unsubscribed →
      board.meshEvents = BroadcastReceiver.subscribe _)
    (hagree : board.WillAgree)
    (hkept : (board.broadcast kind).meshEvents.lagged = false) :
    (board.broadcast kind).WillAgree := by
  by_cases hworker : board.workerPhase = .unsubscribed
  · have hnext : (board.broadcast kind).workerPhase = .unsubscribed := hworker
    apply WillAgree.of_unsubscribed hnext
    simpa [broadcast, hworker] using hevents hworker
  · intro flag hflag
    have hbefore := hagree flag hflag
    rw [transitions_broadcast hworker hkept, hkind, Option.toList_none,
      List.append_nil]
    exact hbefore

/-- What a broadcast does to the rest of the invariant: nothing. -/
theorem Agreement.afterBroadcast
    {board : StatusBoard} (hgood : board.Agreement) {kind : MeshEventKind}
    (phase : MeshPhase)
    (hphase : board.meshPhase ≠ .down ↔ phase ≠ .down)
    (hcopy : ({ board with meshPhase := phase }.broadcast
      kind).meshEvents.lagged = false →
        ({ board with meshPhase := phase }.broadcast kind).WillAgree) :
    ({ board with meshPhase := phase }.broadcast kind).Agreement := by
  constructor
  · exact hgood.snapshot.trans hphase
  · exact hcopy
  · exact hgood.published
  · exact hgood.fresh
  · intro hworker
    have hevents := hgood.unsubscribed hworker
    have hsame : board.workerPhase = .unsubscribed := hworker
    simpa [broadcast, hsame] using hevents
  · exact hgood.muted

/-- A step which leaves the receiver alone, announces nothing new and does not
make the worker rely on another flag. -/
theorem WillAgree.of_no_news
    {board next : StatusBoard} (hagree : board.WillAgree)
    (hannounced : ∀ flag, next.announcedFlag = some flag →
      board.announcedFlag = some flag)
    (hevents : next.meshEvents = board.meshEvents)
    (huses : next.usesFlag → board.usesFlag ∧
      next.flags.meshConnected = board.flags.meshConnected) :
    next.WillAgree := by
  intro flag hflag
  rw [hevents]
  rcases hagree flag (hannounced flag hflag) with hlast | ⟨hnone, hcopy⟩
  · exact Or.inl hlast
  · right
    refine ⟨hnone, ?_⟩
    intro hnext
    obtain ⟨hnow, hsame⟩ := huses hnext
    rw [hsame]
    exact hcopy hnow

theorem Agreement.afterConnect
    {board : StatusBoard} (hgood : board.Agreement)
    (selfInfo : Option SelfInfoDto) :
    { board with
      meshPhase := .opening, meshConnected := true,
      selfInfo := selfInfo }.Agreement := by
  constructor
  · simp
  · intro _ flag hflag
    simp [announcedFlag] at hflag
  · exact hgood.published
  · exact hgood.fresh
  · exact hgood.unsubscribed
  · exact hgood.muted

theorem Agreement.afterClear
    {board : StatusBoard} (hgood : board.Agreement)
    (hclosing : board.meshPhase = .closing) :
    { board with meshPhase := .down, meshConnected := false }.Agreement := by
  constructor
  · simp
  · intro hkept
    refine WillAgree.of_no_news (hgood.copy hkept) ?_ rfl ?_
    · intro flag hflag
      simpa [announcedFlag, hclosing] using hflag
    · intro huses
      exact ⟨huses, rfl⟩
  · exact hgood.published
  · exact hgood.fresh
  · exact hgood.unsubscribed
  · exact hgood.muted

/-! ## Steps of the worker -/

theorem Agreement.afterReadSnapshot
    {board : StatusBoard} (hgood : board.Agreement)
    (hstepIn : board.meshPhase = .closing →
      .disconnected ∈ board.meshEvents.backlog) :
    (board.setFlag board.meshConnected).Agreement := by
  constructor
  · exact hgood.snapshot
  · intro hkept flag hflag
    rcases hgood.copy hkept flag hflag with hlast | ⟨hnone, _⟩
    · exact Or.inl hlast
    · right
      refine ⟨hnone, ?_⟩
      intro _
      have hsnapshot := hgood.snapshot
      cases hphase : board.meshPhase with
      | down =>
          simp_all [setFlag, announcedFlag]
      | opening => simp_all [setFlag, announcedFlag]
      | up => simp_all [setFlag, announcedFlag]
      | closing =>
          have hmem := hstepIn hphase
          have hfalse : false ∈ transitions board.meshEvents.backlog :=
            List.mem_filterMap.mpr ⟨_, hmem, rfl⟩
          rw [hnone] at hfalse
          simp at hfalse
  · simp [setFlag]
  · simp [setFlag]
  · simp [setFlag]
  · exact hgood.muted

theorem Agreement.afterMeshEvent
    {board : StatusBoard} (hgood : board.Agreement)
    (hidle : board.workerPhase = .idle)
    {kind : MeshEventKind} {rx : BroadcastReceiver MeshEventKind}
    (hreceive : board.meshEvents.receive = some (kind, rx)) :
    ({ board with meshEvents := rx }.handleMeshEvent kind).Agreement := by
  obtain ⟨hbacklog, hlagged⟩ :=
    BroadcastReceiver.receive_eq_some_iff.mp hreceive
  have hold : rx.lagged = false → ∀ flag, board.announcedFlag = some flag →
      (transitions (kind :: rx.backlog)).getLast? = some flag ∨
        (transitions (kind :: rx.backlog) = [] ∧
          (board.usesFlag → board.flags.meshConnected = flag)) := by
    intro hkept flag hflag
    rw [← hbacklog]
    exact hgood.copy (hlagged ▸ hkept) flag hflag
  unfold handleMeshEvent
  cases hkind : meshFlag kind with
  | none =>
      have hsame : transitions (kind :: rx.backlog) =
          transitions rx.backlog := by
        simp [transitions, hkind]
      rw [hsame] at hold
      constructor
      · exact hgood.snapshot
      · intro hkept flag hflag
        exact hold hkept flag hflag
      · exact hgood.published
      · exact hgood.fresh
      · intro hworker
        have hnot : board.workerPhase = .unsubscribed := hworker
        rw [hidle] at hnot
        contradiction
      · exact hgood.muted
  | some heard =>
      have hsplit : transitions (kind :: rx.backlog) =
          heard :: transitions rx.backlog := by
        simp [transitions, hkind]
      constructor
      · exact hgood.snapshot
      · intro hkept flag hflag
        have hbefore := hold hkept flag hflag
        rw [hsplit] at hbefore
        rcases hbefore with hlast | ⟨hnone, _⟩
        · cases hrest : transitions rx.backlog with
          | nil =>
              right
              simp only [hrest, List.getLast?_singleton,
                Option.some.injEq] at hlast
              exact ⟨hrest, fun _ => hlast⟩
          | cons next others =>
              left
              rw [hrest, List.getLast?_cons_cons] at hlast
              exact hrest ▸ hlast
        · simp at hnone
      · simp [setFlag]
      · simp [setFlag]
      · simp [setFlag]
      · exact hgood.muted

theorem Agreement.afterPublish
    {board : StatusBoard} (hgood : board.Agreement)
    (hpublishing : board.workerPhase = .publishing)
    (hstepIn : board.selfInfo = none →
      board.lastPublished = none ∨
        board.lastPublished = some board.flags.meshConnected)
    (deviceInfo : Option DeviceInfoDto) (nodeStats : Option NodeStatsDto)
    (now : ℤ) :
    (board.finishPublish deviceInfo nodeStats now).Agreement := by
  have hskip := publishCurrentStatus_eq_nil_iff board.config
    (board.view deviceInfo nodeStats now) board.flags.meshConnected
  constructor
  · exact hgood.snapshot
  · intro hkept
    refine WillAgree.of_no_news (hgood.copy hkept) ?_ rfl ?_
    · intro flag hflag
      exact hflag
    · intro huses
      exact ⟨⟨huses.1, Or.inr hpublishing⟩, rfl⟩
  · intro _ flag hflag
    by_cases hnothing : publishCurrentStatus board.config
        (board.view deviceInfo nodeStats now) board.flags.meshConnected = []
    · simp only [finishPublish, hnothing, if_true] at hflag
      have hnever : board.lastPublished = none ∨
          board.lastPublished = some board.flags.meshConnected := by
        rcases hskip.mp hnothing with hmuted | hunknown
        · exact Or.inl (hgood.muted hmuted)
        · exact hstepIn hunknown
      rcases hnever with hnone | hsame
      · rw [hnone] at hflag
        contradiction
      · rw [hsame, Option.some.injEq] at hflag
        exact hflag.symm
    · simp only [finishPublish, hnothing, if_false,
        Option.some.injEq] at hflag
      exact hflag.symm
  · simp [finishPublish]
  · simp [finishPublish]
  · intro hmuted
    have hnothing := hskip.mpr (Or.inl hmuted)
    simp only [finishPublish, hnothing, if_true]
    exact hgood.muted hmuted

/-- A worker step which only moves the worker on, or changes whether it has a
connection. -/
theorem Agreement.afterMove
    {board : StatusBoard} (hgood : board.Agreement)
    (phase : WorkerPhase) (flags : BrokerFlags)
    (hmoved : phase ≠ .unsubscribed ∧ phase ≠ .subscribed)
    (huses : flags.mqttConnected = true →
      phase = .idle ∨ phase = .publishing →
      board.usesFlag ∧ flags.meshConnected = board.flags.meshConnected)
    (hpublished : phase = .idle → ∀ flag, board.lastPublished = some flag →
      flag = flags.meshConnected) :
    { board with workerPhase := phase, flags := flags }.Agreement := by
  constructor
  · exact hgood.snapshot
  · intro hkept
    refine WillAgree.of_no_news (hgood.copy hkept) ?_ rfl ?_
    · intro flag hflag
      exact hflag
    · intro hnow
      exact huses hnow.1 hnow.2
  · exact hpublished
  · intro hfresh
    rcases hfresh with hunsubscribed | hsubscribed
    · exact absurd hunsubscribed hmoved.1
    · exact absurd hsubscribed hmoved.2
  · intro hunsubscribed
    exact absurd hunsubscribed hmoved.1
  · exact hgood.muted

theorem Agreement.afterSubscribe
    {board : StatusBoard} (hgood : board.Agreement)
    (hunsubscribed : board.workerPhase = .unsubscribed) :
    { board with
      workerPhase := .subscribed
      meshEvents := BroadcastReceiver.subscribe _ }.Agreement := by
  have hfresh := hgood.fresh (Or.inl hunsubscribed)
  constructor
  · exact hgood.snapshot
  · intro _ flag _
    right
    simp [transitions, usesFlag]
  · simp
  · intro _
    exact hfresh
  · simp
  · exact hgood.muted

theorem Agreement.afterStep
    {board next : StatusBoard} {action : StatusAction}
    (hgood : board.Agreement) (hstepIn : board.KeepsInStep action)
    (hstep : board.step action = some next) : next.Agreement := by
  cases action with
  | broadcastOther kind =>
      rcases LabelledRun.guarded_eq_some_iff.mp hstep with ⟨hquiet, rfl⟩
      apply hgood.afterBroadcast board.meshPhase Iff.rfl
      intro hkept
      exact willAgree_of_other_broadcast hquiet hgood.unsubscribed
        (hgood.copy (lagged_of_broadcast hkept)) hkept
  | announceConnected =>
      rcases LabelledRun.guarded_eq_some_iff.mp hstep with ⟨hopening, rfl⟩
      apply hgood.afterBroadcast .up (by simp [hopening])
      exact willAgree_of_announcement rfl rfl hgood.unsubscribed
  | streamConnected =>
      rcases LabelledRun.guarded_eq_some_iff.mp hstep with ⟨hup, rfl⟩
      have hannounced : board.announcedFlag = some true := by
        simp [announcedFlag, hup]
      apply hgood.afterBroadcast board.meshPhase Iff.rfl
      exact willAgree_of_announcement rfl hannounced hgood.unsubscribed
  | announceDisconnected =>
      rcases LabelledRun.guarded_eq_some_iff.mp hstep with ⟨hup, rfl⟩
      apply hgood.afterBroadcast .closing (by simp [hup])
      exact willAgree_of_announcement rfl rfl hgood.unsubscribed
  | connect selfInfo =>
      rcases LabelledRun.guarded_eq_some_iff.mp hstep with ⟨_, rfl⟩
      exact hgood.afterConnect selfInfo
  | connectFails =>
      rcases LabelledRun.guarded_eq_some_iff.mp hstep with ⟨hdown, rfl⟩
      exact ⟨by simp [hdown], hgood.copy, hgood.published, hgood.fresh,
        hgood.unsubscribed, hgood.muted⟩
  | tick selfInfo =>
      rcases LabelledRun.guarded_eq_some_iff.mp hstep with ⟨_, rfl⟩
      exact ⟨hgood.snapshot, hgood.copy, hgood.published, hgood.fresh,
        hgood.unsubscribed, hgood.muted⟩
  | clearSnapshot =>
      rcases LabelledRun.guarded_eq_some_iff.mp hstep with ⟨hclosing, rfl⟩
      exact hgood.afterClear hclosing
  | subscribe =>
      rcases LabelledRun.guarded_eq_some_iff.mp hstep with ⟨hunsubscribed, rfl⟩
      exact hgood.afterSubscribe hunsubscribed
  | readInitial =>
      rcases LabelledRun.guarded_eq_some_iff.mp hstep with ⟨hsubscribed, rfl⟩
      have hfresh := hgood.fresh (Or.inr hsubscribed)
      apply hgood.afterMove .idle _ (by simp) (by simp)
      simp [hfresh.1]
  | connAck =>
      rcases LabelledRun.guarded_eq_some_iff.mp hstep with ⟨_, rfl⟩
      exact hgood.afterMove .reading _ (by simp) (by simp) (by simp)
  | readSnapshot =>
      rcases LabelledRun.guarded_eq_some_iff.mp hstep with ⟨_, rfl⟩
      exact hgood.afterReadSnapshot hstepIn
  | meshEvent =>
      simp only [step, Option.ite_none_right_eq_some,
        Option.map_eq_some_iff] at hstep
      rcases hstep with ⟨hidle, received, hreceive, hnext⟩
      rw [← hnext]
      exact hgood.afterMeshEvent hidle hreceive
  | pollError =>
      rcases LabelledRun.guarded_eq_some_iff.mp hstep with ⟨hidle, rfl⟩
      have hpublished := hgood.published hidle
      exact hgood.afterMove board.workerPhase _ (by simp [hidle]) (by simp)
        fun _ => hpublished
  | heartbeat =>
      rcases LabelledRun.guarded_eq_some_iff.mp hstep with ⟨⟨hidle, _⟩, rfl⟩
      apply hgood.afterMove .publishing _ (by simp) ?_ (by simp)
      intro hconnected _
      exact ⟨⟨hconnected, Or.inl hidle⟩, rfl⟩
  | publish deviceInfo nodeStats now =>
      rcases LabelledRun.guarded_eq_some_iff.mp hstep with ⟨hpublishing, rfl⟩
      exact hgood.afterPublish hpublishing hstepIn deviceInfo nodeStats now

/-! ## Agreement at rest -/

/-- In a run which keeps in step, the flag a connected worker published last
is the one of the snapshot, whenever the mesh task is between two transitions
and the worker has handled everything. -/
theorem published_agrees_of_keepsInStep
    {config : MqttBrokerConfig} {actions : List StatusAction}
    {final : StatusBoard}
    (hstepIn : MeetsAlong step KeepsInStep (start config) actions)
    (hrun : run step (start config) actions = some final)
    (hbetween : final.meshPhase = .up ∨ final.meshPhase = .down)
    (hdelivered : final.meshEvents.backlog = [])
    (hkept : final.meshEvents.lagged = false)
    (hidle : final.workerPhase = .idle)
    (hconnected : final.flags.mqttConnected = true) :
    ∀ flag, final.lastPublished = some flag → flag = final.meshConnected := by
  have hgood := invariant_of_run
    (fun _ _ _ hgood hallowed hnext => Agreement.afterStep hgood hallowed hnext)
    (start_agreement config) hstepIn hrun
  have huses : final.usesFlag := ⟨hconnected, Or.inl hidle⟩
  have hcopy : final.flags.meshConnected = final.meshConnected := by
    have hagree := hgood.copy hkept
    rw [WillAgree, hdelivered] at hagree
    rcases hbetween with hup | hdown
    · have hflag := hagree true (by simp [announcedFlag, hup])
      have hsnapshot := hgood.snapshot.mpr (by simp [hup])
      simp only [transitions, List.filterMap_nil, List.getLast?_nil,
        reduceCtorEq, true_and, false_or] at hflag
      rw [hflag huses, hsnapshot]
    · have hflag := hagree false (by simp [announcedFlag, hdown])
      have hsnapshot : final.meshConnected = false := by
        by_contra hne
        have htrue := hgood.snapshot.mp (by simpa using hne)
        exact htrue hdown
      simp only [transitions, List.filterMap_nil, List.getLast?_nil,
        reduceCtorEq, true_and, false_or] at hflag
      rw [hflag huses, hsnapshot]
  intro flag hflag
  rw [hgood.published hidle flag hflag, hcopy]

def namedNode : SelfInfoDto where
  name := "node"
  publicKeyHex := "ab"
  radioFreqMhz := 869
  radioBwKhz := 250
  spreadingFactor := 11
  codingRate := 5
  txPowerDbm := 22
  lat := 0
  lon := 0

theorem published_agrees_of_keepsInStep_reconnect :
    ∃ final,
      run step (start (.withDefaults "local" "127.0.0.1"))
        [.subscribe, .readInitial, .connect (some namedNode), .connAck,
          .readSnapshot, .announceConnected, .publish none none 0, .meshEvent,
          .publish none none 0, .announceDisconnected, .meshEvent,
          .publish none none 0, .clearSnapshot, .pollError, .connAck,
          .readSnapshot, .publish none none 0] = some final ∧
      final.lastPublished = some false ∧
      ∀ flag, final.lastPublished = some flag → flag = final.meshConnected := by
  refine ⟨_, rfl, rfl, ?_⟩
  exact @published_agrees_of_keepsInStep (.withDefaults "local" "127.0.0.1")
    [.subscribe, .readInitial, .connect (some namedNode), .connAck,
      .readSnapshot, .announceConnected, .publish none none 0, .meshEvent,
      .publish none none 0, .announceDisconnected, .meshEvent,
      .publish none none 0, .clearSnapshot, .pollError, .connAck,
      .readSnapshot, .publish none none 0] _
    (by decide) rfl (Or.inr rfl) rfl rfl rfl rfl

/-- The broker connection comes back between the announcement of a disconnect
and the write of the snapshot. -/
theorem published_disagrees_of_late_write :
    ¬ ∀ (config : MqttBrokerConfig) (actions : List StatusAction)
        (final : StatusBoard),
      run step (start config) actions = some final →
      final.meshPhase = .up ∨ final.meshPhase = .down →
      final.meshEvents.backlog = [] → final.meshEvents.lagged = false →
      final.workerPhase = .idle → final.flags.mqttConnected = true →
      ∀ flag, final.lastPublished = some flag → flag = final.meshConnected := by
  intro hclaim
  have hagree := hclaim (.withDefaults "local" "127.0.0.1")
    [.subscribe, .readInitial, .connect (some namedNode), .announceConnected,
      .meshEvent, .publish none none 0, .announceDisconnected, .meshEvent,
      .publish none none 0, .connAck, .readSnapshot, .publish none none 0,
      .clearSnapshot]
    _ rfl (Or.inr rfl) rfl rfl rfl rfl true rfl
  contradiction

end StatusBoard

end MeshController
