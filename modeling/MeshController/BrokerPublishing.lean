import MeshController.BrokerWorker

/-!
# Broker outages and muted brokers

The main results about one broker worker: when an unreachable broker stops
its worker for good, and when a muted worker stays silent.
-/

namespace MeshController

open LabelledRun

namespace BrokerWorker

section Outage

variable [MeshcoreRs]

/-- The worker gets back to its poll, whatever happens to the broker, exactly
in the runs in which, on every stretch which loses no established connection,
it makes no more requests than the polls have sent and the queue has room
for. -/
theorem never_stuck_iff_requests_fit
    {config : MqttBrokerConfig} {startup : BrokerStartup}
    {worker final : BrokerWorker} {actions : List WorkerAction}
    (hstart : start config startup = .ok worker)
    (hrun : run step worker actions = some final) :
    (∀ before middle, before <+: actions →
      run step worker before = some middle → ¬ middle.Stuck) ↔
    ∀ before stretch, before ++ stretch <+: actions →
      ∀ flags ∈ run (flagStep config) worker.flags before,
        KeepsConnection config flags stretch →
        (requestsAlong config flags stretch).length ≤
          requestCapacity + takenAlong stretch := by
  obtain ⟨rfl, _, hempty⟩ := worker_of_start hstart
  constructor
  · intro hnever before stretch hfront flags hflags hkeeps
    obtain ⟨last, hlast⟩ := exists_run_of_prefix hrun hfront
    have hfree := hnever _ last hfront hlast
    obtain ⟨middle, hmiddle, hstretch⟩ := run_append_eq_some_iff.mp hlast
    have hconfig := (fixed_of_run hmiddle).1
    have hsame : middle.flags = flags := by
      rw [Option.mem_def, run_flagStep hmiddle, Option.some.injEq] at hflags
      exact hflags
    rw [← hsame, ← hconfig] at hkeeps ⊢
    have hcount := occupied_of_keepsConnection hkeeps hstretch
    rw [stuck_iff] at hfree
    omega
  · intro hfits before middle hfront hmiddle
    obtain ⟨lost, stretch, emptied, hsplit, hlost, hnone, hkeeps, hstretch⟩ :=
      exists_emptied_of_run hempty hmiddle
    have hconfig := (fixed_of_run hlost).1
    have hcount := occupied_of_keepsConnection hkeeps hstretch
    rw [hconfig] at hkeeps hcount
    have hroom := hfits lost stretch (hsplit ▸ hfront) emptied.flags
      (run_flagStep hlost) hkeeps
    rw [stuck_iff]
    omega

end Outage

def unknownNode : WorkerView where
  selfInfo := none
  meshConnected := true
  deviceInfo := none
  nodeStats := none
  now := 0

def knownNode : WorkerView where
  selfInfo := some ⟨"node", "ab", 869, 250, 11, 5, 22, 0, 0⟩
  meshConnected := true
  deviceInfo := none
  nodeStats := none
  now := 0

def freshStartup : BrokerStartup where
  waitedSelfInfo := none
  credentialsError := none
  transportError := none
  view := unknownNode

def batteryReading : WorkerAction where
  view := unknownNode
  input := .rawEvent ⟨.battery, .other⟩

/-- A reading before the broker is reached, a connection on which only the
first of the two requests is sent, its loss, and more readings. -/
def lostConnection : List WorkerAction :=
  [batteryReading, ⟨knownNode, .connAck⟩, ⟨knownNode, .pollSent⟩,
    ⟨knownNode, .pollError⟩, ⟨knownNode, .pollError⟩, batteryReading,
    ⟨knownNode, .meshEvent .connected⟩]

theorem forall_stretch_of_take_drop
    {actions : List WorkerAction}
    {Holds : List WorkerAction → List WorkerAction → Prop}
    (hholds : ∀ first ≤ actions.length, ∀ count ≤ actions.length,
      Holds (actions.take first) ((actions.drop first).take count)) :
    ∀ before stretch, before ++ stretch <+: actions →
      Holds before stretch := by
  rintro before stretch ⟨after, rfl⟩
  have hfirst : before.length ≤ (before ++ stretch ++ after).length := by
    simp
  have hcount : stretch.length ≤ (before ++ stretch ++ after).length := by
    simp only [List.length_append]
    omega
  simpa using hholds before.length hfirst stretch.length hcount

theorem never_stuck_iff_requests_fit_lost_connection :
    ∃ worker final,
      start (.withDefaults "local" "127.0.0.1") freshStartup = .ok worker ∧
      run (@step wireValues) worker lostConnection = some final ∧
      final.requests.pending.length = 2 ∧
      ∀ before middle, before <+: lostConnection →
        run (@step wireValues) worker before = some middle →
          ¬ middle.Stuck := by
  refine ⟨_, _, rfl, rfl, rfl, ?_⟩
  apply (@never_stuck_iff_requests_fit wireValues
    (.withDefaults "local" "127.0.0.1") freshStartup _ _ lostConnection
    rfl rfl).mpr
  apply forall_stretch_of_take_drop
  decide

/-- Twice thirty-three readings, and the loss of a connection between them. -/
example : ∃ worker final,
    start (.withDefaults "local" "127.0.0.1") freshStartup = .ok worker ∧
    run (@step wireValues) worker (List.replicate 33 batteryReading ++
      [⟨unknownNode, .connAck⟩, ⟨unknownNode, .pollError⟩] ++
      List.replicate 33 batteryReading) = some final ∧ ¬ final.Stuck :=
  ⟨_, _, rfl, rfl, by decide⟩

/-- An unreachable broker and sixty-five readings. -/
theorem stuck_of_unreachable_broker :
    ¬ ∀ (config : MqttBrokerConfig) (startup : BrokerStartup)
        (worker middle : BrokerWorker) (actions : List WorkerAction),
      start config startup = .ok worker →
      run (@step wireValues) worker actions = some middle →
      ¬ middle.Stuck := by
  intro hclaim
  have hfree := hclaim (.withDefaults "local" "127.0.0.1") freshStartup _ _
    (List.replicate 65 batteryReading) rfl rfl
  exact hfree (by decide)

/-! ## Muted brokers -/

section Muted

variable [MeshcoreRs]

omit [MeshcoreRs] in
theorem publishCurrentStatus_of_muted
    {config : MqttBrokerConfig}
    (hmuted : config.enableHighLevelMessages = false)
    (view : WorkerView) (meshConnected : Bool) :
    publishCurrentStatus config view meshConnected = [] :=
  (publishCurrentStatus_eq_nil_iff _ _ _).mpr (Or.inl hmuted)

theorem publishes_of_react
    {config : MqttBrokerConfig}
    (hmuted : config.enableHighLevelMessages = false)
    {flags next : BrokerFlags} {view : WorkerView} {input : WorkerInput}
    {made : List MqttRequest}
    (hreact : flags.react config view input = some (next, made)) :
    (∃ message, .publish message ∈ made) ↔
      ∃ event, input = .rawEvent event ∧
        publishRawPacket config view event ≠ [] := by
  have hstatus := publishCurrentStatus_of_muted hmuted view
  cases input with
  | rawEvent event =>
      have hevent : publishEvent config event = [] :=
        (publishEvent_eq_nil_iff _ _).mpr (Or.inl hmuted)
      simp only [BrokerFlags.react, Option.some.injEq, Prod.mk.injEq] at hreact
      rw [← hreact.2, hevent]
      simp only [publishAll, List.map_nil, List.nil_append, List.mem_map,
        MqttRequest.publish.injEq, exists_eq_right, WorkerInput.rawEvent.injEq,
        exists_eq_left']
      exact ⟨fun hpublished => List.ne_nil_of_mem hpublished.choose_spec,
        fun hne => List.exists_mem_of_ne_nil _ hne⟩
  | connAck | pollOther | pollError | lagged =>
      simp only [BrokerFlags.react, hstatus, Option.some.injEq,
        Prod.mk.injEq] at hreact
      simp [← hreact.2, publishAll]
  | pollSent =>
      simp only [BrokerFlags.react, Option.ite_none_right_eq_some,
        Option.some.injEq, Prod.mk.injEq] at hreact
      simp [← hreact.2.2]
  | heartbeat =>
      simp only [BrokerFlags.react, hstatus, Option.ite_none_right_eq_some,
        Option.some.injEq, Prod.mk.injEq] at hreact
      simp [← hreact.2.2, publishAll]
  | jwtTick signed =>
      simp only [BrokerFlags.react, Option.ite_none_right_eq_some,
        Option.some.injEq, Prod.mk.injEq] at hreact
      rw [← hreact.2.2]
      split <;> simp
  | meshEvent kind =>
      cases kind <;>
        simp only [BrokerFlags.react, hstatus, Option.some.injEq,
          Prod.mk.injEq] at hreact <;>
        simp [← hreact.2, publishAll]

theorem publishes_along_iff
    {worker final : BrokerWorker} {actions : List WorkerAction}
    (hmuted : worker.config.enableHighLevelMessages = false)
    (hrun : run step worker actions = some final) :
    (∃ message,
      .publish message ∈ requestsAlong worker.config worker.flags actions) ↔
    ∃ action ∈ actions, ∃ event, action.input = .rawEvent event ∧
      publishRawPacket worker.config action.view event ≠ [] := by
  induction actions generalizing worker with
  | nil => simp [requestsAlong]
  | cons action rest ih =>
      obtain ⟨next, hstep, hrest⟩ := run_cons_eq_some_iff.mp hrun
      obtain ⟨made, hreact, hconfig, _, _⟩ := step_cases hstep
      have hnow := publishes_of_react hmuted hreact
      have hlater := ih (hconfig ▸ hmuted) hrest
      rw [hconfig] at hlater
      simp only [requestsAlong, hreact, List.mem_append, exists_or, hnow,
        hlater, List.exists_mem_cons_iff]

/-- A muted worker publishes nothing and sets no last will exactly when its
raw-packet topics are off as well, or no raw packet with a readable header
comes in once the node's identity is known. -/
theorem muted_silent_iff
    {config : MqttBrokerConfig} {startup : BrokerStartup}
    {worker final : BrokerWorker} {actions : List WorkerAction}
    (hmuted : config.enableHighLevelMessages = false)
    (hstart : start config startup = .ok worker)
    (hrun : run step worker actions = some final) :
    (final.lastWill = none ∧ ∀ message,
      .publish message ∉ requestsAlong config worker.flags actions) ↔
    (config.enablePacketTraficMessages = false ∧
      config.enableRawMessages = false) ∨
    ∀ action ∈ actions, ∀ event, action.input = .rawEvent event →
      action.view.selfInfo = none ∨ event.hasPacketHeader = false := by
  obtain ⟨hconfig, hwill, _⟩ := worker_of_start hstart
  have hnoWill : final.lastWill = none := by
    rw [(fixed_of_run hrun).2, hwill]
    simp [MeshController.lastWill, hmuted]
  have hpublishes := publishes_along_iff (hconfig ▸ hmuted) hrun
  rw [hconfig] at hpublishes
  have hsilent : (∀ message,
      MqttRequest.publish message ∉
        requestsAlong config worker.flags actions) ↔
      ∀ action ∈ actions, ∀ event, action.input = .rawEvent event →
        publishRawPacket config action.view event = [] := by
    rw [← not_iff_not]
    push Not
    exact hpublishes
  simp only [hnoWill, true_and, hsilent, publishRawPacket_eq_nil_iff]
  by_cases hoff : config.enablePacketTraficMessages = false ∧
      config.enableRawMessages = false
  · simp [hoff]
  · simp only [hoff, false_or]

end Muted

def heardAdvert : MeshCoreEvent where
  eventType := .logData
  payload := .logData ⟨4, -90,
    some ⟨.flood, .advert, 0, none, 0, 1, []⟩, none, [1, 2]⟩

def mutedBroker : MqttBrokerConfig :=
  { MqttBrokerConfig.withDefaults "local" "127.0.0.1" with
    enableHighLevelMessages := false }

/-- All that a muted broker whose packet topics are off as well is told. -/
def silentInputs : List WorkerAction :=
  [⟨knownNode, .connAck⟩, ⟨knownNode, .rawEvent heardAdvert⟩,
    ⟨knownNode, .heartbeat⟩, batteryReading,
    ⟨knownNode, .meshEvent .disconnected⟩, ⟨knownNode, .pollError⟩]

theorem muted_silent_iff_packets_off :
    ∃ worker final,
      start { mutedBroker with enablePacketTraficMessages := false }
        freshStartup = .ok worker ∧
      run (@step wireValues) worker silentInputs = some final ∧
      final.lastWill = none ∧ ∀ message,
        .publish message ∉ @requestsAlong wireValues
          { mutedBroker with enablePacketTraficMessages := false }
          worker.flags silentInputs := by
  refine ⟨_, _, rfl, rfl, ?_⟩
  apply (@muted_silent_iff wireValues
    { mutedBroker with enablePacketTraficMessages := false } freshStartup _ _
    silentInputs rfl rfl rfl).mpr
  left
  exact ⟨rfl, rfl⟩

/-- A muted broker still gets every overheard packet, by default. -/
theorem not_silent_of_heard_packet :
    ¬ ∀ (config : MqttBrokerConfig) (startup : BrokerStartup)
        (worker final : BrokerWorker) (actions : List WorkerAction),
      config.enableHighLevelMessages = false →
      start config startup = .ok worker →
      run (@step wireValues) worker actions = some final →
      final.lastWill = none ∧ ∀ message,
        .publish message ∉
          @requestsAlong wireValues config worker.flags actions := by
  intro hclaim
  have hsilent := (hclaim mutedBroker freshStartup _ _
    [⟨knownNode, .rawEvent heardAdvert⟩] rfl rfl rfl).2
  exact hsilent _ List.mem_cons_self

end BrokerWorker

end MeshController
