import MeshController.BoundedChannel
import MeshController.LabelledRun
import MeshController.MqttMessages

/-!
# A broker worker

`run_broker` is one task: it takes one input at a time, hands the messages of
that input to the MQTT client, and only then looks at the next input.  The
client's request queue is emptied by the poll branch of the same task, and
only over a connection: a poll sends the oldest request, and one which finds
an established connection gone takes all of them off the queue.  An attempt to
connect which fails takes none.  A worker which waits for room in the queue
therefore takes no input at all any more.
-/

namespace MeshController

open LabelledRun

inductive MqttRequest where
  | publish (message : MqttMessage)
  | disconnect
deriving DecidableEq

/-- The worker's own two flags. -/
structure BrokerFlags where
  mqttConnected : Bool
  meshConnected : Bool
deriving DecidableEq

/-- One branch of the `select!`.  `pollSent` is a poll which takes the oldest
request off the queue and sends it, `pollOther` any other successful poll. -/
inductive WorkerInput where
  | connAck
  | pollOther
  | pollSent
  | pollError
  | heartbeat
  | jwtTick (signed : Bool)
  | meshEvent (kind : MeshEventKind)
  | rawEvent (event : MeshCoreEvent)
  | lagged
deriving DecidableEq

structure WorkerAction where
  view : WorkerView
  input : WorkerInput
deriving DecidableEq

def publishAll (messages : List MqttMessage) : List MqttRequest :=
  messages.map MqttRequest.publish

/-- The branch of an input: the new flags and the requests made, `none` if the
branch is not armed. -/
def BrokerFlags.react [MeshcoreRs]
    (flags : BrokerFlags) (config : MqttBrokerConfig) (view : WorkerView) :
    WorkerInput → Option (BrokerFlags × List MqttRequest)
  | .connAck =>
      some ({ mqttConnected := true, meshConnected := view.meshConnected },
        publishAll (publishCurrentStatus config view view.meshConnected))
  | .pollOther => some (flags, [])
  | .pollSent => if flags.mqttConnected then some (flags, []) else none
  | .pollError => some ({ flags with mqttConnected := false }, [])
  | .heartbeat =>
      if config.statusRefreshIntervalSecs ≠ 0 ∧ flags.mqttConnected then
        some (flags,
          publishAll (publishCurrentStatus config view flags.meshConnected))
      else none
  | .jwtTick signed =>
      if config.authMethod = .device then
        some (flags,
          if view.selfInfo.isSome && signed && flags.mqttConnected then
            [.disconnect]
          else [])
      else none
  | .meshEvent .connected =>
      some ({ flags with meshConnected := true },
        publishAll (publishCurrentStatus config view true))
  | .meshEvent .disconnected =>
      some ({ flags with meshConnected := false },
        publishAll (publishCurrentStatus config view false))
  | .meshEvent _ => some (flags, [])
  | .rawEvent event =>
      some (flags,
        publishAll (publishEvent config event) ++
          publishAll (publishRawPacket config view event))
  | .lagged => some (flags, [])

/-- The poll of this input finds an established connection gone. -/
def BrokerFlags.Loses (flags : BrokerFlags) (input : WorkerInput) : Prop :=
  flags.mqttConnected = true ∧ input = .pollError

instance decidableLoses (flags : BrokerFlags) (input : WorkerInput) :
    Decidable (flags.Loses input) :=
  inferInstanceAs (Decidable (_ ∧ _))

def requestCapacity : ℕ := 64

structure BrokerWorker where
  config : MqttBrokerConfig
  lastWill : Option MqttMessage
  flags : BrokerFlags
  requests : BoundedChannel MqttRequest requestCapacity

/-- What the worker finds out before its loop: the outcomes of waiting for
the node's identity, of signing credentials and of building the transport. -/
structure BrokerStartup where
  waitedSelfInfo : Option SelfInfoDto
  credentialsError : Option String
  transportError : Option String
  view : WorkerView
deriving DecidableEq

namespace BrokerWorker

/-- Why the worker stops before it ever connects, if it does. -/
def startupError
    (config : MqttBrokerConfig) (startup : BrokerStartup) : Option String :=
  let authError :=
    if config.authMethod = .device then
      match startup.waitedSelfInfo with
      | none => some ("timed out waiting for mesh connection to build " ++
          "device-signed auth credentials")
      | some _ => startup.credentialsError
    else none
  authError.or (if config.tlsEnabled then startup.transportError else none)

def start (config : MqttBrokerConfig) (startup : BrokerStartup) :
    Except String BrokerWorker :=
  match startupError config startup with
  | some reason => .error reason
  | none =>
      .ok {
        config := config
        lastWill := MeshController.lastWill config startup.view
        flags := {
          mqttConnected := false
          meshConnected := startup.view.meshConnected }
        requests := BoundedChannel.empty _ _ }

/-- The worker waits inside a publish, in front of a full queue. -/
def Stuck (worker : BrokerWorker) : Prop :=
  worker.requests.waiting ≠ []

instance (worker : BrokerWorker) : Decidable worker.Stuck :=
  inferInstanceAs (Decidable (_ ≠ _))

def handOver (worker : BrokerWorker) (flags : BrokerFlags)
    (made : List MqttRequest) : BrokerWorker :=
  { worker with
    flags := flags
    requests := made.foldl BoundedChannel.send worker.requests }

/-- What a poll leaves in the queue.  The requests drained as a connection is
lost are the client's own, for a session which is resumed. -/
def polled (worker : BrokerWorker) (input : WorkerInput) :
    Option (BoundedChannel MqttRequest requestCapacity) :=
  if input = .pollSent then worker.requests.receive.map Prod.snd
  else if worker.flags.Loses input then some (BoundedChannel.empty _ _)
  else some worker.requests

def step [MeshcoreRs] (worker : BrokerWorker) (action : WorkerAction) :
    Option BrokerWorker :=
  if worker.Stuck then none
  else
    match worker.flags.react worker.config action.view action.input with
    | none => none
    | some (flags, made) =>
        (worker.polled action.input).map fun requests =>
          { worker with requests := requests }.handOver flags made

/-- The queue is emptied by nobody else: a stuck worker stays so. -/
theorem step_eq_none_of_stuck [MeshcoreRs]
    {worker : BrokerWorker} (hstuck : worker.Stuck) (action : WorkerAction) :
    step worker action = none := by
  simp [step, hstuck]

/-! ## Requests made and requests taken -/

/-- The flags by themselves, which follow from the inputs alone. -/
def flagStep [MeshcoreRs] (config : MqttBrokerConfig) :
    Machine BrokerFlags WorkerAction :=
  fun flags action =>
    (flags.react config action.view action.input).map Prod.fst

/-- No established connection is lost on the way through the inputs. -/
def KeepsConnection [MeshcoreRs] (config : MqttBrokerConfig)
    (flags : BrokerFlags) (actions : List WorkerAction) : Prop :=
  MeetsAlong (flagStep config)
    (fun flags action => ¬ flags.Loses action.input) flags actions

instance decidableKeepsConnection [MeshcoreRs] (config : MqttBrokerConfig)
    (flags : BrokerFlags) (actions : List WorkerAction) :
    Decidable (KeepsConnection config flags actions) :=
  decidableMeetsAlong flags actions

/-- The requests a worker makes on the way through its inputs. -/
def requestsAlong [MeshcoreRs] (config : MqttBrokerConfig) :
    BrokerFlags → List WorkerAction → List MqttRequest
  | _, [] => []
  | flags, action :: rest =>
      match flags.react config action.view action.input with
      | none => []
      | some (next, made) => made ++ requestsAlong config next rest

def takenAlong (actions : List WorkerAction) : ℕ :=
  actions.countP fun action => action.input = .pollSent

theorem stuck_iff (worker : BrokerWorker) :
    worker.Stuck ↔ requestCapacity < worker.requests.occupied := by
  have hnobody := worker.requests.waiting_eq_nil_iff
  unfold Stuck
  rw [Ne, hnobody]
  omega

theorem worker_of_start
    {config : MqttBrokerConfig} {startup : BrokerStartup}
    {worker : BrokerWorker} (hstart : start config startup = .ok worker) :
    worker.config = config ∧
      worker.lastWill = MeshController.lastWill config startup.view ∧
      worker.requests.occupied = 0 := by
  unfold start at hstart
  split at hstart
  next => contradiction
  next =>
    simp only [Except.ok.injEq] at hstart
    subst worker
    exact ⟨rfl, rfl, rfl⟩

theorem occupied_of_polled
    {worker : BrokerWorker} {input : WorkerInput}
    {requests : BoundedChannel MqttRequest requestCapacity}
    (hpolled : worker.polled input = some requests) :
    requests.occupied + (if input = .pollSent then 1 else 0) =
      if worker.flags.Loses input then 0 else worker.requests.occupied := by
  unfold polled at hpolled
  by_cases hsent : input = .pollSent
  · have hkept : ¬ worker.flags.Loses input := by
      intro hloses
      rw [hloses.2] at hsent
      cases hsent
    rw [if_pos hsent, Option.map_eq_some_iff] at hpolled
    rcases hpolled with ⟨⟨request, rest⟩, hreceive, rfl⟩
    rw [if_pos hsent, if_neg hkept]
    exact (BoundedChannel.occupied_of_receive hreceive).symm
  · rw [if_neg hsent] at hpolled ⊢
    split at hpolled <;> cases hpolled
    next hloses =>
      rw [if_pos hloses]
      rfl
    next hkept => rw [if_neg hkept, Nat.add_zero]

section Counting

variable [MeshcoreRs]

/-- Everything one step does: it is the branch of its input, a poll which
sends frees one place, and the loss of a connection frees all. -/
theorem step_cases
    {worker next : BrokerWorker} {action : WorkerAction}
    (hstep : step worker action = some next) :
    ∃ made,
      worker.flags.react worker.config action.view action.input =
        some (next.flags, made) ∧
      next.config = worker.config ∧
      next.lastWill = worker.lastWill ∧
      next.requests.occupied + takenAlong [action] =
        (if worker.flags.Loses action.input then 0
          else worker.requests.occupied) + made.length := by
  unfold step at hstep
  split at hstep
  next => contradiction
  next =>
    split at hstep
    next => contradiction
    next flags made hreact =>
      rw [Option.map_eq_some_iff] at hstep
      rcases hstep with ⟨requests, hpolled, rfl⟩
      have hleft := occupied_of_polled hpolled
      have hmade := BoundedChannel.occupied_foldl_send requests made
      refine ⟨made, hreact, rfl, rfl, ?_⟩
      simp only [handOver, takenAlong, List.countP_cons, List.countP_nil,
        decide_eq_true_eq]
      omega

theorem run_flagStep
    {worker final : BrokerWorker} {actions : List WorkerAction}
    (hrun : run step worker actions = some final) :
    run (flagStep worker.config) worker.flags actions =
      some final.flags := by
  induction actions generalizing worker with
  | nil =>
      rw [run_nil, Option.some.injEq] at hrun
      rw [run_nil, hrun]
  | cons action rest ih =>
      obtain ⟨next, hstep, hrest⟩ := run_cons_eq_some_iff.mp hrun
      obtain ⟨made, hreact, hconfig, _⟩ := step_cases hstep
      have hflags : flagStep worker.config worker.flags action =
          some next.flags := by
        rw [flagStep, hreact]
        rfl
      rw [run_cons_some hflags, ← hconfig]
      exact ih hrest

/-- What was fixed as the worker started stays. -/
theorem fixed_of_run
    {worker final : BrokerWorker} {actions : List WorkerAction}
    (hrun : run step worker actions = some final) :
    final.config = worker.config ∧ final.lastWill = worker.lastWill := by
  have hstays : ∀ (state : BrokerWorker) (action : WorkerAction)
      (next : BrokerWorker),
      (state.config = worker.config ∧ state.lastWill = worker.lastWill) →
      step state action = some next →
      next.config = worker.config ∧ next.lastWill = worker.lastWill := by
    rintro state action next ⟨hconfig, hwill⟩ hstep
    rcases step_cases hstep with ⟨_, _, hsameConfig, hsameWill, _⟩
    exact ⟨hsameConfig.trans hconfig, hsameWill.trans hwill⟩
  exact invariant_of_every_step hstays ⟨rfl, rfl⟩ hrun

/-- While the connection is kept, only polls which send make room. -/
theorem occupied_of_keepsConnection
    {worker final : BrokerWorker} {actions : List WorkerAction}
    (hkeeps : KeepsConnection worker.config worker.flags actions)
    (hrun : run step worker actions = some final) :
    final.requests.occupied + takenAlong actions =
      worker.requests.occupied +
        (requestsAlong worker.config worker.flags actions).length := by
  induction actions generalizing worker with
  | nil =>
      simp only [run_nil, Option.some.injEq] at hrun
      subst final
      rfl
  | cons action rest ih =>
      obtain ⟨next, hstep, hrest⟩ := run_cons_eq_some_iff.mp hrun
      obtain ⟨made, hreact, hconfig, _, hone⟩ := step_cases hstep
      rcases hkeeps with ⟨hkept, hothers⟩
      simp only [flagStep, hreact, Option.map_some] at hothers
      rw [if_neg hkept] at hone
      have hlater := ih (hconfig ▸ hothers) hrest
      have htaken : takenAlong (action :: rest) =
          takenAlong [action] + takenAlong rest := by
        simp only [takenAlong, List.countP_cons, List.countP_nil]
        omega
      have hmade : requestsAlong worker.config worker.flags (action :: rest) =
          made ++ requestsAlong next.config next.flags rest := by
        simp only [requestsAlong, hreact, hconfig]
      rw [htaken, hmade, List.length_append]
      omega

/-- Every run ends with a stretch which starts from an empty queue and keeps
the connection: the one since the last loss, or since the start. -/
theorem exists_emptied_of_run
    {worker final : BrokerWorker} {actions : List WorkerAction}
    (hempty : worker.requests.occupied = 0)
    (hrun : run step worker actions = some final) :
    ∃ lost stretch emptied, lost ++ stretch = actions ∧
      run step worker lost = some emptied ∧
      emptied.requests.occupied = 0 ∧
      KeepsConnection emptied.config emptied.flags stretch ∧
      run step emptied stretch = some final := by
  induction actions using List.reverseRecOn generalizing final with
  | nil => exact ⟨[], [], worker, rfl, rfl, hempty, trivial, hrun⟩
  | append_singleton before action ih =>
      obtain ⟨middle, hmiddle, hlast⟩ := run_append_eq_some_iff.mp hrun
      obtain ⟨next, hstep, hnext⟩ := run_cons_eq_some_iff.mp hlast
      rw [run_nil, Option.some.injEq] at hnext
      subst hnext
      obtain ⟨made, hreact, _, _, hone⟩ := step_cases hstep
      by_cases hloses : middle.flags.Loses action.input
      · refine ⟨before ++ [action], [], next, List.append_nil _, hrun, ?_,
          trivial, rfl⟩
        rw [hloses.2] at hreact
        simp only [BrokerFlags.react, Option.some.injEq, Prod.mk.injEq]
          at hreact
        rw [if_pos hloses, ← hreact.2, List.length_nil] at hone
        omega
      · obtain ⟨lost, stretch, emptied, hsplit, hlost, hnone, hkeeps,
          hstretch⟩ := ih hmiddle
        have hconfig := (fixed_of_run hstretch).1
        refine ⟨lost, stretch ++ [action], emptied, ?_, hlost, hnone, ?_, ?_⟩
        · rw [← hsplit, List.append_assoc]
        · rw [KeepsConnection, meetsAlong_append (run_flagStep hstretch)]
          refine ⟨hkeeps, hloses, ?_⟩
          rw [← hconfig, flagStep, hreact]
          trivial
        · rw [run_append_eq_some_iff]
          exact ⟨middle, hstretch, hlast⟩

end Counting

end BrokerWorker

end MeshController
