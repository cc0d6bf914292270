import MeshController.BrokerWorker

/-!
# What a broker goes on showing

A broker keeps the last retained message of each topic.  When it loses a
client without a goodbye, it publishes the client's last will in its place;
after a goodbye the will is dropped.  The worker sets its will once, before it
first connects, and publishes its status under the name which the node has at
the time.
-/

namespace MeshController

open LabelledRun

/-- The status of a node which is up. -/
def MqttBody.saysOnline : MqttBody → Bool
  | .status fields => fields.status = "online"
  | _ => false

/-- A worker and its broker.  `wire` is what the worker has sent over the
connection the broker knows of, oldest first. -/
structure BrokerSession where
  worker : BrokerWorker
  connected : Bool
  wire : List MqttRequest
  retained : String → Option MqttBody

/-- `accept` is a connection which reaches the broker, `lose` one which ends
without a goodbye. -/
inductive RetainedAction where
  | work (action : WorkerAction)
  | accept
  | arrive
  | lose
deriving DecidableEq

namespace BrokerSession

/-- As the worker starts at a broker which keeps nothing. -/
def start (worker : BrokerWorker) : BrokerSession where
  worker := worker
  connected := false
  wire := []
  retained := fun _ => none

def keep (session : BrokerSession) (message : MqttMessage) : BrokerSession :=
  if message.retain = true then
    { session with
      retained :=
        Function.update session.retained message.topic (some message.body) }
  else session

/-- The broker speaks the last will. -/
def afterLoss (session : BrokerSession) : BrokerSession :=
  let lost := { session with connected := false, wire := [] }
  match session.worker.lastWill with
  | some message => lost.keep message
  | none => lost

/-- What a poll hands to the connection. -/
def sentBy (worker : BrokerWorker) (action : WorkerAction) :
    List MqttRequest :=
  if action.input = .pollSent then
    worker.requests.receive.toList.map Prod.fst
  else []

/-- The broker has taken the oldest request. -/
def afterArrival (session : BrokerSession) :
    List MqttRequest → Option BrokerSession
  | .publish message :: rest => some ({ session with wire := rest }.keep message)
  | .disconnect :: _ => some { session with connected := false, wire := [] }
  | [] => none

/-- A client which connects again while the broker still holds on to its
former connection has lost that one. -/
def step [MeshcoreRs] (session : BrokerSession) :
    RetainedAction → Option BrokerSession
  | .work action =>
      if action.input = .connAck ∧ session.connected = false then none
      else
        (session.worker.step action).map fun worker =>
          { session with
            worker := worker
            wire :=
              if session.connected = true then
                session.wire ++ sentBy session.worker action
              else session.wire }
  | .accept =>
      if session.worker.flags.mqttConnected = true then none
      else if session.connected = true then
        some { session.afterLoss with connected := true }
      else some { session with connected := true }
  | .arrive =>
      if session.connected = true then session.afterArrival session.wire
      else none
  | .lose =>
      if session.connected = true then some session.afterLoss else none

/-- Somebody who looks at the broker takes the node for one which is up. -/
def ShowsOnline (session : BrokerSession) : Prop :=
  ∃ topic body, session.retained topic = some body ∧ body.saysOnline = true

end BrokerSession

/-- The node the worker looks at is this one, as soon as it is known. -/
def RetainedAction.ofNode (action : RetainedAction) (selfInfo : SelfInfoDto) :
    Prop :=
  ∀ worked, action = .work worked →
    worked.view.selfInfo = none ∨ worked.view.selfInfo = some selfInfo

/-! ## What is retained -/

/-- A request which the broker would retain is for the one topic. -/
def MqttRequest.RetainedAt (topic : String) : MqttRequest → Prop
  | .publish message => message.retain = true → message.topic = topic
  | .disconnect => True

section React

theorem retainedAt_publishAll
    {topic : String} {messages : List MqttMessage}
    (hmessages : ∀ message ∈ messages, message.retain = true →
      message.topic = topic) :
    ∀ request ∈ publishAll messages, request.RetainedAt topic := by
  intro request hmem
  obtain ⟨message, hmessage, rfl⟩ := List.mem_map.mp hmem
  exact hmessages message hmessage

theorem retain_publishEvent
    {config : MqttBrokerConfig} {event : MeshCoreEvent} {message : MqttMessage}
    (hmem : message ∈ publishEvent config event) : message.retain = false := by
  unfold publishEvent at hmem
  split at hmem
  · simp at hmem
  · split at hmem
    · simp at hmem
    · rw [List.mem_singleton.mp hmem]

theorem retain_publishRawPacket [MeshcoreRs]
    {config : MqttBrokerConfig} {view : WorkerView} {event : MeshCoreEvent}
    {message : MqttMessage} (hmem : message ∈ publishRawPacket config view event) :
    message.retain = false := by
  unfold publishRawPacket at hmem
  split at hmem
  · simp at hmem
  · split at hmem
    · rcases List.mem_append.mp hmem with htrafic | hraw
      · split at htrafic
        · obtain ⟨fields, _, rfl⟩ := List.mem_map.mp htrafic
          rfl
        · simp at htrafic
      · split at hraw
        · obtain ⟨fields, _, rfl⟩ := List.mem_map.mp hraw
          rfl
        · simp at hraw
    · simp at hmem

theorem topic_publishCurrentStatus
    {config : MqttBrokerConfig} {view : WorkerView} {meshConnected : Bool}
    {selfInfo : SelfInfoDto}
    (hnode : view.selfInfo = none ∨ view.selfInfo = some selfInfo)
    {message : MqttMessage}
    (hmem : message ∈ publishCurrentStatus config view meshConnected) :
    message.topic = resolveTopicTemplate config.statusTopic config selfInfo := by
  unfold publishCurrentStatus at hmem
  split at hmem
  · simp at hmem
  · rcases hnode with hunknown | hknown
    · simp [hunknown] at hmem
    · rw [hknown] at hmem
      rw [List.mem_singleton.mp hmem]

/-- Only the status is retained. -/
theorem retainedAt_of_react [MeshcoreRs]
    {flags next : BrokerFlags} {config : MqttBrokerConfig} {view : WorkerView}
    {input : WorkerInput} {made : List MqttRequest} {selfInfo : SelfInfoDto}
    (hnode : view.selfInfo = none ∨ view.selfInfo = some selfInfo)
    (hreact : flags.react config view input = some (next, made)) :
    ∀ request ∈ made, request.RetainedAt
      (resolveTopicTemplate config.statusTopic config selfInfo) := by
  have hstatus : ∀ meshConnected, ∀ request ∈
      publishAll (publishCurrentStatus config view meshConnected),
      request.RetainedAt
        (resolveTopicTemplate config.statusTopic config selfInfo) := by
    intro meshConnected
    apply retainedAt_publishAll
    intro message hmem _
    exact topic_publishCurrentStatus hnode hmem
  have hnothing : ∀ request ∈ ([] : List MqttRequest), request.RetainedAt
      (resolveTopicTemplate config.statusTopic config selfInfo) := by
    simp
  cases input with
  | connAck =>
      simp only [BrokerFlags.react, Option.some.injEq, Prod.mk.injEq] at hreact
      rw [← hreact.2]
      exact hstatus _
  | pollOther | pollError | lagged =>
      simp only [BrokerFlags.react, Option.some.injEq, Prod.mk.injEq] at hreact
      rw [← hreact.2]
      exact hnothing
  | pollSent =>
      simp only [BrokerFlags.react, Option.ite_none_right_eq_some,
        Option.some.injEq, Prod.mk.injEq] at hreact
      rw [← hreact.2.2]
      exact hnothing
  | heartbeat =>
      simp only [BrokerFlags.react, Option.ite_none_right_eq_some,
        Option.some.injEq, Prod.mk.injEq] at hreact
      rw [← hreact.2.2]
      exact hstatus _
  | jwtTick signed =>
      simp only [BrokerFlags.react, Option.ite_none_right_eq_some,
        Option.some.injEq, Prod.mk.injEq] at hreact
      rw [← hreact.2.2]
      split
      · simp [MqttRequest.RetainedAt]
      · exact hnothing
  | meshEvent kind =>
      cases kind <;>
        simp only [BrokerFlags.react, Option.some.injEq,
          Prod.mk.injEq] at hreact <;>
        rw [← hreact.2]
      case connected | disconnected => exact hstatus _
      all_goals exact hnothing
  | rawEvent event =>
      simp only [BrokerFlags.react, Option.some.injEq, Prod.mk.injEq] at hreact
      rw [← hreact.2]
      intro request hmem
      rcases List.mem_append.mp hmem with hevent | hpacket
      · apply retainedAt_publishAll ?_ request hevent
        intro message hmessage hretain
        rw [retain_publishEvent hmessage] at hretain
        cases hretain
      · apply retainedAt_publishAll ?_ request hpacket
        intro message hmessage hretain
        rw [retain_publishRawPacket hmessage] at hretain
        cases hretain

end React

/-! ### The queue, the wire and the broker -/

namespace BrokerWorker

theorem pending_of_polled
    {worker : BrokerWorker} {action : WorkerAction}
    {requests : BoundedChannel MqttRequest requestCapacity}
    (hpolled : worker.polled action.input = some requests) :
    (BrokerSession.sentBy worker action ++ requests.pending).Sublist
      worker.requests.pending := by
  unfold polled at hpolled
  unfold BrokerSession.sentBy
  by_cases hsent : action.input = .pollSent
  · rw [if_pos hsent, Option.map_eq_some_iff] at hpolled
    rcases hpolled with ⟨⟨request, rest⟩, hreceive, rfl⟩
    rw [if_pos hsent, hreceive, BoundedChannel.pending_of_receive hreceive]
    exact List.Sublist.refl _
  · rw [if_neg hsent] at hpolled ⊢
    split at hpolled <;> cases hpolled
    · exact List.nil_sublist _
    · exact List.Sublist.refl _

/-- What a step hands to the connection and what it leaves in the queue was in
the queue, or is made by the step.  The loss of a connection drops requests. -/
theorem pending_of_step [MeshcoreRs]
    {worker next : BrokerWorker} {action : WorkerAction}
    (hstep : worker.step action = some next) :
    ∃ made,
      worker.flags.react worker.config action.view action.input =
        some (next.flags, made) ∧
      (BrokerSession.sentBy worker action ++ next.requests.pending).Sublist
        (worker.requests.pending ++ made) ∧
      next.config = worker.config ∧ next.lastWill = worker.lastWill := by
  simp only [step, Option.ite_none_left_eq_some] at hstep
  obtain ⟨_, hstep⟩ := hstep
  split at hstep
  next => cases hstep
  next flags made hreact =>
    rw [Option.map_eq_some_iff] at hstep
    rcases hstep with ⟨requests, hpolled, rfl⟩
    refine ⟨made, hreact, ?_, rfl, rfl⟩
    rw [handOver, BoundedChannel.pending_foldl_send, ← List.append_assoc]
    exact (pending_of_polled hpolled).append (List.Sublist.refl made)

/-- The worker as it starts. -/
theorem eq_of_start
    {config : MqttBrokerConfig} {startup : BrokerStartup}
    {worker : BrokerWorker} (hstart : start config startup = .ok worker) :
    worker.config = config ∧
      worker.lastWill = MeshController.lastWill config startup.view ∧
      worker.flags.mqttConnected = false ∧
      worker.requests = BoundedChannel.empty _ _ := by
  unfold start at hstart
  split at hstart
  next => cases hstart
  next =>
    rw [Except.ok.injEq] at hstart
    subst hstart
    exact ⟨rfl, rfl, rfl, rfl⟩

end BrokerWorker

namespace BrokerSession

/-- Whatever is retained, or will be, is at the one topic. -/
structure OneTopic (topic : String) (config : MqttBrokerConfig)
    (will : Option MqttMessage) (session : BrokerSession) : Prop where
  config : session.worker.config = config
  lastWill : session.worker.lastWill = will
  queued : ∀ request ∈ session.worker.requests.pending,
    request.RetainedAt topic
  sent : ∀ request ∈ session.wire, request.RetainedAt topic
  retained : ∀ other, other ≠ topic → session.retained other = none

section Keeping

variable {topic : String} {config : MqttBrokerConfig}
  {will : Option MqttMessage}

theorem OneTopic.cut
    {session : BrokerSession} (hone : OneTopic topic config will session)
    (connected : Bool) :
    OneTopic topic config will
      { session with connected := connected, wire := [] } where
  config := hone.config
  lastWill := hone.lastWill
  queued := hone.queued
  sent := List.forall_mem_nil _
  retained := hone.retained

theorem OneTopic.keep
    {session : BrokerSession} (hone : OneTopic topic config will session)
    {message : MqttMessage}
    (hmessage : message.retain = true → message.topic = topic) :
    OneTopic topic config will (session.keep message) := by
  unfold BrokerSession.keep
  split
  next hretain =>
    refine ⟨hone.config, hone.lastWill, hone.queued, hone.sent, ?_⟩
    intro other hother
    have hdistinct : other ≠ message.topic := by
      rw [hmessage hretain]
      exact hother
    dsimp only
    rw [Function.update_of_ne hdistinct]
    exact hone.retained other hother
  next => exact hone

theorem OneTopic.afterLoss
    {session : BrokerSession} (hone : OneTopic topic config will session)
    (hwill : ∀ message, will = some message → message.topic = topic) :
    OneTopic topic config will session.afterLoss := by
  unfold BrokerSession.afterLoss
  rw [hone.lastWill]
  cases will with
  | none => exact hone.cut false
  | some message =>
      apply (hone.cut false).keep
      intro _
      exact hwill message rfl

theorem OneTopic.afterArrival
    {session next : BrokerSession}
    (hone : OneTopic topic config will session)
    (harrival : session.afterArrival session.wire = some next) :
    OneTopic topic config will next := by
  have hsent := hone.sent
  cases hwire : session.wire with
  | nil => simp [hwire, BrokerSession.afterArrival] at harrival
  | cons request rest =>
      rw [hwire] at harrival hsent
      rw [List.forall_mem_cons] at hsent
      cases request with
      | publish message =>
          rw [BrokerSession.afterArrival, Option.some.injEq] at harrival
          subst harrival
          have hread : OneTopic topic config will
              { session with wire := rest } :=
            ⟨hone.config, hone.lastWill, hone.queued, hsent.2, hone.retained⟩
          exact hread.keep hsent.1
      | disconnect =>
          rw [BrokerSession.afterArrival, Option.some.injEq] at harrival
          subst harrival
          exact hone.cut false

variable [MeshcoreRs]

theorem OneTopic.step
    {session next : BrokerSession} {action : RetainedAction}
    {selfInfo : SelfInfoDto}
    (htopic : resolveTopicTemplate config.statusTopic config selfInfo = topic)
    (hwill : ∀ message, will = some message → message.topic = topic)
    (hone : OneTopic topic config will session)
    (hnode : action.ofNode selfInfo)
    (hstep : session.step action = some next) :
    OneTopic topic config will next := by
  cases action with
  | work action =>
      simp only [BrokerSession.step, Option.ite_none_left_eq_some,
        Option.map_eq_some_iff] at hstep
      obtain ⟨_, worker, hworker, rfl⟩ := hstep
      obtain ⟨made, hreact, hmoved, hconfig, hsameWill⟩ :=
        BrokerWorker.pending_of_step hworker
      have hmade := retainedAt_of_react (hnode action rfl) hreact
      rw [hone.config, htopic] at hmade
      have hall : ∀ request ∈ sentBy session.worker action ++
          worker.requests.pending, request.RetainedAt topic := by
        intro request hmem
        exact List.forall_mem_append.mpr ⟨hone.queued, hmade⟩ request
          (hmoved.subset hmem)
      rw [List.forall_mem_append] at hall
      constructor
      · exact hconfig.trans hone.config
      · exact hsameWill.trans hone.lastWill
      · exact hall.2
      · dsimp only
        split
        · exact List.forall_mem_append.mpr ⟨hone.sent, hall.1⟩
        · exact hone.sent
      · exact hone.retained
  | accept =>
      simp only [BrokerSession.step, Option.ite_none_left_eq_some] at hstep
      obtain ⟨_, hstep⟩ := hstep
      have hreconnected : ∀ {before : BrokerSession},
          OneTopic topic config will before →
            OneTopic topic config will { before with connected := true } :=
        fun hbefore => ⟨hbefore.config, hbefore.lastWill, hbefore.queued,
          hbefore.sent, hbefore.retained⟩
      split at hstep <;> cases hstep
      · exact hreconnected (hone.afterLoss hwill)
      · exact hreconnected hone
  | arrive =>
      simp only [BrokerSession.step, Option.ite_none_right_eq_some] at hstep
      exact hone.afterArrival hstep.2
  | lose =>
      simp only [BrokerSession.step, guarded_eq_some_iff] at hstep
      rw [hstep.2]
      exact hone.afterLoss hwill

end Keeping

/-! ### A node which is up -/

/-- What the worker finds while the node is up. -/
def upView (selfInfo : SelfInfoDto) : WorkerView where
  selfInfo := some selfInfo
  meshConnected := true
  deviceInfo := some ⟨"", ""⟩
  nodeStats := none
  now := 0

def upMessage (config : MqttBrokerConfig) (selfInfo : SelfInfoDto) :
    MqttMessage where
  topic := resolveTopicTemplate config.statusTopic config selfInfo
  retain := true
  body := .status (statusMessageJson true selfInfo (some ⟨"", ""⟩) none 0)

theorem publishCurrentStatus_upView
    {config : MqttBrokerConfig} (hhigh : config.enableHighLevelMessages = true)
    (selfInfo : SelfInfoDto) :
    publishCurrentStatus config (upView selfInfo) true =
      [upMessage config selfInfo] := by
  simp [publishCurrentStatus, hhigh, upView, upMessage]

/-- The first connection of a worker whose node is up. -/
def firstStatus (selfInfo : SelfInfoDto) : List RetainedAction :=
  [.accept, .work ⟨upView selfInfo, .connAck⟩,
    .work ⟨upView selfInfo, .pollSent⟩, .arrive]

theorem ofNode_firstStatus (selfInfo : SelfInfoDto) :
    ∀ action ∈ firstStatus selfInfo, action.ofNode selfInfo := by
  intro action hmem worked hworked
  right
  subst hworked
  simp only [firstStatus, List.mem_cons, RetainedAction.work.injEq,
    reduceCtorEq, List.not_mem_nil, or_false, false_or] at hmem
  rcases hmem with rfl | rfl <;> rfl

theorem run_firstStatus [MeshcoreRs]
    {config : MqttBrokerConfig} {startup : BrokerStartup}
    {worker : BrokerWorker} (hhigh : config.enableHighLevelMessages = true)
    (hstart : BrokerWorker.start config startup = .ok worker)
    (selfInfo : SelfInfoDto) :
    ∃ session, run step (start worker) (firstStatus selfInfo) = some session ∧
      session.connected = true ∧ session.worker.lastWill = worker.lastWill ∧
      session.retained = Function.update (fun _ => none)
        (upMessage config selfInfo).topic
        (some (upMessage config selfInfo).body) := by
  obtain ⟨hconfig, hwill, hflags, hrequests⟩ := BrokerWorker.eq_of_start hstart
  have hstatus := publishCurrentStatus_upView hhigh selfInfo
  have haccept : (start worker).step .accept =
      some { start worker with connected := true } := by
    simp [step, start, hflags]
  let greeted := worker.handOver ⟨true, true⟩
    [.publish (upMessage config selfInfo)]
  have hgreeted : worker.step ⟨upView selfInfo, .connAck⟩ = some greeted := by
    have hview : (upView selfInfo).meshConnected = true := rfl
    have hkept : worker.polled .connAck = some worker.requests := by
      simp [BrokerWorker.polled, BrokerFlags.Loses]
    simp [BrokerWorker.step, BrokerWorker.Stuck, hrequests, BrokerFlags.react,
      hconfig, hview, hstatus, publishAll, greeted, BoundedChannel.empty, hkept,
      BrokerWorker.handOver]
  have hqueue : ∃ rest, greeted.requests.receive =
      some (.publish (upMessage config selfInfo), rest) := by
    simp only [greeted, BrokerWorker.handOver, hrequests]
    exact ⟨_, rfl⟩
  have hidle : ¬ greeted.Stuck := by
    simp only [greeted, BrokerWorker.handOver, BrokerWorker.Stuck, hrequests]
    exact not_not.mpr rfl
  obtain ⟨rest, hreceive⟩ := hqueue
  have hpolled : greeted.step ⟨upView selfInfo, .pollSent⟩ =
      some ({ greeted with requests := rest }.handOver ⟨true, true⟩ []) := by
    have hconnected : greeted.flags = ⟨true, true⟩ := rfl
    have htaken : greeted.polled .pollSent = some rest := by
      simp [BrokerWorker.polled, hreceive]
    simp [BrokerWorker.step, hidle, BrokerFlags.react, hconnected, htaken]
  have hsent : sentBy greeted ⟨upView selfInfo, .pollSent⟩ =
      [.publish (upMessage config selfInfo)] := by
    simp [sentBy, hreceive]
  have hnothing : sentBy worker ⟨upView selfInfo, .connAck⟩ = [] := rfl
  let shown : BrokerSession :=
    { worker := { greeted with requests := rest }.handOver ⟨true, true⟩ []
      connected := true
      wire := []
      retained := Function.update (fun _ => none)
        (upMessage config selfInfo).topic
        (some (upMessage config selfInfo).body) }
  refine ⟨shown, ?_, rfl, rfl, rfl⟩
  rw [firstStatus, run_cons_some haccept]
  have hfirst : ({ start worker with connected := true } : BrokerSession).step
      (.work ⟨upView selfInfo, .connAck⟩) =
        some ⟨greeted, true, [], fun _ => none⟩ := by
    simp [step, start, hgreeted, hnothing]
  have hsecond : (⟨greeted, true, [], fun _ => none⟩ : BrokerSession).step
      (.work ⟨upView selfInfo, .pollSent⟩) =
        some ⟨{ greeted with requests := rest }.handOver ⟨true, true⟩ [],
          true, [.publish (upMessage config selfInfo)], fun _ => none⟩ := by
    simp [step, hpolled, hsent]
  rw [run_cons_some hfirst, run_cons_some hsecond]
  rfl

/-- A broker which loses a worker without a goodbye never goes on showing the
node as up exactly if the last will, set as the worker starts, is for the
topic of the node's status. -/
theorem never_left_online_iff [MeshcoreRs]
    {config : MqttBrokerConfig} {startup : BrokerStartup}
    {worker : BrokerWorker} (hhigh : config.enableHighLevelMessages = true)
    (hstart : BrokerWorker.start config startup = .ok worker)
    (selfInfo : SelfInfoDto) :
    (∀ (actions : List RetainedAction) (session : BrokerSession),
      (∀ action ∈ actions, action.ofNode selfInfo) →
      run step (start worker) actions = some session →
      session.connected = true → ¬ session.afterLoss.ShowsOnline) ↔
    resolveTopicTemplateBestEffort config.statusTopic config
        startup.view.selfInfo =
      resolveTopicTemplate config.statusTopic config selfInfo := by
  obtain ⟨hconfig, hwill, _, hrequests⟩ := BrokerWorker.eq_of_start hstart
  have hspoken : worker.lastWill = some {
      topic := resolveTopicTemplateBestEffort config.statusTopic config
        startup.view.selfInfo
      retain := true
      body := .lastWill
        (offlineLwtPayload startup.view.selfInfo startup.view.now) } := by
    rw [hwill, MeshController.lastWill, if_pos hhigh]
  constructor
  · intro hnever
    by_contra hother
    obtain ⟨session, hrun, hconnected, hsameWill, hretained⟩ :=
      run_firstStatus hhigh hstart selfInfo
    apply hnever _ session (ofNode_firstStatus selfInfo) hrun hconnected
    have hdistinct : (upMessage config selfInfo).topic ≠
        resolveTopicTemplateBestEffort config.statusTopic config
          startup.view.selfInfo := fun hsame => hother hsame.symm
    use (upMessage config selfInfo).topic, (upMessage config selfInfo).body
    constructor
    · simp only [afterLoss, hsameWill, hspoken, keep, if_true]
      rw [Function.update_of_ne hdistinct, hretained, Function.update_self]
    · rfl
  · intro hsame actions session hnode hrun _ honline
    have hfirst : OneTopic
        (resolveTopicTemplate config.statusTopic config selfInfo) config
        worker.lastWill (start worker) := by
      constructor
      · exact hconfig
      · rfl
      · simp [start, hrequests]
      · exact List.forall_mem_nil _
      · intro other _
        rfl
    have hone : OneTopic
        (resolveTopicTemplate config.statusTopic config selfInfo) config
        worker.lastWill session := by
      apply invariant_of_run ?_ hfirst
        (MeetsAlong.of_mem hnode (start worker)) hrun
      intro state action next hstate hofNode hstep
      apply hstate.step rfl ?_ hofNode hstep
      intro message hmessage
      rw [hspoken, Option.some.injEq] at hmessage
      rw [← hmessage]
      exact hsame
    obtain ⟨topic, body, hkept, hsays⟩ := honline
    simp only [afterLoss, hone.lastWill, hspoken, keep, if_true] at hkept
    by_cases htopic : topic = resolveTopicTemplateBestEffort
        config.statusTopic config startup.view.selfInfo
    · rw [htopic, Function.update_self, Option.some.injEq] at hkept
      rw [← hkept] at hsays
      cases hsays
    · rw [Function.update_of_ne htopic,
        hone.retained topic (fun heq => htopic (heq.trans hsame.symm))] at hkept
      cases hkept

def hillNode : SelfInfoDto := ⟨"node", "ab", 869, 250, 11, 5, 22, 0, 0⟩

/-- A worker which is started when the node is known. -/
def knownStartup : BrokerStartup where
  waitedSelfInfo := some hillNode
  credentialsError := none
  transportError := none
  view := upView hillNode

theorem never_left_online_iff_known_node :
    ∃ worker,
      BrokerWorker.start (.withDefaults "local" "127.0.0.1") knownStartup =
        .ok worker ∧
      ∀ (actions : List RetainedAction) (session : BrokerSession),
        (∀ action ∈ actions, action.ofNode hillNode) →
        run (@step wireValues) (start worker) actions = some session →
        session.connected = true → ¬ session.afterLoss.ShowsOnline := by
  have hstart : BrokerWorker.start (.withDefaults "local" "127.0.0.1")
      knownStartup = .ok _ := rfl
  refine ⟨_, hstart, ?_⟩
  exact (@never_left_online_iff wireValues _ _ _ rfl hstart hillNode).mpr rfl

end BrokerSession

end MeshController
