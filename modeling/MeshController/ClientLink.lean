import MeshController.BroadcastChannel
import MeshController.LabelledRun
import MeshController.MeshCommands
import MeshController.TuiApp

/-!
# One client connection

The daemon's handler of a client, the client itself and what is under way
between them, in both directions.  The contact list a client will end up with
is the one of the last snapshot under way to it, unless something under way
still makes it ask for a new one.
-/

namespace MeshController

/-- `accepted` has subscribed to the events and sent nothing yet, `greeted`
has sent the snapshot and not yet the packet backlog. -/
inductive LinkPhase where
  | away
  | accepted
  | greeted
  | serving
deriving DecidableEq

/-- `awaiting` is the ticket of the command whose reply the handler waits
for. -/
structure ClientLink where
  phase : LinkPhase
  eventsRx : BroadcastReceiver MeshEvent
  toClient : List ServerMessage
  toServer : List ClientMessage
  awaiting : Option ℕ
  app : App
deriving DecidableEq

inductive LinkAction where
  | accept
  | sendSnapshot
  | sendPacketLog (backlog : List PacketLogEntry)
  | forwardEvent
  | forwardPacket (entry : PacketLogEntry)
  | answerSnapshot
  | timeOut
  | receiveMessage
  | press (message : ClientMessage)
  | hangUp (unread unsent : ℕ)
deriving DecidableEq

namespace ClientLink

def eventCapacity : ℕ := 256

def unconnected : ClientLink where
  phase := .away
  eventsRx := BroadcastReceiver.subscribe _
  toClient := []
  toServer := []
  awaiting := none
  app := App.new

def tell (link : ClientLink) (messages : List ServerMessage) : ClientLink :=
  { link with toClient := link.toClient ++ messages }

def listening (link : ClientLink) : Bool :=
  link.phase = .serving && link.awaiting.isNone

/-- A broadcast reaches the clients which are connected. -/
def hear (link : ClientLink) (event : MeshEvent) : ClientLink :=
  if link.phase = .away then link
  else { link with eventsRx := link.eventsRx.deliver eventCapacity event }

/-- A reply reaches the handler only while it still waits for it. -/
def answered (link : ClientLink) (ticket : ℕ)
    (messages : List ServerMessage) : ClientLink :=
  if link.awaiting = some ticket then
    { link with awaiting := none }.tell messages
  else link

/-- `served` is the snapshot a request is answered with at this moment.  When
the connection breaks, the front of what was under way has been read and the
end of what the user typed has not been sent. -/
def step (link : ClientLink) (served : Snapshot) :
    LinkAction → Option ClientLink
  | .accept =>
      if link.phase = .away then
        some { link with
          phase := .accepted, eventsRx := BroadcastReceiver.subscribe _ }
      else none
  | .sendSnapshot =>
      if link.phase = .accepted then
        some ({ link with phase := .greeted }.tell
          [.hello protocolVersion, .snapshot served])
      else none
  | .sendPacketLog backlog =>
      if link.phase = .greeted then
        some ({ link with phase := .serving }.tell [.packetLog backlog])
      else none
  | .forwardEvent =>
      if link.listening = true then
        link.eventsRx.receive.map fun received =>
          { link with eventsRx := received.2 }.tell [.event received.1]
      else none
  | .forwardPacket entry =>
      if link.listening = true then some (link.tell [.packetLogEntry entry])
      else none
  | .answerSnapshot =>
      match link.listening, link.toServer with
      | true, .requestSnapshot :: rest =>
          some ({ link with toServer := rest }.tell [.snapshot served])
      | _, _ => none
  | .timeOut =>
      if link.awaiting.isSome = true then
        some ({ link with awaiting := none }.tell [.error timedOutReason])
      else none
  | .receiveMessage =>
      match link.toClient with
      | [] => none
      | message :: rest =>
          let (app, requests) := link.app.applyServerMessage message
          some { link with
            app := app
            toClient := rest
            toServer := link.toServer ++ requests }
  | .press message =>
      some { link with toServer := link.toServer ++ [message] }
  | .hangUp unread unsent =>
      if link.phase = .away then none
      else
        some { link with
          phase := .away
          eventsRx := BroadcastReceiver.subscribe _
          toClient := link.toClient.take unread
          toServer := link.toServer.drop (link.toServer.length - unsent)
          awaiting := none }

/-! ## What the client will end up with -/

/-- The snapshot once everything under way to the client is read. -/
def lastSnapshot (link : ClientLink) : Snapshot :=
  (link.app.afterMessages link.toClient).snapshot

end ClientLink

/-- No command is answered with a snapshot. -/
theorem DaemonCommand.ne_snapshot_of_mem_answer
    (cmd : DaemonCommand) {telemetry : String → Option TelemetryDto}
    {result : Except String Unit} {message : ServerMessage}
    (hmem : message ∈ cmd.answer telemetry result) :
    ∀ snapshot, message ≠ .snapshot snapshot := by
  intro snapshot
  cases result with
  | error reason =>
      have hmessage : message = .error reason := by
        simpa [DaemonCommand.answer] using hmem
      simp [hmessage]
  | ok value =>
      cases cmd with
      | requestTelemetry publicKeyPrefixHex =>
          simp only [DaemonCommand.answer, List.mem_map] at hmem
          rcases hmem with ⟨reading, _, hmessage⟩
          simp [← hmessage]
      | removeContact key | setRepeaterStatus key name status
      | addRepeater key name managed | requestRepeaterDetail key
      | refreshNodeStats | signData data | resyncObserverConfig =>
          simp [DaemonCommand.answer] at hmem

/-- The messages which make the client ask for a snapshot. -/
def ServerMessage.causesRequest : ServerMessage → Bool
  | .event announced => needsFreshSnapshot announced.kind
  | _ => false

namespace ClientLink

/-- A snapshot which has not been read yet is certain to be sent. -/
def refetches (link : ClientLink) : Bool :=
  link.phase = .accepted ||
    link.eventsRx.backlog.any (fun event => needsFreshSnapshot event.kind) ||
    link.toClient.any ServerMessage.causesRequest ||
    link.toServer.any fun message => message = .requestSnapshot

/-- The client holds the value of the field, or will, as far as it has missed
nothing. -/
def Tracks {Field : Type*} (field : Snapshot → Field) (link : ClientLink)
    (value : Field) : Prop :=
  link.phase ≠ .away → link.eventsRx.lagged = false →
    link.refetches = true ∨ field link.lastSnapshot = value

theorem refetches_iff (link : ClientLink) :
    link.refetches = true ↔
      link.phase = .accepted ∨
        (∃ event ∈ link.eventsRx.backlog,
          needsFreshSnapshot event.kind = true) ∨
        (∃ message ∈ link.toClient, message.causesRequest = true) ∨
        .requestSnapshot ∈ link.toServer := by
  simp [refetches, or_assoc]

section Fields

variable {Field : Type*} {field : Snapshot → Field} {value : Field}

/-- Messages other than a snapshot keep the one the client will end up
with. -/
theorem lastSnapshot_tell
    (link : ClientLink) {message : ServerMessage}
    (hother : ∀ snapshot, message ≠ .snapshot snapshot) :
    (link.tell [message]).lastSnapshot = link.lastSnapshot := by
  unfold lastSnapshot tell
  rw [App.afterMessages_append, App.afterMessages_cons,
    App.afterMessages_nil]
  exact App.snapshot_applyServerMessage _ message hother

theorem lastSnapshot_tell_snapshot
    (link : ClientLink) (served : Snapshot) :
    (link.tell [.snapshot served]).lastSnapshot = served := by
  unfold lastSnapshot tell
  rw [App.afterMessages_append]
  rfl

/-- A link whose client already will, or still may have to, see more. -/
theorem Tracks.mono
    {link next : ClientLink} (htracks : link.Tracks field value)
    (hphase : next.phase ≠ .away → link.phase ≠ .away)
    (hlagged : next.eventsRx.lagged = false → link.eventsRx.lagged = false)
    (hrefetches : link.refetches = true → next.refetches = true)
    (hlast : next.lastSnapshot = link.lastSnapshot) :
    next.Tracks field value := by
  intro hconnected hkept
  rw [hlast]
  rcases htracks (hphase hconnected) (hlagged hkept) with hmore | hsame
  · exact Or.inl (hrefetches hmore)
  · exact Or.inr hsame

theorem Tracks.afterTell
    {link : ClientLink} (htracks : link.Tracks field value)
    {message : ServerMessage}
    (hother : ∀ snapshot, message ≠ .snapshot snapshot) :
    (link.tell [message]).Tracks field value := by
  refine htracks.mono id id ?_ (lastSnapshot_tell link hother)
  intro hmore
  rw [refetches_iff] at hmore ⊢
  rcases hmore with haccepted | hevent | ⟨other, hmem, hcauses⟩ | hasked
  · exact Or.inl haccepted
  · exact Or.inr (Or.inl hevent)
  · have hlater : other ∈ link.toClient ++ [message] := by simp [hmem]
    exact Or.inr (Or.inr (Or.inl ⟨other, hlater, hcauses⟩))
  · exact Or.inr (Or.inr (Or.inr hasked))

theorem Tracks.afterTells
    {link : ClientLink} (htracks : link.Tracks field value)
    (messages : List ServerMessage)
    (hother : ∀ message ∈ messages, ∀ snapshot,
      message ≠ .snapshot snapshot) :
    (link.tell messages).Tracks field value := by
  induction messages generalizing link with
  | nil =>
      have hsame : link.tell [] = link := by simp [tell]
      rw [hsame]
      exact htracks
  | cons message rest ih =>
      have hsplit : link.tell (message :: rest) =
          (link.tell [message]).tell rest := by
        simp [tell]
      have hfirst := htracks.afterTell (hother message (by simp))
      rw [hsplit]
      apply ih hfirst
      intro later hmem
      exact hother later (by simp [hmem])

/-- Once a snapshot is served, the client is on its way to it. -/
theorem tracks_tell_snapshot
    (link : ClientLink) (served : Snapshot) :
    (link.tell [.snapshot served]).Tracks field (field served) := by
  intro _ _
  right
  rw [lastSnapshot_tell_snapshot]

theorem Tracks.afterHear
    {link : ClientLink} (htracks : link.Tracks field value)
    (event : MeshEvent) :
    (link.hear event).Tracks field value := by
  by_cases haway : link.phase = .away
  · have hsame : link.hear event = link := by simp [hear, haway]
    rw [hsame]
    exact htracks
  · have hheard : link.hear event =
        { link with
          eventsRx := link.eventsRx.deliver eventCapacity event } := by
      simp [hear, haway]
    rw [hheard]
    intro _ hkept
    have hbacklog := BroadcastReceiver.backlog_of_deliver hkept
    refine htracks.mono id BroadcastReceiver.lagged_of_deliver ?_ rfl haway
      hkept
    intro hmore
    rw [refetches_iff] at hmore ⊢
    rcases hmore with haccepted | ⟨other, hmem, hneeds⟩ | hlater
    · exact Or.inl haccepted
    · right
      left
      refine ⟨other, ?_, hneeds⟩
      rw [hbacklog]
      simp [hmem]
    · exact Or.inr (Or.inr hlater)

/-- After the announcement of a change every connected client will ask. -/
theorem tracks_hear_of_needsFreshSnapshot
    (link : ClientLink) {event : MeshEvent}
    (hneeds : needsFreshSnapshot event.kind = true) :
    (link.hear event).Tracks field value := by
  intro hconnected _
  left
  have hphase : link.phase ≠ .away := by
    intro haway
    simp [hear, haway] at hconnected
  have hmem := BroadcastReceiver.message_mem_backlog_deliver link.eventsRx
    eventCapacity event
  rw [refetches_iff]
  right
  left
  refine ⟨event, ?_, hneeds⟩
  simpa [hear, hphase] using hmem

/-! ## Steps of a connection -/

theorem requestSnapshot_mem_of_causesRequest
    (app : App) {message : ServerMessage}
    (hcauses : message.causesRequest = true) :
    .requestSnapshot ∈ (app.applyServerMessage message).2 := by
  cases message with
  | event announced =>
      have hneeds : needsFreshSnapshot announced.kind = true := hcauses
      simp [App.applyServerMessage, hneeds]
  | hello version | snapshot snapshot | packetLog backlog
  | packetLogEntry entry | error reason | telemetryResult key telemetry =>
      simp [ServerMessage.causesRequest] at hcauses

theorem Tracks.afterForwardEvent
    {link : ClientLink} (htracks : link.Tracks field value)
    {event : MeshEvent} {rx : BroadcastReceiver MeshEvent}
    (hreceive : link.eventsRx.receive = some (event, rx)) :
    ({ link with eventsRx := rx }.tell [.event event]).Tracks field value := by
  obtain ⟨hbacklog, hlagged⟩ :=
    BroadcastReceiver.receive_eq_some_iff.mp hreceive
  have hkept : rx.lagged = false → link.eventsRx.lagged = false := by
    intro hnext
    rw [← hlagged]
    exact hnext
  refine htracks.mono id hkept ?_ (lastSnapshot_tell _ (by simp))
  intro hmore
  rw [refetches_iff] at hmore ⊢
  rw [hbacklog] at hmore
  rcases hmore with haccepted | ⟨other, hmem, hneeds⟩ |
    ⟨message, hmem, hcauses⟩ | hasked
  · exact Or.inl haccepted
  · rcases List.mem_cons.mp hmem with hfirst | hrest
    · right
      right
      left
      refine ⟨.event event, by simp [tell], ?_⟩
      rw [← hfirst]
      exact hneeds
    · exact Or.inr (Or.inl ⟨other, hrest, hneeds⟩)
  · right
    right
    left
    exact ⟨message, by simp [tell, hmem], hcauses⟩
  · exact Or.inr (Or.inr (Or.inr hasked))

theorem Tracks.afterReceive
    {link : ClientLink} (htracks : link.Tracks field value)
    {message : ServerMessage} {rest : List ServerMessage}
    (hmessages : link.toClient = message :: rest) :
    { link with
      app := (link.app.applyServerMessage message).1
      toClient := rest
      toServer :=
        link.toServer ++ (link.app.applyServerMessage message).2
      }.Tracks field value := by
  refine htracks.mono id id ?_ ?_
  · intro hmore
    rw [refetches_iff] at hmore ⊢
    rw [hmessages] at hmore
    rcases hmore with haccepted | hevent | ⟨other, hmem, hcauses⟩ | hasked
    · exact Or.inl haccepted
    · exact Or.inr (Or.inl hevent)
    · rcases List.mem_cons.mp hmem with hfirst | hrest
      · rw [hfirst] at hcauses
        have hasks :=
          requestSnapshot_mem_of_causesRequest link.app hcauses
        right
        right
        right
        exact List.mem_append_right _ hasks
      · exact Or.inr (Or.inr (Or.inl ⟨other, hrest, hcauses⟩))
    · right
      right
      right
      exact List.mem_append_left _ hasked
  · unfold lastSnapshot
    rw [hmessages, App.afterMessages_cons]

theorem Tracks.afterPress
    {link : ClientLink} (htracks : link.Tracks field value)
    (message : ClientMessage) :
    { link with
      toServer := link.toServer ++ [message] }.Tracks field value := by
  refine htracks.mono id id ?_ rfl
  intro hmore
  rw [refetches_iff] at hmore ⊢
  rcases hmore with haccepted | hevent | hmessage | hasked
  · exact Or.inl haccepted
  · exact Or.inr (Or.inl hevent)
  · exact Or.inr (Or.inr (Or.inl hmessage))
  · right
    right
    right
    exact List.mem_append_left _ hasked

theorem Tracks.afterDispatch
    {link : ClientLink} (htracks : link.Tracks field value)
    {message : ClientMessage} {rest : List ClientMessage}
    (hrequests : link.toServer = message :: rest)
    (hother : message ≠ .requestSnapshot) (ticket : Option ℕ) :
    { link with toServer := rest, awaiting := ticket }.Tracks field value := by
  refine htracks.mono id id ?_ rfl
  intro hmore
  rw [refetches_iff] at hmore ⊢
  rw [hrequests] at hmore
  rcases hmore with haccepted | hevent | hmessage | hasked
  · exact Or.inl haccepted
  · exact Or.inr (Or.inl hevent)
  · exact Or.inr (Or.inr (Or.inl hmessage))
  · rcases List.mem_cons.mp hasked with hfirst | hrest
    · exact absurd hfirst.symm hother
    · exact Or.inr (Or.inr (Or.inr hrest))

theorem Tracks.afterAnswered
    {link : ClientLink} (htracks : link.Tracks field value) (ticket : ℕ)
    (cmd : DaemonCommand) (telemetry : String → Option TelemetryDto)
    (result : Except String Unit) :
    (link.answered ticket
      (cmd.answer telemetry result)).Tracks field value := by
  unfold answered
  by_cases hwaits : link.awaiting = some ticket
  · rw [if_pos hwaits]
    have hfree : { link with awaiting := none }.Tracks field value := htracks
    exact hfree.afterTells _ fun message hmem =>
      cmd.ne_snapshot_of_mem_answer hmem
  · rw [if_neg hwaits]
    exact htracks

theorem Tracks.afterStep
    {link next : ClientLink} {served : Snapshot} {action : LinkAction}
    (htracks : link.Tracks field (field served))
    (hstep : link.step served action = some next) :
    next.Tracks field (field served) := by
  cases action with
  | accept =>
      rcases LabelledRun.guarded_eq_some_iff.mp hstep with ⟨_, rfl⟩
      intro _ _
      left
      simp [refetches]
  | sendSnapshot =>
      rcases LabelledRun.guarded_eq_some_iff.mp hstep with ⟨_, rfl⟩
      have hsplit : { link with phase := .greeted }.tell
          [.hello protocolVersion, .snapshot served] =
            ({ link with phase := .greeted }.tell
              [.hello protocolVersion]).tell [.snapshot served] := by
        simp [tell]
      rw [hsplit]
      exact tracks_tell_snapshot _ served
  | sendPacketLog backlog =>
      rcases LabelledRun.guarded_eq_some_iff.mp hstep with ⟨hgreeted, rfl⟩
      have hserving : { link with phase := .serving }.Tracks field
          (field served) := by
        refine htracks.mono (by simp [hgreeted]) id ?_ rfl
        intro hmore
        simpa [refetches, hgreeted] using hmore
      exact hserving.afterTell (by simp)
  | forwardEvent =>
      simp only [step, Option.ite_none_right_eq_some,
        Option.map_eq_some_iff] at hstep
      rcases hstep with ⟨_, received, hreceive, hnext⟩
      rw [← hnext]
      exact htracks.afterForwardEvent hreceive
  | forwardPacket entry =>
      rcases LabelledRun.guarded_eq_some_iff.mp hstep with ⟨_, rfl⟩
      exact htracks.afterTell (by simp)
  | answerSnapshot =>
      simp only [step] at hstep
      split at hstep
      next rest hlistening hrequests =>
        rw [Option.some.injEq] at hstep
        rw [← hstep]
        exact tracks_tell_snapshot _ served
      next => contradiction
  | timeOut =>
      rcases LabelledRun.guarded_eq_some_iff.mp hstep with ⟨_, rfl⟩
      have hfree : { link with awaiting := none }.Tracks field
          (field served) := htracks
      exact hfree.afterTell (by simp)
  | receiveMessage =>
      simp only [step] at hstep
      cases hmessages : link.toClient with
      | nil => simp [hmessages] at hstep
      | cons message rest =>
          simp only [hmessages, Option.some.injEq] at hstep
          rw [← hstep]
          exact htracks.afterReceive hmessages
  | press message =>
      simp only [step, Option.some.injEq] at hstep
      rw [← hstep]
      exact htracks.afterPress message
  | hangUp unread unsent =>
      simp only [step, Option.ite_none_left_eq_some,
        Option.some.injEq] at hstep
      rw [← hstep.2]
      intro hconnected
      exact absurd rfl hconnected

/-- Nothing is under way in either direction. -/
structure Delivered (link : ClientLink) : Prop where
  events : link.eventsRx.backlog = []
  messages : link.toClient = []
  requests : link.toServer = []

theorem Tracks.eq_of_delivered
    {link : ClientLink} (htracks : link.Tracks field value)
    (hdelivered : link.Delivered)
    (hserving : link.phase = .serving)
    (hkept : link.eventsRx.lagged = false) :
    field link.app.snapshot = value := by
  have hconnected : link.phase ≠ .away := by simp [hserving]
  have hnothing : link.refetches = false := by
    simp [refetches, hserving, hdelivered.events, hdelivered.messages,
      hdelivered.requests]
  have hlast : field link.lastSnapshot = value := by
    rcases htracks hconnected hkept with hmore | hsame
    · rw [hnothing] at hmore
      contradiction
    · exact hsame
  simpa [lastSnapshot, hdelivered.messages] using hlast

end Fields

end ClientLink

end MeshController
