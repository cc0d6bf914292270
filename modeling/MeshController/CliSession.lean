import MeshController.ClientLink
import MeshController.CommandCompletions

/-!
# Command line sessions

A one-off command of the command line tool waits for the first snapshot, sends
one mutating request and then a request for a snapshot, and takes the first
error or snapshot which follows for the outcome.  Success is not acknowledged:
the tool relies on the daemon handling one connection in order.
-/

namespace MeshController

open LabelledRun

/-- The one request of a session: it becomes a mutating command. -/
structure CliRequest where
  message : ClientMessage
  cmd : DaemonCommand
  dispatched : message.command = some cmd
  mutating : cmd.isMutating = true

/-- A message on its way to the tool.  `completed` is what the mesh task had
completed when the message was put together. -/
structure SentMessage where
  message : ServerMessage
  completed : List Completion

/-- `deciding` holds the first snapshot: from it the tool finds the contact,
and perhaps asks the user. -/
inductive CliPhase where
  | connecting
  | awaitingSnapshot
  | deciding (snapshot : Snapshot)
  | requesting (request : CliRequest)
  | awaitingOutcome (request : CliRequest)
  | finished (request : CliRequest) (outcome : SentMessage)
  | stopped

namespace CliPhase

def receives : CliPhase → Bool
  | .awaitingSnapshot => true
  | .awaitingOutcome _ => true
  | _ => false

/-- Every other message is skipped. -/
def received (cli : CliPhase) (sent : SentMessage) : CliPhase :=
  match cli, sent.message with
  | .awaitingSnapshot, .snapshot snapshot => .deciding snapshot
  | .awaitingOutcome request, .error _ => .finished request sent
  | .awaitingOutcome request, .snapshot _ => .finished request sent
  | _, _ => cli

end CliPhase

/-- The daemon, its handler of the tool's connection, the tool, and what is
under way between them.  `awaiting` is the command whose reply the handler
waits for, `dispatched` the last command it has sent, and `completed` what
the mesh task has completed, newest first. -/
structure CliSession where
  queue : CommandQueue
  completed : List Completion
  phase : LinkPhase
  awaiting : Option QueuedCommand
  dispatched : Option QueuedCommand
  toClient : List SentMessage
  toServer : List ClientMessage
  cli : CliPhase

/-- `queue` is any move of the mesh task, of another client or of a broker
worker.  With `elsewhere` anything else changes the daemon: a reload, an event
of the mesh, a new mesh connection.  Which events and packets the handler has
to forward is left open. -/
inductive CliAction where
  | queue (action : QueueAction)
  | elsewhere (daemon : Daemon)
  | accept
  | sendSnapshot
  | sendPacketLog (backlog : List PacketLogEntry)
  | forwardEvent (event : MeshEvent)
  | forwardPacket (entry : PacketLogEntry)
  | readRequest
  | readReply
  | hangUp
  | receive
  | sendCommand (request : CliRequest)
  | requestSnapshot
  | stop

/-- What the handler sends once it has stopped waiting. -/
def QueuedCommand.messages
    (command : QueuedCommand) (telemetry : String → Option TelemetryDto) :
    CommandAnswer → List ServerMessage
  | .reply result => command.cmd.answer telemetry result
  | .timedOut => [.error timedOutReason]

namespace CliSession

def start (daemon : Daemon) : CliSession where
  queue := .start daemon
  completed := []
  phase := .away
  awaiting := none
  dispatched := none
  toClient := []
  toServer := []
  cli := .connecting

def tell (session : CliSession) (messages : List ServerMessage) :
    CliSession :=
  { session with
    toClient := session.toClient ++ messages.map fun message =>
      { message := message, completed := session.completed } }

def listening (session : CliSession) : Bool :=
  session.phase = .serving && session.awaiting.isNone

/-- A request for a snapshot is the only one which is not a command. -/
def handle (session : CliSession) (message : ClientMessage) : CliSession :=
  match message.command with
  | none => session.tell [.snapshot session.queue.daemon.served]
  | some cmd =>
      let command : QueuedCommand := ⟨session.queue.nextTicket, cmd⟩
      { session with
        queue := session.queue.called cmd
        awaiting := some command
        dispatched := some command }

/-- The connection may break at any time.  The tool then stops, whatever is
still under way to it. -/
def step (session : CliSession) : CliAction → Option CliSession
  | .queue action =>
      (session.queue.step action).map fun next =>
        { session with
          queue := next
          completed := session.queue.completions action ++
            session.completed }
  | .elsewhere daemon =>
      some { session with queue := { session.queue with daemon := daemon } }
  | .accept =>
      match session.phase, session.cli with
      | .away, .connecting =>
          some { session with phase := .accepted, cli := .awaitingSnapshot }
      | _, _ => none
  | .sendSnapshot =>
      if session.phase = .accepted then
        some ({ session with phase := .greeted }.tell
          [.hello protocolVersion, .snapshot session.queue.daemon.served])
      else none
  | .sendPacketLog backlog =>
      if session.phase = .greeted then
        some ({ session with phase := .serving }.tell [.packetLog backlog])
      else none
  | .forwardEvent event =>
      if session.listening = true then some (session.tell [.event event])
      else none
  | .forwardPacket entry =>
      if session.listening = true then
        some (session.tell [.packetLogEntry entry])
      else none
  | .readRequest =>
      match session.listening, session.toServer with
      | true, message :: rest =>
          some ({ session with toServer := rest }.handle message)
      | _, _ => none
  | .readReply =>
      match session.awaiting with
      | none => none
      | some command =>
          match session.queue.answersTo command.ticket with
          | [] => none
          | answer :: _ =>
              some ({ session with awaiting := none }.tell
                (command.messages session.queue.daemon.telemetry answer))
  | .hangUp =>
      if session.phase ≠ .away ∧ session.awaiting = none then
        some { session with phase := .away }
      else none
  | .receive =>
      match session.cli.receives, session.toClient with
      | true, sent :: rest =>
          some { session with
            cli := session.cli.received sent
            toClient := rest }
      | _, _ => none
  | .sendCommand request =>
      match session.cli with
      | .deciding _ =>
          some { session with
            cli := .requesting request
            toServer := session.toServer ++ [request.message] }
      | _ => none
  | .requestSnapshot =>
      match session.cli with
      | .requesting request =>
          some { session with
            cli := .awaitingOutcome request
            toServer := session.toServer ++ [.requestSnapshot] }
      | _ => none
  | .stop =>
      match session.cli with
      | .finished _ _ => none
      | _ => some { session with cli := .stopped }

/-- What a session can do, with what each move needs. -/
inductive Moves (session : CliSession) : CliAction → CliSession → Prop where
  | queue {action : QueueAction} {next : CommandQueue}
      (hqueue : session.queue.step action = some next) :
      Moves session (.queue action)
        { session with
          queue := next
          completed := session.queue.completions action ++
            session.completed }
  | elsewhere (daemon : Daemon) :
      Moves session (.elsewhere daemon)
        { session with queue := { session.queue with daemon := daemon } }
  | accept (hphase : session.phase = .away)
      (hcli : session.cli = .connecting) :
      Moves session .accept
        { session with phase := .accepted, cli := .awaitingSnapshot }
  | sendSnapshot (hphase : session.phase = .accepted) :
      Moves session .sendSnapshot
        ({ session with phase := .greeted }.tell
          [.hello protocolVersion, .snapshot session.queue.daemon.served])
  | sendPacketLog (backlog : List PacketLogEntry)
      (hphase : session.phase = .greeted) :
      Moves session (.sendPacketLog backlog)
        ({ session with phase := .serving }.tell [.packetLog backlog])
  | forwardEvent (event : MeshEvent) (hlistening : session.listening = true) :
      Moves session (.forwardEvent event) (session.tell [.event event])
  | forwardPacket (entry : PacketLogEntry)
      (hlistening : session.listening = true) :
      Moves session (.forwardPacket entry)
        (session.tell [.packetLogEntry entry])
  | readRequest {message : ClientMessage} {rest : List ClientMessage}
      (hlistening : session.listening = true)
      (hrequests : session.toServer = message :: rest) :
      Moves session .readRequest
        ({ session with toServer := rest }.handle message)
  | readReply {command : QueuedCommand} {answer : CommandAnswer}
      {others : List CommandAnswer}
      (hwaits : session.awaiting = some command)
      (hanswers :
        session.queue.answersTo command.ticket = answer :: others) :
      Moves session .readReply
        ({ session with awaiting := none }.tell
          (command.messages session.queue.daemon.telemetry answer))
  | hangUp (hconnected : session.phase ≠ .away)
      (hidle : session.awaiting = none) :
      Moves session .hangUp { session with phase := .away }
  | receive {sent : SentMessage} {rest : List SentMessage}
      (hreceives : session.cli.receives = true)
      (hmessages : session.toClient = sent :: rest) :
      Moves session .receive
        { session with cli := session.cli.received sent, toClient := rest }
  | sendCommand (request : CliRequest) {snapshot : Snapshot}
      (hcli : session.cli = .deciding snapshot) :
      Moves session (.sendCommand request)
        { session with
          cli := .requesting request
          toServer := session.toServer ++ [request.message] }
  | requestSnapshot {request : CliRequest}
      (hcli : session.cli = .requesting request) :
      Moves session .requestSnapshot
        { session with
          cli := .awaitingOutcome request
          toServer := session.toServer ++ [.requestSnapshot] }
  | stop : Moves session .stop { session with cli := .stopped }

theorem moves_of_step
    {session next : CliSession} {action : CliAction}
    (hstep : session.step action = some next) :
    session.Moves action next := by
  cases action with
  | queue action =>
      simp only [step, Option.map_eq_some_iff] at hstep
      rcases hstep with ⟨queue, hqueue, rfl⟩
      exact .queue hqueue
  | elsewhere daemon =>
      simp only [step, Option.some.injEq] at hstep
      subst next
      exact .elsewhere daemon
  | accept =>
      simp only [step] at hstep
      split at hstep
      next hphase hcli =>
        rw [Option.some.injEq] at hstep
        subst next
        exact .accept hphase hcli
      next => contradiction
  | sendSnapshot =>
      rcases LabelledRun.guarded_eq_some_iff.mp hstep with ⟨haccepted, rfl⟩
      exact .sendSnapshot haccepted
  | sendPacketLog backlog =>
      rcases LabelledRun.guarded_eq_some_iff.mp hstep with ⟨hgreeted, rfl⟩
      exact .sendPacketLog backlog hgreeted
  | forwardEvent event =>
      rcases LabelledRun.guarded_eq_some_iff.mp hstep with ⟨hlistening, rfl⟩
      exact .forwardEvent event hlistening
  | forwardPacket entry =>
      rcases LabelledRun.guarded_eq_some_iff.mp hstep with ⟨hlistening, rfl⟩
      exact .forwardPacket entry hlistening
  | readRequest =>
      simp only [step] at hstep
      split at hstep
      next message rest hlistening hrequests =>
        rw [Option.some.injEq] at hstep
        subst next
        exact .readRequest hlistening hrequests
      next => contradiction
  | readReply =>
      simp only [step] at hstep
      split at hstep
      next => contradiction
      next command hwaits =>
        split at hstep
        next => contradiction
        next answer others hanswers =>
          rw [Option.some.injEq] at hstep
          subst next
          exact .readReply hwaits hanswers
  | hangUp =>
      rcases LabelledRun.guarded_eq_some_iff.mp hstep with
        ⟨⟨hconnected, hidle⟩, rfl⟩
      exact .hangUp hconnected hidle
  | receive =>
      simp only [step] at hstep
      split at hstep
      next sent rest hreceives hmessages =>
        rw [Option.some.injEq] at hstep
        subst next
        exact .receive hreceives hmessages
      next => contradiction
  | sendCommand request =>
      simp only [step] at hstep
      split at hstep
      next snapshot hcli =>
        rw [Option.some.injEq] at hstep
        subst next
        exact .sendCommand request hcli
      next => contradiction
  | requestSnapshot =>
      simp only [step] at hstep
      split at hstep
      next request hcli =>
        rw [Option.some.injEq] at hstep
        subst next
        exact .requestSnapshot hcli
      next => contradiction
  | stop =>
      simp only [step] at hstep
      split at hstep
      next => contradiction
      next =>
        rw [Option.some.injEq] at hstep
        subst next
        exact .stop

end CliSession

/-! ## What the handler tells about an answer -/

/-- The error an answer is reported as. -/
def CommandAnswer.refusal : CommandAnswer → Option String
  | .reply (.ok _) => none
  | .reply (.error reason) => some reason
  | .timedOut => some timedOutReason

theorem CommandAnswer.refusal_eq_none_iff (answer : CommandAnswer) :
    answer.refusal = none ↔ answer = .reply (.ok ()) := by
  cases answer with
  | timedOut => simp [refusal]
  | reply result =>
      cases result with
      | error reason => simp [refusal]
      | ok value => simp [refusal]

/-- Of a mutating command only the failure is reported. -/
theorem QueuedCommand.messages_of_mutating
    {command : QueuedCommand} (hmutating : command.cmd.isMutating = true)
    (telemetry : String → Option TelemetryDto) (answer : CommandAnswer) :
    command.messages telemetry answer =
      answer.refusal.toList.map ServerMessage.error := by
  obtain ⟨ticket, cmd⟩ := command
  cases answer with
  | timedOut => rfl
  | reply result =>
      cases result with
      | error reason => rfl
      | ok value =>
          cases cmd with
          | removeContact key | setRepeaterStatus key name status
          | addRepeater key name managed => rfl
          | requestTelemetry key | requestRepeaterDetail key
          | refreshNodeStats | signData data | resyncObserverConfig =>
              simp [DaemonCommand.isMutating] at hmutating

/-- The messages the tool may take for an outcome. -/
def ServerMessage.isVerdict : ServerMessage → Bool
  | .snapshot _ => true
  | .error _ => true
  | _ => false

/-- The tool skips what is not an outcome. -/
theorem CliPhase.received_of_not_verdict
    (cli : CliPhase) {sent : SentMessage}
    (hother : sent.message.isVerdict = false) : cli.received sent = cli := by
  obtain ⟨message, completed⟩ := sent
  cases message with
  | snapshot snapshot | error reason =>
      simp [ServerMessage.isVerdict] at hother
  | hello version | event event | packetLog backlog | packetLogEntry entry
  | telemetryResult key telemetry => cases cli <;> rfl

namespace CliSession

def verdicts (session : CliSession) : List SentMessage :=
  session.toClient.filter fun sent => sent.message.isVerdict

theorem verdicts_tell
    (session : CliSession) (messages : List ServerMessage) :
    (session.tell messages).verdicts =
      session.verdicts ++
        (messages.filter ServerMessage.isVerdict).map fun message =>
          { message := message, completed := session.completed } := by
  simp only [verdicts, tell, List.filter_append, List.filter_map]
  rfl

/-- The tool has sent nothing yet. -/
structure Unasked (session : CliSession) : Prop where
  toServer : session.toServer = []
  awaiting : session.awaiting = none
  dispatched : session.dispatched = none

/-- The handler has turned the request of the tool into `command`, and will
not send another command. -/
structure Dispatched (request : CliRequest) (command : QueuedCommand)
    (session : CliSession) : Prop where
  dispatched : session.dispatched = some command
  cmd : command.cmd = request.cmd
  toServer : ∀ message ∈ session.toServer, message.command = none

/-- How far the request has come, and what of it is under way to the tool. -/
inductive Handling (request : CliRequest) (session : CliSession) : Prop where
  | unread (later : List ClientMessage)
      (htoServer : session.toServer = request.message :: later)
      (hlater : ∀ message ∈ later, message.command = none)
      (hawaiting : session.awaiting = none)
      (hdispatched : session.dispatched = none)
      (hverdicts : session.verdicts = [])
  | waiting (command : QueuedCommand)
      (hdispatched : session.Dispatched request command)
      (hawaiting : session.awaiting = some command)
      (hverdicts : session.verdicts = [])
  | refused (command : QueuedCommand) (answer : CommandAnswer)
      (reason : String) (first : SentMessage) (rest : List SentMessage)
      (hdispatched : session.Dispatched request command)
      (hawaiting : session.awaiting = none)
      (hanswer : session.queue.answersTo command.ticket = [answer])
      (hrefusal : answer.refusal = some reason)
      (hverdicts : session.verdicts = first :: rest)
      (hfirst : first.message = .error reason)
  | succeeded (command : QueuedCommand)
      (hdispatched : session.Dispatched request command)
      (hawaiting : session.awaiting = none)
      (hanswer : session.queue.answersTo command.ticket = [.reply (.ok ())])
      (hverdicts : ∀ sent ∈ session.verdicts,
        (∃ snapshot, sent.message = .snapshot snapshot) ∧
          ⟨command, .ok ()⟩ ∈ sent.completed)

/-- The outcome the tool has read is the one its command had. -/
def Reported (request : CliRequest) (outcome : SentMessage)
    (session : CliSession) : Prop :=
  ∃ command, session.Dispatched request command ∧ session.awaiting = none ∧
    ((∃ answer reason,
      session.queue.answersTo command.ticket = [answer] ∧
        answer.refusal = some reason ∧ outcome.message = .error reason) ∨
    (session.queue.answersTo command.ticket = [.reply (.ok ())] ∧
      (∃ snapshot, outcome.message = .snapshot snapshot) ∧
      ⟨command, .ok ()⟩ ∈ outcome.completed))

/-- The first snapshot is sent once, and read before the request is sent. -/
def StagedAt (session : CliSession) : CliPhase → Prop
  | .connecting =>
      session.Unasked ∧ session.phase = .away ∧ session.verdicts = []
  | .awaitingSnapshot =>
      session.Unasked ∧ (session.phase = .accepted → session.verdicts = []) ∧
        session.verdicts.length ≤ 1
  | .deciding _ =>
      session.Unasked ∧ session.phase ≠ .accepted ∧ session.verdicts = []
  | .requesting request =>
      session.Handling request ∧ session.phase ≠ .accepted
  | .awaitingOutcome request =>
      session.Handling request ∧ session.phase ≠ .accepted
  | .finished request outcome => session.Reported request outcome
  | .stopped => True

structure Sound (session : CliSession) : Prop where
  recorded : session.queue.Recorded session.completed
  traced : ∀ command ∈ session.dispatched,
    session.queue.Traced command session.completed
  staged : session.StagedAt session.cli

theorem start_sound (daemon : Daemon) : (start daemon).Sound := by
  have hunasked : (start daemon).Unasked := ⟨rfl, rfl, rfl⟩
  constructor
  · exact CommandQueue.start_recorded daemon
  · intro command hmem
    contradiction
  · exact ⟨hunasked, rfl, rfl⟩

/-! ## Moves which decide nothing -/

/-- Between the two states the handler has read no request and no reply, and
nothing the tool may take for an outcome is on its way which was not before.
The tool may have sent `later`. -/
structure Continues (later : List ClientMessage)
    (session next : CliSession) : Prop where
  phase : next.phase = session.phase ∨
    session.phase ≠ .away ∧ next.phase ≠ .accepted
  toServer : next.toServer = session.toServer ++ later
  awaiting : next.awaiting = session.awaiting
  dispatched : next.dispatched = session.dispatched
  verdicts : next.verdicts = session.verdicts
  answers : ∀ ticket answer, session.queue.answersTo ticket = [answer] →
    next.queue.answersTo ticket = [answer]

section Continuing

variable {session next : CliSession} {later : List ClientMessage}
  {request : CliRequest}

theorem Unasked.continued
    (hunasked : session.Unasked) (hcontinues : session.Continues [] next) :
    next.Unasked := by
  constructor
  · rw [hcontinues.toServer, hunasked.toServer, List.append_nil]
  · rw [hcontinues.awaiting, hunasked.awaiting]
  · rw [hcontinues.dispatched, hunasked.dispatched]

theorem Dispatched.continued
    {command : QueuedCommand} (hdispatched : session.Dispatched request command)
    (hcontinues : session.Continues later next)
    (hlater : ∀ message ∈ later, message.command = none) :
    next.Dispatched request command := by
  constructor
  · rw [hcontinues.dispatched, hdispatched.dispatched]
  · exact hdispatched.cmd
  · intro message hmem
    rw [hcontinues.toServer] at hmem
    rcases List.mem_append.mp hmem with hold | hnew
    · exact hdispatched.toServer message hold
    · exact hlater message hnew

theorem Handling.continued
    (hhandling : session.Handling request)
    (hcontinues : session.Continues later next)
    (hlater : ∀ message ∈ later, message.command = none) :
    next.Handling request := by
  cases hhandling with
  | unread earlier htoServer hearlier hawaiting hdispatched hverdicts =>
      refine .unread (earlier ++ later) ?_ ?_ ?_ ?_ ?_
      · rw [hcontinues.toServer, htoServer, List.cons_append]
      · intro message hmem
        rcases List.mem_append.mp hmem with hold | hnew
        · exact hearlier message hold
        · exact hlater message hnew
      · rw [hcontinues.awaiting, hawaiting]
      · rw [hcontinues.dispatched, hdispatched]
      · rw [hcontinues.verdicts, hverdicts]
  | waiting command hdispatched hawaiting hverdicts =>
      refine .waiting command (hdispatched.continued hcontinues hlater) ?_ ?_
      · rw [hcontinues.awaiting, hawaiting]
      · rw [hcontinues.verdicts, hverdicts]
  | refused command answer reason first rest hdispatched hawaiting hanswer
      hrefusal hverdicts hfirst =>
      refine .refused command answer reason first rest
        (hdispatched.continued hcontinues hlater) ?_
        (hcontinues.answers _ _ hanswer) hrefusal ?_ hfirst
      · rw [hcontinues.awaiting, hawaiting]
      · rw [hcontinues.verdicts, hverdicts]
  | succeeded command hdispatched hawaiting hanswer hverdicts =>
      refine .succeeded command (hdispatched.continued hcontinues hlater) ?_
        (hcontinues.answers _ _ hanswer) ?_
      · rw [hcontinues.awaiting, hawaiting]
      · rw [hcontinues.verdicts]
        exact hverdicts

theorem Reported.continued
    {outcome : SentMessage} (hreported : session.Reported request outcome)
    (hcontinues : session.Continues later next)
    (hlater : ∀ message ∈ later, message.command = none) :
    next.Reported request outcome := by
  obtain ⟨command, hdispatched, hawaiting, houtcome⟩ := hreported
  refine ⟨command, hdispatched.continued hcontinues hlater, ?_, ?_⟩
  · rw [hcontinues.awaiting, hawaiting]
  · rcases houtcome with ⟨answer, reason, hanswer, hfailed⟩ |
      ⟨hanswer, hsucceeded⟩
    · exact Or.inl
        ⟨answer, reason, hcontinues.answers _ _ hanswer, hfailed⟩
    · exact Or.inr ⟨hcontinues.answers _ _ hanswer, hsucceeded⟩

theorem Continues.not_accepted
    (hcontinues : session.Continues later next)
    (hphase : session.phase ≠ .accepted) : next.phase ≠ .accepted := by
  rcases hcontinues.phase with hsame | ⟨_, hother⟩
  · rw [hsame]
    exact hphase
  · exact hother

theorem StagedAt.continued
    {cli : CliPhase} (hstaged : session.StagedAt cli)
    (hcontinues : session.Continues [] next) : next.StagedAt cli := by
  cases cli with
  | connecting =>
      obtain ⟨hunasked, haway, hverdicts⟩ := hstaged
      refine ⟨hunasked.continued hcontinues, ?_, ?_⟩
      · rcases hcontinues.phase with hsame | ⟨hconnected, _⟩
        · rw [hsame, haway]
        · exact absurd haway hconnected
      · rw [hcontinues.verdicts, hverdicts]
  | awaitingSnapshot =>
      obtain ⟨hunasked, haccepted, hverdicts⟩ := hstaged
      refine ⟨hunasked.continued hcontinues, ?_, ?_⟩
      · intro hphase
        rcases hcontinues.phase with hsame | ⟨_, hother⟩
        · rw [hcontinues.verdicts]
          exact haccepted (hsame ▸ hphase)
        · exact absurd hphase hother
      · rw [hcontinues.verdicts]
        exact hverdicts
  | deciding snapshot =>
      obtain ⟨hunasked, hphase, hverdicts⟩ := hstaged
      refine ⟨hunasked.continued hcontinues,
        hcontinues.not_accepted hphase, ?_⟩
      rw [hcontinues.verdicts, hverdicts]
  | requesting request | awaitingOutcome request =>
      exact ⟨hstaged.1.continued hcontinues (by simp),
        hcontinues.not_accepted hstaged.2⟩
  | finished request outcome =>
      exact Reported.continued hstaged hcontinues (by simp)
  | stopped => trivial

end Continuing

theorem continues_tell
    {session : CliSession} {phase : LinkPhase}
    (hphase : phase = session.phase ∨
      session.phase ≠ .away ∧ phase ≠ .accepted)
    {message : ServerMessage} (hother : message.isVerdict = false) :
    session.Continues []
      ({ session with phase := phase }.tell [message]) := by
  constructor
  · exact hphase
  · exact (List.append_nil _).symm
  · rfl
  · rfl
  · rw [verdicts_tell]
    simp [hother]
    rfl
  · exact fun _ _ hanswer => hanswer

/-- A move after which the handler and the tool are where they were. -/
theorem Sound.continued
    {session next : CliSession} (hsound : session.Sound)
    (hcontinues : session.Continues [] next)
    (hqueue : next.queue = session.queue)
    (hcompleted : next.completed = session.completed)
    (hcli : next.cli = session.cli) : next.Sound := by
  constructor
  · rw [hqueue, hcompleted]
    exact hsound.recorded
  · rw [hqueue, hcompleted, hcontinues.dispatched]
    exact hsound.traced
  · rw [hcli]
    exact hsound.staged.continued hcontinues

end CliSession

end MeshController
