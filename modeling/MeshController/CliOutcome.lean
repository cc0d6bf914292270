import MeshController.CliSession

/-!
# The outcome of a command line session

Whatever the other clients, the mesh and the configuration do meanwhile, a
snapshot is the first message after the request which the tool takes for the
outcome only if the command had succeeded when the snapshot was read.
-/

namespace MeshController

open LabelledRun

namespace CliSession

/-! ## Moves outside the connection -/

theorem Sound.afterQueue
    {session : CliSession} (hsound : session.Sound)
    {action : QueueAction} {queue : CommandQueue}
    (hstep : session.queue.step action = some queue) :
    { session with
      queue := queue
      completed := session.queue.completions action ++
        session.completed }.Sound := by
  have hgood := hsound.recorded.accounted
  constructor
  · exact hsound.recorded.afterStep hstep
  · intro command hmem
    exact (hsound.traced command hmem).afterStep hgood hstep
  · refine hsound.staged.continued ⟨Or.inl rfl, ?_, rfl, rfl, rfl, ?_⟩
    · exact (List.append_nil _).symm
    · intro ticket answer hanswer
      exact CommandQueue.answersTo_of_step_of_answered hgood hstep hanswer

theorem Sound.afterElsewhere
    {session : CliSession} (hsound : session.Sound) (daemon : Daemon) :
    { session with
      queue := { session.queue with daemon := daemon } }.Sound := by
  constructor
  · exact hsound.recorded.withDaemon daemon
  · intro command hmem
    exact (hsound.traced command hmem).withDaemon daemon
  · refine hsound.staged.continued ⟨Or.inl rfl, ?_, rfl, rfl, rfl, ?_⟩
    · exact (List.append_nil _).symm
    · exact fun _ _ hanswer => hanswer

/-! ## The handler reads a request -/

theorem recorded_handle
    (session : CliSession)
    (hrecorded : session.queue.Recorded session.completed)
    (message : ClientMessage) :
    (session.handle message).queue.Recorded
      (session.handle message).completed := by
  unfold handle
  split
  · exact hrecorded
  · next cmd _ =>
      exact hrecorded.of_same_execution
        (hrecorded.accounted.afterCalled cmd) rfl rfl

theorem traced_handle
    (session : CliSession) (hgood : session.queue.Accounted)
    (htraced : ∀ command ∈ session.dispatched,
      session.queue.Traced command session.completed)
    (message : ClientMessage) :
    ∀ command ∈ (session.handle message).dispatched,
      (session.handle message).queue.Traced command
        (session.handle message).completed := by
  unfold handle
  split
  · exact htraced
  · next cmd _ =>
      intro command hmem
      rw [Option.mem_some_iff] at hmem
      rw [← hmem]
      exact CommandQueue.traced_called hgood cmd session.completed

theorem Dispatched.afterRead
    {session : CliSession} {request : CliRequest} {command : QueuedCommand}
    (hdispatched : session.Dispatched request command)
    {message : ClientMessage} {rest : List ClientMessage}
    (hrequests : session.toServer = message :: rest) :
    message.command = none ∧
      { session with toServer := rest }.Dispatched request command := by
  constructor
  · apply hdispatched.toServer
    simp [hrequests]
  · refine ⟨hdispatched.dispatched, hdispatched.cmd, ?_⟩
    intro other hmem
    apply hdispatched.toServer
    rw [hrequests]
    exact List.mem_cons_of_mem _ hmem

theorem handle_of_no_command
    (session : CliSession) {message : ClientMessage}
    (hcommand : message.command = none) :
    session.handle message =
      session.tell [.snapshot session.queue.daemon.served] := by
  unfold handle
  rw [hcommand]

theorem handle_of_command
    (session : CliSession) {message : ClientMessage} {cmd : DaemonCommand}
    (hcommand : message.command = some cmd) :
    session.handle message =
      { session with
        queue := session.queue.called cmd
        awaiting := some ⟨session.queue.nextTicket, cmd⟩
        dispatched := some ⟨session.queue.nextTicket, cmd⟩ } := by
  unfold handle
  rw [hcommand]

/-- While the handler does not wait, the next request is either that of the
tool or, after it has been answered, the one for the snapshot. -/
theorem Handling.afterRead
    {session : CliSession} {request : CliRequest}
    (hhandling : session.Handling request)
    (htraced : ∀ command ∈ session.dispatched,
      session.queue.Traced command session.completed)
    {message : ClientMessage} {rest : List ClientMessage}
    (hfree : session.awaiting = none)
    (hrequests : session.toServer = message :: rest) :
    ({ session with toServer := rest }.handle message).Handling request := by
  cases hhandling with
  | unread later htoServer hlater hawaiting hdispatched hverdicts =>
      obtain ⟨rfl, rfl⟩ : message = request.message ∧ rest = later := by
        rw [hrequests] at htoServer
        simpa using htoServer
      rw [handle_of_command _ request.dispatched]
      exact .waiting ⟨session.queue.nextTicket, request.cmd⟩
        ⟨rfl, rfl, hlater⟩ rfl hverdicts
  | waiting command hdispatched hawaiting hverdicts =>
      rw [hfree] at hawaiting
      contradiction
  | refused command answer reason first later hdispatched hawaiting hanswer
      hrefusal hverdicts hfirst =>
      obtain ⟨hcommand, hread⟩ := hdispatched.afterRead hrequests
      rw [handle_of_no_command _ hcommand]
      have hserved := verdicts_tell { session with toServer := rest }
        [.snapshot session.queue.daemon.served]
      have hbefore : { session with toServer := rest }.verdicts =
          first :: later := hverdicts
      rw [hbefore, List.cons_append] at hserved
      exact .refused command answer reason first _
        ⟨hread.dispatched, hread.cmd, hread.toServer⟩ hawaiting hanswer
        hrefusal hserved hfirst
  | succeeded command hdispatched hawaiting hanswer hverdicts =>
      obtain ⟨hcommand, hread⟩ := hdispatched.afterRead hrequests
      rw [handle_of_no_command _ hcommand]
      refine .succeeded command
        ⟨hread.dispatched, hread.cmd, hread.toServer⟩ hawaiting hanswer ?_
      intro sent hmem
      rw [verdicts_tell] at hmem
      rcases List.mem_append.mp hmem with hold | hnew
      · exact hverdicts sent hold
      · have hcompleted : ⟨command, .ok ()⟩ ∈ session.completed :=
          (htraced command hdispatched.dispatched).completed_of_reply hanswer
        obtain ⟨told, htold, rfl⟩ := List.mem_map.mp hnew
        rw [List.mem_singleton.mp (List.mem_filter.mp htold).1]
        exact ⟨⟨_, rfl⟩, hcompleted⟩

theorem Reported.afterRead
    {session : CliSession} {request : CliRequest} {outcome : SentMessage}
    (hreported : session.Reported request outcome)
    {message : ClientMessage} {rest : List ClientMessage}
    (hrequests : session.toServer = message :: rest) :
    ({ session with toServer := rest }.handle message).Reported request
      outcome := by
  obtain ⟨command, hdispatched, hawaiting, houtcome⟩ := hreported
  obtain ⟨hcommand, hread⟩ := hdispatched.afterRead hrequests
  rw [handle_of_no_command _ hcommand]
  exact ⟨command, ⟨hread.dispatched, hread.cmd, hread.toServer⟩, hawaiting,
    houtcome⟩

theorem phase_handle (session : CliSession) (message : ClientMessage) :
    (session.handle message).phase = session.phase := by
  unfold handle
  split <;> rfl

theorem cli_handle (session : CliSession) (message : ClientMessage) :
    (session.handle message).cli = session.cli := by
  unfold handle
  split <;> rfl

theorem listening_iff (session : CliSession) :
    session.listening = true ↔
      session.phase = .serving ∧ session.awaiting = none := by
  simp [listening]

theorem StagedAt.afterRead
    {session : CliSession} {cli : CliPhase} (hstaged : session.StagedAt cli)
    (htraced : ∀ command ∈ session.dispatched,
      session.queue.Traced command session.completed)
    {message : ClientMessage} {rest : List ClientMessage}
    (hfree : session.awaiting = none)
    (hrequests : session.toServer = message :: rest) :
    ({ session with toServer := rest }.handle message).StagedAt cli := by
  have hasked : ¬ session.Unasked := by
    intro hunasked
    rw [hunasked.toServer] at hrequests
    contradiction
  cases cli with
  | connecting => exact absurd hstaged.1 hasked
  | awaitingSnapshot => exact absurd hstaged.1 hasked
  | deciding snapshot => exact absurd hstaged.1 hasked
  | requesting request | awaitingOutcome request =>
      refine ⟨hstaged.1.afterRead htraced hfree hrequests, ?_⟩
      rw [phase_handle]
      exact hstaged.2
  | finished request outcome => exact Reported.afterRead hstaged hrequests
  | stopped => trivial

theorem Sound.afterReadRequest
    {session : CliSession} (hsound : session.Sound)
    {message : ClientMessage} {rest : List ClientMessage}
    (hlistening : session.listening = true)
    (hrequests : session.toServer = message :: rest) :
    ({ session with toServer := rest }.handle message).Sound := by
  obtain ⟨_, hfree⟩ := session.listening_iff.mp hlistening
  constructor
  · exact recorded_handle { session with toServer := rest }
      hsound.recorded message
  · exact traced_handle { session with toServer := rest }
      hsound.recorded.accounted hsound.traced message
  · rw [cli_handle]
    exact hsound.staged.afterRead hsound.traced hfree hrequests

/-! ## The handler learns the outcome -/

/-- Only while the handler waits for its command does it learn anything. -/
theorem Handling.afterReply
    {session : CliSession} {request : CliRequest}
    (hhandling : session.Handling request)
    (htraced : ∀ command ∈ session.dispatched,
      session.queue.Traced command session.completed)
    {command : QueuedCommand} {answer : CommandAnswer}
    {others : List CommandAnswer}
    (hwaits : session.awaiting = some command)
    (hanswers : session.queue.answersTo command.ticket = answer :: others) :
    ({ session with awaiting := none }.tell
      (command.messages session.queue.daemon.telemetry
        answer)).Handling request := by
  cases hhandling with
  | waiting dispatched hdispatched hawaiting hverdicts =>
      obtain rfl : dispatched = command := by
        rw [hwaits, Option.some.injEq] at hawaiting
        exact hawaiting.symm
      have hmutating : dispatched.cmd.isMutating = true := by
        rw [hdispatched.cmd]
        exact request.mutating
      have hanswer : session.queue.answersTo dispatched.ticket = [answer] := by
        rcases (htraced dispatched hdispatched.dispatched).answers with
          hnone | ⟨only, honly, _⟩
        · rw [hnone] at hanswers
          contradiction
        · rw [honly] at hanswers ⊢
          rw [(List.cons.inj hanswers).1]
      have hbefore : { session with awaiting := none }.verdicts = [] :=
        hverdicts
      have htold := verdicts_tell { session with awaiting := none }
        (answer.refusal.toList.map ServerMessage.error)
      rw [hbefore, List.nil_append] at htold
      rw [QueuedCommand.messages_of_mutating hmutating]
      cases hrefusal : answer.refusal with
      | some reason =>
          rw [hrefusal] at htold
          exact .refused dispatched answer reason _ _
            ⟨hdispatched.dispatched, hdispatched.cmd, hdispatched.toServer⟩
            rfl hanswer hrefusal htold rfl
      | none =>
          rw [hrefusal] at htold
          rw [answer.refusal_eq_none_iff.mp hrefusal] at hanswer
          refine .succeeded dispatched
            ⟨hdispatched.dispatched, hdispatched.cmd, hdispatched.toServer⟩
            rfl hanswer ?_
          intro sent hmem
          rw [htold] at hmem
          contradiction
  | unread later htoServer hlater hawaiting hdispatched hverdicts =>
      rw [hwaits] at hawaiting
      contradiction
  | refused dispatched only reason first rest hdispatched hawaiting hanswer
      hrefusal hverdicts hfirst =>
      rw [hwaits] at hawaiting
      contradiction
  | succeeded dispatched hdispatched hawaiting hanswer hverdicts =>
      rw [hwaits] at hawaiting
      contradiction

theorem StagedAt.afterReply
    {session : CliSession} {cli : CliPhase} (hstaged : session.StagedAt cli)
    (htraced : ∀ command ∈ session.dispatched,
      session.queue.Traced command session.completed)
    {command : QueuedCommand} {answer : CommandAnswer}
    {others : List CommandAnswer}
    (hwaits : session.awaiting = some command)
    (hanswers : session.queue.answersTo command.ticket = answer :: others) :
    ({ session with awaiting := none }.tell
      (command.messages session.queue.daemon.telemetry
        answer)).StagedAt cli := by
  have hasked : ¬ session.Unasked := by
    intro hunasked
    rw [hunasked.awaiting] at hwaits
    contradiction
  cases cli with
  | connecting => exact absurd hstaged.1 hasked
  | awaitingSnapshot => exact absurd hstaged.1 hasked
  | deciding snapshot => exact absurd hstaged.1 hasked
  | requesting request | awaitingOutcome request =>
      exact ⟨hstaged.1.afterReply htraced hwaits hanswers, hstaged.2⟩
  | finished request outcome =>
      obtain ⟨_, _, hfree, _⟩ := hstaged
      rw [hwaits] at hfree
      contradiction
  | stopped => trivial

/-! ## The tool moves -/

theorem StagedAt.afterSnapshot
    {session : CliSession} {cli : CliPhase} (hstaged : session.StagedAt cli)
    (haccepted : session.phase = .accepted) :
    ({ session with phase := .greeted }.tell
      [.hello protocolVersion,
        .snapshot session.queue.daemon.served]).StagedAt cli := by
  cases cli with
  | connecting =>
      rw [hstaged.2.1] at haccepted
      contradiction
  | awaitingSnapshot =>
      obtain ⟨hunasked, hnothing, _⟩ := hstaged
      have hbefore : { session with phase := .greeted }.verdicts = [] :=
        hnothing haccepted
      refine ⟨⟨hunasked.toServer, hunasked.awaiting, hunasked.dispatched⟩,
        by simp [tell], ?_⟩
      rw [verdicts_tell, hbefore]
      simp [ServerMessage.isVerdict, List.filter_cons]
  | deciding snapshot => exact absurd haccepted hstaged.2.1
  | requesting request | awaitingOutcome request =>
      exact absurd haccepted hstaged.2
  | finished request outcome =>
      obtain ⟨command, hdispatched, hawaiting, houtcome⟩ := hstaged
      exact ⟨command,
        ⟨hdispatched.dispatched, hdispatched.cmd, hdispatched.toServer⟩,
        hawaiting, houtcome⟩
  | stopped => trivial

theorem verdicts_of_toClient_cons
    {session : CliSession} {sent : SentMessage} {rest : List SentMessage}
    (hmessages : session.toClient = sent :: rest) :
    session.verdicts =
      if sent.message.isVerdict = true then
        sent :: { session with toClient := rest }.verdicts
      else { session with toClient := rest }.verdicts := by
  simp only [verdicts, hmessages, List.filter_cons]

/-- The first message the tool may take for the outcome is the outcome. -/
theorem Handling.reported
    {session : CliSession} {request : CliRequest}
    (hhandling : session.Handling request)
    {sent : SentMessage} {later : List SentMessage}
    (hfirst : session.verdicts = sent :: later)
    (cli : CliPhase) (rest : List SentMessage) :
    { session with cli := cli, toClient := rest }.Reported request sent := by
  cases hhandling with
  | unread _ _ _ _ _ hverdicts =>
      rw [hfirst] at hverdicts
      contradiction
  | waiting command hdispatched hawaiting hverdicts =>
      rw [hfirst] at hverdicts
      contradiction
  | refused command answer reason first others hdispatched hawaiting hanswer
      hrefusal hverdicts hmessage =>
      obtain rfl : sent = first := by
        rw [hfirst] at hverdicts
        exact (List.cons.inj hverdicts).1
      exact ⟨command,
        ⟨hdispatched.dispatched, hdispatched.cmd, hdispatched.toServer⟩,
        hawaiting, Or.inl ⟨answer, reason, hanswer, hrefusal, hmessage⟩⟩
  | succeeded command hdispatched hawaiting hanswer hverdicts =>
      have hserved := hverdicts sent (by simp [hfirst])
      exact ⟨command,
        ⟨hdispatched.dispatched, hdispatched.cmd, hdispatched.toServer⟩,
        hawaiting, Or.inr ⟨hanswer, hserved⟩⟩

theorem StagedAt.afterReceive
    {session : CliSession} {cli : CliPhase} (hstaged : session.StagedAt cli)
    (hreceives : cli.receives = true)
    {sent : SentMessage} {rest : List SentMessage}
    (hmessages : session.toClient = sent :: rest) (now : CliPhase) :
    { session with cli := now, toClient := rest }.StagedAt
      (cli.received sent) := by
  have hsplit := verdicts_of_toClient_cons hmessages
  by_cases hverdict : sent.message.isVerdict = true
  · rw [if_pos hverdict] at hsplit
    cases cli with
    | awaitingSnapshot =>
        obtain ⟨hunasked, haccepted, hlength⟩ := hstaged
        have hnothing : { session with toClient := rest }.verdicts = [] := by
          rw [hsplit, List.length_cons] at hlength
          exact List.eq_nil_of_length_eq_zero (by omega)
        have hgreeted : session.phase ≠ .accepted := by
          intro hphase
          rw [haccepted hphase] at hsplit
          contradiction
        have hstill : { session with cli := now, toClient := rest }.Unasked :=
          ⟨hunasked.toServer, hunasked.awaiting, hunasked.dispatched⟩
        obtain ⟨message, completed⟩ := sent
        cases message with
        | snapshot snapshot => exact ⟨hstill, hgreeted, hnothing⟩
        | error reason =>
            refine ⟨hstill, fun _ => hnothing, ?_⟩
            exact (congrArg List.length hnothing).trans_le (Nat.zero_le _)
        | hello version | event event | packetLog backlog
        | packetLogEntry entry | telemetryResult key telemetry =>
            simp [ServerMessage.isVerdict] at hverdict
    | awaitingOutcome request =>
        have hreported := hstaged.1.reported hsplit now rest
        obtain ⟨message, completed⟩ := sent
        cases message with
        | snapshot snapshot | error reason => exact hreported
        | hello version | event event | packetLog backlog
        | packetLogEntry entry | telemetryResult key telemetry =>
            simp [ServerMessage.isVerdict] at hverdict
    | connecting | deciding snapshot | requesting request
    | finished request outcome | stopped =>
        simp [CliPhase.receives] at hreceives
  · rw [if_neg hverdict] at hsplit
    rw [CliPhase.received_of_not_verdict cli (by simpa using hverdict)]
    exact hstaged.continued
      ⟨Or.inl rfl, (List.append_nil _).symm, rfl, rfl, hsplit.symm,
        fun _ _ hanswer => hanswer⟩

theorem Sound.afterSendCommand
    {session : CliSession} (hsound : session.Sound)
    {snapshot : Snapshot} (hcli : session.cli = .deciding snapshot)
    (request : CliRequest) :
    { session with
      cli := .requesting request
      toServer := session.toServer ++ [request.message] }.Sound := by
  have hstaged := hsound.staged
  rw [hcli] at hstaged
  obtain ⟨hunasked, hphase, hverdicts⟩ := hstaged
  have htoServer : session.toServer ++ [request.message] =
      [request.message] := by
    rw [hunasked.toServer, List.nil_append]
  constructor
  · exact hsound.recorded
  · exact hsound.traced
  · exact ⟨.unread [] htoServer (by simp) hunasked.awaiting
      hunasked.dispatched hverdicts, hphase⟩

theorem Sound.afterRequestSnapshot
    {session : CliSession} (hsound : session.Sound)
    {request : CliRequest} (hcli : session.cli = .requesting request) :
    { session with
      cli := .awaitingOutcome request
      toServer :=
        session.toServer ++ [ClientMessage.requestSnapshot] }.Sound := by
  have hstaged := hsound.staged
  rw [hcli] at hstaged
  obtain ⟨hhandling, hphase⟩ := hstaged
  have hcontinues : session.Continues [ClientMessage.requestSnapshot]
      { session with
        cli := .awaitingOutcome request
        toServer := session.toServer ++ [.requestSnapshot] } :=
    ⟨Or.inl rfl, rfl, rfl, rfl, rfl, fun _ _ hanswer => hanswer⟩
  constructor
  · exact hsound.recorded
  · exact hsound.traced
  · refine ⟨hhandling.continued hcontinues ?_, hphase⟩
    intro message hmem
    rw [List.mem_singleton.mp hmem]
    rfl

/-! ## Runs -/

theorem Sound.afterAccept
    {session : CliSession} (hsound : session.Sound)
    (hcli : session.cli = .connecting) :
    { session with phase := .accepted, cli := .awaitingSnapshot }.Sound := by
  have hstaged := hsound.staged
  rw [hcli] at hstaged
  rcases hstaged with ⟨hunasked, _, hverdicts⟩
  constructor
  · exact hsound.recorded
  · exact hsound.traced
  constructor
  · exact ⟨hunasked.toServer, hunasked.awaiting, hunasked.dispatched⟩
  constructor
  · intro _
    exact hverdicts
  · exact (congrArg List.length hverdicts).trans_le (Nat.zero_le _)

theorem Sound.afterStep
    {session next : CliSession} (hsound : session.Sound)
    {action : CliAction} (hstep : session.step action = some next) :
    next.Sound := by
  cases moves_of_step hstep with
  | queue hqueue => exact hsound.afterQueue hqueue
  | elsewhere daemon => exact hsound.afterElsewhere daemon
  | accept _ hcli => exact hsound.afterAccept hcli
  | sendSnapshot haccepted =>
      exact ⟨hsound.recorded, hsound.traced,
        hsound.staged.afterSnapshot haccepted⟩
  | sendPacketLog backlog hgreeted =>
      refine hsound.continued (continues_tell ?_ rfl) rfl rfl rfl
      right
      simp [hgreeted]
  | forwardEvent | forwardPacket =>
      exact hsound.continued (continues_tell (Or.inl rfl) rfl) rfl rfl rfl
  | readRequest hlistening hrequests =>
      exact hsound.afterReadRequest hlistening hrequests
  | readReply hwaits hanswers =>
      exact ⟨hsound.recorded, hsound.traced,
        hsound.staged.afterReply hsound.traced hwaits hanswers⟩
  | hangUp hconnected =>
      refine hsound.continued ⟨Or.inr ⟨hconnected, by simp⟩, ?_, rfl, rfl,
        rfl, fun _ _ hanswer => hanswer⟩ rfl rfl rfl
      exact (List.append_nil _).symm
  | receive hreceives hmessages =>
      exact ⟨hsound.recorded, hsound.traced,
        hsound.staged.afterReceive hreceives hmessages _⟩
  | sendCommand request hcli => exact hsound.afterSendCommand hcli request
  | requestSnapshot hcli => exact hsound.afterRequestSnapshot hcli
  | stop => exact ⟨hsound.recorded, hsound.traced, trivial⟩

theorem sound_of_run
    {daemon : Daemon} {actions : List CliAction} {final : CliSession}
    (hrun : run step (start daemon) actions = some final) : final.Sound :=
  invariant_of_every_step (fun _ _ _ hsound hstep => hsound.afterStep hstep)
    (start_sound daemon) hrun

/-! ## When a snapshot was read -/

/-- The messages the tool has not read, or has taken for the outcome. -/
def underway (session : CliSession) : List SentMessage :=
  match session.cli with
  | .finished _ outcome => outcome :: session.toClient
  | _ => session.toClient

/-- The message is put together in the state; a snapshot is the one which is
served there. -/
def PutTogether (session : CliSession) (sent : SentMessage) : Prop :=
  sent.completed = session.completed ∧
    ∀ snapshot, sent.message = .snapshot snapshot →
      snapshot = session.queue.daemon.served

theorem mem_underway_of_mem_toClient
    {session : CliSession} {sent : SentMessage}
    (hmem : sent ∈ session.toClient) : sent ∈ session.underway := by
  unfold underway
  split
  · exact List.mem_cons_of_mem _ hmem
  · exact hmem

theorem underway_tell
    (session : CliSession) (messages : List ServerMessage)
    {sent : SentMessage} (hmem : sent ∈ (session.tell messages).underway) :
    sent ∈ session.underway ∨
      ∃ message ∈ messages, sent = ⟨message, session.completed⟩ := by
  have hnew : sent ∈ session.toClient ++ messages.map (fun message =>
      ⟨message, session.completed⟩) →
        sent ∈ session.underway ∨
          ∃ message ∈ messages, sent = ⟨message, session.completed⟩ := by
    intro hsent
    rcases List.mem_append.mp hsent with hold | htold
    · exact Or.inl (mem_underway_of_mem_toClient hold)
    · obtain ⟨message, hmessage, rfl⟩ := List.mem_map.mp htold
      exact Or.inr ⟨message, hmessage, rfl⟩
  cases hcli : session.cli with
  | finished request outcome =>
      simp only [underway, tell, hcli] at hmem hnew ⊢
      rcases List.mem_cons.mp hmem with hfirst | hrest
      · rw [hfirst]
        exact Or.inl List.mem_cons_self
      · exact hnew hrest
  | connecting | awaitingSnapshot | deciding snapshot | requesting request
  | awaitingOutcome request | stopped =>
      simp only [underway, tell, hcli] at hmem hnew ⊢
      exact hnew hmem

theorem putTogether_or_mem_of_tell
    (session : CliSession) {messages : List ServerMessage}
    (hserved : ∀ message ∈ messages, ∀ snapshot,
      message = .snapshot snapshot → snapshot = session.queue.daemon.served)
    {sent : SentMessage} (hmem : sent ∈ (session.tell messages).underway) :
    sent ∈ session.underway ∨ session.PutTogether sent := by
  rcases session.underway_tell messages hmem with
    hold | ⟨message, hmessage, rfl⟩
  · exact Or.inl hold
  · exact Or.inr ⟨rfl, hserved message hmessage⟩

theorem ne_snapshot_of_mem_messages
    {command : QueuedCommand} {telemetry : String → Option TelemetryDto}
    {answer : CommandAnswer} {message : ServerMessage}
    (hmem : message ∈ command.messages telemetry answer) :
    ∀ snapshot, message ≠ .snapshot snapshot := by
  cases answer with
  | reply result => exact command.cmd.ne_snapshot_of_mem_answer hmem
  | timedOut =>
      rw [List.mem_singleton.mp hmem]
      simp

theorem underway_received
    {session : CliSession} {sent : SentMessage} {rest : List SentMessage}
    (hmessages : session.toClient = sent :: rest)
    (hreceives : session.cli.receives = true) {other : SentMessage}
    (hmem : other ∈ { session with
      cli := session.cli.received sent
      toClient := rest }.underway) : other ∈ session.underway := by
  apply mem_underway_of_mem_toClient
  rw [hmessages]
  obtain ⟨message, completed⟩ := sent
  cases hcli : session.cli with
  | connecting | deciding snapshot | requesting request
  | finished request outcome | stopped =>
      simp [CliPhase.receives, hcli] at hreceives
  | awaitingSnapshot =>
      rw [hcli] at hmem
      cases message <;> exact List.mem_cons_of_mem _ hmem
  | awaitingOutcome request =>
      rw [hcli] at hmem
      cases message with
      | snapshot snapshot | error reason => exact hmem
      | hello version | event event | packetLog backlog
      | packetLogEntry entry | telemetryResult key telemetry =>
          exact List.mem_cons_of_mem _ hmem

theorem putTogether_or_mem_of_step
    {session next : CliSession} {action : CliAction}
    (hstep : session.step action = some next)
    {sent : SentMessage} (hmem : sent ∈ next.underway) :
    sent ∈ session.underway ∨ session.PutTogether sent := by
  cases moves_of_step hstep with
  | queue | elsewhere | hangUp => exact Or.inl hmem
  | accept | sendCommand | requestSnapshot | stop =>
      exact Or.inl (mem_underway_of_mem_toClient hmem)
  | sendSnapshot =>
      apply putTogether_or_mem_of_tell
        { session with phase := .greeted } ?_ hmem
      simp [eq_comm]
  | sendPacketLog backlog =>
      apply putTogether_or_mem_of_tell
        { session with phase := .serving } ?_ hmem
      simp
  | forwardEvent | forwardPacket =>
      apply putTogether_or_mem_of_tell session ?_ hmem
      simp
  | @readRequest message rest =>
      cases hcommand : message.command with
      | none =>
          rw [handle_of_no_command _ hcommand] at hmem
          apply putTogether_or_mem_of_tell
            { session with toServer := rest } ?_ hmem
          simp [eq_comm]
      | some cmd =>
          rw [handle_of_command _ hcommand] at hmem
          exact Or.inl hmem
  | readReply =>
      apply putTogether_or_mem_of_tell
        { session with awaiting := none } ?_ hmem
      intro message hmessage snapshot hsnapshot
      exact absurd hsnapshot (ne_snapshot_of_mem_messages hmessage snapshot)
  | receive hreceives hmessages =>
      exact Or.inl (underway_received hmessages hreceives hmem)

/-- Every message was put together in some state of the run. -/
theorem exists_putTogether_of_run
    {daemon : Daemon} {actions : List CliAction} {final : CliSession}
    (hrun : run step (start daemon) actions = some final)
    {sent : SentMessage} (hmem : sent ∈ final.underway) :
    ∃ before state, before <+: actions ∧
      run step (start daemon) before = some state ∧
      state.PutTogether sent := by
  induction actions using List.reverseRecOn generalizing final with
  | nil =>
      rw [run_nil, Option.some.injEq] at hrun
      rw [← hrun] at hmem
      contradiction
  | append_singleton earlier action ih =>
      obtain ⟨state, hearlier, hlast⟩ := run_append_eq_some_iff.mp hrun
      obtain ⟨next, hstep, hnext⟩ := run_cons_eq_some_iff.mp hlast
      rw [run_nil, Option.some.injEq] at hnext
      subst next
      rcases putTogether_or_mem_of_step hstep hmem with hold | hnow
      · obtain ⟨before, read, hbefore, hread, hput⟩ := ih hearlier hold
        exact ⟨before, read, hbefore.trans (List.prefix_append _ _), hread,
          hput⟩
      · exact ⟨earlier, state, List.prefix_append _ _, hearlier, hnow⟩

/-! ## The outcome -/

/-- The mesh task came to the conclusion that the command fails. -/
def Refused (session : CliSession) (command : QueuedCommand) : Prop :=
  ∃ reason, ⟨command, .error reason⟩ ∈ session.completed

/-- The handler has given the command up. -/
def GivenUp (session : CliSession) (command : QueuedCommand) : Prop :=
  .timedOut ∈ session.queue.answersTo command.ticket

/-- If the tool takes a snapshot for the outcome, the mesh task had completed
its command with success when that snapshot was read; if the mesh task refused
the command, or has not run it in time, the outcome is an error. -/
theorem outcome_sound
    {daemon : Daemon} {actions : List CliAction} {final : CliSession}
    (hrun : run step (start daemon) actions = some final)
    {request : CliRequest} {outcome : SentMessage}
    (hfinished : final.cli = .finished request outcome) :
    ∃ command, final.dispatched = some command ∧
      command.cmd = request.cmd ∧
      (∀ snapshot, outcome.message = .snapshot snapshot →
        ∃ before atRead, before <+: actions ∧
          run step (start daemon) before = some atRead ∧
          snapshot = atRead.queue.daemon.served ∧
          ⟨command, .ok ()⟩ ∈ atRead.completed) ∧
      (final.Refused command ∨ final.GivenUp command →
        ∃ reason, outcome.message = .error reason) := by
  have hsound := sound_of_run hrun
  have hreported := hsound.staged
  rw [hfinished] at hreported
  obtain ⟨command, hdispatched, _, houtcome⟩ := hreported
  refine ⟨command, hdispatched.dispatched, hdispatched.cmd, ?_, ?_⟩
  · intro snapshot hsnapshot
    have hmem : outcome ∈ final.underway := by simp [underway, hfinished]
    obtain ⟨before, atRead, hbefore, hread, hcompleted, hserved⟩ :=
      exists_putTogether_of_run hrun hmem
    refine ⟨before, atRead, hbefore, hread, hserved snapshot hsnapshot, ?_⟩
    rw [← hcompleted]
    rcases houtcome with ⟨_, reason, _, _, herror⟩ | ⟨_, _, hsucceeded⟩
    · rw [herror] at hsnapshot
      contradiction
    · exact hsucceeded
  · intro hfailed
    rcases houtcome with ⟨_, reason, _, _, herror⟩ | ⟨hanswer, _, _⟩
    · exact ⟨reason, herror⟩
    · have hcompleted := (hsound.traced command
        hdispatched.dispatched).completed_of_reply hanswer
      rcases hfailed with ⟨reason, hrefused⟩ | htimedOut
      · have hsame := hsound.recorded.result_unique hrefused hcompleted rfl
        simp at hsame
      · have hgivenUp : .timedOut ∈ final.queue.answersTo command.ticket :=
          htimedOut
        rw [hanswer] at hgivenUp
        simp at hgivenUp

def superviseHilltop : CliRequest where
  message := .setRepeaterStatus "0a1b2c3d4e5f" "hilltop" (some .supervised)
  cmd := .setRepeaterStatus "0a1b2c3d4e5f" "hilltop" (some .supervised)
  dispatched := rfl
  mutating := rfl

/-- Up to the request for a snapshot. -/
def askedSession : List CliAction :=
  [.queue .connect, .accept, .sendSnapshot, .sendPacketLog [], .receive,
    .receive, .sendCommand superviseHilltop, .readRequest, .requestSnapshot]

/-- The message a session has taken for its outcome. -/
def outcomeMessage (session : CliSession) : Option ServerMessage :=
  match session.cli with
  | .finished _ outcome => some outcome.message
  | _ => none

def endsWithSnapshot (session : CliSession) : Bool :=
  match session.outcomeMessage with
  | some (.snapshot _) => true
  | _ => false

theorem exists_finished_of_endsWithSnapshot
    {session : CliSession} (hends : session.endsWithSnapshot = true) :
    ∃ request outcome snapshot,
      session.cli = .finished request outcome ∧
        outcome.message = .snapshot snapshot := by
  unfold endsWithSnapshot outcomeMessage at hends
  cases hcli : session.cli with
  | finished request outcome =>
      simp only [hcli] at hends
      cases hmessage : outcome.message with
      | snapshot snapshot => exact ⟨request, outcome, snapshot, rfl, hmessage⟩
      | hello version | event event | packetLog backlog
      | packetLogEntry entry | error reason | telemetryResult key telemetry =>
          simp [hmessage] at hends
  | connecting | awaitingSnapshot | deciding snapshot | requesting request
  | awaitingOutcome request | stopped => simp [hcli] at hends

/-- The repeater is a contact of the companion, and the file can be saved. -/
def supervisedSession : List CliAction :=
  askedSession ++
    [.queue (.takeCommand (.offline [knownContact])), .queue .meshStep,
      .queue .meshStep, .queue .meshStep, .queue .meshStep,
      .queue .meshStep, .readReply, .readRequest, .receive, .receive]

theorem outcome_sound_supervised :
    ∃ final request outcome snapshot command,
      run step (start .bare) supervisedSession = some final ∧
      final.cli = .finished request outcome ∧
      outcome.message = .snapshot snapshot ∧
      ∃ before atRead, before <+: supervisedSession ∧
        run step (start .bare) before = some atRead ∧
        snapshot = atRead.queue.daemon.served ∧
        ⟨command, .ok ()⟩ ∈ atRead.completed := by
  have hends : (run step (start .bare) supervisedSession).any
      endsWithSnapshot = true := rfl
  obtain ⟨final, hrun, hsnapshot⟩ := (Option.any_eq_true _ _).mp hends
  obtain ⟨request, outcome, snapshot, hcli, hmessage⟩ :=
    exists_finished_of_endsWithSnapshot hsnapshot
  obtain ⟨command, _, _, hread, _⟩ :=
    @outcome_sound .bare supervisedSession final hrun request outcome hcli
  exact ⟨final, request, outcome, snapshot, command, hrun, hcli, hmessage,
    hread snapshot hmessage⟩

example :
    (run step (start .bare) (askedSession ++
      [.queue (.timeOut 0), .readReply, .readRequest, .receive,
        .receive])).bind outcomeMessage = some (.error timedOutReason) := rfl

end CliSession

end MeshController
