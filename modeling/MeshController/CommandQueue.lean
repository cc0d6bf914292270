import MeshController.BoundedChannel
import MeshController.LabelledRun
import MeshController.MeshCommands

/-!
# The command queue

Client handlers, broker workers and reloads put commands into one bounded
queue, and wait for the reply with a timeout which starts when the command is
in the queue.  The mesh task takes commands only while it is connected.
Nothing withdraws a command whose sender has given up.
-/

namespace MeshController

open LabelledRun

/-- How long the sender of a command waits for the reply, in seconds; a reload
does not wait. -/
def DaemonCommand.replyTimeoutSecs : DaemonCommand → Option ℕ
  | .removeContact .. => some 10
  | .setRepeaterStatus .. => some 10
  | .addRepeater .. => some 10
  | .requestTelemetry .. => some 60
  | .requestRepeaterDetail .. => some 90
  | .refreshNodeStats => some 5
  | .signData .. => some 30
  | .resyncObserverConfig => none

/-- Broker workers are aborted when a reload changes their broker. -/
def DaemonCommand.sentByWorker : DaemonCommand → Bool
  | .refreshNodeStats => true
  | .signData .. => true
  | _ => false

structure QueuedCommand where
  ticket : ℕ
  cmd : DaemonCommand
deriving DecidableEq

inductive CommandAnswer where
  | reply (result : Except String Unit)
  | timedOut

structure Execution where
  command : QueuedCommand
  script : List MeshStep

def commandCapacity : ℕ := 8

/-- `awaiting` are the commands whose senders have no answer yet; `answers`,
`taken` and `effects` are logs, newest first.  `effects` has the ticket of
every step which changed the configuration, the companion's contacts or the
snapshot. -/
structure CommandQueue where
  daemon : Daemon
  connected : Bool
  channel : BoundedChannel QueuedCommand commandCapacity
  nextTicket : ℕ
  awaiting : List QueuedCommand
  executing : Option Execution
  answers : List (ℕ × CommandAnswer)
  taken : List ℕ
  effects : List ℕ

inductive QueueAction where
  | call (cmd : DaemonCommand)
  | timeOut (ticket : ℕ)
  | abort (ticket : ℕ)
  | connect
  | disconnect
  | takeCommand (view : CommandView)
  | meshStep

namespace CommandQueue

def start (daemon : Daemon) : CommandQueue where
  daemon := daemon
  connected := false
  channel := .empty _ _
  nextTicket := 0
  awaiting := []
  executing := none
  answers := []
  taken := []
  effects := []

/-- The mesh task is between two commands. -/
def free (state : CommandQueue) : Bool :=
  match state.executing with
  | none => true
  | some execution => execution.script.isEmpty

def awaits (state : CommandQueue) (ticket : ℕ) : Bool :=
  state.awaiting.any fun command => command.ticket = ticket

/-- The sender is still in `send`, before its timeout has started. -/
def sending (state : CommandQueue) (ticket : ℕ) : Bool :=
  state.channel.waiting.any fun command => command.ticket = ticket

def stopAwaiting (state : CommandQueue) (ticket : ℕ) : CommandQueue :=
  { state with
    awaiting := state.awaiting.filter fun command =>
      command.ticket ≠ ticket }

def answered (state : CommandQueue) (ticket : ℕ) (answer : CommandAnswer) :
    CommandQueue :=
  { state.stopAwaiting ticket with
    answers := (ticket, answer) :: state.answers }

def called (state : CommandQueue) (cmd : DaemonCommand) : CommandQueue :=
  { state with
    channel := state.channel.send ⟨state.nextTicket, cmd⟩
    nextTicket := state.nextTicket + 1
    awaiting :=
      if cmd.replyTimeoutSecs.isSome then
        ⟨state.nextTicket, cmd⟩ :: state.awaiting
      else state.awaiting }

def changed (before after : Daemon) : Bool :=
  before.config ≠ after.config ||
    before.companionContacts ≠ after.companionContacts ||
    before.snapshot ≠ after.snapshot

def advanced (state : CommandQueue) (command : QueuedCommand)
    (next : MeshStep) (rest : List MeshStep) : CommandQueue :=
  { state with
    daemon := state.daemon.afterStep next
    executing := some { command := command, script := rest }
    effects :=
      if changed state.daemon (state.daemon.afterStep next) then
        command.ticket :: state.effects
      else state.effects }

/-- A reply to a sender which has given up is dropped. -/
def performed (state : CommandQueue) (command : QueuedCommand)
    (next : MeshStep) (rest : List MeshStep) : CommandQueue :=
  match next with
  | .reply result =>
      if state.awaits command.ticket then
        (state.advanced command next rest).answered command.ticket
          (.reply result)
      else state.advanced command next rest
  | _ => state.advanced command next rest

def step (state : CommandQueue) : QueueAction → Option CommandQueue
  | .call cmd => some (state.called cmd)
  | .timeOut ticket =>
      if state.awaits ticket = true ∧ state.sending ticket = false then
        some (state.answered ticket .timedOut)
      else none
  | .abort ticket =>
      if (state.awaiting.any fun command =>
          command.ticket = ticket && command.cmd.sentByWorker) = true then
        some { state.stopAwaiting ticket with
          channel := state.channel.cancelWaiting fun command =>
            command.ticket ≠ ticket }
      else none
  | .connect =>
      if state.connected = false then some { state with connected := true }
      else none
  | .disconnect =>
      if state.connected = true ∧ state.free = true then
        some { state with connected := false }
      else none
  | .takeCommand view =>
      if state.connected = true ∧ state.free = true then
        state.channel.receive.map fun received =>
          { state with
            channel := received.2
            executing := some {
              command := received.1
              script := handleCommandSteps state.daemon view received.1.cmd }
            taken := received.1.ticket :: state.taken }
      else none
  | .meshStep =>
      match state.executing with
      | some ⟨command, next :: rest⟩ => some (state.performed command next rest)
      | _ => none

/-- What can happen to the queue, with what each move needs.  What the mesh
task takes is the front of the queue. -/
inductive Moves (state : CommandQueue) : QueueAction → CommandQueue → Prop where
  | call (cmd : DaemonCommand) : Moves state (.call cmd) (state.called cmd)
  | timeOut {ticket : ℕ} (hawaits : state.awaits ticket = true)
      (hsent : state.sending ticket = false) :
      Moves state (.timeOut ticket) (state.answered ticket .timedOut)
  | abort {ticket : ℕ}
      (hworker : (state.awaiting.any fun command =>
        command.ticket = ticket && command.cmd.sentByWorker) = true) :
      Moves state (.abort ticket)
        { state.stopAwaiting ticket with
          channel := state.channel.cancelWaiting fun command =>
            command.ticket ≠ ticket }
  | connect (haway : state.connected = false) :
      Moves state .connect { state with connected := true }
  | disconnect (hconnected : state.connected = true)
      (hfree : state.free = true) :
      Moves state .disconnect { state with connected := false }
  | takeCommand (view : CommandView) {command : QueuedCommand}
      {rest : BoundedChannel QueuedCommand commandCapacity}
      (hreceive : state.channel.receive = some (command, rest)) :
      Moves state (.takeCommand view)
        { state with
          channel := rest
          executing := some {
            command := command
            script := handleCommandSteps state.daemon view command.cmd }
          taken := command.ticket :: state.taken }
  | meshStep {command : QueuedCommand} {head : MeshStep}
      {rest : List MeshStep}
      (hexecuting : state.executing = some ⟨command, head :: rest⟩) :
      Moves state .meshStep (state.performed command head rest)

theorem moves_of_step
    {state next : CommandQueue} {action : QueueAction}
    (hstep : state.step action = some next) : state.Moves action next := by
  cases action with
  | call cmd =>
      simp only [step, Option.some.injEq] at hstep
      subst next
      exact .call cmd
  | timeOut ticket =>
      rcases LabelledRun.guarded_eq_some_iff.mp hstep with
        ⟨⟨hawaits, hsent⟩, rfl⟩
      exact .timeOut hawaits hsent
  | abort ticket =>
      rcases LabelledRun.guarded_eq_some_iff.mp hstep with ⟨hworker, rfl⟩
      exact .abort hworker
  | connect =>
      rcases LabelledRun.guarded_eq_some_iff.mp hstep with ⟨haway, rfl⟩
      exact .connect haway
  | disconnect =>
      rcases LabelledRun.guarded_eq_some_iff.mp hstep with
        ⟨⟨hconnected, hfree⟩, rfl⟩
      exact .disconnect hconnected hfree
  | takeCommand view =>
      simp only [step, Option.ite_none_right_eq_some,
        Option.map_eq_some_iff] at hstep
      rcases hstep with ⟨_, received, hreceive, rfl⟩
      exact .takeCommand view hreceive
  | meshStep =>
      simp only [step] at hstep
      split at hstep
      next command head rest hexecuting =>
        rw [Option.some.injEq] at hstep
        subst next
        exact .meshStep hexecuting
      next => contradiction

def answersTo (state : CommandQueue) (ticket : ℕ) : List CommandAnswer :=
  (state.answers.filter fun entry => entry.1 = ticket).map fun entry => entry.2

def pendingTickets (state : CommandQueue) : List ℕ :=
  state.channel.pending.map fun command => command.ticket

/-! ## Every command is in one place -/

structure Accounted (state : CommandQueue) : Prop where
  once : (state.pendingTickets ++ state.taken).Nodup
  issued : ∀ ticket ∈ state.pendingTickets ++ state.taken,
    ticket < state.nextTicket
  effects : ∀ ticket ∈ state.effects, ticket ∈ state.taken
  executing : ∀ execution ∈ state.executing,
    execution.command.ticket ∈ state.taken
  answered : ∀ entry ∈ state.answers, entry.1 < state.nextTicket
  awaited : ∀ command ∈ state.awaiting, command.ticket < state.nextTicket
  unanswered : ∀ command ∈ state.awaiting, ∀ entry ∈ state.answers,
    entry.1 ≠ command.ticket

theorem start_accounted (daemon : Daemon) : (start daemon).Accounted := by
  constructor <;> simp [start, pendingTickets]

theorem mem_awaiting_called
    {state : CommandQueue} {cmd : DaemonCommand} {command : QueuedCommand}
    (hmem : command ∈ (state.called cmd).awaiting) :
    command.ticket = state.nextTicket ∨ command ∈ state.awaiting := by
  unfold called at hmem
  split at hmem
  · rcases List.mem_cons.mp hmem with hnew | hold
    · rw [hnew]
      exact Or.inl rfl
    · exact Or.inr hold
  · exact Or.inr hmem

theorem mem_awaiting_stopAwaiting_iff
    (state : CommandQueue) (ticket : ℕ) (command : QueuedCommand) :
    command ∈ (state.stopAwaiting ticket).awaiting ↔
      command ∈ state.awaiting ∧ command.ticket ≠ ticket := by
  simp [stopAwaiting]

theorem Accounted.afterCalled
    {state : CommandQueue} (hgood : state.Accounted) (cmd : DaemonCommand) :
    (state.called cmd).Accounted := by
  have hpending : (state.called cmd).pendingTickets =
      state.pendingTickets ++ [state.nextTicket] := by
    simp [called, pendingTickets, BoundedChannel.pending_send]
  have hfresh : state.nextTicket ∉ state.pendingTickets ++ state.taken := by
    intro hmem
    exact Nat.lt_irrefl _ (hgood.issued _ hmem)
  have hperm : (state.pendingTickets ++ [state.nextTicket] ++
      state.taken).Perm
        (state.nextTicket :: (state.pendingTickets ++ state.taken)) := by
    simp only [List.append_assoc, List.singleton_append]
    exact List.perm_middle
  constructor
  · rw [hpending]
    exact hperm.nodup_iff.mpr (List.nodup_cons.mpr ⟨hfresh, hgood.once⟩)
  · intro ticket hmem
    rw [hpending] at hmem
    rcases List.mem_cons.mp (hperm.mem_iff.mp hmem) with hnew | hold
    · rw [hnew]
      exact Nat.lt_succ_self _
    · exact Nat.lt_succ_of_lt (hgood.issued ticket hold)
  · exact hgood.effects
  · exact hgood.executing
  · intro entry hmem
    exact Nat.lt_succ_of_lt (hgood.answered entry hmem)
  · intro command hmem
    rcases mem_awaiting_called hmem with hnew | hold
    · rw [hnew]
      exact Nat.lt_succ_self _
    · exact Nat.lt_succ_of_lt (hgood.awaited command hold)
  · intro command hmem entry hentry
    rcases mem_awaiting_called hmem with hnew | hold
    · rw [hnew]
      exact Nat.ne_of_lt (hgood.answered entry hentry)
    · exact hgood.unanswered command hold entry hentry

theorem Accounted.afterAnswered
    {state : CommandQueue} (hgood : state.Accounted)
    {ticket : ℕ} (hissued : ticket < state.nextTicket)
    (answer : CommandAnswer) : (state.answered ticket answer).Accounted := by
  constructor
  · exact hgood.once
  · exact hgood.issued
  · exact hgood.effects
  · exact hgood.executing
  · intro entry hmem
    rcases List.mem_cons.mp hmem with hnew | hold
    · rw [hnew]
      exact hissued
    · exact hgood.answered entry hold
  · intro command hmem
    have hold := (state.mem_awaiting_stopAwaiting_iff ticket command).mp hmem
    exact hgood.awaited command hold.1
  · intro command hmem entry hentry
    have hold := (state.mem_awaiting_stopAwaiting_iff ticket command).mp hmem
    rcases List.mem_cons.mp hentry with hnew | hearlier
    · rw [hnew]
      exact hold.2.symm
    · exact hgood.unanswered command hold.1 entry hearlier

theorem Accounted.afterAbort
    {state : CommandQueue} (hgood : state.Accounted) (ticket : ℕ) :
    { state.stopAwaiting ticket with
      channel := state.channel.cancelWaiting fun command =>
        command.ticket ≠ ticket }.Accounted := by
  have hsublist := ((state.channel.pending_cancelWaiting_sublist fun command =>
    command.ticket ≠ ticket).map fun command => command.ticket).append
      (List.Sublist.refl state.taken)
  constructor
  · exact hgood.once.sublist hsublist
  · intro other hmem
    exact hgood.issued other (hsublist.subset hmem)
  · exact hgood.effects
  · exact hgood.executing
  · exact hgood.answered
  · intro command hmem
    have hold := (state.mem_awaiting_stopAwaiting_iff ticket command).mp hmem
    exact hgood.awaited command hold.1
  · intro command hmem
    have hold := (state.mem_awaiting_stopAwaiting_iff ticket command).mp hmem
    exact hgood.unanswered command hold.1

theorem Accounted.afterTake
    {state : CommandQueue} (hgood : state.Accounted)
    {command : QueuedCommand}
    {rest : BoundedChannel QueuedCommand commandCapacity}
    (hreceive : state.channel.receive = some (command, rest))
    (script : List MeshStep) :
    { state with
      channel := rest
      executing := some { command := command, script := script }
      taken := command.ticket :: state.taken }.Accounted := by
  have hpending : state.pendingTickets =
      command.ticket :: rest.pending.map fun c => c.ticket := by
    simp [pendingTickets, BoundedChannel.pending_of_receive hreceive]
  have hperm : ((rest.pending.map fun c => c.ticket) ++
      command.ticket :: state.taken).Perm
        (state.pendingTickets ++ state.taken) := by
    rw [hpending]
    exact List.perm_middle
  constructor
  · exact hperm.nodup_iff.mpr hgood.once
  · intro ticket hmem
    exact hgood.issued ticket (hperm.mem_iff.mp hmem)
  · intro ticket hmem
    exact List.mem_cons_of_mem _ (hgood.effects ticket hmem)
  · intro execution hmem
    rw [Option.mem_some_iff] at hmem
    rw [← hmem]
    exact List.mem_cons_self
  · exact hgood.answered
  · exact hgood.awaited
  · exact hgood.unanswered

theorem Accounted.afterAdvanced
    {state : CommandQueue} (hgood : state.Accounted)
    {command : QueuedCommand} {next : MeshStep} {rest : List MeshStep}
    (hexecuting : state.executing = some ⟨command, next :: rest⟩) :
    (state.advanced command next rest).Accounted := by
  have htaken : command.ticket ∈ state.taken :=
    hgood.executing _ (Option.mem_def.mpr hexecuting)
  constructor
  · exact hgood.once
  · exact hgood.issued
  · intro ticket hmem
    unfold advanced at hmem
    split at hmem
    · rcases List.mem_cons.mp hmem with hnew | hold
      · rw [hnew]
        exact htaken
      · exact hgood.effects ticket hold
    · exact hgood.effects ticket hmem
  · intro execution hmem
    have hsame := Option.mem_some_iff.mp hmem
    rw [← hsame]
    exact htaken
  · exact hgood.answered
  · exact hgood.awaited
  · exact hgood.unanswered

theorem exists_awaiting_of_awaits
    {state : CommandQueue} {ticket : ℕ} (hawaits : state.awaits ticket = true) :
    ∃ command ∈ state.awaiting, command.ticket = ticket := by
  simpa [awaits] using hawaits

theorem Accounted.issued_of_awaits
    {state : CommandQueue} (hgood : state.Accounted) {ticket : ℕ}
    (hawaits : state.awaits ticket = true) : ticket < state.nextTicket := by
  rcases exists_awaiting_of_awaits hawaits with ⟨command, hmem, hticket⟩
  rw [← hticket]
  exact hgood.awaited command hmem

/-- A step of the mesh task is a move of its own and, if it replies to a
sender which still waits, an answer. -/
theorem performed_cases
    (state : CommandQueue) (command : QueuedCommand)
    (next : MeshStep) (rest : List MeshStep) :
    state.performed command next rest = state.advanced command next rest ∨
      ((state.advanced command next rest).awaits command.ticket = true ∧
        ∃ answer, state.performed command next rest =
          (state.advanced command next rest).answered command.ticket
            answer) := by
  cases next with
  | reply result =>
      by_cases hawaits : state.awaits command.ticket = true
      · right
        refine ⟨hawaits, .reply result, ?_⟩
        simp only [performed, hawaits, if_true]
      · left
        simp only [performed, hawaits]
        rfl
  | removeFromCompanion contact | addToCompanion contact
  | upsertConfig request | saveConfig outcome | setTelemetry key telemetry
  | refreshContacts staleCache | broadcast kind => exact Or.inl rfl

@[simp] theorem channel_performed
    (state : CommandQueue) (command : QueuedCommand)
    (next : MeshStep) (rest : List MeshStep) :
    (state.performed command next rest).channel = state.channel := by
  rcases state.performed_cases command next rest with
    hquiet | ⟨_, answer, hanswered⟩
  · rw [hquiet]
    rfl
  · rw [hanswered]
    rfl

@[simp] theorem nextTicket_performed
    (state : CommandQueue) (command : QueuedCommand)
    (next : MeshStep) (rest : List MeshStep) :
    (state.performed command next rest).nextTicket = state.nextTicket := by
  rcases state.performed_cases command next rest with
    hquiet | ⟨_, answer, hanswered⟩
  · rw [hquiet]
    rfl
  · rw [hanswered]
    rfl

@[simp] theorem taken_performed
    (state : CommandQueue) (command : QueuedCommand)
    (next : MeshStep) (rest : List MeshStep) :
    (state.performed command next rest).taken = state.taken := by
  rcases state.performed_cases command next rest with
    hquiet | ⟨_, answer, hanswered⟩
  · rw [hquiet]
    rfl
  · rw [hanswered]
    rfl

@[simp] theorem executing_performed
    (state : CommandQueue) (command : QueuedCommand)
    (next : MeshStep) (rest : List MeshStep) :
    (state.performed command next rest).executing =
      some { command := command, script := rest } := by
  rcases state.performed_cases command next rest with
    hquiet | ⟨_, answer, hanswered⟩
  · rw [hquiet]
    rfl
  · rw [hanswered]
    rfl

theorem Accounted.afterPerformed
    {state : CommandQueue} (hgood : state.Accounted)
    {command : QueuedCommand} {next : MeshStep} {rest : List MeshStep}
    (hexecuting : state.executing = some ⟨command, next :: rest⟩) :
    (state.performed command next rest).Accounted := by
  have hadvanced := hgood.afterAdvanced hexecuting
  rcases state.performed_cases command next rest with
    hquiet | ⟨hawaits, answer, hanswered⟩
  · rw [hquiet]
    exact hadvanced
  · rw [hanswered]
    exact hadvanced.afterAnswered (hadvanced.issued_of_awaits hawaits) answer

theorem Accounted.afterStep
    {state next : CommandQueue} {action : QueueAction}
    (hgood : state.Accounted) (hstep : state.step action = some next) :
    next.Accounted := by
  cases moves_of_step hstep with
  | call cmd => exact hgood.afterCalled cmd
  | timeOut hawaits =>
      exact hgood.afterAnswered (hgood.issued_of_awaits hawaits) _
  | @abort ticket => exact hgood.afterAbort ticket
  | connect | disconnect =>
      constructor
      · exact hgood.once
      · exact hgood.issued
      · exact hgood.effects
      · exact hgood.executing
      · exact hgood.answered
      · exact hgood.awaited
      · exact hgood.unanswered
  | takeCommand view hreceive => exact hgood.afterTake hreceive _
  | meshStep hexecuting => exact hgood.afterPerformed hexecuting

theorem accounted_of_run
    {daemon : Daemon} {actions : List QueueAction} {final : CommandQueue}
    (hrun : run step (start daemon) actions = some final) :
    final.Accounted :=
  invariant_of_every_step (fun _ _ _ hgood hstep => hgood.afterStep hstep)
    (start_accounted daemon) hrun

/-! ## Commands whose sender has given up -/

/-- The sender of a command has given up.  The command is still in the queue,
or has been taken. -/
structure GivenUp (command : QueuedCommand) (state : CommandQueue) : Prop where
  accounted : state.Accounted
  unawaited : state.awaits command.ticket = false
  answers : state.answersTo command.ticket = [.timedOut]
  held : command ∈ state.channel.queue ∨ command.ticket ∈ state.taken

theorem answersTo_answered_of_ne
    (state : CommandQueue) {ticket other : ℕ} (hother : other ≠ ticket)
    (answer : CommandAnswer) :
    (state.answered other answer).answersTo ticket =
      state.answersTo ticket := by
  simp [answered, stopAwaiting, answersTo, hother]

theorem awaits_stopAwaiting
    (state : CommandQueue) (ticket other : ℕ) :
    (state.stopAwaiting other).awaits ticket =
      (state.awaits ticket && decide (ticket ≠ other)) := by
  rw [Bool.eq_iff_iff]
  simp only [awaits, stopAwaiting, List.any_filter, List.any_eq_true,
    Bool.and_eq_true, decide_eq_true_eq]
  constructor
  · rintro ⟨command, hmem, hkept, hticket⟩
    exact ⟨⟨command, hmem, hticket⟩, hticket ▸ hkept⟩
  · rintro ⟨⟨command, hmem, hticket⟩, hkept⟩
    exact ⟨command, hmem, hticket ▸ hkept, hticket⟩

theorem answersTo_eq_nil_of_awaits
    {state : CommandQueue} (hgood : state.Accounted) {ticket : ℕ}
    (hawaits : state.awaits ticket = true) : state.answersTo ticket = [] := by
  rcases exists_awaiting_of_awaits hawaits with ⟨caller, hmem, rfl⟩
  simp only [answersTo, List.map_eq_nil_iff, List.filter_eq_nil_iff,
    decide_eq_true_eq]
  exact hgood.unanswered caller hmem

theorem givenUp_of_timeOut
    {state next : CommandQueue} (hgood : state.Accounted)
    {command : QueuedCommand} (hqueued : command ∈ state.channel.queue)
    (hstep : state.step (.timeOut command.ticket) = some next) :
    next.GivenUp command := by
  have haccounted := hgood.afterStep hstep
  rcases LabelledRun.guarded_eq_some_iff.mp hstep with ⟨⟨hawaits, _⟩, rfl⟩
  have hunanswered := answersTo_eq_nil_of_awaits hgood hawaits
  constructor
  · exact haccounted
  · have hstopped := state.awaits_stopAwaiting command.ticket command.ticket
    simpa [awaits, answered] using hstopped
  · have hone : (state.answered command.ticket .timedOut).answersTo
        command.ticket = .timedOut :: state.answersTo command.ticket := by
      simp [answered, stopAwaiting, answersTo]
    rw [hone, hunanswered]
  · exact Or.inl hqueued

theorem GivenUp.issued
    {command : QueuedCommand} {state : CommandQueue}
    (hgivenUp : state.GivenUp command) :
    command.ticket < state.nextTicket := by
  apply hgivenUp.accounted.issued
  rcases hgivenUp.held with hqueued | htaken
  · have hpending : command ∈ state.channel.pending :=
      List.mem_append_left _ hqueued
    exact List.mem_append_left _ (List.mem_map_of_mem hpending)
  · exact List.mem_append_right _ htaken

theorem GivenUp.afterAnswered
    {command : QueuedCommand} {state : CommandQueue}
    (hgivenUp : state.GivenUp command) {ticket : ℕ}
    (hawaits : state.awaits ticket = true) (answer : CommandAnswer) :
    (state.answered ticket answer).GivenUp command := by
  have hother : ticket ≠ command.ticket := by
    intro hsame
    rw [hsame, hgivenUp.unawaited] at hawaits
    contradiction
  constructor
  · exact hgivenUp.accounted.afterAnswered
      (hgivenUp.accounted.issued_of_awaits hawaits) answer
  · have hstopped := state.awaits_stopAwaiting command.ticket ticket
    rw [hgivenUp.unawaited, Bool.false_and] at hstopped
    exact hstopped
  · rw [state.answersTo_answered_of_ne hother]
    exact hgivenUp.answers
  · exact hgivenUp.held

theorem GivenUp.afterPerformed
    {given command : QueuedCommand} {state : CommandQueue}
    (hgivenUp : state.GivenUp given)
    {next : MeshStep} {rest : List MeshStep}
    (hexecuting : state.executing = some ⟨command, next :: rest⟩) :
    (state.performed command next rest).GivenUp given := by
  have hadvanced : (state.advanced command next rest).GivenUp given :=
    ⟨hgivenUp.accounted.afterAdvanced hexecuting, hgivenUp.unawaited,
      hgivenUp.answers, hgivenUp.held⟩
  rcases state.performed_cases command next rest with
    hquiet | ⟨hawaits, answer, hanswered⟩
  · rw [hquiet]
    exact hadvanced
  · rw [hanswered]
    exact hadvanced.afterAnswered hawaits answer

theorem GivenUp.unawaited_called
    {command : QueuedCommand} {state : CommandQueue}
    (hgivenUp : state.GivenUp command) (cmd : DaemonCommand) :
    (state.called cmd).awaits command.ticket = false := by
  by_contra hawaits
  rcases exists_awaiting_of_awaits (by simpa using hawaits) with
    ⟨caller, hmem, hticket⟩
  rcases mem_awaiting_called hmem with hnew | hold
  · have hissued := hgivenUp.issued
    omega
  · have hwaits : state.awaits command.ticket = true := by
      simp only [awaits, List.any_eq_true, decide_eq_true_eq]
      exact ⟨caller, hold, hticket⟩
    rw [hgivenUp.unawaited] at hwaits
    contradiction

theorem GivenUp.held_of_receive
    {command : QueuedCommand} {state : CommandQueue}
    (hgivenUp : state.GivenUp command)
    {received : QueuedCommand × BoundedChannel QueuedCommand commandCapacity}
    (hreceive : state.channel.receive = some received) :
    command ∈ received.2.queue ∨
      command.ticket ∈ received.1.ticket :: state.taken := by
  rcases hgivenUp.held with hqueued | htaken
  · rcases BoundedChannel.mem_queue_of_receive hreceive hqueued with
      hfirst | hlater
    · right
      rw [hfirst]
      exact List.mem_cons_self
    · exact Or.inl hlater
  · exact Or.inr (List.mem_cons_of_mem _ htaken)

theorem GivenUp.afterStep
    {command : QueuedCommand} {state next : CommandQueue}
    {action : QueueAction} (hgivenUp : state.GivenUp command)
    (hstep : state.step action = some next) : next.GivenUp command := by
  have haccounted := hgivenUp.accounted.afterStep hstep
  cases moves_of_step hstep with
  | call cmd =>
      exact ⟨haccounted, hgivenUp.unawaited_called cmd, hgivenUp.answers,
        hgivenUp.held.imp_left fun hqueued =>
          BoundedChannel.mem_queue_send hqueued _⟩
  | timeOut hawaits => exact hgivenUp.afterAnswered hawaits _
  | @abort ticket =>
      constructor
      · exact haccounted
      · have hstopped := state.awaits_stopAwaiting command.ticket ticket
        rw [hgivenUp.unawaited, Bool.false_and] at hstopped
        exact hstopped
      · exact hgivenUp.answers
      · exact hgivenUp.held
  | connect | disconnect =>
      exact ⟨haccounted, hgivenUp.unawaited, hgivenUp.answers, hgivenUp.held⟩
  | takeCommand view hreceive =>
      exact ⟨haccounted, hgivenUp.unawaited, hgivenUp.answers,
        hgivenUp.held_of_receive hreceive⟩
  | meshStep hexecuting => exact hgivenUp.afterPerformed hexecuting

/-- A sender which gives up before its command is taken gets no other answer,
and the command stays in the queue.  It is taken at most once and changes
nothing before. -/
theorem given_up_command_changes_nothing_before_it_is_taken
    {daemon : Daemon} {before after : List QueueAction}
    {queued givenUp final : CommandQueue} {command : QueuedCommand}
    (hbefore : run step (start daemon) before = some queued)
    (hqueued : command ∈ queued.channel.queue)
    (htimeOut : queued.step (.timeOut command.ticket) = some givenUp)
    (hafter : run step givenUp after = some final) :
    final.answersTo command.ticket = [.timedOut] ∧
      final.taken.count command.ticket ≤ 1 ∧
      (command.ticket ∉ final.taken →
        command ∈ final.channel.queue ∧
          command.ticket ∉ final.effects) := by
  have hgivenUp : final.GivenUp command :=
    invariant_of_every_step (fun _ _ _ hgood hstep => hgood.afterStep hstep)
      (givenUp_of_timeOut (accounted_of_run hbefore) hqueued htimeOut) hafter
  have honce : final.taken.Nodup :=
    (List.nodup_append.mp hgivenUp.accounted.once).2.1
  refine ⟨hgivenUp.answers, List.nodup_iff_count_le_one.mp honce _, ?_⟩
  intro huntaken
  refine ⟨hgivenUp.held.resolve_right huntaken, ?_⟩
  intro hchanged
  exact huntaken (hgivenUp.accounted.effects _ hchanged)

def callSetSupervised : QueueAction :=
  .call (.setRepeaterStatus "0a1b2c3d4e5f" "hilltop" (some .supervised))

def waitingSetSupervised : QueuedCommand where
  ticket := 0
  cmd := .setRepeaterStatus "0a1b2c3d4e5f" "hilltop" (some .supervised)

theorem given_up_command_changes_nothing_before_it_is_taken_offline :
    ∃ final,
      run step (start .bare)
        [callSetSupervised, .timeOut 0, callSetSupervised, .connect] =
          some final ∧
      waitingSetSupervised ∈ final.channel.queue ∧ 0 ∉ final.effects := by
  refine ⟨_, rfl, ?_⟩
  have hheld := @given_up_command_changes_nothing_before_it_is_taken .bare
    [callSetSupervised] [callSetSupervised, .connect] _ _ _
    waitingSetSupervised rfl (by decide) rfl rfl
  exact hheld.2.2 (by decide)

/-- The mesh connection is back after the client was told of an error. -/
theorem given_up_command_still_runs :
    ¬ ∀ (daemon : Daemon) (before after : List QueueAction)
        (queued givenUp final : CommandQueue) (command : QueuedCommand),
      run step (start daemon) before = some queued →
      command ∈ queued.channel.queue → command.cmd.isMutating = true →
      queued.step (.timeOut command.ticket) = some givenUp →
      run step givenUp after = some final →
      command.ticket ∉ final.effects := by
  intro hclaim
  have hfinal := hclaim .bare [callSetSupervised]
    [.connect, .takeCommand (.offline [knownContact]), .meshStep]
    _ _ _ waitingSetSupervised rfl (by decide) rfl rfl rfl
  exact hfinal (by decide)

/-! ## Senders which wait for room -/

def calls (actions : List QueueAction) : ℕ :=
  actions.countP fun action =>
    match action with
    | .call _ => true
    | _ => false

def takes (actions : List QueueAction) : ℕ :=
  actions.countP fun action =>
    match action with
    | .takeCommand _ => true
    | _ => false

/-- Some sender waits in `send`, where its timeout has not started. -/
def Stuck (state : CommandQueue) : Prop :=
  state.channel.waiting ≠ []

instance (state : CommandQueue) : Decidable state.Stuck :=
  inferInstanceAs (Decidable (_ ≠ _))

theorem occupied_of_step
    {state next : CommandQueue} {action : QueueAction}
    (hfree : state.channel.waiting = [])
    (hstep : state.step action = some next) :
    next.channel.occupied + takes [action] =
      state.channel.occupied + calls [action] := by
  cases moves_of_step hstep with
  | call cmd => exact state.channel.occupied_send _
  | takeCommand view hreceive =>
      exact (BoundedChannel.occupied_of_receive hreceive).symm
  | abort => exact BoundedChannel.occupied_cancelWaiting_of_nobody hfree _
  | timeOut | connect | disconnect => rfl
  | meshStep =>
      rw [channel_performed]
      rfl

theorem calls_cons (action : QueueAction) (rest : List QueueAction) :
    calls (action :: rest) = calls [action] + calls rest := by
  rw [← List.singleton_append]
  exact List.countP_append

theorem takes_cons (action : QueueAction) (rest : List QueueAction) :
    takes (action :: rest) = takes [action] + takes rest := by
  rw [← List.singleton_append]
  exact List.countP_append

/-- While nobody waits for room, the queue holds what was sent and not
taken. -/
theorem occupied_of_free_run
    {state final : CommandQueue} {actions : List QueueAction}
    (hfree : ∀ before middle, before <+: actions →
      run step state before = some middle → ¬ middle.Stuck)
    (hrun : run step state actions = some final) :
    final.channel.occupied + takes actions =
      state.channel.occupied + calls actions := by
  induction actions generalizing state with
  | nil =>
      simp only [run_nil, Option.some.injEq] at hrun
      rw [hrun]
      rfl
  | cons action rest ih =>
      obtain ⟨next, hstep, hrest⟩ := run_cons_eq_some_iff.mp hrun
      have hnow : state.channel.waiting = [] := by
        by_contra hwaiting
        exact hfree [] state List.nil_prefix rfl hwaiting
      have hone := occupied_of_step hnow hstep
      have hlater := ih (by
        intro before middle hbefore hmiddle
        apply hfree (action :: before) middle
        · exact List.cons_prefix_cons.mpr ⟨rfl, hbefore⟩
        · rw [run_cons_some hstep]
          exact hmiddle) hrest
      rw [calls_cons, takes_cons]
      omega

theorem free_of_fitting_run
    {state final : CommandQueue} {actions : List QueueAction}
    (hnow : state.channel.waiting = [])
    (hfits : ∀ before, before <+: actions →
      state.channel.occupied + calls before ≤
        commandCapacity + takes before)
    (hrun : run step state actions = some final) :
    final.channel.waiting = [] := by
  induction actions generalizing state with
  | nil =>
      simp only [run_nil, Option.some.injEq] at hrun
      rw [← hrun]
      exact hnow
  | cons action rest ih =>
      obtain ⟨next, hstep, hrest⟩ := run_cons_eq_some_iff.mp hrun
      have hone := occupied_of_step hnow hstep
      apply ih ?_ ?_ hrest
      · rw [next.channel.waiting_eq_nil_iff]
        have hroom := hfits [action]
          (List.cons_prefix_cons.mpr ⟨rfl, List.nil_prefix⟩)
        omega
      · intro before hbefore
        have hroom := hfits (action :: before)
          (List.cons_prefix_cons.mpr ⟨rfl, hbefore⟩)
        rw [calls_cons, takes_cons] at hroom
        omega

/-- Nobody ever waits outside a timeout exactly in the runs in which never
more commands were sent than were taken and fit into the queue. -/
theorem never_stuck_iff_commands_fit
    {daemon : Daemon} {actions : List QueueAction} {final : CommandQueue}
    (hrun : run step (start daemon) actions = some final) :
    (∀ before middle, before <+: actions →
      run step (start daemon) before = some middle → ¬ middle.Stuck) ↔
    ∀ before, before <+: actions →
      calls before ≤ commandCapacity + takes before := by
  have hempty : (start daemon).channel.occupied = 0 := rfl
  constructor
  · intro hnever before hbefore
    obtain ⟨middle, hmiddle⟩ := exists_run_of_prefix hrun hbefore
    have hfree := hnever before middle hbefore hmiddle
    have hroom : middle.channel.occupied ≤ commandCapacity := by
      rw [← middle.channel.waiting_eq_nil_iff]
      by_contra hwaiting
      exact hfree hwaiting
    have hcount := occupied_of_free_run
      (fun earlier state hearlier hstate =>
        hnever earlier state (hearlier.trans hbefore) hstate) hmiddle
    omega
  · intro hfits before middle hbefore hmiddle hstuck
    apply hstuck
    apply free_of_fitting_run rfl ?_ hmiddle
    intro earlier hearlier
    have hroom := hfits earlier (hearlier.trans hbefore)
    omega

/-- Seven refreshes are given up while the mesh is disconnected; once it is
connected they are taken one after the other, while others come in, one of
whose senders is aborted. -/
def abandonedRefreshes : List QueueAction :=
  [.call .refreshNodeStats, .timeOut 0, .call .refreshNodeStats, .timeOut 1,
    .call .refreshNodeStats, .timeOut 2, .call .refreshNodeStats, .timeOut 3,
    .call .refreshNodeStats, .timeOut 4, .call .refreshNodeStats, .timeOut 5,
    .call .refreshNodeStats, .timeOut 6, .call (.removeContact "abababababab"),
    .connect, .takeCommand (.offline []), .meshStep,
    .call .refreshNodeStats, .abort 8, .takeCommand (.offline []), .meshStep,
    .call .refreshNodeStats, .timeOut 9, .takeCommand (.offline [])]

theorem never_stuck_iff_commands_fit_abandoned :
    ∃ final, run step (start .bare) abandonedRefreshes = some final ∧
      final.taken = [2, 1, 0] ∧ final.pendingTickets = [3, 4, 5, 6, 7, 8, 9] ∧
      ∀ before middle, before <+: abandonedRefreshes →
        run step (start .bare) before = some middle → ¬ middle.Stuck := by
  refine ⟨_, rfl, rfl, rfl, ?_⟩
  apply (@never_stuck_iff_commands_fit .bare abandonedRefreshes _ rfl).mpr
  have hroom : ∀ count ≤ abandonedRefreshes.length,
      calls (abandonedRefreshes.take count) ≤
        commandCapacity + takes (abandonedRefreshes.take count) := by decide
  intro before hbefore
  rw [List.prefix_iff_eq_take.mp hbefore]
  exact hroom before.length hbefore.length_le

/-- Eight status refreshes of a broker worker time out while the mesh is
disconnected; the ninth never gets to its timeout. -/
theorem stuck_of_refreshes_while_disconnected :
    ¬ ∀ (daemon : Daemon) (actions : List QueueAction)
        (final : CommandQueue),
      run step (start daemon) actions = some final → ¬ final.Stuck := by
  intro hclaim
  have hfree := hclaim .bare
    [.connect, .disconnect,
      .call .refreshNodeStats, .timeOut 0, .call .refreshNodeStats, .timeOut 1,
      .call .refreshNodeStats, .timeOut 2, .call .refreshNodeStats, .timeOut 3,
      .call .refreshNodeStats, .timeOut 4, .call .refreshNodeStats, .timeOut 5,
      .call .refreshNodeStats, .timeOut 6, .call .refreshNodeStats, .timeOut 7,
      .call .refreshNodeStats]
    _ rfl
  exact hfree (by decide)

end CommandQueue

end MeshController
