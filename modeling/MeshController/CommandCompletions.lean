import MeshController.CommandQueue

/-!
# What the mesh task has completed

The mesh task replies to a command once, as the last thing it does for it,
whether or not anybody still waits.  What a sender is told is either that
reply or that it has waited too long.
-/

namespace MeshController

/-- The result the mesh task came to for a command. -/
structure Completion where
  command : QueuedCommand
  result : Except String Unit

namespace CommandQueue

/-- What the mesh task completes with an action. -/
def completions (state : CommandQueue) : QueueAction → List Completion
  | .meshStep =>
      match state.executing with
      | some ⟨command, .reply result :: _⟩ => [⟨command, result⟩]
      | _ => []
  | _ => []

theorem mem_completions_iff
    {state : CommandQueue} {action : QueueAction} {entry : Completion} :
    entry ∈ state.completions action ↔
      action = .meshStep ∧ ∃ rest, state.executing =
        some ⟨entry.command, .reply entry.result :: rest⟩ := by
  cases action with
  | meshStep =>
      obtain ⟨executed, outcome⟩ := entry
      simp only [completions, true_and]
      split
      next command result rest hexecuting =>
        simp [hexecuting, eq_comm]
      next hother =>
        simp only [List.not_mem_nil, false_iff, not_exists]
        intro rest hexecuting
        exact hother _ _ _ hexecuting
  | call cmd | timeOut ticket | abort ticket | connect | disconnect
  | takeCommand view => simp [completions]

/-- `completed` are the commands the mesh task has completed in a run which
led to the state. -/
structure Recorded (state : CommandQueue) (completed : List Completion) :
    Prop where
  accounted : state.Accounted
  taken : ∀ entry ∈ completed, entry.command.ticket ∈ state.taken
  once : (completed.map fun entry => entry.command.ticket).Nodup
  scripts : ∀ execution ∈ state.executing, HandlerScript execution.script
  finished : ∀ execution ∈ state.executing, ∀ entry ∈ completed,
    entry.command.ticket = execution.command.ticket → execution.script = []

theorem start_recorded (daemon : Daemon) : (start daemon).Recorded [] := by
  constructor
  · exact start_accounted daemon
  · simp
  · simp
  · simp [start]
  · simp

/-- A command is completed at most once. -/
theorem Recorded.result_unique
    {state : CommandQueue} {completed : List Completion}
    (hrecorded : state.Recorded completed)
    {first second : Completion} (hfirst : first ∈ completed)
    (hsecond : second ∈ completed)
    (hticket : first.command.ticket = second.command.ticket) :
    first = second :=
  List.inj_on_of_nodup_map hrecorded.once hfirst hsecond hticket

/-! ## What an action does to the records -/

theorem ticket_notMem_taken_of_receive
    {state : CommandQueue} (hgood : state.Accounted)
    {command : QueuedCommand}
    {rest : BoundedChannel QueuedCommand commandCapacity}
    (hreceive : state.channel.receive = some (command, rest)) :
    command.ticket ∉ state.taken := by
  have hpending : command.ticket ∈ state.pendingTickets := by
    simp [pendingTickets, BoundedChannel.pending_of_receive hreceive]
  have hdisjoint := (List.nodup_append.mp hgood.once).2.2
  intro htaken
  exact hdisjoint _ hpending _ htaken rfl

/-- Actions of others than the mesh task complete nothing. -/
theorem Recorded.of_same_execution
    {state next : CommandQueue} {completed : List Completion}
    (hrecorded : state.Recorded completed) (haccounted : next.Accounted)
    (htaken : next.taken = state.taken)
    (hexecuting : next.executing = state.executing) :
    next.Recorded completed := by
  constructor
  · exact haccounted
  · rw [htaken]
    exact hrecorded.taken
  · exact hrecorded.once
  · rw [hexecuting]
    exact hrecorded.scripts
  · rw [hexecuting]
    exact hrecorded.finished

theorem Recorded.afterTake
    {state : CommandQueue} {completed : List Completion}
    (hrecorded : state.Recorded completed)
    {command : QueuedCommand}
    {rest : BoundedChannel QueuedCommand commandCapacity}
    (hreceive : state.channel.receive = some (command, rest))
    (view : CommandView) :
    { state with
      channel := rest
      executing := some {
        command := command
        script := handleCommandSteps state.daemon view command.cmd }
      taken := command.ticket :: state.taken }.Recorded completed := by
  have hnew := ticket_notMem_taken_of_receive hrecorded.accounted hreceive
  constructor
  · exact hrecorded.accounted.afterTake hreceive _
  · intro entry hmem
    exact List.mem_cons_of_mem _ (hrecorded.taken entry hmem)
  · exact hrecorded.once
  · intro execution hmem
    rw [Option.mem_some_iff] at hmem
    rw [← hmem]
    exact .handleCommand _ _ _
  · intro execution hmem entry hentry hticket
    rw [Option.mem_some_iff] at hmem
    subst execution
    have htaken := hrecorded.taken entry hentry
    rw [hticket] at htaken
    contradiction

/-- The step which replies is the last one of its command. -/
theorem Recorded.afterPerformed
    {state : CommandQueue} {completed : List Completion}
    (hrecorded : state.Recorded completed)
    {command : QueuedCommand} {next : MeshStep} {rest : List MeshStep}
    (hexecuting : state.executing = some ⟨command, next :: rest⟩) :
    (state.performed command next rest).Recorded
      (state.completions .meshStep ++ completed) := by
  have hlast : HandlerScript (next :: rest) :=
    hrecorded.scripts _ (Option.mem_def.mpr hexecuting)
  have hunfinished : ∀ entry ∈ completed,
      entry.command.ticket ≠ command.ticket := by
    intro entry hentry hticket
    have hnothing := hrecorded.finished _ (Option.mem_def.mpr hexecuting)
      entry hentry hticket
    simp at hnothing
  have htaken : command.ticket ∈ state.taken :=
    hrecorded.accounted.executing _ (Option.mem_def.mpr hexecuting)
  have hnew : ∀ entry ∈ state.completions .meshStep,
      entry.command = command ∧ rest = [] := by
    intro entry hentry
    obtain ⟨_, others, hreply⟩ := mem_completions_iff.mp hentry
    rw [hexecuting] at hreply
    obtain ⟨rfl, rfl, rfl⟩ : command = entry.command ∧
        next = .reply entry.result ∧ rest = others := by
      simpa using hreply
    exact ⟨rfl, hlast.eq_nil_of_reply⟩
  constructor
  · exact hrecorded.accounted.afterPerformed hexecuting
  · rw [taken_performed]
    intro entry hmem
    rcases List.mem_append.mp hmem with hentry | hold
    · rw [(hnew entry hentry).1]
      exact htaken
    · exact hrecorded.taken entry hold
  · have hone : ((state.completions .meshStep).map fun entry =>
        entry.command.ticket).Nodup := by
      simp only [completions]
      split
      · exact List.nodup_singleton _
      · exact List.nodup_nil
    rw [List.map_append, List.nodup_append]
    refine ⟨hone, hrecorded.once, ?_⟩
    intro ticket hnow other hbefore hsame
    obtain ⟨entry, hentry, rfl⟩ := List.mem_map.mp hnow
    obtain ⟨earlier, hearlier, rfl⟩ := List.mem_map.mp hbefore
    apply hunfinished earlier hearlier
    rw [← hsame, (hnew entry hentry).1]
  · rw [executing_performed]
    intro execution hmem
    rw [Option.mem_some_iff] at hmem
    rw [← hmem]
    exact hlast.tail
  · rw [executing_performed]
    intro execution hmem entry hentry hticket
    rw [Option.mem_some_iff] at hmem
    subst execution
    rcases List.mem_append.mp hentry with hnow | hold
    · exact (hnew entry hnow).2
    · exact absurd hticket (hunfinished entry hold)

theorem Recorded.afterStep
    {state next : CommandQueue} {completed : List Completion}
    (hrecorded : state.Recorded completed)
    {action : QueueAction} (hstep : state.step action = some next) :
    next.Recorded (state.completions action ++ completed) := by
  have haccounted := hrecorded.accounted.afterStep hstep
  cases moves_of_step hstep with
  | call | timeOut | abort | connect | disconnect =>
      exact hrecorded.of_same_execution haccounted rfl rfl
  | takeCommand view hreceive => exact hrecorded.afterTake hreceive view
  | meshStep hexecuting => exact hrecorded.afterPerformed hexecuting

/-! ## What a sender is told -/

theorem answers_performed
    (state : CommandQueue) (command : QueuedCommand)
    (next : MeshStep) (rest : List MeshStep) :
    (state.performed command next rest).answers = state.answers ∨
      ∃ result, next = .reply result ∧
        state.awaits command.ticket = true ∧
        (state.performed command next rest).answers =
          (command.ticket, .reply result) :: state.answers := by
  cases next with
  | reply result =>
      by_cases hawaits : state.awaits command.ticket = true
      · right
        refine ⟨result, rfl, hawaits, ?_⟩
        simp only [performed, hawaits, if_true]
        rfl
      · left
        simp only [performed, hawaits]
        rfl
  | removeFromCompanion contact | addToCompanion contact
  | upsertConfig request | saveConfig outcome | setTelemetry key telemetry
  | refreshContacts staleCache | broadcast kind => exact Or.inl rfl

/-- Only a sender which still waits is told anything, and a reply is what the
mesh task completes at that moment. -/
theorem answers_of_step
    {state next : CommandQueue} {action : QueueAction}
    (hstep : state.step action = some next) :
    next.answers = state.answers ∨
      ∃ ticket answer, state.awaits ticket = true ∧
        next.answers = (ticket, answer) :: state.answers ∧
        ∀ result, answer = .reply result →
          ∃ execution ∈ state.executing,
            execution.command.ticket = ticket ∧
            ⟨execution.command, result⟩ ∈ state.completions action := by
  cases moves_of_step hstep with
  | call | abort | connect | disconnect | takeCommand => exact Or.inl rfl
  | @timeOut ticket hawaits =>
      exact Or.inr ⟨ticket, .timedOut, hawaits, rfl, by simp⟩
  | @meshStep command head rest hexecuting =>
      rcases state.answers_performed command head rest with
        hquiet | ⟨result, hreply, hawaits, hanswers⟩
      · exact Or.inl hquiet
      · right
        refine ⟨_, _, hawaits, hanswers, ?_⟩
        intro other hother
        obtain rfl : result = other := by simpa using hother
        refine ⟨_, hexecuting, rfl, mem_completions_iff.mpr ⟨rfl, rest, ?_⟩⟩
        rw [hexecuting, hreply]

/-- Whoever has been told something is told nothing else. -/
theorem answersTo_of_step_of_answered
    {state next : CommandQueue} (hgood : state.Accounted)
    {action : QueueAction} (hstep : state.step action = some next)
    {ticket : ℕ} {answer : CommandAnswer}
    (hanswered : state.answersTo ticket = [answer]) :
    next.answersTo ticket = [answer] := by
  rw [← hanswered]
  rcases answers_of_step hstep with
    hsame | ⟨other, _, hawaits, hanswers, _⟩
  · simp only [answersTo, hsame]
  · have hother : other ≠ ticket := by
      intro hsame
      rw [hsame] at hawaits
      rw [answersTo_eq_nil_of_awaits hgood hawaits] at hanswered
      contradiction
    simp [answersTo, hanswers, hother]

/-- Whatever carries the ticket of the command is the command, and a reply to
it is what the mesh task completed it with. -/
structure Traced (command : QueuedCommand) (state : CommandQueue)
    (completed : List Completion) : Prop where
  issued : command.ticket < state.nextTicket
  pending : ∀ other ∈ state.channel.pending,
    other.ticket = command.ticket → other = command
  executing : ∀ execution ∈ state.executing,
    execution.command.ticket = command.ticket → execution.command = command
  answers : state.answersTo command.ticket = [] ∨
    ∃ answer, state.answersTo command.ticket = [answer] ∧
      ∀ result, answer = .reply result → ⟨command, result⟩ ∈ completed

theorem Traced.completed_of_reply
    {command : QueuedCommand} {state : CommandQueue}
    {completed : List Completion}
    (htraced : state.Traced command completed) {result : Except String Unit}
    (hreply : state.answersTo command.ticket = [.reply result]) :
    ⟨command, result⟩ ∈ completed := by
  rcases htraced.answers with hnone | ⟨answer, hanswer, hcompleted⟩
  · rw [hnone] at hreply
    contradiction
  · rw [hanswer] at hreply
    exact hcompleted result (List.singleton_injective hreply)

theorem traced_called
    {state : CommandQueue} (hgood : state.Accounted) (cmd : DaemonCommand)
    (completed : List Completion) :
    (state.called cmd).Traced ⟨state.nextTicket, cmd⟩ completed := by
  constructor
  · exact Nat.lt_succ_self _
  · intro other hmem hticket
    have hpending : (state.called cmd).channel.pending =
        state.channel.pending ++ [⟨state.nextTicket, cmd⟩] :=
      BoundedChannel.pending_send _ _
    rw [hpending] at hmem
    rcases List.mem_append.mp hmem with hold | hnew
    · have hissued := hgood.issued other.ticket
        (List.mem_append_left _ (List.mem_map_of_mem hold))
      simp only at hticket
      omega
    · exact List.mem_singleton.mp hnew
  · intro execution hmem hticket
    have hissued := hgood.issued execution.command.ticket
      (List.mem_append_right _ (hgood.executing execution hmem))
    simp only at hticket
    omega
  · left
    simp only [answersTo, List.map_eq_nil_iff, List.filter_eq_nil_iff,
      decide_eq_true_eq]
    intro entry hmem
    exact Nat.ne_of_lt (hgood.answered entry hmem)

/-- No action changes a command, and only a new one gets a new ticket. -/
theorem held_of_step
    {state next : CommandQueue} {action : QueueAction}
    (hstep : state.step action = some next) :
    state.nextTicket ≤ next.nextTicket ∧
      (∀ other ∈ next.channel.pending,
        other ∈ state.channel.pending ∨ other.ticket = state.nextTicket) ∧
      ∀ execution ∈ next.executing,
        (∃ before ∈ state.executing, before.command = execution.command) ∨
          execution.command ∈ state.channel.pending := by
  have hsame : ∀ execution ∈ state.executing,
      (∃ before ∈ state.executing, before.command = execution.command) ∨
        execution.command ∈ state.channel.pending :=
    fun execution hmem => Or.inl ⟨execution, hmem, rfl⟩
  cases moves_of_step hstep with
  | call cmd =>
      refine ⟨Nat.le_succ _, ?_, hsame⟩
      intro other hmem
      have hpending : (state.called cmd).channel.pending =
          state.channel.pending ++ [⟨state.nextTicket, cmd⟩] :=
        BoundedChannel.pending_send _ _
      rw [hpending] at hmem
      rcases List.mem_append.mp hmem with hold | hnew
      · exact Or.inl hold
      · rw [List.mem_singleton.mp hnew]
        exact Or.inr rfl
  | abort =>
      refine ⟨Nat.le_refl _, ?_, hsame⟩
      intro other hmem
      left
      exact (state.channel.pending_cancelWaiting_sublist _).subset hmem
  | timeOut | connect | disconnect =>
      exact ⟨Nat.le_refl _, fun _ hmem => Or.inl hmem, hsame⟩
  | takeCommand view hreceive =>
      have hpending := BoundedChannel.pending_of_receive hreceive
      refine ⟨Nat.le_refl _, ?_, ?_⟩
      · intro other hmem
        rw [hpending]
        exact Or.inl (List.mem_cons_of_mem _ hmem)
      · intro execution hmem
        rw [Option.mem_some_iff] at hmem
        rw [← hmem, hpending]
        exact Or.inr List.mem_cons_self
  | meshStep hexecuting =>
      rw [channel_performed, nextTicket_performed, executing_performed]
      refine ⟨Nat.le_refl _, fun _ hmem => Or.inl hmem, ?_⟩
      intro execution hmem
      rw [Option.mem_some_iff] at hmem
      rw [← hmem]
      exact Or.inl ⟨_, hexecuting, rfl⟩

theorem Traced.afterStep
    {command : QueuedCommand} {state next : CommandQueue}
    {completed : List Completion} (hgood : state.Accounted)
    (htraced : state.Traced command completed)
    {action : QueueAction} (hstep : state.step action = some next) :
    next.Traced command (state.completions action ++ completed) := by
  obtain ⟨hissued, hpending, hexecuting⟩ := held_of_step hstep
  constructor
  · exact Nat.lt_of_lt_of_le htraced.issued hissued
  · intro other hmem hticket
    rcases hpending other hmem with hold | hnew
    · exact htraced.pending other hold hticket
    · have hbefore := htraced.issued
      omega
  · intro execution hmem hticket
    rcases hexecuting execution hmem with ⟨before, hbefore, hsame⟩ | htaken
    · rw [← hsame] at hticket ⊢
      exact htraced.executing before hbefore hticket
    · exact htraced.pending _ htaken hticket
  · rcases htraced.answers with hnone | ⟨answer, hanswered, hcompleted⟩
    · rcases answers_of_step hstep with
        hsame | ⟨ticket, answer, _, hanswers, hreply⟩
      · left
        simpa only [answersTo, hsame] using hnone
      · by_cases hticket : ticket = command.ticket
        · right
          refine ⟨answer, ?_, ?_⟩
          · rw [← hnone]
            simp [answersTo, hanswers, hticket]
          · intro result hresult
            obtain ⟨execution, hmem, hsame, hnow⟩ := hreply result hresult
            have hcommand := htraced.executing execution hmem
              (hsame.trans hticket)
            rw [hcommand] at hnow
            exact List.mem_append_left _ hnow
        · left
          rw [← hnone]
          simp [answersTo, hanswers, hticket]
    · right
      refine ⟨answer, ?_, ?_⟩
      · exact answersTo_of_step_of_answered hgood hstep hanswered
      · intro result hresult
        exact List.mem_append_right _ (hcompleted result hresult)

/-! ## Changes of the daemon by others -/

theorem Recorded.withDaemon
    {state : CommandQueue} {completed : List Completion}
    (hrecorded : state.Recorded completed) (daemon : Daemon) :
    { state with daemon := daemon }.Recorded completed := by
  have hgood := hrecorded.accounted
  have haccounted : { state with daemon := daemon }.Accounted :=
    ⟨hgood.once, hgood.issued, hgood.effects, hgood.executing,
      hgood.answered, hgood.awaited, hgood.unanswered⟩
  exact hrecorded.of_same_execution haccounted rfl rfl

theorem Traced.withDaemon
    {command : QueuedCommand} {state : CommandQueue}
    {completed : List Completion}
    (htraced : state.Traced command completed) (daemon : Daemon) :
    { state with daemon := daemon }.Traced command completed :=
  ⟨htraced.issued, htraced.pending, htraced.executing, htraced.answers⟩

end CommandQueue

end MeshController
