import MeshController.ClientLink
import MeshController.MeshSessions

/-!
# The mesh indicator of a client

One client beside the mesh task.  A client shows the flag of the last snapshot
it got, and asks for a new one when the connection is announced; its end is
announced too, but that makes no client ask, and the flag is written only
afterwards.
-/

namespace MeshController

open LabelledRun

/-! ## The flag of the connection -/

/-- A connection which is to be announced is announced by the step, or still
is to be. -/
theorem Opens.afterProceed
    {core next : SnapshotRun} (hopens : Opens core.script)
    (hstep : core.proceed = some next) :
    Opens next.script ∨ core.tells = some .connected := by
  generalize hscript : core.script = script at hopens
  cases hopens with
  | refresh staleCache hrest =>
      left
      rcases SnapshotRun.proceed_cases hscript hstep with
        ⟨hnext, _, _⟩ | ⟨meshConnected, selfInfo, hsame, _⟩ |
        ⟨steps, hpass, _⟩ | ⟨hnext, _, _, _⟩
      · rw [hnext]
        exact .refresh staleCache hrest
      · cases hsame
      · cases hpass
      · rw [hnext]
        exact hrest
  | announce hrest =>
      right
      simp [SnapshotRun.tells, hscript]

/-- The flag is written on a connect, which is to be announced after it, and
in the last step of a session. -/
theorem MeshSession.flag_of_proceed
    {core next : SnapshotRun} {current : Option (List MeshEventKind)}
    (hsession : MeshSession core current) (hopens : ¬ Opens core.script)
    (hstep : core.proceed = some next) :
    Opens next.script ∨
      next.daemon.snapshot.meshConnected =
        core.daemon.snapshot.meshConnected ∨
      core.endsSession = true := by
  cases hsession with
  | away hscript =>
      rw [SnapshotRun.proceed_of_nil hscript] at hstep
      cases hstep
  | opening hother => exact absurd hother hopens
  | connecting hscript hrest =>
      left
      rcases SnapshotRun.proceed_cases hscript hstep with
        ⟨_, _, hrefresh⟩ | ⟨meshConnected, selfInfo, _, hnext, _⟩ |
        ⟨steps, hpass, _⟩ | ⟨_, _, hother, _⟩
      · cases hrefresh
      · rw [hnext]
        exact hrest
      · cases hpass
      · cases hother
  | going between hcalm hlink =>
      right
      left
      cases hscript : core.script with
      | nil =>
          rw [SnapshotRun.proceed_of_nil hscript] at hstep
          cases hstep
      | cons head rest =>
          rw [hscript] at hcalm
          obtain ⟨_, _, _, hflag⟩ := SnapshotRun.proceed_of_calm_head hscript
            (hcalm head List.mem_cons_self) hlink hstep
          exact hflag.trans hlink.symm
  | closing between hcloses hlink =>
      right
      left
      generalize hscript : core.script = script at hcloses
      cases hcloses with
      | calm hhead hrest =>
          obtain ⟨_, _, _, hflag⟩ :=
            SnapshotRun.proceed_of_calm_head hscript hhead hlink hstep
          exact hflag.trans hlink.symm
      | disconnect selfInfo =>
          rcases SnapshotRun.proceed_cases hscript hstep with
            ⟨_, _, hrefresh⟩ | ⟨meshConnected, other, hsame, _⟩ |
            ⟨steps, hpass, _⟩ | ⟨_, hsame, _, _⟩
          · cases hrefresh
          · cases hsame
          · cases hpass
          · exact congrArg Prod.fst hsame
  | closed hscript =>
      right
      right
      simp [SnapshotRun.endsSession, hscript]

/-- The step which announces the connection leaves the flag alone. -/
theorem SnapshotRun.flag_of_tells
    {core next : SnapshotRun} {kind : MeshEventKind}
    (htells : core.tells = some kind) (hstep : core.proceed = some next) :
    next.daemon.snapshot.meshConnected =
      core.daemon.snapshot.meshConnected := by
  unfold tells at htells
  split at htells
  next other rest hscript =>
    rcases proceed_cases hscript hstep with
      ⟨_, _, hrefresh⟩ | ⟨meshConnected, selfInfo, hsame, _⟩ |
      ⟨steps, hpass, _⟩ | ⟨_, hlink, _, _⟩
    · cases hrefresh
    · cases hsame
    · cases hpass
    · exact congrArg Prod.fst hlink
  next => cases htells

/-! ## A client beside the mesh task -/

/-- What an action of the mesh task broadcasts. -/
def MeshTask.broadcasts (state : MeshTask) : TaskAction → Option MeshEventKind
  | .other .proceed => state.core.tells
  | _ => none

structure MeshIndicator where
  task : MeshTask
  link : ClientLink

/-- The mesh task acts at the time `now`.  A reply may come at any time and
with any result. -/
inductive IndicatorAction where
  | task (action : TaskAction) (now : ℤ)
  | link (action : LinkAction)
  | dispatch (ticket : ℕ)
  | reply (ticket : ℕ) (cmd : DaemonCommand) (result : Except String Unit)
  | broadcastOther (event : MeshEvent)

namespace MeshIndicator

def start (daemon : Daemon) : MeshIndicator where
  task := .start daemon
  link := .unconnected

def flag (state : MeshIndicator) : Bool :=
  state.task.core.daemon.snapshot.meshConnected

def step (state : MeshIndicator) : IndicatorAction → Option MeshIndicator
  | .task action now =>
      (state.task.step action).map fun task =>
        { task := task
          link :=
            match state.task.broadcasts action with
            | some kind => state.link.hear { atUnix := now, kind := kind }
            | none => state.link }
  | .link action =>
      (state.link.step state.task.core.daemon.served action).map fun link =>
        { state with link := link }
  | .dispatch ticket =>
      match state.link.listening, state.link.toServer with
      | true, message :: rest =>
          message.command.map fun _ =>
            { state with
              link := { state.link with
                toServer := rest, awaiting := some ticket } }
      | _, _ => none
  | .reply ticket cmd result =>
      some { state with
        link := state.link.answered ticket
          (cmd.answer state.task.core.daemon.telemetry result) }
  | .broadcastOther event =>
      some { state with link := state.link.hear event }

/-- When the end of a connection is written to the snapshot, the client is
away or is still certain to get a snapshot. -/
def RefetchesAtEnd (state : MeshIndicator) : IndicatorAction → Prop
  | .task (.other .proceed) _ => state.task.core.endsSession = true →
      state.link.phase = .away ∨ state.link.refetches = true
  | _ => True

/-- The client follows the flag, or the connection is to be announced. -/
structure Indicates (state : MeshIndicator) : Prop where
  session : ∃ current, MeshSession state.task.core current
  follows : Opens state.task.core.script ∨
    state.link.Tracks (fun snapshot => snapshot.meshConnected) state.flag

theorem indicates_start (daemon : Daemon) : (start daemon).Indicates where
  session := ⟨none, .away rfl rfl⟩
  follows := by
    right
    intro hconnected
    exact absurd rfl hconnected

theorem not_opens_nil : ¬ Opens [] := by
  intro hopens
  cases hopens

theorem Indicates.afterQuietStep
    {state : MeshIndicator} (hgood : state.Indicates) {task : MeshTask}
    (hsession : ∃ current, MeshSession task.core current)
    (hopens : Opens state.task.core.script → Opens task.core.script)
    (hflag : task.core.daemon.snapshot.meshConnected = state.flag) :
    Indicates { task := task, link := state.link } := by
  refine ⟨hsession, ?_⟩
  rw [flag, hflag]
  rcases hgood.follows with hsoon | htracks
  · exact Or.inl (hopens hsoon)
  · exact Or.inr htracks

theorem Indicates.afterSilentProceed
    {state : MeshIndicator} (hgood : state.Indicates) {task : MeshTask}
    (hasks : state.task.core.endsSession = true →
      state.link.phase = .away ∨ state.link.refetches = true)
    (hcore : state.task.core.proceed = some task.core)
    (hsilent : state.task.core.tells = none) :
    Indicates { task := task, link := state.link } := by
  obtain ⟨current, hsession⟩ := hgood.session
  refine ⟨⟨_, hsession.afterProceed hcore⟩, ?_⟩
  by_cases hopens : Opens state.task.core.script
  · rcases hopens.afterProceed hcore with hsoon | htells
    · exact Or.inl hsoon
    · rw [hsilent] at htells
      cases htells
  · have htracks := hgood.follows.resolve_left hopens
    rcases hsession.flag_of_proceed hopens hcore with hsoon | hflag | hends
    · exact Or.inl hsoon
    · right
      rw [flag, hflag]
      exact htracks
    · -- the flag changes under a client which still gets a snapshot
      right
      intro hconnected _
      rcases hasks hends with haway | hrefetches
      · exact absurd haway hconnected
      · exact Or.inl hrefetches

theorem Indicates.afterBroadcast
    {state : MeshIndicator} (hgood : state.Indicates) {task : MeshTask}
    (hcore : state.task.core.proceed = some task.core)
    {kind : MeshEventKind} (htells : state.task.core.tells = some kind)
    (now : ℤ) :
    Indicates
      { task := task
        link := state.link.hear { atUnix := now, kind := kind } } := by
  obtain ⟨current, hsession⟩ := hgood.session
  refine ⟨⟨_, hsession.afterProceed hcore⟩, ?_⟩
  rw [flag, SnapshotRun.flag_of_tells htells hcore]
  rcases hgood.follows with hopens | htracks
  · rcases hopens.afterProceed hcore with hsoon | hannounced
    · exact Or.inl hsoon
    · right
      rw [htells, Option.some.injEq] at hannounced
      apply ClientLink.tracks_hear_of_needsFreshSnapshot
      rw [hannounced]
      rfl
  · exact Or.inr (htracks.afterHear _)

theorem Indicates.afterTask
    {state : MeshIndicator} (hgood : state.Indicates) {action : TaskAction}
    {now : ℤ} (hasks : state.RefetchesAtEnd (.task action now))
    {task : MeshTask} (hstep : state.task.step action = some task) :
    Indicates
      { task := task
        link :=
          match state.task.broadcasts action with
          | some kind => state.link.hear { atUnix := now, kind := kind }
          | none => state.link } := by
  obtain ⟨current, hsession⟩ := hgood.session
  rcases MeshTask.step_cases hstep with
    ⟨view, deviceInfo, rfl, hcore, _⟩ |
    ⟨rfl, hscript, _, hnext, hlink, _⟩ | ⟨deviceInfo, rfl, _, hcore, _⟩ |
    ⟨inner, rfl, _, hcore, _⟩
  · obtain ⟨hidle, _, _, hdaemon⟩ := SnapshotRun.take_cases hcore
    apply hgood.afterQuietStep ⟨_, hsession.afterStep hcore⟩
    · rw [hidle]
      exact fun hopens => absurd hopens not_opens_nil
    · rw [hdaemon]
      rfl
  · have hsame := hsession.of_same_script (hnext.trans hscript.symm) hlink
    apply hgood.afterQuietStep ⟨_, hsame⟩
    · rw [hscript]
      exact fun hopens => absurd hopens not_opens_nil
    · exact congrArg Prod.fst hlink
  · apply hgood.afterQuietStep
    · rw [hcore]
      exact hgood.session
    · rw [hcore]
      exact id
    · rw [hcore]
      rfl
  · cases inner with
    | take work =>
        obtain ⟨hidle, _, _, hdaemon⟩ := SnapshotRun.take_cases hcore
        apply hgood.afterQuietStep ⟨_, hsession.afterStep hcore⟩
        · rw [hidle]
          exact fun hopens => absurd hopens not_opens_nil
        · rw [hdaemon]
          rfl
    | proceed =>
        simp only [MeshTask.broadcasts]
        cases htells : state.task.core.tells with
        | none => exact hgood.afterSilentProceed hasks hcore htells
        | some kind => exact hgood.afterBroadcast hcore htells now
    | load | readOld | overwrite | editFile configFile
    | nodeChanges contacts =>
        obtain ⟨hscript, hlink⟩ := SnapshotRun.script_of_others rfl hcore
        apply hgood.afterQuietStep ⟨_, hsession.afterStep hcore⟩
        · rw [hscript]
          exact id
        · exact congrArg Prod.fst hlink

theorem Indicates.afterLink
    {state : MeshIndicator} (hgood : state.Indicates) {link : ClientLink}
    (hlink : state.link.Tracks (fun snapshot => snapshot.meshConnected)
        state.flag →
      link.Tracks (fun snapshot => snapshot.meshConnected) state.flag) :
    Indicates { state with link := link } := by
  refine ⟨hgood.session, ?_⟩
  rcases hgood.follows with hsoon | htracks
  · exact Or.inl hsoon
  · exact Or.inr (hlink htracks)

theorem Indicates.afterStep
    {state next : MeshIndicator} {action : IndicatorAction}
    (hgood : state.Indicates) (hasks : state.RefetchesAtEnd action)
    (hstep : state.step action = some next) : next.Indicates := by
  cases action with
  | task action now =>
      obtain ⟨task, htask, rfl⟩ := Option.map_eq_some_iff.mp hstep
      exact hgood.afterTask hasks htask
  | link action =>
      obtain ⟨link, hlink, rfl⟩ := Option.map_eq_some_iff.mp hstep
      apply hgood.afterLink
      intro htracks
      have hserved : state.link.Tracks
          (fun snapshot => snapshot.meshConnected)
          state.task.core.daemon.served.meshConnected := htracks
      exact hserved.afterStep hlink
  | dispatch ticket =>
      simp only [step] at hstep
      split at hstep
      next message rest hlistening hrequests =>
        obtain ⟨cmd, hcmd, rfl⟩ := Option.map_eq_some_iff.mp hstep
        have hother : message ≠ .requestSnapshot := by
          rintro rfl
          cases hcmd
        apply hgood.afterLink
        intro htracks
        exact htracks.afterDispatch hrequests hother (some ticket)
      next => cases hstep
  | reply ticket cmd result =>
      cases hstep
      apply hgood.afterLink
      intro htracks
      exact htracks.afterAnswered ticket cmd _ result
  | broadcastOther event =>
      cases hstep
      apply hgood.afterLink
      intro htracks
      exact htracks.afterHear event

end MeshIndicator

open MeshIndicator

/-- If a client is away or certain to get a snapshot whenever the end of a
connection is written, then a client to and from which nothing is under way
shows the flag of the daemon, unless a connect is still to be announced. -/
theorem indicator_converges_of_refetches
    {daemon : Daemon} {actions : List IndicatorAction} {final : MeshIndicator}
    (hasks : MeetsAlong step RefetchesAtEnd (start daemon) actions)
    (hrun : run step (start daemon) actions = some final)
    (hannounced : ¬ Opens final.task.core.script)
    (hserving : final.link.phase = .serving)
    (hkept : final.link.eventsRx.lagged = false)
    (hdelivered : final.link.Delivered) :
    final.link.app.snapshot.meshConnected =
      final.task.core.daemon.snapshot.meshConnected := by
  have hgood : final.Indicates := by
    apply invariant_of_run ?_ (indicates_start daemon) hasks hrun
    intro state action next hgood hallowed hnext
    exact hgood.afterStep hallowed hnext
  rcases hgood.follows with hsoon | htracks
  · exact absurd hsoon hannounced
  · exact htracks.eq_of_delivered hdelivered hserving hkept

/-- The node is connected, and then the client. -/
def IndicatorAction.settingUp : List IndicatorAction :=
  [.task (.connect .hilltop none) 0, .task (.other .proceed) 0,
    .task .setDeviceInfo 0] ++
  List.replicate 5 (.task (.other .proceed) 0) ++
  [.link .accept, .link .sendSnapshot, .link (.sendPacketLog []),
    .link .receiveMessage, .link .receiveMessage, .link .receiveMessage]

/-- The user asks for a snapshot just before the end is written. -/
theorem indicator_converges_of_refetches_pressed :
    ∃ final, run step (start (.hilltop .managed))
        (IndicatorAction.settingUp ++
          [.task (.other (.take .streamEnd)) 0, .task (.other .proceed) 0,
            .link (.press .requestSnapshot), .task (.other .proceed) 0,
            .link .forwardEvent, .link .answerSnapshot,
            .link .receiveMessage, .link .receiveMessage]) = some final ∧
      final.flag = false ∧
      final.link.app.snapshot.meshConnected =
        final.task.core.daemon.snapshot.meshConnected := by
  have hasks : MeetsAlong step RefetchesAtEnd (start (.hilltop .managed))
      (IndicatorAction.settingUp ++
        [.task (.other (.take .streamEnd)) 0, .task (.other .proceed) 0,
          .link (.press .requestSnapshot), .task (.other .proceed) 0,
          .link .forwardEvent, .link .answerSnapshot,
          .link .receiveMessage, .link .receiveMessage]) := by
    -- only the last step of the session has a condition
    repeat' constructor
    all_goals intro hends
    all_goals first
      | (cases hends; done)
      | exact Or.inr (by decide)
  refine ⟨_, rfl, rfl, ?_⟩
  exact indicator_converges_of_refetches hasks rfl not_opens_nil rfl rfl
    ⟨rfl, rfl, rfl⟩

/-- The client is told of the end of the connection, and goes on to show that
there is one. -/
theorem indicator_stale_of_disconnect :
    ¬ ∀ (daemon : Daemon) (actions : List IndicatorAction)
        (final : MeshIndicator),
      run step (start daemon) actions = some final →
      final.task.core.script = [] →
      final.link.phase = .serving → final.link.awaiting = none →
      final.link.eventsRx.lagged = false → final.link.Delivered →
      final.link.app.snapshot.meshConnected =
        final.task.core.daemon.snapshot.meshConnected := by
  intro hclaim
  have hsame := hclaim (.hilltop .managed)
    (IndicatorAction.settingUp ++
      [.task (.other (.take .streamEnd)) 0, .task (.other .proceed) 0,
        .task (.other .proceed) 0, .link .forwardEvent,
        .link .receiveMessage]) _ rfl rfl rfl rfl rfl ⟨rfl, rfl, rfl⟩
  exact absurd hsame (by decide)

end MeshController
