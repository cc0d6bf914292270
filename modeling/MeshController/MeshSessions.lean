import MeshController.MeshTask

/-!
# Sessions of the mesh task

What the mesh task broadcasts between a connect and the end of the connection
begins with `Connected` and ends with the only `Disconnected`, on both ways a
connection can end.  The work which is left when a session begins, goes on or
ends is described by its shape; the events of a session follow from it.
-/

namespace MeshController

open LabelledRun

/-! ## What ends a connection -/

/-- A step which announces or records the end of the connection. -/
def TaskStep.endsConnection : TaskStep → Bool
  | .mesh (.broadcast .disconnected) => true
  | .setLink false _ => true
  | _ => false

/-- The connection goes on. -/
def Calm (script : List TaskStep) : Prop :=
  ∀ step ∈ script, step.endsConnection = false

/-- Nothing but a refresh comes before the announcement of the connection. -/
inductive Opens : List TaskStep → Prop where
  | refresh (staleCache : Option (List ContactDto)) {rest : List TaskStep}
      (hrest : Opens rest) : Opens (.mesh (.refreshContacts staleCache) :: rest)
  | announce {rest : List TaskStep} (hrest : Calm rest) :
      Opens (.mesh (.broadcast .connected) :: rest)

/-- The connection goes on for a while and then ends. -/
inductive Closes : List TaskStep → Prop where
  | calm {step : TaskStep} {rest : List TaskStep}
      (hstep : step.endsConnection = false) (hrest : Closes rest) :
      Closes (step :: rest)
  | disconnect (selfInfo : Option SelfInfoDto) :
      Closes [.mesh (.broadcast .disconnected), .setLink false selfInfo]

theorem Calm.append
    {first second : List TaskStep} (hfirst : Calm first)
    (hsecond : Calm second) : Calm (first ++ second) := by
  intro step hmem
  rcases List.mem_append.mp hmem with hearly | hlate
  · exact hfirst step hearly
  · exact hsecond step hlate

theorem Closes.append
    {calm closing : List TaskStep} (hcalm : Calm calm)
    (hcloses : Closes closing) : Closes (calm ++ closing) := by
  induction calm with
  | nil => exact hcloses
  | cons step rest ih =>
      obtain ⟨hstep, hrest⟩ := List.forall_mem_cons.mp hcalm
      exact .calm hstep (ih hrest)

theorem calm_map_mesh
    {steps : List MeshStep}
    (hsteps : ∀ step ∈ steps, step ≠ .broadcast .disconnected) :
    Calm (steps.map .mesh) := by
  intro step hmem
  obtain ⟨meshStep, hmeshStep, rfl⟩ := List.mem_map.mp hmem
  unfold TaskStep.endsConnection
  split
  next hsame =>
    cases hsame
    exact absurd rfl (hsteps _ hmeshStep)
  next hsame => cases hsame
  next => rfl

/-! ## What the mesh task has to do -/

theorem ne_disconnected_of_reconcile
    (view : ReconcileView) (managedRepeaters : List ManagedRepeater) :
    ∀ step ∈ reconcileManagedRepeatersSteps view managedRepeaters,
      step ≠ .broadcast .disconnected := by
  intro step hmem
  rcases List.mem_append.mp hmem with hdeclared | hrefresh
  · obtain ⟨entry, _, hstep⟩ := List.mem_flatMap.mp hdeclared
    simp only [reconcileOneSteps] at hstep
    split at hstep
    · simp at hstep
    · cases hanswer : view.declaration entry.2 with
      | error reason => simp [hanswer] at hstep
      | ok publicKey =>
          simp only [hanswer, List.mem_cons, List.not_mem_nil, or_false]
            at hstep
          rcases hstep with rfl | rfl <;> simp
  · split at hrefresh
    · simp at hrefresh
    · rw [List.mem_singleton.mp hrefresh]
      simp

theorem calm_passSteps
    {head : TaskStep} {config : Config} {steps : List MeshStep}
    (hpass : head.passSteps config = some steps) :
    Calm (steps.map .mesh) := by
  apply calm_map_mesh
  cases head with
  | reconcile view =>
      cases hpass
      exact ne_disconnected_of_reconcile view config.managedRepeaters
  | enforce view =>
      cases hpass
      unfold enforceSteps
      split
      · exact (HandlerScript.enforceObserverNodeConfig view).ne_disconnected
      · simp
  | mesh meshStep | setLink meshConnected selfInfo | hear node => cases hpass

theorem calm_heardSteps
    (daemon : Daemon) (raw : MeshCoreEvent) (view : EventView) :
    Calm (heardSteps daemon raw view) := by
  unfold heardSteps handleDiscoveredNodeSteps
  split
  · simp [Calm]
  · split
    · unfold Calm
      rw [List.forall_mem_cons]
      refine ⟨rfl, ?_⟩
      split <;> simp [TaskStep.endsConnection]
    · simp [Calm]

theorem eventSteps_shape
    (daemon : Daemon) (raw : MeshCoreEvent) (view : EventView) :
    Calm (eventSteps daemon raw view) ∨
      Closes (eventSteps daemon raw view) := by
  unfold eventSteps
  split
  · left
    simp [Calm]
  · exact Or.inr (.disconnect _)
  next kind hother _ =>
    left
    apply Calm.append
    · split <;> simp [Calm, TaskStep.endsConnection]
    · intro step hmem
      rw [List.mem_singleton.mp hmem]
      unfold TaskStep.endsConnection
      split
      next hsame =>
        cases hsame
        exact absurd rfl hother
      next hsame => cases hsame
      next => rfl

def MeshWork.connects : MeshWork → Bool
  | .connect _ => true
  | _ => false

/-- On a connection, whatever the mesh task takes up either leaves the
connection alone or ends it. -/
theorem steps_shape
    {daemon : Daemon} (hconnected : daemon.snapshot.meshConnected = true)
    {work : MeshWork} (hwork : work.connects = false) :
    Calm (work.steps daemon) ∨ Closes (work.steps daemon) := by
  cases work with
  | connect view => cases hwork
  | event raw view =>
      have hheard := calm_heardSteps daemon raw view
      rcases eventSteps_shape daemon raw view with hcalm | hcloses
      · exact Or.inl (hheard.append hcalm)
      · exact Or.inr (hcloses.append hheard)
  | tick selfInfo =>
      left
      rw [MeshWork.steps, hconnected]
      simp [Calm, TaskStep.endsConnection]
  | command view cmd =>
      left
      exact calm_map_mesh
        (HandlerScript.handleCommand daemon view cmd).ne_disconnected
  | streamEnd => exact Or.inr (.disconnect _)

/-! ## The session which is on -/

/-- What the next step of the mesh task broadcasts. -/
def SnapshotRun.tells (state : SnapshotRun) : Option MeshEventKind :=
  match state.script with
  | .mesh (.broadcast kind) :: _ => some kind
  | _ => none

/-- The next step of the mesh task is the last one of the session. -/
def SnapshotRun.endsSession (state : SnapshotRun) : Bool :=
  match state.script with
  | .setLink false _ :: _ => true
  | _ => false

/-- The events of the session which is on after a step, `current` being those
before it. -/
def SnapshotRun.sessionAfter
    (state : SnapshotRun) (current : Option (List MeshEventKind)) :
    SnapshotAction → Option (List MeshEventKind)
  | .take (.connect _) => some []
  | .proceed =>
      if state.endsSession then none
      else current.map fun events => events ++ state.tells.toList
  | _ => current

/-- Begins with the announcement of the connection and ends with the only one
of its end. -/
def Bracketed (events : List MeshEventKind) : Prop :=
  ∃ between, events = .connected :: between ++ [.disconnected] ∧
    .disconnected ∉ between

/-- How far the mesh task is in its session, by what it has broadcast. -/
inductive MeshSession (core : SnapshotRun) :
    Option (List MeshEventKind) → Prop where
  | away (hscript : core.script = [])
      (hlink : core.daemon.snapshot.meshConnected = false) :
      MeshSession core none
  | connecting {selfInfo : Option SelfInfoDto} {rest : List TaskStep}
      (hscript : core.script = .setLink true selfInfo :: rest)
      (hopens : Opens rest)
      (hlink : core.daemon.snapshot.meshConnected = false) :
      MeshSession core (some [])
  | opening (hopens : Opens core.script)
      (hlink : core.daemon.snapshot.meshConnected = true) :
      MeshSession core (some [])
  | going (between : List MeshEventKind) (hcalm : Calm core.script)
      (hlink : core.daemon.snapshot.meshConnected = true)
      (hbetween : .disconnected ∉ between) :
      MeshSession core (some (.connected :: between))
  | closing (between : List MeshEventKind) (hcloses : Closes core.script)
      (hlink : core.daemon.snapshot.meshConnected = true)
      (hbetween : .disconnected ∉ between) :
      MeshSession core (some (.connected :: between))
  | closed {events : List MeshEventKind} {selfInfo : Option SelfInfoDto}
      (hscript : core.script = [.setLink false selfInfo])
      (hlink : core.daemon.snapshot.meshConnected = true)
      (hevents : Bracketed events) : MeshSession core (some events)

namespace SnapshotRun

variable {core next : SnapshotRun} {head : TaskStep} {rest : List TaskStep}

/-- A step which does not end the connection leaves steps in its place which
do not either. -/
theorem proceed_of_calm_head
    (hscript : core.script = head :: rest)
    (hhead : head.endsConnection = false)
    (hlink : core.daemon.snapshot.meshConnected = true)
    (hstep : core.proceed = some next) :
    ∃ added, Calm added ∧ next.script = added ++ rest ∧
      next.daemon.snapshot.meshConnected = true := by
  rcases proceed_cases hscript hstep with
    ⟨hnext, hdaemon, _⟩ | ⟨meshConnected, selfInfo, rfl, hnext, hdaemon⟩ |
    ⟨steps, hpass, hnext, hdaemon⟩ | ⟨hnext, hsame, _, _⟩
  · refine ⟨[head], ?_, hnext, ?_⟩
    · simpa [Calm] using hhead
    · rw [hdaemon]
      exact hlink
  · cases meshConnected with
    | false => cases hhead
    | true =>
        refine ⟨[], by simp [Calm], hnext, ?_⟩
        rw [hdaemon]
        rfl
  · refine ⟨steps.map .mesh, calm_passSteps hpass, hnext, ?_⟩
    rw [hdaemon]
    exact hlink
  · refine ⟨[], by simp [Calm], hnext, ?_⟩
    rw [← hlink]
    exact congrArg Prod.fst hsame

theorem sessionAfter_of_calm_head
    (hscript : core.script = head :: rest)
    (hhead : head.endsConnection = false) (events : List MeshEventKind) :
    core.sessionAfter (some events) .proceed =
        some (events ++ core.tells.toList) ∧
      .disconnected ∉ core.tells.toList := by
  cases head with
  | mesh meshStep =>
      cases meshStep with
      | broadcast kind =>
          have hkind : kind ≠ .disconnected := by
            rintro rfl
            cases hhead
          simp [sessionAfter, endsSession, tells, hscript, hkind.symm]
      | removeFromCompanion contact | addToCompanion contact
      | upsertConfig request | saveConfig outcome
      | setTelemetry key telemetry | refreshContacts staleCache
      | reply result =>
          simp [sessionAfter, endsSession, tells, hscript]
  | setLink meshConnected selfInfo =>
      cases meshConnected with
      | false => cases hhead
      | true => simp [sessionAfter, endsSession, tells, hscript]
  | hear node | reconcile view | enforce view =>
      simp [sessionAfter, endsSession, tells, hscript]

end SnapshotRun

namespace MeshSession

variable {core next : SnapshotRun} {current : Option (List MeshEventKind)}

theorem connecting_afterProceed
    {selfInfo : Option SelfInfoDto} {rest : List TaskStep}
    (hscript : core.script = .setLink true selfInfo :: rest)
    (hopens : Opens rest) (hstep : core.proceed = some next) :
    MeshSession next (core.sessionAfter (some []) .proceed) := by
  rw [(SnapshotRun.sessionAfter_of_calm_head hscript rfl []).1]
  have htells : core.tells = none := by simp [SnapshotRun.tells, hscript]
  rw [htells]
  rcases SnapshotRun.proceed_cases hscript hstep with
    ⟨_, _, hrefresh⟩ | ⟨meshConnected, selfInfo, hsame, hnext, hdaemon⟩ |
    ⟨steps, hpass, _⟩ | ⟨_, _, hother, _⟩
  · cases hrefresh
  · cases hsame
    refine .opening ?_ ?_
    · rw [hnext]
      exact hopens
    · rw [hdaemon]
      rfl
  · cases hpass
  · cases hother

theorem opening_afterProceed
    (hopens : Opens core.script)
    (hlink : core.daemon.snapshot.meshConnected = true)
    (hstep : core.proceed = some next) :
    MeshSession next (core.sessionAfter (some []) .proceed) := by
  generalize hscript : core.script = script at hopens
  cases hopens with
  | refresh staleCache hrest =>
      rw [(SnapshotRun.sessionAfter_of_calm_head hscript rfl []).1]
      have htells : core.tells = none := by
        simp [SnapshotRun.tells, hscript]
      rw [htells]
      rcases SnapshotRun.proceed_cases hscript hstep with
        ⟨hnext, hdaemon, _⟩ | ⟨meshConnected, selfInfo, hsame, _⟩ |
        ⟨steps, hpass, _⟩ | ⟨hnext, hsame, _, _⟩
      · refine .opening ?_ ?_
        · rw [hnext]
          exact .refresh staleCache hrest
        · rw [hdaemon]
          exact hlink
      · cases hsame
      · cases hpass
      · refine .opening ?_ ?_
        · rw [hnext]
          exact hrest
        · rw [← hlink]
          exact congrArg Prod.fst hsame
  | announce hrest =>
      obtain ⟨hafter, _⟩ :=
        SnapshotRun.sessionAfter_of_calm_head hscript rfl []
      have htells : core.tells = some .connected := by
        simp [SnapshotRun.tells, hscript]
      rw [hafter, htells]
      obtain ⟨added, hadded, hnext, hlink⟩ :=
        SnapshotRun.proceed_of_calm_head hscript rfl hlink hstep
      refine .going [] ?_ hlink (by simp)
      rw [hnext]
      exact hadded.append hrest

theorem going_afterProceed
    {between : List MeshEventKind} (hcalm : Calm core.script)
    (hlink : core.daemon.snapshot.meshConnected = true)
    (hbetween : .disconnected ∉ between)
    (hstep : core.proceed = some next) :
    MeshSession next
      (core.sessionAfter (some (.connected :: between)) .proceed) := by
  cases hscript : core.script with
  | nil =>
      rw [SnapshotRun.proceed_of_nil hscript] at hstep
      cases hstep
  | cons head rest =>
      rw [hscript] at hcalm
      obtain ⟨hhead, hrest⟩ := List.forall_mem_cons.mp hcalm
      obtain ⟨hafter, htells⟩ :=
        SnapshotRun.sessionAfter_of_calm_head hscript hhead _
      obtain ⟨added, hadded, hnext, hlink⟩ :=
        SnapshotRun.proceed_of_calm_head hscript hhead hlink hstep
      rw [hafter, List.cons_append]
      refine .going _ ?_ hlink ?_
      · rw [hnext]
        exact hadded.append hrest
      · simp only [List.mem_append, not_or]
        exact ⟨hbetween, htells⟩

theorem closing_afterProceed
    {between : List MeshEventKind} (hcloses : Closes core.script)
    (hlink : core.daemon.snapshot.meshConnected = true)
    (hbetween : .disconnected ∉ between)
    (hstep : core.proceed = some next) :
    MeshSession next
      (core.sessionAfter (some (.connected :: between)) .proceed) := by
  generalize hscript : core.script = script at hcloses
  cases hcloses with
  | calm hhead hrest =>
      obtain ⟨hafter, htells⟩ :=
        SnapshotRun.sessionAfter_of_calm_head hscript hhead _
      obtain ⟨added, hadded, hnext, hlink⟩ :=
        SnapshotRun.proceed_of_calm_head hscript hhead hlink hstep
      rw [hafter, List.cons_append]
      refine .closing _ ?_ hlink ?_
      · rw [hnext]
        exact hrest.append hadded
      · simp only [List.mem_append, not_or]
        exact ⟨hbetween, htells⟩
  | disconnect selfInfo =>
      have hafter :
          core.sessionAfter (some (.connected :: between)) .proceed =
            some (.connected :: between ++ [.disconnected]) := by
        simp [SnapshotRun.sessionAfter, SnapshotRun.endsSession,
          SnapshotRun.tells, hscript]
      rw [hafter]
      rcases SnapshotRun.proceed_cases hscript hstep with
        ⟨_, _, hrefresh⟩ | ⟨meshConnected, other, hsame, _⟩ |
        ⟨steps, hpass, _⟩ | ⟨hnext, hsame, _, _⟩
      · cases hrefresh
      · cases hsame
      · cases hpass
      · refine .closed hnext ?_ ⟨_, rfl, hbetween⟩
        rw [← hlink]
        exact congrArg Prod.fst hsame

theorem closed_afterProceed
    {events : List MeshEventKind} {selfInfo : Option SelfInfoDto}
    (hscript : core.script = [.setLink false selfInfo])
    (hstep : core.proceed = some next) :
    MeshSession next (core.sessionAfter (some events) .proceed) := by
  rcases SnapshotRun.proceed_cases hscript hstep with
    ⟨_, _, hrefresh⟩ | ⟨meshConnected, other, hsame, hnext, hdaemon⟩ |
    ⟨steps, hpass, _⟩ | ⟨_, _, hother, _⟩
  · cases hrefresh
  · cases hsame
    have haway := MeshSession.away hnext (by rw [hdaemon]; rfl)
    simpa [SnapshotRun.sessionAfter, SnapshotRun.endsSession, hscript]
      using haway
  · cases hpass
  · cases hother

theorem afterProceed
    (hsession : MeshSession core current) (hstep : core.proceed = some next) :
    MeshSession next (core.sessionAfter current .proceed) := by
  cases hsession with
  | away hscript =>
      rw [SnapshotRun.proceed_of_nil hscript] at hstep
      cases hstep
  | connecting hscript hopens _ =>
      exact connecting_afterProceed hscript hopens hstep
  | opening hopens hlink => exact opening_afterProceed hopens hlink hstep
  | going between hcalm hlink hbetween =>
      exact going_afterProceed hcalm hlink hbetween hstep
  | closing between hcloses hlink hbetween =>
      exact closing_afterProceed hcloses hlink hbetween hstep
  | closed hscript _ _ => exact closed_afterProceed hscript hstep

theorem afterTake
    (hsession : MeshSession core current) {work : MeshWork}
    (hstep : core.step (.take work) = some next) :
    MeshSession next (core.sessionAfter current (.take work)) := by
  obtain ⟨hidle, hpossible, hscript, hdaemon⟩ := SnapshotRun.take_cases hstep
  cases hsession with
  | away _ hlink =>
      cases work with
      | connect view =>
          refine .connecting hscript ?_ ?_
          · refine .refresh _ (.announce ?_)
            simp [Calm, TaskStep.endsConnection]
          · rw [hdaemon]
            exact hlink
      | event raw view | tick selfInfo | command view cmd | streamEnd =>
          rw [hlink] at hpossible
          cases hpossible
  | going between _ hlink hbetween =>
      have hwork : work.connects = false := by
        cases work with
        | connect view =>
            rw [hlink] at hpossible
            cases hpossible
        | event raw view | tick selfInfo | command view cmd | streamEnd => rfl
      have hafter : core.sessionAfter (some (.connected :: between))
          (.take work) = some (.connected :: between) := by
        cases work with
        | connect view => cases hwork
        | event raw view | tick selfInfo | command view cmd | streamEnd => rfl
      have hkept : next.daemon.snapshot.meshConnected = true := by
        rw [hdaemon]
        exact hlink
      rw [hafter]
      rcases steps_shape hlink hwork with hcalm | hcloses
      · exact .going between (hscript ▸ hcalm) hkept hbetween
      · exact .closing between (hscript ▸ hcloses) hkept hbetween
  | connecting hbusy | closed hbusy =>
      rw [hidle] at hbusy
      cases hbusy
  | opening hbusy | closing between hbusy =>
      rw [hidle] at hbusy
      cases hbusy

/-- Reloads, the operator and the node leave the session where it is. -/
theorem of_same_script
    (hsession : MeshSession core current) (hscript : next.script = core.script)
    (hlink : next.daemon.link = core.daemon.link) :
    MeshSession next current := by
  have hflag : next.daemon.snapshot.meshConnected =
      core.daemon.snapshot.meshConnected := congrArg Prod.fst hlink
  cases hsession with
  | away hidle hoff => exact .away (hscript.trans hidle) (hflag.trans hoff)
  | connecting hhead hopens hoff =>
      exact .connecting (hscript.trans hhead) hopens (hflag.trans hoff)
  | opening hopens hon => exact .opening (hscript ▸ hopens) (hflag.trans hon)
  | going between hcalm hon hbetween =>
      exact .going between (hscript ▸ hcalm) (hflag.trans hon) hbetween
  | closing between hcloses hon hbetween =>
      exact .closing between (hscript ▸ hcloses) (hflag.trans hon) hbetween
  | closed hhead hon hevents =>
      exact .closed (hscript.trans hhead) (hflag.trans hon) hevents

theorem afterStep
    (hsession : MeshSession core current) {action : SnapshotAction}
    (hstep : core.step action = some next) :
    MeshSession next (core.sessionAfter current action) := by
  cases action with
  | take work => exact hsession.afterTake hstep
  | proceed => exact hsession.afterProceed hstep
  | load | readOld | overwrite | editFile configFile | nodeChanges contacts =>
      obtain ⟨hscript, hlink⟩ := SnapshotRun.script_of_others rfl hstep
      exact hsession.of_same_script hscript hlink

/-- Connecting begins a session when none is on. -/
theorem eq_none_of_connect
    (hsession : MeshSession core current) {view : ConnectView}
    (hstep : core.step (.take (.connect view)) = some next) :
    current = none := by
  obtain ⟨hidle, hpossible, _, _⟩ := SnapshotRun.take_cases hstep
  cases hsession with
  | away => rfl
  | connecting hbusy | closed hbusy =>
      rw [hidle] at hbusy
      cases hbusy
  | opening hbusy | closing between hbusy =>
      rw [hidle] at hbusy
      cases hbusy
  | going between _ hlink =>
      rw [hlink] at hpossible
      cases hpossible

/-- Nothing is left to do when no session is on. -/
theorem script_eq_nil (hsession : MeshSession core none) :
    core.script = [] := by
  cases hsession with
  | away hscript => exact hscript

theorem bracketed_of_endsSession
    {events : List MeshEventKind} (hsession : MeshSession core (some events))
    (hends : core.endsSession = true) : Bracketed events := by
  unfold SnapshotRun.endsSession at hends
  split at hends
  next selfInfo rest hscript =>
    cases hsession with
    | connecting hother =>
        rw [hscript] at hother
        cases hother
    | opening hopens =>
        rw [hscript] at hopens
        cases hopens
    | going between hcalm =>
        rw [hscript] at hcalm
        cases hcalm _ List.mem_cons_self
    | closing between hcloses =>
        rw [hscript] at hcloses
        cases hcloses with
        | calm hhead => cases hhead
    | closed _ _ hevents => exact hevents
  next => cases hends

/-- What has been broadcast in the session which is on. -/
theorem current_cases
    {events : List MeshEventKind} (hsession : MeshSession core (some events)) :
    events = [] ∨
      (∃ between, events = .connected :: between ∧
        .disconnected ∉ between) ∨
      Bracketed events := by
  cases hsession with
  | connecting | opening => exact Or.inl rfl
  | going between _ _ hbetween | closing between _ _ hbetween =>
      exact Or.inr (Or.inl ⟨between, rfl, hbetween⟩)
  | closed _ _ hevents => exact Or.inr (Or.inr hevents)

end MeshSession

/-! ## The log of the sessions -/

/-- The events of the sessions which are over, newest session first, those of
the session which is on, and those which were broadcast in none. -/
structure SessionLog where
  finished : List (List MeshEventKind)
  current : Option (List MeshEventKind)
  outside : List MeshEventKind

/-- What an action of the loop does on the connection. -/
def TaskAction.onConnection : TaskAction → Option SnapshotAction
  | .connect view _ => some (.take (.connect view))
  | .connectFails => none
  | .setDeviceInfo => none
  | .other action => some action

namespace SessionLog

def empty : SessionLog where
  finished := []
  current := none
  outside := []

def hear (log : SessionLog) (kind : MeshEventKind) : SessionLog :=
  match log.current with
  | some events => { log with current := some (events ++ [kind]) }
  | none => { log with outside := log.outside ++ [kind] }

/-- The session which is on, if any, is over. -/
def finish (log : SessionLog) (current : Option (List MeshEventKind)) :
    SessionLog :=
  { log with
    finished := log.current.toList ++ log.finished
    current := current }

def note (log : SessionLog) (state : MeshTask) (action : TaskAction)
    (_ : MeshTask) : SessionLog :=
  match action.onConnection with
  | some (.take (.connect _)) => log.finish (some [])
  | some .proceed =>
      if state.core.endsSession then log.finish none
      else
        match state.core.tells with
        | some kind => log.hear kind
        | none => log
  | _ => log

structure Sound (log : SessionLog) (core : SnapshotRun) : Prop where
  session : MeshSession core log.current
  finished : ∀ events ∈ log.finished, Bracketed events
  outside : log.outside = []

theorem sound_start (daemon : Daemon) :
    empty.Sound (MeshTask.start daemon).core where
  session := .away rfl rfl
  finished := by simp [empty]
  outside := rfl

section Steps

variable {log : SessionLog} {core next : SnapshotRun}

theorem Sound.afterConnect
    (hsound : log.Sound core) {view : ConnectView}
    (hstep : core.step (.take (.connect view)) = some next) :
    (log.finish (some [])).Sound next := by
  have hnone : log.current = none := hsound.session.eq_none_of_connect hstep
  refine ⟨hsound.session.afterStep hstep, ?_, hsound.outside⟩
  rw [finish, hnone]
  exact hsound.finished

theorem Sound.afterEnd
    (hsound : log.Sound core) (hends : core.endsSession = true)
    (hstep : core.proceed = some next) : (log.finish none).Sound next := by
  have hsession := hsound.session.afterProceed hstep
  rw [SnapshotRun.sessionAfter, if_pos hends] at hsession
  refine ⟨hsession, ?_, hsound.outside⟩
  intro events hmem
  rcases List.mem_append.mp hmem with hlast | hearlier
  · have hcurrent := hsound.session
    rw [Option.mem_toList.mp hlast] at hcurrent
    exact hcurrent.bracketed_of_endsSession hends
  · exact hsound.finished events hearlier

theorem Sound.afterBroadcast
    (hsound : log.Sound core) (hgoes : core.endsSession = false)
    {kind : MeshEventKind} (htells : core.tells = some kind)
    (hstep : core.proceed = some next) : (log.hear kind).Sound next := by
  have hsession := hsound.session.afterProceed hstep
  rw [SnapshotRun.sessionAfter, if_neg (by simp [hgoes]), htells] at hsession
  cases hcurrent : log.current with
  | none =>
      -- with no session on, the script is empty and nothing is broadcast
      have hidle := hsound.session
      rw [hcurrent] at hidle
      rw [SnapshotRun.proceed_of_nil hidle.script_eq_nil] at hstep
      cases hstep
  | some events =>
      rw [hcurrent] at hsession
      rw [hear, hcurrent]
      exact ⟨hsession, hsound.finished, hsound.outside⟩

theorem Sound.afterSilentStep
    (hsound : log.Sound core) (hgoes : core.endsSession = false)
    (htells : core.tells = none) (hstep : core.proceed = some next) :
    log.Sound next := by
  have hsession := hsound.session.afterProceed hstep
  rw [SnapshotRun.sessionAfter, if_neg (by simp [hgoes]), htells] at hsession
  refine ⟨?_, hsound.finished, hsound.outside⟩
  simpa using hsession

end Steps

theorem Sound.afterStep
    {log : SessionLog} {state next : MeshTask} {action : TaskAction}
    (hsound : log.Sound state.core)
    (hstep : state.step action = some next) :
    (log.note state action next).Sound next.core := by
  rcases MeshTask.step_cases hstep with
    ⟨view, deviceInfo, rfl, hcore, _⟩ |
    ⟨rfl, hscript, _, hnext, hlink, _⟩ | ⟨deviceInfo, rfl, _, hcore, _⟩ |
    ⟨inner, rfl, hfree, hcore, _⟩
  · exact hsound.afterConnect hcore
  · have hsession := hsound.session.of_same_script
      (hnext.trans hscript.symm) hlink
    exact ⟨hsession, hsound.finished, hsound.outside⟩
  · rw [note, TaskAction.onConnection, hcore]
    exact hsound
  · cases inner with
    | take work =>
        cases work with
        | connect view => cases hfree
        | event raw view | tick selfInfo | command view cmd | streamEnd =>
            exact ⟨hsound.session.afterStep hcore, hsound.finished,
              hsound.outside⟩
    | proceed =>
        simp only [note, TaskAction.onConnection]
        cases hends : state.core.endsSession with
        | true => exact hsound.afterEnd hends hcore
        | false =>
            cases htells : state.core.tells with
            | none => exact hsound.afterSilentStep hends htells hcore
            | some kind => exact hsound.afterBroadcast hends htells hcore
    | load | readOld | overwrite | editFile configFile
    | nodeChanges contacts =>
        exact ⟨hsound.session.afterStep hcore, hsound.finished,
          hsound.outside⟩

/-- A mesh task with a log which is right about it. -/
def Follows (watched : MeshTask × SessionLog) : Prop :=
  watched.2.Sound watched.1.core

end SessionLog

open MeshTask

/-- In every run, each session which is over began with `Connected` and ended
with its only `Disconnected`, the one which is on has so far done so as well,
and nothing was broadcast in no session. -/
theorem sessions_bracketed
    {daemon : Daemon} {actions : List TaskAction} {final : MeshTask}
    (hrun : run step (start daemon) actions = some final) :
    ∃ log, run (observed step SessionLog.note) (start daemon, .empty) actions =
        some (final, log) ∧
      (∀ events ∈ log.finished, Bracketed events) ∧
      (∀ events, log.current = some events →
        events = [] ∨
          (∃ between, events = .connected :: between ∧
            .disconnected ∉ between) ∨
          Bracketed events) ∧
      log.outside = [] := by
  have hobserved : ∃ log,
      run (observed step SessionLog.note) (start daemon, .empty) actions =
        some (final, log) := exists_run_observed hrun SessionLog.empty
  obtain ⟨log, hlog⟩ := hobserved
  refine ⟨log, hlog, ?_⟩
  have hsound : SessionLog.Follows (final, log) := by
    apply invariant_of_every_step ?_ ?_ hlog
    · intro watched action after hsound hwatched
      obtain ⟨next, hstep, rfl⟩ := observed_eq_some_iff.mp hwatched
      exact SessionLog.Sound.afterStep hsound hstep
    · exact SessionLog.sound_start daemon
  refine ⟨hsound.finished, ?_, hsound.outside⟩
  intro events hcurrent
  have hsession := hsound.session
  rw [hcurrent] at hsession
  exact hsession.current_cases

/-- Two sessions with a failed attempt to connect between them; the second
ends with an event of the node. -/
def TaskAction.twoSessions : List TaskAction :=
  TaskAction.session .hilltop none ++
    .connectFails :: .connect .hilltop none :: .other .proceed ::
      .setDeviceInfo :: List.replicate 5 (.other .proceed) ++
    [.other (.take (.event ⟨.disconnected, .none⟩ ⟨0, [], none, none⟩)),
      .other .proceed, .other .proceed]

theorem sessions_bracketed_twoSessions :
    ∃ final log, run (observed step SessionLog.note)
        (start (.hilltop .managed), .empty) TaskAction.twoSessions =
          some (final, log) ∧
      log.finished.length = 2 ∧
      ∀ events ∈ log.finished, Bracketed events := by
  obtain ⟨log, hlog, hfinished, _⟩ :=
    @sessions_bracketed (.hilltop .managed) TaskAction.twoSessions _ rfl
  have hlength : (run (observed step SessionLog.note)
      (start (.hilltop .managed), .empty) TaskAction.twoSessions).map
        (fun watched => watched.2.finished.length) = some 2 := rfl
  rw [hlog, Option.map_some, Option.some.injEq] at hlength
  exact ⟨_, log, hlog, hlength, hfinished⟩

end MeshController
