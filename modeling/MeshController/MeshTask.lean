import MeshController.MqttMessages
import MeshController.SnapshotCoherence

/-!
# The connection loop

The whole loop of the mesh task: attempts to connect which may fail, the
queries made on connecting, and the work of the connection until it ends.  The
model and firmware of the node and its identity are asked for again on every
connect, the identity at every tick as well, and the answer replaces what was
known, also when there is none.
-/

namespace MeshController

open LabelledRun

/-! ## The link -/

/-- What the snapshot says of the connection. -/
def Daemon.link (daemon : Daemon) : Bool × Option SelfInfoDto :=
  (daemon.snapshot.meshConnected, daemon.snapshot.selfInfo)

theorem Daemon.link_afterStep (daemon : Daemon) (step : MeshStep) :
    (daemon.afterStep step).link = daemon.link := by
  cases step with
  | saveConfig outcome => cases outcome <;> rfl
  | removeFromCompanion contact | addToCompanion contact
  | upsertConfig request | setTelemetry key telemetry
  | refreshContacts staleCache | broadcast kind | reply result => rfl

def TaskStep.setsLink : TaskStep → Bool
  | .setLink .. => true
  | _ => false

/-- A step of the mesh task starts a refresh, sets the link, becomes the steps
of a pass, or is done and leaves the link alone. -/
theorem SnapshotRun.proceed_cases
    {state next : SnapshotRun} {head : TaskStep} {rest : List TaskStep}
    (hscript : state.script = head :: rest)
    (hstep : state.proceed = some next) :
    (next.script = head :: rest ∧ next.daemon = state.daemon ∧
        head.isRefresh = true) ∨
      (∃ meshConnected selfInfo, head = .setLink meshConnected selfInfo ∧
        next.script = rest ∧
        next.daemon = state.daemon.setLink meshConnected selfInfo) ∨
      (∃ steps, head.passSteps state.daemon.config = some steps ∧
        next.script = steps.map .mesh ++ rest ∧
        next.daemon = state.daemon) ∨
      (next.script = rest ∧ next.daemon.link = state.daemon.link ∧
        head.setsLink = false ∧
        head.passSteps state.daemon.config = none) := by
  rcases SnapshotRun.proceed_inversion hscript hstep with
    ⟨staleCache, rfl, _, rfl⟩ | ⟨staleCache, read, rfl, _, rfl⟩ |
    ⟨meshStep, rfl, _, rfl⟩ | ⟨meshConnected, selfInfo, rfl, rfl⟩ |
    ⟨node, rfl, rfl⟩ | ⟨steps, hpass, rfl⟩
  · exact Or.inl ⟨hscript, rfl, rfl⟩
  · exact Or.inr (Or.inr (Or.inr ⟨rfl, rfl, rfl, rfl⟩))
  · exact Or.inr (Or.inr (Or.inr
      ⟨rfl, Daemon.link_afterStep _ _, rfl, rfl⟩))
  · exact Or.inr (Or.inl ⟨meshConnected, selfInfo, rfl, rfl, rfl⟩)
  · exact Or.inr (Or.inr (Or.inr ⟨rfl, rfl, rfl, rfl⟩))
  · exact Or.inr (Or.inr (Or.inl ⟨steps, hpass, rfl, rfl⟩))

theorem SnapshotRun.proceed_of_nil
    {state : SnapshotRun} (hscript : state.script = []) :
    state.proceed = none := by
  rw [proceed, hscript]

theorem SnapshotRun.take_cases
    {state next : SnapshotRun} {work : MeshWork}
    (hstep : state.step (.take work) = some next) :
    state.script = [] ∧
      work.possible state.daemon.snapshot.meshConnected = true ∧
      next.script = work.steps state.daemon ∧ next.daemon = state.daemon := by
  rcases LabelledRun.guarded_eq_some_iff.mp hstep with
    ⟨⟨hidle, hpossible⟩, rfl⟩
  exact ⟨List.isEmpty_iff.mp hidle, hpossible, rfl, rfl⟩

def SnapshotAction.ofMeshTask : SnapshotAction → Bool
  | .take _ => true
  | .proceed => true
  | _ => false

/-- Reloads, the operator and the node leave the mesh task where it is. -/
theorem SnapshotRun.script_of_others
    {state next : SnapshotRun} {action : SnapshotAction}
    (hother : action.ofMeshTask = false)
    (hstep : state.step action = some next) :
    next.script = state.script ∧ next.daemon.link = state.daemon.link := by
  cases action with
  | take work => cases hother
  | proceed => cases hother
  | load =>
      rcases SnapshotRun.load_inversion hstep with
        ⟨_, rfl⟩ | ⟨newConfig, _, rfl⟩
      · exact ⟨rfl, rfl⟩
      · exact ⟨rfl, rfl⟩
  | readOld =>
      rcases SnapshotRun.readOld_inversion hstep with ⟨newConfig, _, rfl⟩
      exact ⟨rfl, rfl⟩
  | overwrite =>
      rcases SnapshotRun.overwrite_inversion hstep with
        ⟨oldConfig, newConfig, _, rfl⟩
      exact ⟨rfl, rfl⟩
  | editFile configFile | nodeChanges contacts =>
      cases hstep
      exact ⟨rfl, rfl⟩

/-! ## The loop -/

/-- `answer` is what the node said of its model and firmware, while the
connect has not recorded it yet. -/
structure MeshTask where
  core : SnapshotRun
  deviceInfo : Option DeviceInfoDto
  answer : Option (Option DeviceInfoDto)

inductive TaskAction where
  | connect (view : ConnectView) (deviceInfo : Option DeviceInfoDto)
  | connectFails
  | setDeviceInfo
  | other (action : SnapshotAction)

namespace MeshTask

def start (daemon : Daemon) : MeshTask where
  core := .start daemon
  deviceInfo := none
  answer := none

/-- The flag has been written, and what was asked on connecting has not. -/
def recordsNext (state : MeshTask) : Bool :=
  state.answer.isSome &&
    match state.core.script with
    | .setLink .. :: _ => false
    | _ => true

/-- Connecting asks for the model and firmware, and goes on once the answer
is recorded. -/
def withholds (state : MeshTask) : SnapshotAction → Bool
  | .take (.connect _) => true
  | .proceed => state.recordsNext
  | _ => false

def step (state : MeshTask) : TaskAction → Option MeshTask
  | .connect view deviceInfo =>
      (state.core.step (.take (.connect view))).map fun core =>
        { state with core := core, answer := some deviceInfo }
  | .connectFails =>
      if state.core.script.isEmpty ∧
          state.core.daemon.snapshot.meshConnected = false then
        some { state with
          core := { state.core with
            daemon := state.core.daemon.setLink false
              state.core.daemon.snapshot.selfInfo } }
      else none
  | .setDeviceInfo =>
      match state.answer, state.recordsNext with
      | some deviceInfo, true =>
          some { state with deviceInfo := deviceInfo, answer := none }
      | _, _ => none
  | .other action =>
      if state.withholds action then none
      else (state.core.step action).map fun core => { state with core := core }

/-! ## Which answers keep what is known -/

/-- No query comes back without an answer after one which had one. -/
def AnswersKept (state : MeshTask) : TaskAction → Prop
  | .connect view deviceInfo =>
      (state.deviceInfo.isSome = true → deviceInfo.isSome = true) ∧
        (state.core.daemon.snapshot.selfInfo.isSome = true →
          view.selfInfo.isSome = true)
  | .other (.take (.tick selfInfo)) =>
      state.core.daemon.snapshot.selfInfo.isSome = true →
        selfInfo.isSome = true
  | _ => True

/-- Writing what the script still has to write takes away no identity, if
`known` is written now. -/
def KeepsSelfInfo : Option SelfInfoDto → List TaskStep → Prop
  | _, [] => True
  | known, .setLink _ selfInfo :: rest =>
      (known.isSome = true → selfInfo.isSome = true) ∧
        KeepsSelfInfo selfInfo rest
  | known, _ :: rest => KeepsSelfInfo known rest

/-- What the task has still to write takes nothing away. -/
structure Pending (state : MeshTask) : Prop where
  device : ∀ deviceInfo, state.answer = some deviceInfo →
    state.deviceInfo.isSome = true → deviceInfo.isSome = true
  selfInfo : KeepsSelfInfo state.core.daemon.snapshot.selfInfo
    state.core.script

/-- A step of the loop is a step of the connection it is in, or a failed
attempt to connect, or the record of what was asked on connecting. -/
theorem step_cases
    {state next : MeshTask} {action : TaskAction}
    (hstep : state.step action = some next) :
    (∃ view deviceInfo, action = .connect view deviceInfo ∧
      state.core.step (.take (.connect view)) = some next.core ∧
      next.deviceInfo = state.deviceInfo ∧
      next.answer = some deviceInfo) ∨
    (action = .connectFails ∧ state.core.script = [] ∧
      state.core.daemon.snapshot.meshConnected = false ∧
      next.core.script = [] ∧
      next.core.daemon.link = state.core.daemon.link ∧
      next.deviceInfo = state.deviceInfo ∧ next.answer = state.answer) ∨
    (∃ deviceInfo, action = .setDeviceInfo ∧
      state.answer = some deviceInfo ∧ next.core = state.core ∧
      next.deviceInfo = deviceInfo ∧ next.answer = none) ∨
    (∃ inner, action = .other inner ∧ state.withholds inner = false ∧
      state.core.step inner = some next.core ∧
      next.deviceInfo = state.deviceInfo ∧ next.answer = state.answer) := by
  cases action with
  | connect view deviceInfo =>
      obtain ⟨core, hcore, rfl⟩ := Option.map_eq_some_iff.mp hstep
      exact Or.inl ⟨view, deviceInfo, rfl, hcore, rfl, rfl⟩
  | connectFails =>
      rcases LabelledRun.guarded_eq_some_iff.mp hstep with
        ⟨⟨hidle, hoffline⟩, rfl⟩
      have hscript := List.isEmpty_iff.mp hidle
      refine Or.inr (Or.inl ⟨rfl, hscript, hoffline, hscript, ?_, rfl, rfl⟩)
      simp [Daemon.link, Daemon.setLink, hoffline]
  | setDeviceInfo =>
      simp only [step] at hstep
      split at hstep
      next deviceInfo hanswer _ =>
        cases hstep
        exact Or.inr (Or.inr (Or.inl
          ⟨deviceInfo, rfl, hanswer, rfl, rfl, rfl⟩))
      next => cases hstep
  | other inner =>
      simp only [step, Option.ite_none_left_eq_some, Bool.not_eq_true]
        at hstep
      obtain ⟨hfree, hmap⟩ := hstep
      obtain ⟨core, hcore, rfl⟩ := Option.map_eq_some_iff.mp hmap
      exact Or.inr (Or.inr (Or.inr ⟨inner, rfl, hfree, hcore, rfl, rfl⟩))

theorem keepsSelfInfo_append
    {before : List TaskStep} (hbefore : ∀ step ∈ before, step.setsLink = false)
    (known : Option SelfInfoDto) (rest : List TaskStep) :
    KeepsSelfInfo known (before ++ rest) ↔ KeepsSelfInfo known rest := by
  induction before with
  | nil => rfl
  | cons step others ih =>
      obtain ⟨hstep, hothers⟩ := List.forall_mem_cons.mp hbefore
      cases step with
      | setLink meshConnected selfInfo => cases hstep
      | mesh meshStep | hear node | reconcile view | enforce view =>
          exact ih hothers

theorem keepsSelfInfo_of_no_link
    {script : List TaskStep} (hscript : ∀ step ∈ script, step.setsLink = false)
    (known : Option SelfInfoDto) : KeepsSelfInfo known script := by
  rw [← List.append_nil script]
  exact (keepsSelfInfo_append hscript known []).mpr trivial

theorem setsLink_map_mesh (steps : List MeshStep) :
    ∀ step ∈ steps.map TaskStep.mesh, step.setsLink = false := by
  intro step hmem
  obtain ⟨meshStep, _, rfl⟩ := List.mem_map.mp hmem
  rfl

theorem setsLink_heardSteps
    (daemon : Daemon) (raw : MeshCoreEvent) (view : EventView) :
    ∀ step ∈ heardSteps daemon raw view, step.setsLink = false := by
  unfold heardSteps handleDiscoveredNodeSteps
  split
  · simp
  · split
    · intro step hmem
      rcases List.mem_cons.mp hmem with rfl | hrest
      · rfl
      · split at hrest
        · simp only [List.mem_cons, List.not_mem_nil, or_false] at hrest
          rcases hrest with rfl | rfl <;> rfl
        · simp at hrest
    · simp

theorem keepsSelfInfo_eventSteps
    (daemon : Daemon) (raw : MeshCoreEvent) (view : EventView) :
    KeepsSelfInfo daemon.snapshot.selfInfo (eventSteps daemon raw view) := by
  unfold eventSteps
  split
  · trivial
  · exact ⟨id, trivial⟩
  · apply keepsSelfInfo_of_no_link
    intro step hmem
    rcases List.mem_append.mp hmem with hrefresh | hbroadcast
    · split at hrefresh
      · rw [List.mem_singleton.mp hrefresh]
        rfl
      · simp at hrefresh
    · rw [List.mem_singleton.mp hbroadcast]
      rfl

theorem keepsSelfInfo_steps
    (daemon : Daemon) {work : MeshWork}
    (hconnect : ∀ view, work = .connect view →
      daemon.snapshot.selfInfo.isSome = true → view.selfInfo.isSome = true)
    (htick : ∀ selfInfo, work = .tick selfInfo →
      daemon.snapshot.selfInfo.isSome = true → selfInfo.isSome = true) :
    KeepsSelfInfo daemon.snapshot.selfInfo (work.steps daemon) := by
  cases work with
  | connect view => exact ⟨hconnect view rfl, trivial⟩
  | event raw view =>
      rw [MeshWork.steps, keepsSelfInfo_append
        (setsLink_heardSteps daemon raw view)]
      exact keepsSelfInfo_eventSteps daemon raw view
  | tick selfInfo => exact ⟨htick selfInfo rfl, trivial⟩
  | command view cmd =>
      exact keepsSelfInfo_of_no_link (setsLink_map_mesh _) _
  | streamEnd => exact ⟨id, trivial⟩

/-- A value which is known stays known. -/
def Remembers (before after : MeshTask) : Prop :=
  (before.deviceInfo.isSome = true → after.deviceInfo.isSome = true) ∧
    (before.core.daemon.snapshot.selfInfo.isSome = true →
      after.core.daemon.snapshot.selfInfo.isSome = true)

theorem selfInfo_of_link
    {before after : Daemon} (hlink : after.link = before.link) :
    after.snapshot.selfInfo = before.snapshot.selfInfo :=
  congrArg Prod.snd hlink

theorem Pending.of_same_script
    {state next : MeshTask} (hpending : state.Pending)
    (hscript : next.core.script = state.core.script)
    (hlink : next.core.daemon.link = state.core.daemon.link)
    (hdevice : next.deviceInfo = state.deviceInfo)
    (hanswer : next.answer = state.answer) :
    next.Pending ∧ state.Remembers next := by
  have hself := selfInfo_of_link hlink
  refine ⟨⟨?_, ?_⟩, ?_, ?_⟩
  · rw [hanswer, hdevice]
    exact hpending.device
  · rw [hself, hscript]
    exact hpending.selfInfo
  · rw [hdevice]
    exact id
  · rw [hself]
    exact id

theorem keepsSelfInfo_proceed
    {core next : SnapshotRun}
    (hkeeps : KeepsSelfInfo core.daemon.snapshot.selfInfo core.script)
    (hstep : core.proceed = some next) :
    KeepsSelfInfo next.daemon.snapshot.selfInfo next.script ∧
      (core.daemon.snapshot.selfInfo.isSome = true →
        next.daemon.snapshot.selfInfo.isSome = true) := by
  cases hscript : core.script with
  | nil =>
      rw [SnapshotRun.proceed_of_nil hscript] at hstep
      cases hstep
  | cons head rest =>
      rw [hscript] at hkeeps
      rcases SnapshotRun.proceed_cases hscript hstep with
        ⟨hnext, hdaemon, _⟩ | ⟨meshConnected, selfInfo, rfl, hnext, hdaemon⟩ |
        ⟨steps, hpass, hnext, hdaemon⟩ | ⟨hnext, hlink, hother, _⟩
      · rw [hnext, hdaemon]
        exact ⟨hkeeps, id⟩
      · rw [hnext, hdaemon]
        exact ⟨hkeeps.2, hkeeps.1⟩
      · rw [hnext, hdaemon, keepsSelfInfo_append (setsLink_map_mesh steps)]
        refine ⟨?_, id⟩
        cases head with
        | setLink meshConnected selfInfo => cases hpass
        | mesh meshStep | hear node | reconcile view | enforce view =>
            exact hkeeps
      · rw [hnext, selfInfo_of_link hlink]
        refine ⟨?_, id⟩
        cases head with
        | setLink meshConnected selfInfo => cases hother
        | mesh meshStep | hear node | reconcile view | enforce view =>
            exact hkeeps

theorem Pending.afterOther
    {state next : MeshTask} (hpending : state.Pending)
    {action : SnapshotAction} (hkept : state.AnswersKept (.other action))
    (hfree : state.withholds action = false)
    (hcore : state.core.step action = some next.core)
    (hdevice : next.deviceInfo = state.deviceInfo)
    (hanswer : next.answer = state.answer) :
    next.Pending ∧ state.Remembers next := by
  have hrecorded : ∀ deviceInfo, next.answer = some deviceInfo →
      next.deviceInfo.isSome = true → deviceInfo.isSome = true := by
    rw [hanswer, hdevice]
    exact hpending.device
  have hstays : state.deviceInfo.isSome = true →
      next.deviceInfo.isSome = true := by
    rw [hdevice]
    exact id
  cases action with
  | take work =>
      obtain ⟨_, _, hscript, hdaemon⟩ := SnapshotRun.take_cases hcore
      have hself := congrArg (fun daemon => daemon.snapshot.selfInfo) hdaemon
      refine ⟨⟨hrecorded, ?_⟩, hstays, ?_⟩
      · rw [hscript, hdaemon]
        apply keepsSelfInfo_steps
        · rintro view rfl
          cases hfree
        · rintro selfInfo rfl
          exact hkept
      · simp only [hself]
        exact id
  | proceed =>
      obtain ⟨hself, hknown⟩ := keepsSelfInfo_proceed hpending.selfInfo hcore
      exact ⟨⟨hrecorded, hself⟩, hstays, hknown⟩
  | load | readOld | overwrite | editFile configFile
  | nodeChanges contacts =>
      obtain ⟨hscript, hlink⟩ := SnapshotRun.script_of_others rfl hcore
      exact hpending.of_same_script hscript hlink hdevice hanswer

theorem Pending.afterStep
    {state next : MeshTask} {action : TaskAction} (hpending : state.Pending)
    (hkept : state.AnswersKept action)
    (hstep : state.step action = some next) :
    next.Pending ∧ state.Remembers next := by
  rcases step_cases hstep with
    ⟨view, deviceInfo, rfl, hcore, hdevice, hanswer⟩ |
    ⟨rfl, hscript, _, hnext, hlink, hdevice, hanswer⟩ |
    ⟨deviceInfo, rfl, hanswer, hcore, hdevice, hdone⟩ |
    ⟨inner, rfl, hfree, hcore, hdevice, hanswer⟩
  · obtain ⟨_, _, hscript, hdaemon⟩ := SnapshotRun.take_cases hcore
    refine ⟨⟨?_, ?_⟩, ?_, ?_⟩
    · rintro other hother
      rw [hanswer, Option.some.injEq] at hother
      rw [hdevice, ← hother]
      exact hkept.1
    · rw [hscript, hdaemon]
      exact ⟨hkept.2, trivial⟩
    · rw [hdevice]
      exact id
    · rw [hdaemon]
      exact id
  · exact hpending.of_same_script (hnext.trans hscript.symm) hlink hdevice
      hanswer
  · refine ⟨⟨?_, ?_⟩, ?_, ?_⟩
    · rw [hdone]
      rintro other ⟨⟩
    · rw [hcore]
      exact hpending.selfInfo
    · rw [hdevice]
      exact hpending.device deviceInfo hanswer
    · rw [hcore]
      exact id
  · exact hpending.afterOther hkept hfree hcore hdevice hanswer

theorem pending_start (daemon : Daemon) : (start daemon).Pending := by
  refine ⟨?_, trivial⟩
  rintro deviceInfo ⟨⟩

theorem Remembers.trans
    {first second third : MeshTask} (hearlier : first.Remembers second)
    (hlater : second.Remembers third) : first.Remembers third :=
  ⟨fun hknown => hlater.1 (hearlier.1 hknown),
    fun hknown => hlater.2 (hearlier.2 hknown)⟩

/-- The status message the brokers get now, once the identity is known. -/
def statusMessage
    (state : MeshTask) (nodeStats : Option NodeStatsDto) (now : ℤ) :
    Option StatusFields :=
  state.core.daemon.snapshot.selfInfo.map fun selfInfo =>
    statusMessageJson state.core.daemon.snapshot.meshConnected selfInfo
      state.deviceInfo nodeStats now

theorem statusMessage_of_known
    {state : MeshTask} (hdevice : state.deviceInfo.isSome = true)
    (hself : state.core.daemon.snapshot.selfInfo.isSome = true)
    (nodeStats : Option NodeStatsDto) (now : ℤ) :
    ∃ fields, state.statusMessage nodeStats now = some fields ∧
      fields.device.isSome = true := by
  obtain ⟨selfInfo, hselfInfo⟩ := Option.isSome_iff_exists.mp hself
  refine ⟨statusMessageJson state.core.daemon.snapshot.meshConnected selfInfo
    state.deviceInfo nodeStats now, ?_, hdevice⟩
  rw [statusMessage, hselfInfo, Option.map_some]

end MeshTask

open MeshTask

/-- In a run in which no query goes unanswered after it has been answered
once, what is known of the node stays known to the end, and the status
message goes on to carry it. -/
theorem deviceData_kept_of_answersKept
    {daemon : Daemon} {before after : List TaskAction} {middle final : MeshTask}
    (hkept : MeetsAlong step AnswersKept (start daemon) (before ++ after))
    (hbefore : run step (start daemon) before = some middle)
    (hafter : run step middle after = some final) :
    (middle.deviceInfo.isSome = true → final.deviceInfo.isSome = true) ∧
      (middle.core.daemon.snapshot.selfInfo.isSome = true →
        final.core.daemon.snapshot.selfInfo.isSome = true) ∧
      (middle.deviceInfo.isSome = true →
        middle.core.daemon.snapshot.selfInfo.isSome = true →
        ∀ nodeStats now, ∃ fields,
          final.statusMessage nodeStats now = some fields ∧
            fields.device.isSome = true) := by
  obtain ⟨hearlier, hlater⟩ := (meetsAlong_append hbefore).mp hkept
  have hpending : middle.Pending := by
    apply invariant_of_run ?_ (pending_start daemon) hearlier hbefore
    intro state action next hpending hkept hstep
    exact (hpending.afterStep hkept hstep).1
  -- along the rest of the run, in relation to the state in the middle
  have hfinal : final.Pending ∧ middle.Remembers final := by
    apply invariant_of_run ?_ ⟨hpending, id, id⟩ hlater hafter
    intro state action next ⟨hpending, hremembers⟩ hkept hstep
    obtain ⟨hnext, hstays⟩ := hpending.afterStep hkept hstep
    exact ⟨hnext, hremembers.trans hstays⟩
  obtain ⟨_, hdevice, hself⟩ := hfinal
  refine ⟨hdevice, hself, ?_⟩
  intro hdeviceKnown hselfKnown nodeStats now
  exact statusMessage_of_known (hdevice hdeviceKnown) (hself hselfKnown)
    nodeStats now

/-! ## A query which fails on a reconnect -/

/-- A connect on which the node tells its identity. -/
def ConnectView.identified : ConnectView :=
  { ConnectView.hilltop with
    selfInfo := some {
      name := "node"
      publicKeyHex := "ab"
      radioFreqMhz := 869
      radioBwKhz := 250
      spreadingFactor := 11
      codingRate := 5
      txPowerDbm := 22
      lat := 0
      lon := 0 } }

/-- A connect with all its passes, and the end of the connection. -/
def TaskAction.session
    (view : ConnectView) (deviceInfo : Option DeviceInfoDto) :
    List TaskAction :=
  [.connect view deviceInfo, .other .proceed, .setDeviceInfo] ++
    List.replicate 5 (.other .proceed) ++
    [.other (.take .streamEnd), .other .proceed, .other .proceed]

theorem deviceData_kept_of_answersKept_reconnect :
    ∃ middle final,
      run step (start (.hilltop .managed))
        (TaskAction.session .identified (some ⟨"T1000", "1.16"⟩)) =
          some middle ∧
      run step middle
        (.connectFails ::
          TaskAction.session .identified (some ⟨"T1000", "1.17"⟩)) =
          some final ∧
      middle.deviceInfo.isSome = true ∧ final.deviceInfo.isSome = true := by
  have hanswered : MeetsAlong step AnswersKept (start (.hilltop .managed))
      (TaskAction.session .identified (some ⟨"T1000", "1.16"⟩) ++
        .connectFails ::
          TaskAction.session .identified (some ⟨"T1000", "1.17"⟩)) := by
    -- only the two connects have a condition
    repeat' constructor
    all_goals exact fun _ => rfl
  refine ⟨_, _, rfl, rfl, rfl, ?_⟩
  have hkept := deviceData_kept_of_answersKept hanswered rfl rfl
  exact hkept.1 rfl

/-- The node answers the device query of the first connect only. -/
theorem deviceData_lost_of_unanswered :
    ¬ ∀ (daemon : Daemon) (before after : List TaskAction)
        (middle final : MeshTask),
      run step (start daemon) before = some middle →
      run step middle after = some final →
      middle.deviceInfo.isSome = true → final.deviceInfo.isSome = true := by
  intro hclaim
  have hkept := hclaim (.hilltop .managed)
    (TaskAction.session .identified (some ⟨"T1000", "1.16"⟩))
    (TaskAction.session .identified none) _ _ rfl rfl rfl
  exact absurd hkept (by decide)

end MeshController
