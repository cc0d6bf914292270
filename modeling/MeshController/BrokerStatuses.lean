import MeshController.BrokerPatches
import MeshController.BrokerWorker
import MeshController.TaskBoard

/-!
# The broker statuses of a snapshot

Every broker task reports its connection status under the name of its broker,
and a snapshot lists the configured brokers with what is kept under their
names.  A reload aborts, forgets and starts tasks one after another while all
tasks, also those on their way out, go on reporting.
-/

namespace MeshController

open LabelledRun TaskRegistry.Reports

abbrev BrokerTask := TaskRegistry.Task MqttBrokerConfig

abbrev BrokerChange := Change MqttBrokerConfig String

/-- Before the loop of `run_broker`, in it, or past its early `return`. -/
inductive BrokerStage where
  | starting
  | looping
  | ended
deriving DecidableEq

/-- What a task finds out and has to report next. -/
inductive BrokerOutcome where
  | startup (startup : BrokerStartup)
  | connAck
  | pollError (reason : String)
deriving DecidableEq

def BrokerOutcome.status (config : MqttBrokerConfig) :
    BrokerStage → BrokerOutcome → Option (BrokerStage × MqttBrokerStatus)
  | .starting, .startup begun =>
      match BrokerWorker.startupError config begun with
      | some reason => some (.ended, .error reason)
      | none => some (.looping, .connecting)
  | .looping, .connAck => some (.looping, .connected)
  | .looping, .pollError reason => some (.looping, .error reason)
  | _, _ => none

/-- The steps of a reload which are still ahead are in `pending`. -/
structure BrokerBoard where
  config : Config
  pending : List BrokerChange
  board : Board MqttBrokerConfig String MqttBrokerStatus
  stage : ℕ → BrokerStage

/-- `stopped` is an aborted task reaching a point where it waits. -/
inductive BoardAction where
  | reload (loaded : Option Config)
  | proceed
  | outcome (task : BrokerTask) (outcome : BrokerOutcome)
  | report (task : BrokerTask)
  | stopped (task : BrokerTask)

/-- What `reload_once` does with the brokers of a diff. -/
def ConfigDiff.brokerChanges (diff : ConfigDiff) : List BrokerChange :=
  diff.mqttRemoved.flatMap retire ++
    (diff.mqttChanged ++ diff.mqttAdded).flatMap
      (replace MqttBrokerConfig.name)

namespace BrokerBoard

/-- `run` of the daemon has read its configuration. -/
def start (config : Config) : BrokerBoard where
  config := config
  pending := config.mqttBrokers.map Change.spawn
  board := Board.empty .connecting
  stage := fun _ => .starting

/-- The task runs, or is on its way out. -/
def Present (state : BrokerBoard) (task : BrokerTask) : Prop :=
  task ∈ state.board.registry.live ∨ task ∈ state.board.leaving

instance (state : BrokerBoard) (task : BrokerTask) :
    Decidable (state.Present task) :=
  inferInstanceAs (Decidable (_ ∨ _))

def step (state : BrokerBoard) : BoardAction → Option BrokerBoard
  | .reload loaded =>
      match state.pending, loaded with
      | _ :: _, _ => none
      | [], none => some state
      | [], some newConfig =>
          some { state with
            config := newConfig
            pending := (diffConfig state.config newConfig).brokerChanges }
  | .proceed =>
      match state.pending with
      | [] => none
      | change :: rest =>
          some { state with
            pending := rest
            board :=
              state.board.change MqttBrokerConfig.name .connecting change }
  | .outcome task outcome =>
      if state.Present task ∧ (state.board.notes task.id).due = none then
        (outcome.status task.spec (state.stage task.id)).map fun found =>
          { state with
            board := state.board.learn task.id found.2
            stage := Function.update state.stage task.id found.1 }
      else none
  | .report task =>
      if state.Present task ∧ (state.board.notes task.id).due ≠ none then
        some { state with
          board := state.board.report MqttBrokerConfig.name task }
      else none
  | .stopped task =>
      if task ∈ state.board.leaving then
        some { state with board := state.board.leave task }
      else none

/-- The brokers as a snapshot lists them. -/
def served (state : BrokerBoard) : List MqttBrokerStatusDto :=
  (currentSnapshot .default state.config state.board.reports).mqttBrokers

/-- The status listed under the name of each running task is the last one
which the task reported or, before its first report, the one which was listed
when it was started. -/
def Agrees (state : BrokerBoard) : Prop :=
  state.board.Agrees MqttBrokerConfig.name .connecting

/-- A task on its way out reports nothing else than what the running task of
its broker stands for. -/
def Harmless (state : BrokerBoard) : BoardAction → Prop
  | .report task =>
      task ∈ state.board.leaving →
        ∀ current ∈ state.board.registry.live,
          current.spec.name = task.spec.name →
            (state.board.notes task.id).due = some (state.board.own current)
  | _ => True

instance (state : BrokerBoard) (action : BoardAction) :
    Decidable (state.Harmless action) :=
  match action with
  | .report task =>
      have : Decidable (∀ current ∈ state.board.registry.live,
          current.spec.name = task.spec.name →
            (state.board.notes task.id).due =
              some (state.board.own current)) :=
        List.decidableBAll _ _
      inferInstanceAs (Decidable (task ∈ state.board.leaving → _))
  | .reload _ | .proceed | .outcome _ _ | .stopped _ => isTrue trivial

/-! ## One step -/

/-- The changes which are ahead lead to one task for each broker. -/
structure InOrder (state : BrokerBoard) : Prop where
  sound : state.board.Sound MqttBrokerConfig.name
  permitted :
    AllPermitted MqttBrokerConfig.name state.board.registry state.pending
  follows : TaskRegistry.Follows MqttBrokerConfig.name
    (state.pending.foldl (Change.onRegistry MqttBrokerConfig.name)
      state.board.registry)
    state.config.mqttBrokers

theorem start_inOrder
    {config : Config} (hapart : config.BrokersNamedApart) :
    (start config).InOrder := by
  constructor
  · exact sound_empty
  · apply allPermitted_spawns hapart
    intro broker _
    rfl
  · change TaskRegistry.Follows _ (List.foldl _ _ (List.map _ _)) _
    rw [foldl_spawns]
    exact TaskRegistry.follows_starts hapart

theorem start_agrees (config : Config) : (start config).Agrees :=
  agrees_empty

/-- What a step can do. -/
inductive Moves (state : BrokerBoard) : BoardAction → BrokerBoard → Prop where
  | keep (hidle : state.pending = []) : Moves state (.reload none) state
  | reload (newConfig : Config) (hidle : state.pending = []) :
      Moves state (.reload (some newConfig))
        { state with
          config := newConfig
          pending := (diffConfig state.config newConfig).brokerChanges }
  | proceed (change : BrokerChange) (rest : List BrokerChange)
      (hpending : state.pending = change :: rest) :
      Moves state .proceed
        { state with
          pending := rest
          board :=
            state.board.change MqttBrokerConfig.name .connecting change }
  | outcome (task : BrokerTask) (outcome : BrokerOutcome)
      (status : MqttBrokerStatus) (stage : BrokerStage) :
      Moves state (.outcome task outcome)
        { state with
          board := state.board.learn task.id status
          stage := Function.update state.stage task.id stage }
  | report (task : BrokerTask) (hpresent : state.Present task)
      (status : MqttBrokerStatus)
      (hdue : (state.board.notes task.id).due = some status) :
      Moves state (.report task)
        { state with
          board := state.board.report MqttBrokerConfig.name task }
  | stopped (task : BrokerTask) :
      Moves state (.stopped task)
        { state with board := state.board.leave task }

theorem moves_of_step
    {state next : BrokerBoard} {action : BoardAction}
    (hstep : state.step action = some next) : state.Moves action next := by
  cases action with
  | reload loaded =>
      cases hpending : state.pending with
      | cons change rest => simp [step, hpending] at hstep
      | nil =>
          cases loaded with
          | none =>
              simp only [step, hpending, Option.some.injEq] at hstep
              exact hstep ▸ .keep hpending
          | some newConfig =>
              simp only [step, hpending, Option.some.injEq] at hstep
              exact hstep ▸ .reload newConfig hpending
  | proceed =>
      cases hpending : state.pending with
      | nil => simp [step, hpending] at hstep
      | cons change rest =>
          simp only [step, hpending, Option.some.injEq] at hstep
          exact hstep ▸ .proceed change rest hpending
  | outcome task outcome =>
      rw [step, Option.ite_none_right_eq_some, Option.map_eq_some_iff] at hstep
      obtain ⟨_, ⟨stage, status⟩, _, rfl⟩ := hstep
      exact .outcome task outcome status stage
  | report task =>
      rw [step, guarded_eq_some_iff] at hstep
      obtain ⟨⟨hpresent, hdue⟩, rfl⟩ := hstep
      obtain ⟨status, hstatus⟩ := Option.ne_none_iff_exists'.mp hdue
      exact .report task hpresent status hstatus
  | stopped task =>
      rw [step, guarded_eq_some_iff] at hstep
      exact hstep.2 ▸ .stopped task

/-- A file which is loaded names its brokers apart. -/
def LoadsApart : BoardAction → Prop
  | .reload (some newConfig) => newConfig.BrokersNamedApart
  | _ => True

instance (action : BoardAction) : Decidable (LoadsApart action) :=
  match action with
  | .reload (some newConfig) =>
      inferInstanceAs (Decidable (newConfig.mqttBrokers.map _).Nodup)
  | .reload none | .proceed | .outcome _ _ | .report _ | .stopped _ =>
      isTrue trivial

theorem foldl_brokerChanges
    (registry : TaskRegistry.Registry MqttBrokerConfig String)
    (old new : Config) :
    (diffConfig old new).brokerChanges.foldl
        (Change.onRegistry MqttBrokerConfig.name) registry =
      TaskRegistry.update MqttBrokerConfig.name old.mqttBrokers
        new.mqttBrokers registry := by
  rw [ConfigDiff.brokerChanges, List.foldl_append, foldl_retires,
    foldl_replaces]
  rfl

theorem InOrder.afterStep
    {state next : BrokerBoard} {action : BoardAction}
    (horder : state.InOrder) (hloads : LoadsApart action)
    (hstep : state.step action = some next) : next.InOrder := by
  obtain ⟨hsound, hpermitted, hfollows⟩ := horder
  cases moves_of_step hstep with
  | keep hidle => exact ⟨hsound, hpermitted, hfollows⟩
  | reload newConfig hidle =>
      rw [hidle] at hfollows
      refine ⟨hsound, ?_, ?_⟩
      · rw [ConfigDiff.brokerChanges, allPermitted_append]
        exact ⟨allPermitted_retires _ _, allPermitted_replaces _ _⟩
      · rw [foldl_brokerChanges]
        exact hfollows.afterUpdate hsound.sound hloads
  | proceed change rest hpending =>
      rw [hpending] at hpermitted hfollows
      refine ⟨hsound.afterChange hpermitted.1, ?_, ?_⟩
      · rw [registry_change]
        exact hpermitted.2
      · rw [registry_change]
        exact hfollows
  | outcome task outcome status stage =>
      exact ⟨hsound.afterLearn task.id status, hpermitted, hfollows⟩
  | report task hpresent status hdue =>
      exact ⟨hsound.afterReport task, hpermitted, hfollows⟩
  | stopped task => exact ⟨hsound.afterLeave task, hpermitted, hfollows⟩

theorem agrees_afterStep_iff
    {state next : BrokerBoard} {action : BoardAction}
    (horder : state.InOrder) (hagrees : state.Agrees)
    (hstep : state.step action = some next) :
    next.Agrees ↔ state.Harmless action := by
  cases moves_of_step hstep with
  | keep hidle => exact iff_of_true hagrees trivial
  | reload newConfig hidle => exact iff_of_true hagrees trivial
  | proceed change rest hpending =>
      have hpermitted := horder.permitted
      rw [hpending] at hpermitted
      exact iff_of_true
        (Board.Agrees.afterChange hagrees horder.sound hpermitted.1) trivial
  | outcome task outcome status stage =>
      exact iff_of_true ((agrees_learn task.id status).mpr hagrees) trivial
  | stopped task => exact iff_of_true hagrees trivial
  | report task hpresent status hdue =>
      rcases hpresent with hlive | hleaving
      · refine iff_of_true
          (Board.Agrees.afterReport hagrees horder.sound hlive hdue) ?_
        intro hleaving
        exact absurd rfl (horder.sound.apart task hleaving task hlive)
      · refine (agrees_report_iff_of_leaving hagrees horder.sound hleaving
          hdue).trans ?_
        simp only [Harmless, hleaving, forall_const, hdue,
          Option.some.injEq]
        exact forall₂_congr fun _ _ => imp_congr_right fun _ => eq_comm

/-! ## Runs -/

theorem inOrder_of_run
    {startup : Config} (hstartup : startup.BrokersNamedApart)
    {actions : List BoardAction}
    (hloads : ∀ action ∈ actions, LoadsApart action)
    {final : BrokerBoard}
    (hrun : run step (start startup) actions = some final) :
    final.InOrder := by
  apply invariant_of_run ?_ (start_inOrder hstartup)
    (MeetsAlong.of_mem hloads _) hrun
  intro state action next horder hapart hstep
  exact horder.afterStep hapart hstep

/-- Along a run, whatever reloads do meanwhile, each running task is listed
with its own status, exactly if tasks on their way out are harmless. -/
theorem statuses_agree_iff_harmless
    {startup : Config} (hstartup : startup.BrokersNamedApart)
    {actions : List BoardAction}
    (hloads : ∀ action ∈ actions, LoadsApart action)
    {final : BrokerBoard}
    (hrun : run step (start startup) actions = some final) :
    (∀ before state, before <+: actions →
      run step (start startup) before = some state → state.Agrees) ↔
    MeetsAlong step Harmless (start startup) actions := by
  refine (meetsAlong_iff_holds_along_of_regular ?_ (start_inOrder hstartup)
    (start_agrees startup) (MeetsAlong.of_mem hloads _) hrun).symm
  intro state action next horder hagrees hapart hstep
  exact ⟨horder.afterStep hapart hstep,
    agrees_afterStep_iff horder hagrees hstep⟩

def homeTask (id : ℕ) (host : String) : BrokerTask :=
  ⟨id, .withDefaults "home" host⟩

def quietStartup : BrokerStartup :=
  ⟨none, none, none, ⟨none, false, none, none, 0⟩⟩

/-- The broker moves; its old task has an error to report when it is
aborted. -/
def movedWithError : List BoardAction :=
  [.proceed,
    .outcome (homeTask 0 "192.0.2.1") (.startup quietStartup),
    .report (homeTask 0 "192.0.2.1"),
    .outcome (homeTask 0 "192.0.2.1") (.pollError "timed out"),
    .reload (some (.withHomeBroker "192.0.2.2")), .proceed]

theorem statuses_disagree_after_late_report :
    ¬ ∀ before state,
      before <+: movedWithError ++
        [.proceed, .report (homeTask 0 "192.0.2.1")] →
      run step (start (.withHomeBroker "192.0.2.1")) before = some state →
        state.Agrees := by
  have hrun : run step (start (.withHomeBroker "192.0.2.1"))
      (movedWithError ++ [.proceed, .report (homeTask 0 "192.0.2.1")]) =
        some _ := rfl
  rw [statuses_agree_iff_harmless (by decide) (by decide) hrun]
  decide

/-- Between reloads a snapshot lists the running tasks, one for each broker of
the configuration and in its order, with their own statuses. -/
theorem idle_snapshot_lists_tasks
    {startup : Config} (hstartup : startup.BrokersNamedApart)
    {actions : List BoardAction}
    (hloads : ∀ action ∈ actions, LoadsApart action)
    (hharmless : MeetsAlong step Harmless (start startup) actions)
    {final : BrokerBoard}
    (hrun : run step (start startup) actions = some final)
    (hidle : final.pending = []) :
    ∃ tasks : List BrokerTask,
      tasks.Perm final.board.registry.live ∧
      tasks.map TaskRegistry.Task.spec = final.config.mqttBrokers ∧
      final.served = tasks.map fun task =>
        ⟨task.spec.name, final.board.own task⟩ := by
  have horder := inOrder_of_run hstartup hloads hrun
  have hagrees : final.Agrees := by
    apply (statuses_agree_iff_harmless hstartup hloads hrun).mpr hharmless
      actions final (List.prefix_refl _) hrun
  have hperm := horder.follows.perm
  rw [hidle, List.foldl_nil] at hperm
  have hlift : Relation.Comp (· = List.map TaskRegistry.Task.spec ·)
      List.Perm final.config.mqttBrokers final.board.registry.live := by
    rw [List.eq_map_comp_perm]
    exact hperm.symm
  obtain ⟨tasks, hspecs, htasks⟩ := hlift
  refine ⟨tasks, htasks, hspecs.symm, ?_⟩
  simp only [served, currentSnapshot, hspecs, List.map_map]
  apply List.map_congr_left
  intro task hmem
  have hshown := hagrees task (htasks.mem_iff.mp hmem)
  simp only [Function.comp_apply]
  rw [← hshown]
  rfl

theorem idle_snapshot_lists_tasks_moved :
    ∃ final, run step (start (.withHomeBroker "192.0.2.1"))
        (movedWithError ++
          [.report (homeTask 0 "192.0.2.1"), .stopped (homeTask 0 "192.0.2.1"),
            .proceed, .outcome (homeTask 1 "192.0.2.2") (.startup quietStartup),
            .report (homeTask 1 "192.0.2.2")]) = some final ∧
      ∃ tasks : List BrokerTask,
        tasks.Perm final.board.registry.live ∧
        tasks.map TaskRegistry.Task.spec = final.config.mqttBrokers ∧
        final.served = tasks.map fun task =>
          ⟨task.spec.name, final.board.own task⟩ := by
  have hrun : run step (start (.withHomeBroker "192.0.2.1"))
      (movedWithError ++
        [.report (homeTask 0 "192.0.2.1"), .stopped (homeTask 0 "192.0.2.1"),
          .proceed, .outcome (homeTask 1 "192.0.2.2") (.startup quietStartup),
          .report (homeTask 1 "192.0.2.2")]) = some _ := rfl
  exact ⟨_, hrun, idle_snapshot_lists_tasks (by decide) (by decide) (by decide)
    hrun rfl⟩

end BrokerBoard

end MeshController
