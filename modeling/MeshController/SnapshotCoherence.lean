import MeshController.ConfigReload
import MeshController.ContactPruning
import MeshController.DiscoveredNodes

/-!
# Tiers in the snapshot

The contacts of the snapshot carry their tier, which is looked up when the
list is rebuilt; the list is not rebuilt because the configuration changes.
Here the mesh task runs next to the reloads, with the instant at which a
rebuild reads the configuration told apart from the one at which its result
is stored.
-/

namespace MeshController

open LabelledRun

/-- Every contact which is served has the tier the configuration gives it. -/
def Daemon.SnapshotCoherent (daemon : Daemon) : Prop :=
  ∀ c ∈ daemon.served.contacts,
    c.repeaterStatus = matchingRepeaterStatus daemon.config.managedRepeaters
      c.publicKeyPrefixHex ∧
    (c.managed = true ↔ c.repeaterStatus = some .managed ∨
      c.repeaterStatus = some .supervised)

instance (daemon : Daemon) : Decidable daemon.SnapshotCoherent :=
  inferInstanceAs (Decidable (∀ c ∈ _, _))

/-! ## What the mesh task does -/

/-- The answers of one `reconcile_managed_repeaters`; `declaration` goes by
the position of the repeater in the configuration. -/
structure ReconcileView where
  cachedContacts : List ContactDto
  declaration : ℕ → Except String (Vector UInt8 32)
  staleCache : Option (List ContactDto)

def reconcileOneSteps (view : ReconcileView) (entry : ManagedRepeater × ℕ) :
    List MeshStep :=
  let alreadyKnown := view.cachedContacts.any fun c =>
    entry.1.matches c.publicKeyPrefixHex
  if alreadyKnown then []
  else
    match view.declaration entry.2 with
    | .error _ => []
    | .ok publicKey =>
        [.addToCompanion (declaredContact entry.1.name publicKey),
          .broadcast (.managedRepeaterDeclared entry.1.name)]

def reconcileManagedRepeatersSteps
    (view : ReconcileView) (managedRepeaters : List ManagedRepeater) :
    List MeshStep :=
  let declared := managedRepeaters.zipIdx.flatMap (reconcileOneSteps view)
  declared ++
    if declared.isEmpty then [] else [.refreshContacts view.staleCache]

/-- A step of the mesh task.  The passes of a connect read the configuration
when their turn comes. -/
inductive TaskStep where
  | mesh (step : MeshStep)
  | setLink (meshConnected : Bool) (selfInfo : Option SelfInfoDto)
  | hear (node : DiscoveredNode)
  | reconcile (view : ReconcileView)
  | enforce (view : CommandView)

structure ConnectView where
  selfInfo : Option SelfInfoDto
  staleCache : Option (List ContactDto)
  reconcile : ReconcileView
  lockdown : CommandView

/-- The stale caches are those of the refresh for an overheard node and of the
one for the event. -/
structure EventView where
  nowUnix : ℤ
  cachedContacts : List ContactDto
  heardStaleCache : Option (List ContactDto)
  staleCache : Option (List ContactDto)

inductive MeshWork where
  | connect (view : ConnectView)
  | event (raw : MeshCoreEvent) (view : EventView)
  | tick (selfInfo : Option SelfInfoDto)
  | command (view : CommandView) (cmd : DaemonCommand)
  | streamEnd

def handleDiscoveredNodeSteps
    (daemon : Daemon) (view : EventView) (node : DiscoveredNode) :
    List TaskStep :=
  let isNew := (findDiscovered daemon.discovered
    node.publicKeyPrefixHex).isNone
  let alreadyRegistered := view.cachedContacts.any fun c =>
    c.publicKeyPrefixHex = node.publicKeyPrefixHex
  .hear node ::
    if isNew && !alreadyRegistered then
      [.mesh (.refreshContacts view.heardStaleCache),
        .mesh (.broadcast
          (.repeaterHeard node.name node.publicKeyPrefixHex))]
    else []

def heardSteps (daemon : Daemon) (raw : MeshCoreEvent) (view : EventView) :
    List TaskStep :=
  match extractDiscoveredNode raw view.nowUnix with
  | none => []
  | some node =>
      if isRepeaterOrRoom node.advType then
        handleDiscoveredNodeSteps daemon view node
      else []

def MeshEventKind.refreshesContacts : MeshEventKind → Bool
  | .newContact .. => true
  | .advertisement .. => true
  | _ => false

def disconnectSteps (daemon : Daemon) : List TaskStep :=
  [.mesh (.broadcast .disconnected),
    .setLink false daemon.snapshot.selfInfo]

def eventSteps (daemon : Daemon) (raw : MeshCoreEvent) (view : EventView) :
    List TaskStep :=
  match mapEvent raw with
  | none => []
  | some .disconnected => disconnectSteps daemon
  | some kind =>
      (if kind.refreshesContacts then
        [.mesh (.refreshContacts view.staleCache)] else []) ++
      [.mesh (.broadcast kind)]

def MeshWork.steps (daemon : Daemon) : MeshWork → List TaskStep
  | .connect view =>
      [.setLink true view.selfInfo,
        .mesh (.refreshContacts view.staleCache),
        .mesh (.broadcast .connected),
        .reconcile view.reconcile,
        .enforce view.lockdown]
  | .event raw view => heardSteps daemon raw view ++ eventSteps daemon raw view
  | .tick selfInfo => [.setLink daemon.snapshot.meshConnected selfInfo]
  | .command view cmd => (handleCommandSteps daemon view cmd).map .mesh
  | .streamEnd => disconnectSteps daemon

/-- Everything but connecting needs a connection. -/
def MeshWork.possible (meshConnected : Bool) : MeshWork → Bool
  | .connect _ => !meshConnected
  | _ => meshConnected

def MeshWork.isCommand : MeshWork → Bool
  | .command .. => true
  | _ => false

def Daemon.setLink
    (daemon : Daemon) (meshConnected : Bool)
    (selfInfo : Option SelfInfoDto) : Daemon :=
  { daemon with
    snapshot := { daemon.snapshot with
      meshConnected := meshConnected
      selfInfo := selfInfo } }

def Daemon.hear (daemon : Daemon) (node : DiscoveredNode) : Daemon :=
  { daemon with
    discovered := KeyedStore.upsert DiscoveredNode.publicKeyPrefixHex node
      (fun existing => existing.mergedWith node) daemon.discovered }

/-- The end of a refresh which read `managedRepeaters` from the
configuration. -/
def Daemon.refreshContactsWith
    (daemon : Daemon) (managedRepeaters : List ManagedRepeater)
    (staleCache : Option (List ContactDto)) : Daemon :=
  { daemon with
    snapshot := { daemon.snapshot with
      contacts := buildSnapshotContacts managedRepeaters
        (staleCache.getD (daemon.companionContacts.map ContactDto.ofContact))
        daemon.discovered daemon.telemetry } }

/-- `enforce_observer_node_config` under the configuration it finds. -/
def enforceSteps (config : Config) (view : CommandView) : List MeshStep :=
  if config.daemon.observerNodeManagedConfig then
    enforceObserverNodeConfigSteps view
  else []

/-! ## The mesh task next to the reloads -/

/-- `script` is what is left of the work of the mesh task, and `refreshing`
what the refresh at its head has read. -/
structure SnapshotRun where
  daemon : Daemon
  script : List TaskStep
  forCommand : Bool
  refreshing : Option (List ManagedRepeater)
  reload : ReloadPhase

inductive SnapshotAction where
  | take (work : MeshWork)
  | proceed
  | load
  | readOld
  | overwrite
  | editFile (configFile : Option Config)
  | nodeChanges (contacts : List Contact)

/-- The passes of a connect, which decide what to do when their turn comes. -/
def TaskStep.passSteps (config : Config) : TaskStep → Option (List MeshStep)
  | .reconcile view =>
      some (reconcileManagedRepeatersSteps view config.managedRepeaters)
  | .enforce view => some (enforceSteps config view)
  | _ => none

namespace SnapshotRun

/-- A daemon as it starts, not yet connected. -/
def start (daemon : Daemon) : SnapshotRun where
  daemon := { daemon with snapshot := .default }
  script := []
  forCommand := false
  refreshing := none
  reload := .idle

/-- Neither a command nor a reload is halfway through. -/
structure Quiescent (state : SnapshotRun) : Prop where
  no_command : state.forCommand = true → state.script = []
  no_reload : state.reload = .idle

/-- The config lock is held from an edit to the end of its save. -/
def configLocked (state : SnapshotRun) : Bool :=
  match state.script with
  | .mesh (.saveConfig _) :: _ => true
  | _ => false

def proceed (state : SnapshotRun) : Option SnapshotRun :=
  match state.script with
  | [] => none
  | .mesh (.refreshContacts staleCache) :: rest =>
      match state.refreshing with
      | none =>
          some { state with
            refreshing := some state.daemon.config.managedRepeaters }
      | some read =>
          some { state with
            daemon := state.daemon.refreshContactsWith read staleCache
            script := rest
            refreshing := none }
  | .mesh step :: rest =>
      some { state with
        daemon := state.daemon.afterStep step
        script := rest }
  | .setLink meshConnected selfInfo :: rest =>
      some { state with
        daemon := state.daemon.setLink meshConnected selfInfo
        script := rest }
  | .hear node :: rest =>
      some { state with
        daemon := state.daemon.hear node
        script := rest }
  | .reconcile view :: rest =>
      some { state with
        script := (reconcileManagedRepeatersSteps view
          state.daemon.config.managedRepeaters).map .mesh ++ rest }
  | .enforce view :: rest =>
      some { state with
        script := (enforceSteps state.daemon.config view).map .mesh ++ rest }

/-- Loading fails on a missing or malformed file, which ends the reload.  What
a reload does after replacing the configuration concerns the brokers only, and
the resync it asks for is a command of its own. -/
def step (state : SnapshotRun) : SnapshotAction → Option SnapshotRun
  | .take work =>
      if state.script.isEmpty ∧
          work.possible state.daemon.snapshot.meshConnected then
        some { state with
          script := work.steps state.daemon
          forCommand := work.isCommand }
      else none
  | .proceed => state.proceed
  | .load =>
      if state.reload = .idle then
        match state.daemon.configFile with
        | some newConfig => some { state with reload := .loaded newConfig }
        | none => some state
      else none
  | .readOld =>
      match state.reload, state.configLocked with
      | .loaded newConfig, false =>
          some { state with
            reload := .compared state.daemon.config newConfig }
      | _, _ => none
  | .overwrite =>
      match state.reload, state.configLocked with
      | .compared _ newConfig, false =>
          some { state with
            daemon := { state.daemon with config := newConfig }
            reload := .idle }
      | _, _ => none
  | .editFile configFile =>
      some { state with
        daemon := { state.daemon with configFile := configFile } }
  | .nodeChanges contacts =>
      some { state with
        daemon := { state.daemon with companionContacts := contacts } }

/-! ### What a reload does -/

theorem load_inversion
    {state next : SnapshotRun} (hstep : state.step .load = some next) :
    (state.daemon.configFile = none ∧ next = state) ∨
    ∃ newConfig, state.daemon.configFile = some newConfig ∧
      next = { state with reload := .loaded newConfig } := by
  simp only [step, Option.ite_none_right_eq_some] at hstep
  rcases hstep with ⟨_, hloaded⟩
  cases hfile : state.daemon.configFile with
  | none =>
      simp only [hfile, Option.some.injEq] at hloaded
      exact Or.inl ⟨rfl, hloaded.symm⟩
  | some newConfig =>
      simp only [hfile, Option.some.injEq] at hloaded
      exact Or.inr ⟨newConfig, rfl, hloaded.symm⟩

theorem readOld_inversion
    {state next : SnapshotRun} (hstep : state.step .readOld = some next) :
    ∃ newConfig, state.reload = .loaded newConfig ∧
      next = { state with
        reload := .compared state.daemon.config newConfig } := by
  simp only [step] at hstep
  split at hstep
  next newConfig hreload _ =>
    rw [Option.some.injEq] at hstep
    exact ⟨newConfig, hreload, hstep.symm⟩
  next => contradiction

theorem overwrite_inversion
    {state next : SnapshotRun} (hstep : state.step .overwrite = some next) :
    ∃ oldConfig newConfig, state.reload = .compared oldConfig newConfig ∧
      next = { state with
        daemon := { state.daemon with config := newConfig }
        reload := .idle } := by
  simp only [step] at hstep
  split at hstep
  next oldConfig newConfig hreload _ =>
    rw [Option.some.injEq] at hstep
    exact ⟨oldConfig, newConfig, hreload, hstep.symm⟩
  next => contradiction

/-- What the mesh task does with the first step of its script. -/
theorem proceed_inversion
    {state next : SnapshotRun} {head : TaskStep} {rest : List TaskStep}
    (hscript : state.script = head :: rest)
    (hstep : state.proceed = some next) :
    (∃ staleCache, head = .mesh (.refreshContacts staleCache) ∧
      state.refreshing = none ∧
      next = { state with
        refreshing := some state.daemon.config.managedRepeaters }) ∨
    (∃ staleCache read, head = .mesh (.refreshContacts staleCache) ∧
      state.refreshing = some read ∧
      next = { state with
        daemon := state.daemon.refreshContactsWith read staleCache
        script := rest
        refreshing := none }) ∨
    (∃ meshStep, head = .mesh meshStep ∧
      (∀ staleCache, meshStep ≠ .refreshContacts staleCache) ∧
      next = { state with
        daemon := state.daemon.afterStep meshStep
        script := rest }) ∨
    (∃ meshConnected selfInfo, head = .setLink meshConnected selfInfo ∧
      next = { state with
        daemon := state.daemon.setLink meshConnected selfInfo
        script := rest }) ∨
    (∃ node, head = .hear node ∧
      next = { state with daemon := state.daemon.hear node, script := rest }) ∨
    (∃ steps, head.passSteps state.daemon.config = some steps ∧
      next = { state with script := steps.map .mesh ++ rest }) := by
  simp only [proceed, hscript] at hstep
  cases head with
  | mesh meshStep =>
      cases meshStep with
      | refreshContacts staleCache =>
          cases hread : state.refreshing with
          | none =>
              simp only [hread, Option.some.injEq] at hstep
              rw [← hscript] at hstep
              exact Or.inl ⟨staleCache, rfl, rfl, hstep.symm⟩
          | some read =>
              simp only [hread, Option.some.injEq] at hstep
              exact Or.inr (Or.inl ⟨staleCache, read, rfl, rfl, hstep.symm⟩)
      | removeFromCompanion contact | addToCompanion contact
      | upsertConfig request | setTelemetry key telemetry
      | broadcast kind | reply result | saveConfig outcome =>
          rw [Option.some.injEq] at hstep
          exact Or.inr (Or.inr (Or.inl ⟨_, rfl, by simp, hstep.symm⟩))
  | setLink meshConnected selfInfo =>
      rw [Option.some.injEq] at hstep
      exact Or.inr (Or.inr (Or.inr (Or.inl ⟨_, _, rfl, hstep.symm⟩)))
  | hear node =>
      rw [Option.some.injEq] at hstep
      exact Or.inr (Or.inr (Or.inr (Or.inr (Or.inl ⟨_, rfl, hstep.symm⟩))))
  | reconcile view | enforce view =>
      rw [Option.some.injEq] at hstep
      exact Or.inr (Or.inr (Or.inr (Or.inr (Or.inr ⟨_, rfl, hstep.symm⟩))))

end SnapshotRun

/-! ## Coherence -/

/-- The two lists give the named contacts the same tier. -/
def SameTiers
    (first second : List ManagedRepeater) (prefixes : List String) : Prop :=
  ∀ p ∈ prefixes,
    matchingRepeaterStatus first p = matchingRepeaterStatus second p

/-- The contacts which are shown to the clients. -/
def Daemon.shown (daemon : Daemon) : List String :=
  daemon.snapshot.contacts.map fun c => c.publicKeyPrefixHex

/-- The contacts which a refresh lists. -/
def Daemon.listed
    (daemon : Daemon) (staleCache : Option (List ContactDto)) : List String :=
  ((staleCache.getD
    (daemon.companionContacts.map ContactDto.ofContact)).map
      fun c => c.publicKeyPrefixHex) ++
  daemon.discovered.map fun node => node.publicKeyPrefixHex

def TaskStep.isRefresh : TaskStep → Bool
  | .mesh (.refreshContacts _) => true
  | _ => false

namespace SnapshotRun

/-- The command which is worked on goes on to refresh the contacts. -/
def refreshDue (state : SnapshotRun) (script : List TaskStep) : Bool :=
  state.forCommand && script.any TaskStep.isRefresh

/-- No change of the configuration alters the tier of a contact which is
shown, unless the command it falls into refreshes the contacts afterwards; and
none alters the tier of a listed contact under a refresh. -/
def KeepsTiers (state : SnapshotRun) : SnapshotAction → Prop
  | .overwrite =>
      match state.reload with
      | .compared _ newConfig =>
          state.refreshDue state.script = true ∨
            SameTiers state.daemon.config.managedRepeaters
              newConfig.managedRepeaters state.daemon.shown
      | _ => True
  | .proceed =>
      match state.script, state.refreshing with
      | .mesh (.upsertConfig request) :: rest, _ =>
          state.refreshDue rest = true ∨
            SameTiers state.daemon.config.managedRepeaters
              (upsertManagedRepeater state.daemon.config.managedRepeaters
                request) state.daemon.shown
      | .mesh (.refreshContacts staleCache) :: rest, some read =>
          state.refreshDue rest = true ∨
            SameTiers read state.daemon.config.managedRepeaters
              (state.daemon.listed staleCache)
      | _, _ => True
  | _ => True

def Coherent (state : SnapshotRun) : Prop :=
  state.refreshDue state.script = true ∨ state.daemon.SnapshotCoherent

end SnapshotRun

theorem isAutomatedStatus_iff (status : Option RepeaterStatus) :
    isAutomatedStatus status = true ↔
      status = some .managed ∨ status = some .supervised := by
  simp [isAutomatedStatus]

theorem mem_listed_of_mem_refreshed
    {daemon : Daemon} {read : List ManagedRepeater}
    {staleCache : Option (List ContactDto)} {contact : ContactDto}
    (hmem : contact ∈
      (daemon.refreshContactsWith read staleCache).snapshot.contacts) :
    contact.publicKeyPrefixHex ∈ daemon.listed staleCache := by
  rcases List.mem_append.mp hmem with hcompanion | hdiscovered
  · rcases List.mem_map.mp hcompanion with ⟨c, hc, hannotated⟩
    subst contact
    apply List.mem_append_left
    exact List.mem_map.mpr ⟨c, hc, rfl⟩
  · rcases List.mem_map.mp hdiscovered with ⟨node, hnode, hshown⟩
    subst contact
    apply List.mem_append_right
    exact List.mem_map.mpr ⟨node, (List.mem_filter.mp hnode).1, rfl⟩

namespace Daemon

/-- A change of the configuration which leaves the tiers of what is shown
alone. -/
theorem SnapshotCoherent.of_sameTiers
    {before after : Daemon} (hcoherent : before.SnapshotCoherent)
    (hcontacts : after.snapshot.contacts = before.snapshot.contacts)
    (htiers : SameTiers before.config.managedRepeaters
      after.config.managedRepeaters before.shown) :
    after.SnapshotCoherent := by
  intro c hmem
  have hshown : c ∈ before.snapshot.contacts := hcontacts ▸ hmem
  obtain ⟨hstatus, hmanaged⟩ := hcoherent c hshown
  refine ⟨?_, hmanaged⟩
  rw [hstatus]
  exact htiers _ (List.mem_map.mpr ⟨c, hshown, rfl⟩)

theorem SnapshotCoherent.of_eq
    {before after : Daemon} (hcoherent : before.SnapshotCoherent)
    (hcontacts : after.snapshot.contacts = before.snapshot.contacts)
    (hconfig : after.config = before.config) : after.SnapshotCoherent := by
  apply hcoherent.of_sameTiers hcontacts
  intro p _
  rw [hconfig]

theorem snapshotCoherent_refreshContactsWith
    {daemon : Daemon} {read : List ManagedRepeater}
    {staleCache : Option (List ContactDto)}
    (htiers : SameTiers read daemon.config.managedRepeaters
      (daemon.listed staleCache)) :
    (daemon.refreshContactsWith read staleCache).SnapshotCoherent := by
  intro c hmem
  constructor
  · rw [repeaterStatus_of_mem_buildSnapshotContacts hmem]
    exact htiers _ (mem_listed_of_mem_refreshed hmem)
  · rw [managed_of_mem_buildSnapshotContacts hmem]
    exact isAutomatedStatus_iff _

end Daemon

namespace SnapshotRun

theorem coherent_start (daemon : Daemon) : (start daemon).Coherent := by
  right
  intro c hmem
  simp [start, Daemon.served, Snapshot.default] at hmem

/-- Without anything left to do, no refresh is due. -/
theorem coherent_take
    {state : SnapshotRun} (hcoherent : state.Coherent)
    (hidle : state.script.isEmpty = true) :
    state.daemon.SnapshotCoherent := by
  rcases hcoherent with hdue | hcoherent
  · simp [refreshDue, List.isEmpty_iff.mp hidle] at hdue
  · exact hcoherent

/-- A step which neither refreshes the contacts nor edits the configuration;
`added` is what a pass consists of. -/
theorem coherent_of_unchanged
    {state : SnapshotRun} {head : TaskStep} {rest : List TaskStep}
    (added : List TaskStep) {daemon : Daemon}
    (hscript : state.script = head :: rest) (hother : head.isRefresh = false)
    (hcontacts : daemon.snapshot.contacts = state.daemon.snapshot.contacts)
    (hconfig : daemon.config = state.daemon.config)
    (hcoherent : state.Coherent) :
    Coherent { state with daemon := daemon, script := added ++ rest } := by
  rcases hcoherent with hdue | hcoherent
  · left
    rw [refreshDue, hscript, List.any_cons, hother, Bool.false_or] at hdue
    rw [refreshDue, List.any_append, Bool.and_or_distrib_left,
      Bool.or_eq_true]
    exact Or.inr hdue
  · right
    exact hcoherent.of_eq hcontacts hconfig

theorem coherent_upsertConfig
    {state : SnapshotRun} {request : RepeaterUpsert} {rest : List TaskStep}
    (hscript : state.script = .mesh (.upsertConfig request) :: rest)
    (hkeeps : state.KeepsTiers .proceed) (hcoherent : state.Coherent) :
    Coherent
      { state with
        daemon := state.daemon.afterStep (.upsertConfig request)
        script := rest } := by
  simp only [KeepsTiers, hscript] at hkeeps
  rcases hcoherent with hdue | hcoherent
  · left
    simpa [refreshDue, hscript, TaskStep.isRefresh] using hdue
  · rcases hkeeps with hdue | htiers
    · exact Or.inl hdue
    · right
      exact hcoherent.of_sameTiers rfl htiers

/-- The list is rebuilt from what was read, so what counts is what changed
since. -/
theorem coherent_refreshContacts
    {state : SnapshotRun} {staleCache : Option (List ContactDto)}
    {rest : List TaskStep} {read : List ManagedRepeater}
    (hscript : state.script = .mesh (.refreshContacts staleCache) :: rest)
    (hread : state.refreshing = some read)
    (hkeeps : state.KeepsTiers .proceed) :
    Coherent
      { state with
        daemon := state.daemon.refreshContactsWith read staleCache
        script := rest
        refreshing := none } := by
  simp only [KeepsTiers, hscript, hread] at hkeeps
  rcases hkeeps with hdue | htiers
  · exact Or.inl hdue
  · right
    exact Daemon.snapshotCoherent_refreshContactsWith htiers

theorem coherent_proceed
    {state next : SnapshotRun} (hcoherent : state.Coherent)
    (hkeeps : state.KeepsTiers .proceed) (hstep : state.proceed = some next) :
    next.Coherent := by
  cases hscript : state.script with
  | nil =>
      rw [proceed, hscript] at hstep
      contradiction
  | cons head rest =>
      rcases proceed_inversion hscript hstep with
        ⟨staleCache, rfl, hread, rfl⟩ | ⟨staleCache, read, rfl, hread, rfl⟩ |
        ⟨meshStep, rfl, hother, rfl⟩ | ⟨meshConnected, selfInfo, rfl, rfl⟩ |
        ⟨node, rfl, rfl⟩ | ⟨steps, hpass, rfl⟩
      · simpa [Coherent, refreshDue, hscript] using hcoherent
      · exact coherent_refreshContacts hscript hread hkeeps
      · cases meshStep with
        | refreshContacts staleCache => exact absurd rfl (hother staleCache)
        | upsertConfig request =>
            exact coherent_upsertConfig hscript hkeeps hcoherent
        | removeFromCompanion contact | addToCompanion contact
        | setTelemetry key telemetry | broadcast kind | reply result =>
            exact coherent_of_unchanged [] hscript rfl rfl rfl hcoherent
        | saveConfig outcome =>
            cases outcome <;>
              exact coherent_of_unchanged [] hscript rfl rfl rfl hcoherent
      · exact coherent_of_unchanged [] hscript rfl rfl rfl hcoherent
      · exact coherent_of_unchanged [] hscript rfl rfl rfl hcoherent
      · have hother : head.isRefresh = false := by
          cases head with
          | mesh meshStep => cases hpass
          | setLink meshConnected selfInfo | hear node | reconcile view
          | enforce view => rfl
        exact coherent_of_unchanged _ hscript hother rfl rfl hcoherent

theorem coherent_overwrite
    {state next : SnapshotRun} (hcoherent : state.Coherent)
    (hkeeps : state.KeepsTiers .overwrite)
    (hstep : state.step .overwrite = some next) : next.Coherent := by
  rcases overwrite_inversion hstep with ⟨oldConfig, newConfig, hreload, rfl⟩
  simp only [KeepsTiers, hreload] at hkeeps
  rcases hcoherent with hdue | hcoherent
  · exact Or.inl hdue
  · rcases hkeeps with hdue | htiers
    · exact Or.inl hdue
    · right
      exact hcoherent.of_sameTiers rfl htiers

theorem coherent_step
    (state : SnapshotRun) (action : SnapshotAction) (next : SnapshotRun)
    (hcoherent : state.Coherent) (hkeeps : state.KeepsTiers action)
    (hstep : state.step action = some next) : next.Coherent := by
  cases action with
  | take work =>
      rcases LabelledRun.guarded_eq_some_iff.mp hstep with ⟨⟨hidle, _⟩, rfl⟩
      have hserved : state.daemon.SnapshotCoherent :=
        coherent_take hcoherent hidle
      exact Or.inr hserved
  | proceed => exact coherent_proceed hcoherent hkeeps hstep
  | load =>
      rcases load_inversion hstep with ⟨_, rfl⟩ | ⟨newConfig, _, rfl⟩
      · exact hcoherent
      · exact hcoherent
  | readOld =>
      rcases readOld_inversion hstep with ⟨newConfig, _, rfl⟩
      exact hcoherent
  | overwrite => exact coherent_overwrite hcoherent hkeeps hstep
  | editFile configFile | nodeChanges contacts =>
      simp only [step, Option.some.injEq] at hstep
      subst next
      exact hcoherent

end SnapshotRun

open SnapshotRun

/-- In a run in which no change of the configuration alters a tier behind the
snapshot's back, whatever is served between the commands and reloads has the
tiers of the configuration. -/
theorem snapshot_coherent_of_keepsTiers
    (daemon : Daemon) {actions : List SnapshotAction} {final : SnapshotRun}
    (hkeeps : MeetsAlong step KeepsTiers (start daemon) actions)
    (hrun : run step (start daemon) actions = some final)
    (hquiescent : final.Quiescent) : final.daemon.SnapshotCoherent := by
  have hcoherent : final.Coherent :=
    invariant_of_run coherent_step (coherent_start daemon) hkeeps hrun
  rcases hcoherent with hdue | hcoherent
  · rw [refreshDue, Bool.and_eq_true] at hdue
    rcases hdue with ⟨hcommand, hrefresh⟩
    rw [hquiescent.no_command hcommand] at hrefresh
    simp at hrefresh
  · exact hcoherent

/-! ## A tier which is edited in the file -/

/-- The hilltop repeater has the given tier, and the node is left alone. -/
def Config.hilltop (status : RepeaterStatus) : Config :=
  { Config.bare with
    daemon := { Config.bare.daemon with observerNodeManagedConfig := false }
    managedRepeaters := [⟨"hilltop", "abababababab", none, status⟩] }

def Daemon.hilltop (status : RepeaterStatus) : Daemon :=
  { Daemon.bare with
    config := Config.hilltop status
    configFile := some (Config.hilltop status)
    companionContacts := [MeshController.hilltop] }

def ConnectView.hilltop : ConnectView where
  selfInfo := none
  staleCache := none
  reconcile := {
    cachedContacts := [.ofContact MeshController.hilltop]
    declaration := fun _ => .error "timed out"
    staleCache := none }
  lockdown := .offline []

/-- The connect with all its passes, of which none has anything to do. -/
def connected : List SnapshotAction :=
  .take (.connect .hilltop) :: List.replicate 6 .proceed

/-- The repeater is made a known one by a command, into which a reload of what
it has just saved falls; later the file is edited, but not its tier. -/
def retiered : List SnapshotAction :=
  connected ++
    .take (.command
      { CommandView.offline [.ofContact MeshController.hilltop] with
        staleCache := none }
      (.setRepeaterStatus "abababababab" "hilltop" (some .known))) ::
    .proceed :: .proceed :: .load :: .readOld :: .proceed :: .overwrite ::
    (List.replicate 3 .proceed ++
      [.editFile (some { Config.hilltop .known with nodeLabel := "hill" }),
        .load, .readOld, .overwrite])

theorem snapshot_coherent_of_keepsTiers_hilltop :
    ∃ final, run step (start (.hilltop .managed)) retiered = some final ∧
      (final.daemon.snapshot.contacts.map fun c => c.repeaterStatus) =
        [some .known] ∧
      final.daemon.config.nodeLabel = "hill" ∧
      final.daemon.SnapshotCoherent := by
  have hkeeps : MeetsAlong step KeepsTiers (start (.hilltop .managed))
      retiered := by
    -- the connect, whose refresh goes by what it read a step before
    refine ⟨trivial, trivial, trivial, Or.inr fun _ _ => rfl, trivial, trivial,
      trivial, ?_⟩
    -- the command with the reload, both before the refresh
    refine ⟨trivial, Or.inl rfl, trivial, trivial, trivial, trivial,
      Or.inl rfl, trivial, Or.inr fun _ _ => rfl, trivial, ?_⟩
    exact ⟨trivial, trivial, trivial, Or.inr fun _ _ => rfl, trivial⟩
  refine ⟨_, rfl, rfl, rfl, ?_⟩
  exact snapshot_coherent_of_keepsTiers (.hilltop .managed) hkeeps rfl
    ⟨by decide, rfl⟩

/-- A reload which turns a managed repeater into a known one: it is still
served as a managed one. -/
theorem snapshot_stale_of_reload :
    ¬ ∀ (daemon : Daemon) (actions : List SnapshotAction)
      (final : SnapshotRun),
      run step (start daemon) actions = some final → final.Quiescent →
        final.daemon.SnapshotCoherent := by
  intro hclaim
  have hcoherent := hclaim (.hilltop .managed)
    (connected ++ [.editFile (some (Config.hilltop .known)),
      .load, .readOld, .overwrite]) _ rfl ⟨by decide, rfl⟩
  exact absurd hcoherent (by decide)

end MeshController
