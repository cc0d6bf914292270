import MeshController.LabelledRun
import MeshController.MeshCommands

/-!
# Reloading the configuration while commands change it

A reload reads the file first and takes the config lock only afterwards, so
the file can be older than the configuration it then replaces.  Commands hold
the lock from the edit to the end of the save.  A change is kept by every
reload which does not overlap an edit.
-/

namespace MeshController

open LabelledRun

/-- A status change and the entries it left for its repeater. -/
structure StatusChange where
  request : RepeaterUpsert
  left : List ManagedRepeater
  left_status : ∀ status ∈ request.status,
    left.head?.map (fun r => r.status) = some status
deriving DecidableEq

def StatusChange.ofUpsert
    (repeaters : List ManagedRepeater) (request : RepeaterUpsert) :
    StatusChange where
  request := request
  left := entriesFor (upsertManagedRepeater repeaters request)
    request.publicKeyPrefixHex
  left_status := by
    intro status hstatus
    rw [← matchingRepeaterStatus_eq_head_entriesFor]
    exact matchingRepeaterStatus_upsert repeaters hstatus

inductive ReloadPhase where
  | idle
  | loaded (newConfig : Config)
  | compared (oldConfig newConfig : Config)
deriving DecidableEq

/-- `script` is what is left of the command the mesh task works on, `pending`
its status change.  `acknowledged` is newest first. -/
structure ReloadRun where
  daemon : Daemon
  script : List MeshStep
  pending : Option StatusChange
  acknowledged : List StatusChange
  reload : ReloadPhase

inductive ReloadAction where
  | takeCommand (view : CommandView) (cmd : DaemonCommand)
  | meshStep
  | load
  | readOld
  | overwrite

/-- The configuration file can be written. -/
def ReloadAction.SaveSucceeds : ReloadAction → Prop
  | .takeCommand view _ => view.save = .saved
  | _ => True

instance : ∀ action : ReloadAction, Decidable action.SaveSucceeds
  | .takeCommand view _ => inferInstanceAs (Decidable (view.save = .saved))
  | .meshStep => isTrue trivial
  | .load => isTrue trivial
  | .readOld => isTrue trivial
  | .overwrite => isTrue trivial

namespace ReloadRun

def start (daemon : Daemon) : ReloadRun where
  daemon := daemon
  script := []
  pending := none
  acknowledged := []
  reload := .idle

def changes (state : ReloadRun) : List StatusChange :=
  state.pending.toList ++ state.acknowledged

/-- The config lock is held from an edit to the end of its save. -/
def configLocked (state : ReloadRun) : Bool :=
  match state.script with
  | .saveConfig _ :: _ => true
  | _ => false

def aboutToEdit (state : ReloadRun) : Bool :=
  match state.script with
  | .upsertConfig _ :: _ => true
  | _ => false

def performed (state : ReloadRun) (next : MeshStep) (rest : List MeshStep) :
    ReloadRun :=
  { state with
    daemon := state.daemon.afterStep next
    script := rest
    pending :=
      match next with
      | .upsertConfig request =>
          some (.ofUpsert state.daemon.config.managedRepeaters request)
      | .reply _ => none
      | _ => state.pending
    acknowledged :=
      match next with
      | .reply (.ok _) => state.changes
      | _ => state.acknowledged }

/-- Loading fails on a missing or malformed file, which ends the reload. -/
def step (state : ReloadRun) : ReloadAction → Option ReloadRun
  | .takeCommand view cmd =>
      if state.script.isEmpty = true then
        some { state with script := handleCommandSteps state.daemon view cmd }
      else none
  | .meshStep =>
      match state.script with
      | [] => none
      | next :: rest => some (state.performed next rest)
  | .load =>
      if state.reload = .idle then
        match state.daemon.configFile with
        | some newConfig => some { state with reload := .loaded newConfig }
        | none => some state
      else none
  | .readOld =>
      match state.reload, state.configLocked with
      | .loaded newConfig, false =>
          some { state with
            reload := .compared state.daemon.config newConfig }
      | _, _ => none
  | .overwrite =>
      match state.reload, state.configLocked with
      | .compared _ newConfig, false =>
          some { state with
            daemon := { state.daemon with config := newConfig }
            reload := .idle }
      | _, _ => none

/-- The file is not read between an edit and the end of its save, and nothing
is edited between the load and the end of the reload. -/
def NoOverlap (state : ReloadRun) : ReloadAction → Prop
  | .load => state.configLocked = false
  | .meshStep => state.aboutToEdit = true → state.reload = .idle
  | _ => True

instance (state : ReloadRun) : ∀ action, Decidable (state.NoOverlap action)
  | .takeCommand _ _ => isTrue trivial
  | .meshStep => inferInstanceAs (Decidable (_ → _))
  | .load => inferInstanceAs (Decidable (_ = _))
  | .readOld => isTrue trivial
  | .overwrite => isTrue trivial

end ReloadRun

/-! ## The steps of a command whose save succeeds -/

/-- What follows a successful save: no further edit, and success as the last
answer. -/
def Finishes : List MeshStep → Prop
  | [] => False
  | .upsertConfig _ :: _ => False
  | .saveConfig _ :: _ => False
  | .reply (.error _) :: _ => False
  | .reply (.ok _) :: rest => rest = []
  | _ :: rest => Finishes rest

/-- Every edit is saved at once. -/
def SavesEdits : List MeshStep → Prop
  | [] => True
  | .upsertConfig _ :: rest =>
      ∃ after, rest = .saveConfig .saved :: after ∧ Finishes after
  | .saveConfig _ :: _ => False
  | _ :: rest => SavesEdits rest

def MeshStep.touchesConfig : MeshStep → Bool
  | .upsertConfig _ => true
  | .saveConfig _ => true
  | _ => false

theorem savesEdits_of_untouched
    {script : List MeshStep}
    (huntouched : ∀ step ∈ script, step.touchesConfig = false) :
    SavesEdits script := by
  induction script with
  | nil => trivial
  | cons step rest ih =>
      have hstep := huntouched step (by simp)
      have hrest : SavesEdits rest := by
        apply ih
        intro other hmem
        exact huntouched other (by simp [hmem])
      cases step with
      | upsertConfig request => simp [MeshStep.touchesConfig] at hstep
      | saveConfig outcome => simp [MeshStep.touchesConfig] at hstep
      | removeFromCompanion contact | addToCompanion contact
      | setTelemetry key telemetry | refreshContacts staleCache
      | broadcast kind | reply result => exact hrest

theorem savesEdits_upsert
    (request : RepeaterUpsert) {view : CommandView} {after : List MeshStep}
    (hsave : view.save = .saved) (hafter : Finishes after) :
    SavesEdits (upsertManagedRepeaterConfigSteps request view.save after) := by
  rw [hsave]
  exact ⟨after, rfl, hafter⟩

theorem savesEdits_declare
    (view : CommandView) (name : String) {after : List MeshStep}
    (hafter : SavesEdits after) : SavesEdits (declareSteps view name after) := by
  unfold declareSteps
  cases view.declaration with
  | error reason => trivial
  | ok publicKey => exact hafter

theorem savesEdits_setRepeaterStatus
    (daemon : Daemon) {view : CommandView} (hsave : view.save = .saved)
    (publicKeyPrefixHex name : String) (status : Option RepeaterStatus) :
    SavesEdits
      (setRepeaterStatusSteps daemon view publicKeyPrefixHex name status) := by
  have hannounced : Finishes
      [.broadcast (.repeaterStatusChanged name status),
        .refreshContacts view.staleCache, .reply (.ok ())] := rfl
  unfold setRepeaterStatusSteps
  simp only
  split
  · split
    · trivial
    · apply savesEdits_declare
      exact savesEdits_upsert _ hsave hannounced
  · exact savesEdits_upsert _ hsave hannounced

theorem savesEdits_addRepeater
    {view : CommandView} (hsave : view.save = .saved)
    (publicKeyHex name : String) (managed : Bool) :
    SavesEdits (addRepeaterSteps view publicKeyHex name managed) := by
  have hfinished : Finishes
      [.refreshContacts view.staleCache, .reply (.ok ())] := rfl
  unfold addRepeaterSteps
  simp only
  split
  · trivial
  · have hconfigured : SavesEdits
        (if managed = true then
          upsertManagedRepeaterConfigSteps
            { publicKeyPrefixHex := keyPrefixHex publicKeyHex
              name := name
              status := some .managed
              resolvedFullKeyHex := some publicKeyHex
              resolved_matches := by
                simpa using keyPrefixHex_matches publicKeyHex }
            view.save [.refreshContacts view.staleCache, .reply (.ok ())]
        else [.refreshContacts view.staleCache, .reply (.ok ())]) := by
      split
      · exact savesEdits_upsert _ hsave hfinished
      · trivial
    split
    · exact hconfigured
    · exact savesEdits_declare view name hconfigured

theorem untouched_telemetry
    (daemon : Daemon) (view : CommandView) (publicKeyPrefixHex : String)
    (result : Except String Unit) :
    ∀ step ∈ telemetrySteps daemon view publicKeyPrefixHex ++ [.reply result],
      step.touchesConfig = false := by
  unfold telemetrySteps
  cases view.telemetry <;> simp [MeshStep.touchesConfig]

theorem untouched_enforceObserverNodeConfig (view : CommandView) :
    ∀ step ∈ enforceObserverNodeConfigSteps view,
      step.touchesConfig = false := by
  intro step hmem
  unfold enforceObserverNodeConfigSteps at hmem
  rcases List.mem_append.mp hmem with hcorrected | hrefreshed
  · rcases List.mem_flatMap.mp hcorrected with ⟨correction, _, hstep⟩
    rcases List.mem_append.mp hstep with hremoved | hannounced
    · rcases List.mem_map.mp hremoved with ⟨contact, _, hcontact⟩
      subst step
      rfl
    · rw [List.mem_singleton] at hannounced
      subst step
      rfl
  · split at hrefreshed
    · rw [List.mem_singleton] at hrefreshed
      subst step
      rfl
    · simp at hrefreshed

/-- The commands which may edit the configuration. -/
def DaemonCommand.editsConfig : DaemonCommand → Bool
  | .setRepeaterStatus .. => true
  | .addRepeater .. => true
  | _ => false

theorem untouched_handleCommand
    (daemon : Daemon) (view : CommandView) {cmd : DaemonCommand}
    (hother : cmd.editsConfig = false) :
    ∀ step ∈ handleCommandSteps daemon view cmd,
      step.touchesConfig = false := by
  cases cmd with
  | setRepeaterStatus publicKeyPrefixHex name status => cases hother
  | addRepeater publicKeyHex name managed => cases hother
  | removeContact publicKeyPrefixHex =>
      simp only [handleCommandSteps, removeContactSteps]
      cases view.removal <;> simp [MeshStep.touchesConfig]
  | requestTelemetry publicKeyPrefixHex =>
      exact untouched_telemetry daemon view publicKeyPrefixHex _
  | requestRepeaterDetail publicKeyPrefixHex =>
      exact untouched_telemetry daemon view publicKeyPrefixHex _
  | refreshNodeStats => simp [handleCommandSteps, MeshStep.touchesConfig]
  | signData data => simp [handleCommandSteps, MeshStep.touchesConfig]
  | resyncObserverConfig =>
      simp only [handleCommandSteps]
      split
      · exact untouched_enforceObserverNodeConfig view
      · simp

theorem savesEdits_handleCommand
    (daemon : Daemon) {view : CommandView} (hsave : view.save = .saved)
    (cmd : DaemonCommand) :
    SavesEdits (handleCommandSteps daemon view cmd) := by
  cases hedits : cmd.editsConfig with
  | false =>
      exact savesEdits_of_untouched (untouched_handleCommand daemon view hedits)
  | true =>
      cases cmd with
      | setRepeaterStatus publicKeyPrefixHex name status =>
          exact savesEdits_setRepeaterStatus daemon hsave publicKeyPrefixHex
            name status
      | addRepeater publicKeyHex name managed =>
          exact savesEdits_addRepeater hsave publicKeyHex name managed
      | removeContact publicKeyPrefixHex
      | requestTelemetry publicKeyPrefixHex
      | requestRepeaterDetail publicKeyPrefixHex | refreshNodeStats
      | signData data | resyncObserverConfig => cases hedits

/-! ## Which changes are kept -/

/-- Every change which no later one for the same repeater replaced still
stands.  The list is newest first. -/
def ChangesKept
    (repeaters : List ManagedRepeater) (changes : List StatusChange) : Prop :=
  ∀ newer change older, changes = newer ++ change :: older →
    (∀ later ∈ newer, ¬ SameRepeater change.request.publicKeyPrefixHex
      later.request.publicKeyPrefixHex) →
    entriesFor repeaters change.request.publicKeyPrefixHex = change.left

theorem changesKept_nil (repeaters : List ManagedRepeater) :
    ChangesKept repeaters [] := by
  intro newer change older hsplit
  simp at hsplit

theorem ChangesKept.afterUpsert
    {repeaters : List ManagedRepeater} {changes : List StatusChange}
    (hkept : ChangesKept repeaters changes) (request : RepeaterUpsert) :
    ChangesKept (upsertManagedRepeater repeaters request)
      (.ofUpsert repeaters request :: changes) := by
  intro newer change older hsplit hlast
  cases newer with
  | nil =>
      simp only [List.nil_append, List.cons.injEq] at hsplit
      rw [← hsplit.1]
      rfl
  | cons newest others =>
      simp only [List.cons_append, List.cons.injEq] at hsplit
      have hdistinct := hlast newest (by simp)
      rw [← hsplit.1] at hdistinct
      have hframe :=
        entriesFor_upsert_of_not_sameRepeater repeaters hdistinct
      have hbefore : entriesFor repeaters change.request.publicKeyPrefixHex =
          change.left := by
        apply hkept others change older hsplit.2
        intro later hlater
        exact hlast later (by simp [hlater])
      exact hframe.trans hbefore

namespace ReloadRun

/-- How far the current command is, and whether its change waits to be
acknowledged. -/
def InStep (state : ReloadRun) : Prop :=
  (SavesEdits state.script ∧ state.pending = none) ∨
    (Finishes state.script ∧ state.pending.isSome = true) ∨
    ∃ after, state.script = .saveConfig .saved :: after ∧ Finishes after ∧
      state.pending.isSome = true

def newConfig (state : ReloadRun) : Option Config :=
  match state.reload with
  | .idle => none
  | .loaded newConfig => some newConfig
  | .compared _ newConfig => some newConfig

structure Consistent (state : ReloadRun) : Prop where
  inStep : state.InStep
  file : state.changes ≠ [] → state.configLocked = false →
    state.daemon.configFile = some state.daemon.config
  loaded : state.changes ≠ [] → ∀ config, state.newConfig = some config →
    config = state.daemon.config
  kept : ChangesKept state.daemon.config.managedRepeaters state.changes

theorem start_consistent (daemon : Daemon) : (start daemon).Consistent := by
  have hnone : (start daemon).changes = [] := rfl
  constructor
  · exact Or.inl ⟨trivial, rfl⟩
  · intro hchanges
    exact absurd hnone hchanges
  · intro hchanges
    exact absurd hnone hchanges
  · rw [hnone]
    exact changesKept_nil _

/-- An edit comes right before its save, with nothing else pending. -/
theorem InStep.of_upsert
    {state : ReloadRun} (hinStep : state.InStep)
    {request : RepeaterUpsert} {rest : List MeshStep}
    (hscript : state.script = .upsertConfig request :: rest) :
    state.pending = none ∧
      ∃ after, rest = .saveConfig .saved :: after ∧ Finishes after := by
  rcases hinStep with ⟨hsaves, hpending⟩ | ⟨hfinishes, _⟩ | ⟨after, hsaving, _⟩
  · rw [hscript] at hsaves
    exact ⟨hpending, hsaves⟩
  · rw [hscript] at hfinishes
    exact absurd hfinishes id
  · rw [hscript] at hsaving
    simp at hsaving

theorem InStep.of_save
    {state : ReloadRun} (hinStep : state.InStep)
    {outcome : SaveOutcome} {rest : List MeshStep}
    (hscript : state.script = .saveConfig outcome :: rest) :
    outcome = .saved ∧ Finishes rest ∧ state.pending.isSome = true := by
  rcases hinStep with ⟨hsaves, _⟩ | ⟨hfinishes, _⟩ |
    ⟨after, hsaving, hafter, hpending⟩
  · rw [hscript] at hsaves
    exact absurd hsaves id
  · rw [hscript] at hfinishes
    exact absurd hfinishes id
  · rw [hscript] at hsaving
    simp only [List.cons.injEq, MeshStep.saveConfig.injEq] at hsaving
    rw [hsaving.2]
    exact ⟨hsaving.1, hafter, hpending⟩

theorem InStep.of_untouched
    {state : ReloadRun} (hinStep : state.InStep)
    {next : MeshStep} {rest : List MeshStep}
    (hscript : state.script = next :: rest)
    (huntouched : next.touchesConfig = false) :
    (SavesEdits (next :: rest) ∧ state.pending = none) ∨
      (Finishes (next :: rest) ∧ state.pending.isSome = true) := by
  rcases hinStep with hbefore | hafter | ⟨after, hsaving, _⟩
  · rw [hscript] at hbefore
    exact Or.inl hbefore
  · rw [hscript] at hafter
    exact Or.inr hafter
  · rw [hscript, List.cons.injEq] at hsaving
    rw [hsaving.1] at huntouched
    contradiction

theorem Consistent.afterUpsert
    {state : ReloadRun} (hgood : state.Consistent)
    {request : RepeaterUpsert} {rest : List MeshStep}
    (hscript : state.script = .upsertConfig request :: rest)
    (hidle : state.reload = .idle) :
    (state.performed (.upsertConfig request) rest).Consistent := by
  rcases hgood.inStep.of_upsert hscript with ⟨hpending, after, hrest, hafter⟩
  have hbefore : state.changes = state.acknowledged := by
    simp [changes, hpending]
  have hkept := hgood.kept.afterUpsert request
  rw [hbefore] at hkept
  constructor
  · exact Or.inr (Or.inr ⟨after, hrest, hafter, rfl⟩)
  · intro _ hunlocked
    simp [performed, configLocked, hrest] at hunlocked
  · intro _ config hnew
    simp [performed, newConfig, hidle] at hnew
  · exact hkept

theorem Consistent.afterSave
    {state : ReloadRun} (hgood : state.Consistent)
    {outcome : SaveOutcome} {rest : List MeshStep}
    (hscript : state.script = .saveConfig outcome :: rest) :
    (state.performed (.saveConfig outcome) rest).Consistent := by
  rcases hgood.inStep.of_save hscript with ⟨hsaved, hrest, hpending⟩
  rw [hsaved]
  constructor
  · exact Or.inr (Or.inl ⟨hrest, hpending⟩)
  · intro _ _
    rfl
  · exact hgood.loaded
  · exact hgood.kept

theorem Consistent.afterUntouched
    {state : ReloadRun} (hgood : state.Consistent)
    {next : MeshStep} {rest : List MeshStep}
    (hscript : state.script = next :: rest)
    (huntouched : next.touchesConfig = false)
    (hinStep : (state.performed next rest).InStep)
    (hchanges : (state.performed next rest).changes = state.changes) :
    (state.performed next rest).Consistent := by
  have hconfig : (state.daemon.afterStep next).config =
      state.daemon.config := by
    apply Daemon.config_afterStep
    intro request hedit
    rw [hedit] at huntouched
    contradiction
  have hfile : (state.daemon.afterStep next).configFile =
      state.daemon.configFile := by
    apply Daemon.configFile_afterStep
    intro outcome hsave
    rw [hsave] at huntouched
    contradiction
  have hunlocked : state.configLocked = false := by
    cases next <;> simp_all [configLocked, MeshStep.touchesConfig]
  constructor
  · exact hinStep
  · intro hsome _
    rw [hchanges] at hsome
    simpa only [performed, hconfig, hfile] using hgood.file hsome hunlocked
  · intro hsome config hnew
    rw [hchanges] at hsome
    simpa only [performed, hconfig] using hgood.loaded hsome config hnew
  · rw [hchanges]
    simpa only [performed, hconfig] using hgood.kept

theorem Consistent.afterReply
    {state : ReloadRun} (hgood : state.Consistent)
    {result : Except String Unit} {rest : List MeshStep}
    (hscript : state.script = .reply result :: rest) :
    (state.performed (.reply result) rest).Consistent := by
  apply hgood.afterUntouched hscript rfl
  · left
    rcases hgood.inStep.of_untouched hscript rfl with
      ⟨hsaves, _⟩ | ⟨hfinishes, _⟩
    · exact ⟨hsaves, rfl⟩
    · cases result with
      | error reason => exact absurd hfinishes id
      | ok value =>
          have hrest : rest = [] := hfinishes
          rw [hrest]
          exact ⟨trivial, rfl⟩
  · cases result with
    | ok value => rfl
    | error reason =>
        rcases hgood.inStep.of_untouched hscript rfl with
          ⟨_, hpending⟩ | ⟨hfinishes, _⟩
        · simp [changes, performed, hpending]
        · exact absurd hfinishes id

theorem Consistent.afterMeshStep
    {state : ReloadRun} (hgood : state.Consistent)
    {next : MeshStep} {rest : List MeshStep}
    (hscript : state.script = next :: rest)
    (hidle : state.aboutToEdit = true → state.reload = .idle) :
    (state.performed next rest).Consistent := by
  cases next with
  | upsertConfig request =>
      apply hgood.afterUpsert hscript
      apply hidle
      simp [aboutToEdit, hscript]
  | saveConfig outcome => exact hgood.afterSave hscript
  | reply result => exact hgood.afterReply hscript
  | removeFromCompanion contact | addToCompanion contact
  | setTelemetry key telemetry | refreshContacts staleCache
  | broadcast kind =>
      apply hgood.afterUntouched hscript rfl ?_ rfl
      rcases hgood.inStep.of_untouched hscript rfl with hbefore | hafter
      · exact Or.inl hbefore
      · exact Or.inr (Or.inl hafter)

theorem Consistent.afterLoad
    {state : ReloadRun} (hgood : state.Consistent)
    (hunlocked : state.configLocked = false)
    {newConfig : Config} (hfile : state.daemon.configFile = some newConfig) :
    { state with reload := .loaded newConfig }.Consistent := by
  constructor
  · exact hgood.inStep
  · exact hgood.file
  · intro hsome config hnew
    have hsame : newConfig = config := Option.some.inj hnew
    have hsynced := hgood.file hsome hunlocked
    rw [hfile, Option.some.injEq] at hsynced
    exact hsame.symm.trans hsynced
  · exact hgood.kept

theorem Consistent.afterOverwrite
    {state : ReloadRun} (hgood : state.Consistent)
    {oldConfig newConfig : Config}
    (hreload : state.reload = .compared oldConfig newConfig) :
    { state with
      daemon := { state.daemon with config := newConfig }
      reload := .idle }.Consistent := by
  have hsame : state.changes ≠ [] → newConfig = state.daemon.config := by
    intro hsome
    apply hgood.loaded hsome
    simp [ReloadRun.newConfig, hreload]
  constructor
  · exact hgood.inStep
  · intro hsome hunlocked
    have hfile := hgood.file hsome hunlocked
    rw [hsame hsome]
    exact hfile
  · intro _ config hnew
    simp [ReloadRun.newConfig] at hnew
  · by_cases hsome : state.changes = []
    · have hnone : ({ state with
          daemon := { state.daemon with config := newConfig }
          reload := .idle } : ReloadRun).changes = [] := hsome
      rw [hnone]
      exact changesKept_nil _
    · have hkept := hgood.kept
      rw [← hsame hsome] at hkept
      exact hkept

theorem Consistent.afterStep
    {state next : ReloadRun} {action : ReloadAction}
    (hgood : state.Consistent) (hsaved : action.SaveSucceeds)
    (hseparate : state.NoOverlap action)
    (hstep : state.step action = some next) : next.Consistent := by
  cases action with
  | takeCommand view cmd =>
      rcases LabelledRun.guarded_eq_some_iff.mp hstep with ⟨hfree, rfl⟩
      have hscript : state.script = [] := by simpa using hfree
      have hpending : state.pending = none := by
        rcases hgood.inStep with ⟨_, hnone⟩ | ⟨hfinishes, _⟩ | ⟨_, hsaving, _⟩
        · exact hnone
        · rw [hscript] at hfinishes
          exact absurd hfinishes id
        · rw [hscript] at hsaving
          contradiction
      have hunlocked : state.configLocked = false := by
        simp [configLocked, hscript]
      constructor
      · exact Or.inl ⟨savesEdits_handleCommand _ hsaved cmd, hpending⟩
      · intro hsome _
        exact hgood.file hsome hunlocked
      · exact hgood.loaded
      · exact hgood.kept
  | meshStep =>
      unfold step at hstep
      cases hscript : state.script with
      | nil => simp [hscript] at hstep
      | cons head rest =>
          simp only [hscript, Option.some.injEq] at hstep
          rw [← hstep]
          exact hgood.afterMeshStep hscript hseparate
  | load =>
      simp only [step, Option.ite_none_right_eq_some] at hstep
      rcases hstep with ⟨_, hload⟩
      cases hfile : state.daemon.configFile with
      | none =>
          simp only [hfile, Option.some.injEq] at hload
          exact hload ▸ hgood
      | some newConfig =>
          simp only [hfile, Option.some.injEq] at hload
          rw [← hload]
          exact hgood.afterLoad hseparate hfile
  | readOld =>
      simp only [step] at hstep
      split at hstep
      next newConfig hreload hunlocked =>
        rw [Option.some.injEq] at hstep
        rw [← hstep]
        constructor
        · exact hgood.inStep
        · exact hgood.file
        · intro hsome config hnew
          apply hgood.loaded hsome config
          simpa [ReloadRun.newConfig, hreload] using hnew
        · exact hgood.kept
      next => contradiction
  | overwrite =>
      simp only [step] at hstep
      split at hstep
      next oldConfig newConfig hreload hunlocked =>
        rw [Option.some.injEq] at hstep
        rw [← hstep]
        exact hgood.afterOverwrite hreload
      next => contradiction

/-- Without overlap, every acknowledged change which no later one for the same
repeater replaced stands in the running configuration once the commands have
finished. -/
theorem acknowledged_kept_of_noOverlap
    {daemon : Daemon} {actions : List ReloadAction} {final : ReloadRun}
    (hsaved : ∀ action ∈ actions, action.SaveSucceeds)
    (hseparate : MeetsAlong step NoOverlap (start daemon) actions)
    (hrun : run step (start daemon) actions = some final)
    (hdone : final.script = []) :
    ∀ newer change older, final.acknowledged = newer ++ change :: older →
      (∀ later ∈ newer, ¬ SameRepeater change.request.publicKeyPrefixHex
        later.request.publicKeyPrefixHex) →
      entriesFor final.daemon.config.managedRepeaters
          change.request.publicKeyPrefixHex = change.left ∧
        ∀ status ∈ change.request.status,
          matchingRepeaterStatus final.daemon.config.managedRepeaters
            change.request.publicKeyPrefixHex = some status := by
  have hgood := invariant_of_run
    (fun _ _ _ hgood hallowed hnext =>
      Consistent.afterStep hgood hallowed.1 hallowed.2 hnext)
    (start_consistent daemon)
    ((MeetsAlong.of_mem hsaved (start daemon)).and hseparate) hrun
  have hall : final.changes = final.acknowledged := by
    rcases hgood.inStep with ⟨_, hpending⟩ | ⟨hfinishes, _⟩ | ⟨_, hsaving, _⟩
    · simp [changes, hpending]
    · rw [hdone] at hfinishes
      exact absurd hfinishes id
    · rw [hdone] at hsaving
      contradiction
  intro newer change older hsplit hlast
  have hleft : entriesFor final.daemon.config.managedRepeaters
      change.request.publicKeyPrefixHex = change.left := by
    apply hgood.kept newer change older ?_ hlast
    rw [hall, hsplit]
  refine ⟨hleft, ?_⟩
  intro status hstatus
  rw [matchingRepeaterStatus_eq_head_entriesFor, hleft]
  exact change.left_status status hstatus

def markSupervised : ReloadAction :=
  .takeCommand (.offline [knownContact])
    (.setRepeaterStatus "0a1b2c3d4e5f" "hilltop" (some .supervised))

theorem acknowledged_kept_of_noOverlap_then_reload :
    ∃ final,
      run step (start .bare)
        [markSupervised, .meshStep, .meshStep, .load, .meshStep, .readOld,
          .meshStep, .meshStep, .overwrite] = some final ∧
      final.acknowledged.length = 1 ∧
      ∀ change ∈ final.acknowledged,
        matchingRepeaterStatus final.daemon.config.managedRepeaters
          change.request.publicKeyPrefixHex = some .supervised := by
  refine ⟨_, rfl, rfl, ?_⟩
  have hkept := @acknowledged_kept_of_noOverlap .bare
    [markSupervised, .meshStep, .meshStep, .load, .meshStep, .readOld,
      .meshStep, .meshStep, .overwrite] _ (by decide) (by decide) rfl rfl
    [] _ [] rfl (by simp)
  intro change hmem
  rw [List.mem_singleton.mp hmem]
  exact hkept.2 .supervised rfl

/-- The file is loaded, a change is made and saved, and the reload puts back
what it had loaded. -/
theorem acknowledged_lost_of_overlap :
    ¬ ∀ (daemon : Daemon) (actions : List ReloadAction) (final : ReloadRun),
      (∀ action ∈ actions, action.SaveSucceeds) →
      run step (start daemon) actions = some final →
      final.script = [] → final.reload = .idle →
      ∀ newer change older, final.acknowledged = newer ++ change :: older →
        (∀ later ∈ newer, ¬ SameRepeater change.request.publicKeyPrefixHex
          later.request.publicKeyPrefixHex) →
        entriesFor final.daemon.config.managedRepeaters
            change.request.publicKeyPrefixHex = change.left ∧
          ∀ status ∈ change.request.status,
            matchingRepeaterStatus final.daemon.config.managedRepeaters
              change.request.publicKeyPrefixHex = some status := by
  intro hclaim
  have hkept := hclaim .bare
    [.load, markSupervised, .meshStep, .meshStep, .meshStep, .meshStep,
      .meshStep, .readOld, .overwrite]
    _ (by decide) rfl rfl rfl [] _ [] rfl (by simp)
  have hlost := hkept.2 .supervised rfl
  contradiction

end ReloadRun

end MeshController
