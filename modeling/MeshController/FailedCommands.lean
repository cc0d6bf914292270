import MeshController.RepeaterStatusEdits

/-!
# Status commands which answer an error

A command which sets a status or adds a repeater fails before it edits the
configuration, or when the edited configuration cannot be saved.  In the
second case the edit stays in memory, and later snapshots and saves show it.
-/

namespace MeshController

def DaemonCommand.editsRepeaters : DaemonCommand → Bool
  | .setRepeaterStatus .. => true
  | .addRepeater .. => true
  | _ => false

/-- The daemon after it has run a command to its end. -/
def Daemon.afterCommand
    (daemon : Daemon) (view : CommandView) (cmd : DaemonCommand) : Daemon :=
  (handleCommandSteps daemon view cmd).foldl Daemon.afterStep daemon

def AnswersError (steps : List MeshStep) : Prop :=
  ∃ reason, MeshStep.reply (.error reason) ∈ steps

/-- Nothing has come of the command: the configuration is the one before, the
snapshot and the tiers in every later contact list as well, and the file still
agrees with the memory if it did. -/
structure NothingChanged (before after : Daemon) : Prop where
  config : after.config = before.config
  served : after.served = before.served
  tiers : ∀ staleCache, ∀ contact ∈ after.rebuiltContacts staleCache,
    contact.repeaterStatus =
      matchingRepeaterStatus before.config.managedRepeaters
        contact.publicKeyPrefixHex
  agrees : before.configFile = some before.config →
    after.configFile = some after.config

/-! ### Edits which change nothing -/

/-- The first matching entry is what the edit would make of it. -/
def AlreadySays
    (repeaters : List ManagedRepeater) (request : RepeaterUpsert) : Prop :=
  match request.status,
    repeaters.find? fun r => r.matches request.publicKeyPrefixHex with
  | some status, some first =>
      first.name = request.name ∧ first.status = status ∧
        ∀ key ∈ request.resolvedFullKeyHex, first.publicKeyHex = key
  | some _, none => False
  | none, some _ => False
  | none, none => True

theorem updated_eq_self_iff
    (request : RepeaterUpsert) (status : RepeaterStatus)
    (first : ManagedRepeater) :
    request.updated status first = first ↔
      first.name = request.name ∧ first.status = status ∧
        ∀ key ∈ request.resolvedFullKeyHex, first.publicKeyHex = key := by
  obtain ⟨name, publicKeyHex, password, tier⟩ := first
  cases hkey : request.resolvedFullKeyHex with
  | none => simp [RepeaterUpsert.updated, hkey, eq_comm]
  | some key =>
      simp [RepeaterUpsert.updated, hkey, eq_comm]
      tauto

theorem upsertManagedRepeater_eq_self_iff
    (repeaters : List ManagedRepeater) (request : RepeaterUpsert) :
    upsertManagedRepeater repeaters request = repeaters ↔
      AlreadySays repeaters request := by
  unfold AlreadySays
  cases hfind : repeaters.find? fun r =>
      r.matches request.publicKeyPrefixHex with
  | none =>
      have hnone := List.find?_eq_none.mp hfind
      rw [upsertManagedRepeater_of_not_matches (by simpa using hnone)]
      cases hstatus : request.status <;> simp
  | some first =>
      obtain ⟨hmatches, earlier, later, rfl, hearlier⟩ :=
        List.find?_eq_some_iff_append.mp hfind
      rw [upsertManagedRepeater_first (by simpa using hearlier) hmatches]
      cases hstatus : request.status with
      | none => simp
      | some status => simp [updated_eq_self_iff]

theorem config_upsertManagedRepeater_eq_self_iff
    (config : Config) (request : RepeaterUpsert) :
    config.upsertManagedRepeater request = config ↔
      AlreadySays config.managedRepeaters request := by
  rw [← upsertManagedRepeater_eq_self_iff]
  constructor
  · intro hsame
    exact congrArg Config.managedRepeaters hsame
  · intro hsame
    unfold Config.upsertManagedRepeater
    rw [hsame]

/-! ### The edit a command comes to -/

theorem forall_mem_none_matches (publicKeyPrefixHex : String) :
    ∀ key ∈ (none : Option String),
      asciiLowercase publicKeyPrefixHex <+: asciiLowercase key := by
  simp

theorem forall_mem_some_matches (publicKeyHex : String) :
    ∀ key ∈ some publicKeyHex,
      asciiLowercase (keyPrefixHex publicKeyHex) <+: asciiLowercase key := by
  rintro _ ⟨⟩
  exact keyPrefixHex_matches publicKeyHex

def editOf (publicKeyPrefixHex name : String) (status : Option RepeaterStatus) :
    RepeaterUpsert where
  publicKeyPrefixHex := publicKeyPrefixHex
  name := name
  status := status
  resolvedFullKeyHex := none
  resolved_matches := forall_mem_none_matches publicKeyPrefixHex

def DiscoveredNode.editOf
    (node : DiscoveredNode) (name : String) (status : RepeaterStatus) :
    RepeaterUpsert where
  publicKeyPrefixHex := node.publicKeyPrefixHex
  name := name
  status := some status
  resolvedFullKeyHex := some node.publicKeyHex
  resolved_matches := by
    rintro _ ⟨⟩
    exact node.prefix_matches_key

def editOfKey (publicKeyHex name : String) : RepeaterUpsert where
  publicKeyPrefixHex := keyPrefixHex publicKeyHex
  name := name
  status := some .managed
  resolvedFullKeyHex := some publicKeyHex
  resolved_matches := forall_mem_some_matches publicKeyHex

def statusEdit
    (daemon : Daemon) (view : CommandView) (publicKeyPrefixHex name : String) :
    Option RepeaterStatus → Option RepeaterUpsert
  | none => some (editOf publicKeyPrefixHex name none)
  | some status =>
      if view.cachedContacts.any fun c =>
          c.publicKeyPrefixHex = publicKeyPrefixHex then
        some (editOf publicKeyPrefixHex name (some status))
      else
        (findDiscovered daemon.discovered publicKeyPrefixHex).bind fun node =>
          if view.declaration.toBool then some (node.editOf name status)
          else none

def addEdit
    (view : CommandView) (publicKeyHex name : String) (managed : Bool) :
    Option RepeaterUpsert :=
  let registered := view.cachedContacts.any fun c =>
    equalIgnoringCase c.publicKeyPrefixHex (keyPrefixHex publicKeyHex)
  if publicKeyHex.utf8ByteSize = 64 ∧ publicKeyHex.toList.all isHexDigit ∧
      managed ∧ (registered ∨ view.declaration.toBool) then
    some (editOfKey publicKeyHex name)
  else none

/-- What a command asks of the managed-repeater list, if it comes so far: the
key is well formed, and the repeater is a contact or could be registered. -/
def requestedEdit (daemon : Daemon) (view : CommandView) :
    DaemonCommand → Option RepeaterUpsert
  | .setRepeaterStatus publicKeyPrefixHex name status =>
      statusEdit daemon view publicKeyPrefixHex name status
  | .addRepeater publicKeyHex name managed =>
      addEdit view publicKeyHex name managed
  | _ => none

/-- A step of registering a contact. -/
def MeshStep.registers : MeshStep → Bool
  | .addToCompanion _ => true
  | .broadcast _ => true
  | _ => false

/-- The ways a status command can go: it is refused, or it registers the
repeater, if it has to, and makes its edit, or it has none to make. -/
inductive StatusScript (view : CommandView) :
    Option RepeaterUpsert → List MeshStep → Prop where
  | refused (reason : String) :
      StatusScript view none [.reply (.error reason)]
  | unedited {steps : List MeshStep} (hsteps : ¬AnswersError steps) :
      StatusScript view none steps
  | edited (request : RepeaterUpsert) {registration afterwards : List MeshStep}
      (hregistration : ∀ step ∈ registration, step.registers = true)
      (hafterwards : ¬AnswersError afterwards) :
      StatusScript view (some request)
        (registration ++
          upsertManagedRepeaterConfigSteps request view.save afterwards)

namespace StatusScript

variable {view : CommandView} {afterwards : List MeshStep}

theorem upsert
    (request : RepeaterUpsert) (hafterwards : ¬AnswersError afterwards) :
    StatusScript view (some request)
      (upsertManagedRepeaterConfigSteps request view.save afterwards) :=
  @edited view request [] afterwards (by simp) hafterwards

theorem declare_unedited
    (name : String) (hafterwards : ¬AnswersError afterwards) :
    StatusScript view none (declareSteps view name afterwards) := by
  unfold declareSteps
  cases view.declaration with
  | error reason => exact refused _
  | ok publicKey =>
      apply unedited
      simpa [AnswersError] using hafterwards

theorem declare_upsert
    (name : String) (request : RepeaterUpsert)
    (hafterwards : ¬AnswersError afterwards) :
    StatusScript view
      (if view.declaration.toBool then some request else none)
      (declareSteps view name
        (upsertManagedRepeaterConfigSteps request view.save afterwards)) := by
  unfold declareSteps
  cases hdeclaration : view.declaration with
  | error reason => exact refused _
  | ok publicKey =>
      exact @edited view request
        [.addToCompanion (declaredContact name publicKey),
          .broadcast (.managedRepeaterDeclared name)] afterwards
        (by simp [MeshStep.registers]) hafterwards

theorem setRepeaterStatus
    (daemon : Daemon) (view : CommandView)
    (publicKeyPrefixHex name : String) (status : Option RepeaterStatus) :
    StatusScript view
      (statusEdit daemon view publicKeyPrefixHex name status)
      (setRepeaterStatusSteps daemon view publicKeyPrefixHex name status) := by
  have hannounced : ¬AnswersError
      [.broadcast (.repeaterStatusChanged name status),
        .refreshContacts view.staleCache, .reply (.ok ())] := by
    simp [AnswersError]
  unfold setRepeaterStatusSteps
  cases status with
  | none => exact upsert (editOf publicKeyPrefixHex name none) hannounced
  | some status =>
      by_cases hregistered : (view.cachedContacts.any fun c =>
          c.publicKeyPrefixHex = publicKeyPrefixHex) = true
      · simp only [statusEdit, hregistered, if_true, Option.isSome_some,
          Bool.not_true, Bool.and_false, Bool.false_eq_true, if_false]
        exact upsert (editOf publicKeyPrefixHex name (some status)) hannounced
      · rw [Bool.not_eq_true] at hregistered
        simp only [statusEdit, hregistered, Bool.false_eq_true, if_false,
          Option.isSome_some, Bool.not_false, Bool.and_true]
        rw [if_pos trivial]
        generalize hedit : Option.bind _ _ = edit
        split
        next hfind =>
          rw [← hedit, hfind]
          exact refused _
        next node hfind =>
          have hprefix : node.publicKeyPrefixHex = publicKeyPrefixHex := by
            simpa using List.find?_some hfind
          subst hprefix
          rw [hfind, Option.bind_some] at hedit
          rw [← hedit]
          exact declare_upsert name (node.editOf name status) hannounced

theorem addRepeater
    (view : CommandView) (publicKeyHex name : String) (managed : Bool) :
    StatusScript view (addEdit view publicKeyHex name managed)
      (addRepeaterSteps view publicKeyHex name managed) := by
  have hfinished : ¬AnswersError
      [.refreshContacts view.staleCache, .reply (.ok ())] := by
    simp [AnswersError]
  unfold addRepeaterSteps addEdit
  by_cases hkey : publicKeyHex.utf8ByteSize ≠ 64 ∨
      !publicKeyHex.toList.all isHexDigit
  · have hmalformed : ¬(publicKeyHex.utf8ByteSize = 64 ∧
        publicKeyHex.toList.all isHexDigit) := by
      rintro ⟨hsize, hdigits⟩
      rcases hkey with hother | hother
      · exact hother hsize
      · simp [hdigits] at hother
    rw [if_pos hkey, if_neg fun hall => hmalformed ⟨hall.1, hall.2.1⟩]
    exact refused _
  · rw [if_neg hkey]
    simp only [ne_eq, Bool.not_eq_true', not_or, not_not,
      Bool.not_eq_false] at hkey
    simp only [hkey.1, hkey.2, true_and]
    cases managed with
    | false =>
        simp only [Bool.false_eq_true, false_and, if_false]
        split
        · exact unedited hfinished
        · exact declare_unedited name hfinished
    | true =>
        simp only [true_and, if_true]
        by_cases hregistered : (view.cachedContacts.any fun c =>
            equalIgnoringCase c.publicKeyPrefixHex
              (keyPrefixHex publicKeyHex)) = true
        · rw [if_pos (Or.inl hregistered), if_pos hregistered]
          exact upsert (editOfKey publicKeyHex name) hfinished
        · simp only [hregistered, false_or, Bool.false_eq_true, if_false]
          exact declare_upsert name (editOfKey publicKeyHex name) hfinished

end StatusScript

theorem statusScript_handleCommandSteps
    (daemon : Daemon) (view : CommandView) {cmd : DaemonCommand}
    (hcmd : cmd.editsRepeaters = true) :
    StatusScript view (requestedEdit daemon view cmd)
      (handleCommandSteps daemon view cmd) := by
  cases cmd with
  | setRepeaterStatus publicKeyPrefixHex name status =>
      exact StatusScript.setRepeaterStatus daemon view _ name status
  | addRepeater publicKeyHex name managed =>
      exact StatusScript.addRepeater view publicKeyHex name managed
  | removeContact publicKeyPrefixHex | requestTelemetry publicKeyPrefixHex
  | requestRepeaterDetail publicKeyPrefixHex | refreshNodeStats
  | signData data | resyncObserverConfig => cases hcmd

/-! ### What is left after an error -/

/-- Registering changes the contacts of the companion alone. -/
theorem exists_afterStep_of_registers
    (daemon : Daemon) {step : MeshStep} (hregisters : step.registers = true) :
    ∃ contacts, daemon.afterStep step =
      { daemon with companionContacts := contacts } := by
  cases step with
  | addToCompanion contact | broadcast kind => exact ⟨_, rfl⟩
  | removeFromCompanion contact | upsertConfig request | saveConfig outcome
  | setTelemetry key telemetry | refreshContacts staleCache
  | reply result => cases hregisters

theorem exists_foldl_afterStep_of_registers
    {steps : List MeshStep} (hsteps : ∀ step ∈ steps, step.registers = true)
    (daemon : Daemon) :
    ∃ contacts, steps.foldl Daemon.afterStep daemon =
      { daemon with companionContacts := contacts } := by
  induction steps generalizing daemon with
  | nil => exact ⟨daemon.companionContacts, rfl⟩
  | cons step rest ih =>
      obtain ⟨hstep, hrest⟩ := List.forall_mem_cons.mp hsteps
      obtain ⟨contacts, hcontacts⟩ := exists_afterStep_of_registers daemon hstep
      obtain ⟨later, hlater⟩ := ih hrest (daemon.afterStep step)
      rw [List.foldl_cons, hlater, hcontacts]
      exact ⟨later, rfl⟩

/-- The tiers follow from the configuration. -/
theorem NothingChanged.of_config
    {before after : Daemon} (hconfig : after.config = before.config)
    (hserved : after.served = before.served)
    (hagrees : before.configFile = some before.config →
      after.configFile = some after.config) :
    NothingChanged before after := by
  constructor
  · exact hconfig
  · exact hserved
  · intro staleCache contact hmem
    rw [← hconfig]
    exact repeaterStatus_of_mem_buildSnapshotContacts hmem
  · exact hagrees

theorem NothingChanged.refl (daemon : Daemon) :
    NothingChanged daemon daemon :=
  .of_config rfl rfl fun hagrees => hagrees

/-- After a failed save the edit is in memory, and the file is what the write
left. -/
theorem nothingChanged_after_failed_save_iff
    (daemon : Daemon) {registration : List MeshStep}
    (hregistration : ∀ step ∈ registration, step.registers = true)
    (request : RepeaterUpsert) (reason : String) (left : Option Config)
    (afterwards : List MeshStep) :
    NothingChanged daemon
        ((registration ++ upsertManagedRepeaterConfigSteps request
          (.failed reason left) afterwards).foldl Daemon.afterStep daemon) ↔
      AlreadySays daemon.config.managedRepeaters request ∧
        (daemon.configFile = some daemon.config →
          left = some daemon.config) := by
  obtain ⟨contacts, hregistered⟩ :=
    exists_foldl_afterStep_of_registers hregistration daemon
  have hafter : (registration ++ upsertManagedRepeaterConfigSteps request
      (.failed reason left) afterwards).foldl Daemon.afterStep daemon =
        { daemon with
          companionContacts := contacts
          config := daemon.config.upsertManagedRepeater request
          configFile := left } := by
    rw [List.foldl_append, hregistered]
    rfl
  rw [hafter, ← config_upsertManagedRepeater_eq_self_iff]
  constructor
  · intro hnothing
    have hsame : daemon.config.upsertManagedRepeater request = daemon.config :=
      hnothing.config
    constructor
    · exact hsame
    · intro hagrees
      exact (hnothing.agrees hagrees).trans (congrArg some hsame)
  · rintro ⟨hsame, hagrees⟩
    rw [hsame]
    exact .of_config rfl rfl hagrees

/-- A status command which fails changes nothing exactly when it comes to no
edit, when saving is not what fails, or when the edit is one the list already
says and the failed save leaves the file as it was. -/
theorem failed_command_nothingChanged_iff
    {cmd : DaemonCommand} (hcmd : cmd.editsRepeaters = true)
    (daemon : Daemon) (view : CommandView) :
    (AnswersError (handleCommandSteps daemon view cmd) →
      NothingChanged daemon (daemon.afterCommand view cmd)) ↔
    ∀ request ∈ requestedEdit daemon view cmd, ∀ reason left,
      view.save = .failed reason left →
        AlreadySays daemon.config.managedRepeaters request ∧
          (daemon.configFile = some daemon.config →
            left = some daemon.config) := by
  have hscript := statusScript_handleCommandSteps daemon view hcmd
  unfold Daemon.afterCommand
  generalize handleCommandSteps daemon view cmd = steps at *
  generalize requestedEdit daemon view cmd = edit at *
  cases hscript with
  | refused reason =>
      constructor
      · intro _ request hedit
        cases hedit
      · intro _ _
        exact .refl daemon
  | unedited hsteps => simp [hsteps]
  | @edited request registration afterwards hregistration hafterwards =>
      cases hsave : view.save with
      | saved =>
          have hok : ¬AnswersError (registration ++
              upsertManagedRepeaterConfigSteps request .saved afterwards) := by
            rintro ⟨reason, hreply⟩
            simp only [upsertManagedRepeaterConfigSteps, List.mem_append,
              List.mem_cons, reduceCtorEq, false_or] at hreply
            rcases hreply with hregistered | hlater
            · exact absurd (hregistration _ hregistered) (by simp
                [MeshStep.registers])
            · exact hafterwards ⟨reason, hlater⟩
          simp [hok]
      | failed reason left =>
          have herror : AnswersError (registration ++
              upsertManagedRepeaterConfigSteps request (.failed reason left)
                afterwards) :=
            ⟨failedToSave reason,
              by simp [upsertManagedRepeaterConfigSteps]⟩
          rw [nothingChanged_after_failed_save_iff daemon hregistration]
          constructor
          · rintro hunchanged other ⟨⟩ _ _ ⟨⟩
            exact hunchanged herror
          · intro hcondition _
            exact hcondition request rfl reason left rfl

/-- A daemon which manages `knownContact`, as its file says. -/
def Daemon.managingKnown : Daemon :=
  { Daemon.bare with
    config := .withRepeaters ["0a1b2c3d4e5f"]
    configFile := some (.withRepeaters ["0a1b2c3d4e5f"]) }

def makeKnown : DaemonCommand :=
  .setRepeaterStatus "0a1b2c3d4e5f" "hilltop" (some .known)

/-- The file cannot be written and stays as it is. -/
def CommandView.readOnly : CommandView :=
  { CommandView.offline [knownContact] with
    save := .failed "Permission denied (os error 13)"
      Daemon.managingKnown.configFile }

/-- The client is told that the change failed, and later snapshots show it. -/
theorem failed_save_keeps_edit :
    AnswersError
        (handleCommandSteps .managingKnown .readOnly makeKnown) ∧
      ¬NothingChanged .managingKnown
        (Daemon.managingKnown.afterCommand .readOnly makeKnown) := by
  have hsteps : (handleCommandSteps .managingKnown .readOnly makeKnown)[2]? =
      some (.reply (.error
        (failedToSave "Permission denied (os error 13)"))) := rfl
  constructor
  · exact ⟨_, List.mem_of_getElem? hsteps⟩
  · intro hnothing
    have hbefore : matchingRepeaterStatus
        Daemon.managingKnown.config.managedRepeaters "0a1b2c3d4e5f" =
          some .managed := by decide
    have hafter : matchingRepeaterStatus
        (Daemon.managingKnown.afterCommand .readOnly
          makeKnown).config.managedRepeaters "0a1b2c3d4e5f" =
            some .known := rfl
    rw [hnothing.config, hbefore] at hafter
    cases hafter

/-- The repeater has not been heard, and the command ends before its edit. -/
theorem failed_command_nothingChanged_unheard :
    AnswersError (handleCommandSteps .managingKnown (.offline []) makeKnown) ∧
      NothingChanged .managingKnown
        (Daemon.managingKnown.afterCommand (.offline []) makeKnown) := by
  have herror : AnswersError
      (handleCommandSteps .managingKnown (.offline []) makeKnown) :=
    ⟨_, List.mem_cons_self⟩
  have hnone : requestedEdit .managingKnown (.offline []) makeKnown = none :=
    rfl
  refine ⟨herror, (@failed_command_nothingChanged_iff makeKnown rfl
    .managingKnown (.offline [])).mpr ?_ herror⟩
  intro request hedit
  rw [hnone] at hedit
  cases hedit

end MeshController
