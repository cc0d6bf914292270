import MeshController.FailedCommands
import MeshController.RedeclarableEntries

/-!
# One entry for each repeater

A command edits the entry of one repeater, which it names by the front of a
key.  If no two entries match one front to begin with, no command makes a
second one: a first status appends an entry only where none matches, and a
change keeps the entry it finds at the front it was found by.
-/

namespace MeshController

/-- The front of a key by which a repeater is named, in either case. -/
def IsKeyPrefix (text : String) : Prop :=
  text.toList.length = 12 ∧ ∀ c ∈ text.toList, isHexDigit c = true

/-- At most one entry matches each front. -/
def MatchedOnce (repeaters : List ManagedRepeater) : Prop :=
  ∀ publicKeyPrefixHex, IsKeyPrefix publicKeyPrefixHex →
    (entriesFor repeaters publicKeyPrefixHex).length ≤ 1

theorem isKeyPrefix_keyPrefixHex
    {publicKeyHex : String} (hkey : IsFullKey publicKeyHex) :
    IsKeyPrefix (keyPrefixHex publicKeyHex) := by
  constructor
  · simp [keyPrefixHex, hkey.1]
  · intro c hmem
    simp only [keyPrefixHex, String.toList_ofList] at hmem
    exact hkey.2 c (List.mem_of_mem_take hmem)

/-! ## One edit -/

theorem entriesFor_congr
    (repeaters : List ManagedRepeater) {first second : String}
    (hsame : asciiLowercase first = asciiLowercase second) :
    entriesFor repeaters first = entriesFor repeaters second := by
  unfold entriesFor ManagedRepeater.matches
  rw [hsame]

theorem sameRepeater_iff_of_length
    {first second : String}
    (hlength : first.toList.length = second.toList.length) :
    SameRepeater first second ↔
      asciiLowercase first = asciiLowercase second := by
  have hlowercase : (asciiLowercase first).length =
      (asciiLowercase second).length := by
    rw [asciiLowercase, asciiLowercase, List.length_map, List.length_map,
      hlength]
  constructor
  · intro hsame
    rcases hsame with hfirst | hsecond
    · exact hfirst.eq_of_length hlowercase
    · exact (hsecond.eq_of_length hlowercase.symm).symm
  · intro hequal
    left
    rw [hequal]

/-- Setting a status leaves as many entries as there were, or the first one. -/
theorem length_entriesFor_upsert_of_set
    (repeaters : List ManagedRepeater) {request : RepeaterUpsert}
    {newStatus : RepeaterStatus} (hstatus : request.status = some newStatus) :
    (entriesFor (upsertManagedRepeater repeaters request)
      request.publicKeyPrefixHex).length =
        max 1 (entriesFor repeaters request.publicKeyPrefixHex).length := by
  induction repeaters with
  | nil =>
      have hcreated := request.created_matches newStatus
      simp [upsertManagedRepeater_nil, hstatus, entriesFor, hcreated]
  | cons repeater rest ih =>
      by_cases hmatches :
          repeater.matches request.publicKeyPrefixHex = true
      · have hupdated := request.updated_matches newStatus hmatches
        rw [upsertManagedRepeater_cons_of_matches hmatches, hstatus]
        simp [entriesFor, hmatches, hupdated]
      · rw [Bool.not_eq_true] at hmatches
        rw [upsertManagedRepeater_cons_of_not_matches hmatches]
        simpa [entriesFor, hmatches] using ih

theorem MatchedOnce.afterUpsert
    {repeaters : List ManagedRepeater} (honce : MatchedOnce repeaters)
    {request : RepeaterUpsert}
    (hfront : IsKeyPrefix request.publicKeyPrefixHex) :
    MatchedOnce (upsertManagedRepeater repeaters request) := by
  intro publicKeyPrefixHex hother
  have hlength : publicKeyPrefixHex.toList.length =
      request.publicKeyPrefixHex.toList.length := by
    rw [hother.1, hfront.1]
  by_cases hsame : SameRepeater publicKeyPrefixHex request.publicKeyPrefixHex
  · have hbefore := honce request.publicKeyPrefixHex hfront
    rw [entriesFor_congr _ ((sameRepeater_iff_of_length hlength).mp hsame)]
    cases hstatus : request.status with
    | none =>
        rw [entriesFor_upsert_of_cleared repeaters hstatus, List.length_tail]
        omega
    | some newStatus =>
        rw [length_entriesFor_upsert_of_set repeaters hstatus]
        omega
  · rw [entriesFor_upsert_of_not_sameRepeater repeaters hsame]
    exact honce publicKeyPrefixHex hother

/-! ## The edits of a command -/

/-- Every edit on the way names its repeater by the front of a key. -/
def EditsByPrefix (steps : List MeshStep) : Prop :=
  ∀ request, MeshStep.upsertConfig request ∈ steps →
    IsKeyPrefix request.publicKeyPrefixHex

theorem EditsByPrefix.upsert
    {request : RepeaterUpsert}
    (hfront : IsKeyPrefix request.publicKeyPrefixHex)
    {afterwards : List MeshStep} (hafterwards : EditsByPrefix afterwards)
    (save : SaveOutcome) :
    EditsByPrefix
      (upsertManagedRepeaterConfigSteps request save afterwards) := by
  intro other hmem
  unfold upsertManagedRepeaterConfigSteps at hmem
  cases save with
  | saved =>
      simp only [List.mem_cons, MeshStep.upsertConfig.injEq, reduceCtorEq,
        false_or] at hmem
      rcases hmem with rfl | hlater
      · exact hfront
      · exact hafterwards other hlater
  | failed reason left =>
      simp only [List.mem_cons, MeshStep.upsertConfig.injEq, reduceCtorEq,
        List.not_mem_nil, or_self, or_false] at hmem
      rw [hmem]
      exact hfront

theorem EditsByPrefix.declare
    {afterwards : List MeshStep} (hafterwards : EditsByPrefix afterwards)
    (view : CommandView) (name : String) :
    EditsByPrefix (declareSteps view name afterwards) := by
  intro request hmem
  unfold declareSteps at hmem
  cases hdeclaration : view.declaration with
  | error reason => simp [hdeclaration] at hmem
  | ok publicKey =>
      simp only [hdeclaration, List.mem_cons, reduceCtorEq, false_or] at hmem
      exact hafterwards request hmem

/-- A status command is given the front of a key. -/
def DaemonCommand.NamesByPrefix : DaemonCommand → Prop
  | .setRepeaterStatus publicKeyPrefixHex _ _ => IsKeyPrefix publicKeyPrefixHex
  | .addRepeater .. => True
  | _ => False

theorem editsByPrefix_setRepeaterStatus
    (daemon : Daemon) (view : CommandView) {publicKeyPrefixHex : String}
    (hfront : IsKeyPrefix publicKeyPrefixHex) (name : String)
    (status : Option RepeaterStatus) :
    EditsByPrefix
      (setRepeaterStatusSteps daemon view publicKeyPrefixHex name status) := by
  have hannounced : EditsByPrefix
      [.broadcast (.repeaterStatusChanged name status),
        .refreshContacts view.staleCache, .reply (.ok ())] := by
    simp [EditsByPrefix]
  unfold setRepeaterStatusSteps
  simp only
  split
  · split
    · simp [EditsByPrefix]
    · exact (hannounced.upsert hfront view.save).declare view name
  · exact hannounced.upsert hfront view.save

theorem editsByPrefix_addRepeater
    (view : CommandView) (publicKeyHex name : String) (managed : Bool) :
    EditsByPrefix (addRepeaterSteps view publicKeyHex name managed) := by
  have hfinished : EditsByPrefix
      [.refreshContacts view.staleCache, .reply (.ok ())] := by
    simp [EditsByPrefix]
  unfold addRepeaterSteps
  split
  next => simp [EditsByPrefix]
  next hchecked =>
    rw [not_or, not_not, Bool.not_eq_true', Bool.not_eq_false] at hchecked
    have hfront := isKeyPrefix_keyPrefixHex
      (isFullKey_of_checked hchecked.1 hchecked.2)
    cases managed with
    | false =>
        simp only [Bool.false_eq_true, if_false]
        split
        · exact hfinished
        · exact hfinished.declare view name
    | true =>
        simp only [if_true]
        split
        · apply EditsByPrefix.upsert _ hfinished
          exact hfront
        · apply EditsByPrefix.declare
          apply EditsByPrefix.upsert _ hfinished
          exact hfront

theorem editsByPrefix_handleCommandSteps
    (daemon : Daemon) (view : CommandView) {cmd : DaemonCommand}
    (hnames : cmd.NamesByPrefix) :
    EditsByPrefix (handleCommandSteps daemon view cmd) := by
  cases cmd with
  | setRepeaterStatus publicKeyPrefixHex name status =>
      exact editsByPrefix_setRepeaterStatus daemon view hnames name status
  | addRepeater publicKeyHex name managed =>
      exact editsByPrefix_addRepeater view publicKeyHex name managed
  | removeContact publicKeyPrefixHex | requestTelemetry publicKeyPrefixHex
  | requestRepeaterDetail publicKeyPrefixHex | refreshNodeStats
  | signData data | resyncObserverConfig => cases hnames

theorem MatchedOnce.afterSteps
    {steps : List MeshStep} (hedits : EditsByPrefix steps) {daemon : Daemon}
    (honce : MatchedOnce daemon.config.managedRepeaters) :
    MatchedOnce
      (steps.foldl Daemon.afterStep daemon).config.managedRepeaters := by
  induction steps generalizing daemon with
  | nil => exact honce
  | cons step rest ih =>
      have hrest : EditsByPrefix rest := by
        intro request hmem
        exact hedits request (List.mem_cons_of_mem _ hmem)
      apply ih hrest
      by_cases hedit : ∃ request, step = .upsertConfig request
      · rcases hedit with ⟨request, rfl⟩
        exact honce.afterUpsert (hedits request List.mem_cons_self)
      · rw [daemon.config_afterStep step fun request hstep =>
          hedit ⟨request, hstep⟩]
        exact honce

/-! ## Sequences of commands -/

/-- A command, with what it meets: the daemon around the configuration, and
the answers it gets. -/
structure RegistryCommand where
  surroundings : Daemon
  view : CommandView
  cmd : DaemonCommand
  names : cmd.NamesByPrefix

def Config.afterRegistryCommand
    (config : Config) (command : RegistryCommand) : Config :=
  ({ command.surroundings with config := config }.afterCommand command.view
    command.cmd).config

/-- Whatever is set, changed, cleared and added, successfully or not and
whatever the daemon has heard of: no front is ever matched by two entries. -/
theorem registry_matchedOnce
    {config : Config} (honce : MatchedOnce config.managedRepeaters)
    (commands : List RegistryCommand) :
    MatchedOnce
      (commands.foldl Config.afterRegistryCommand config).managedRepeaters := by
  induction commands generalizing config with
  | nil => exact honce
  | cons command rest ih =>
      apply ih
      have hedits := editsByPrefix_handleCommandSteps
        { command.surroundings with config := config } command.view
        command.names
      exact honce.afterSteps hedits

theorem isKeyPrefix_hilltop : IsKeyPrefix "0a1b2c3d4e5f" := by
  constructor
  · rfl
  · simp [isHexDigit]

/-- A status of a contact the companion lists. -/
def hilltopStatus (status : Option RepeaterStatus) : RegistryCommand where
  surroundings := .bare
  view := .offline [knownContact]
  cmd := .setRepeaterStatus "0a1b2c3d4e5f" "hilltop" status
  names := isKeyPrefix_hilltop

theorem registry_matchedOnce_hilltop :
    MatchedOnce ([hilltopStatus (some .supervised), hilltopStatus none].foldl
      Config.afterRegistryCommand .bare).managedRepeaters := by
  apply registry_matchedOnce
  intro publicKeyPrefixHex _
  exact Nat.zero_le _

end MeshController
