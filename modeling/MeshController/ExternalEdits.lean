import MeshController.SnapshotCoherence

/-!
# Operator edits of the configuration file

The file and the running configuration are two copies: a reload replaces the
running one by the file, and a status command writes the running one over the
file.  Nothing merges them, so an edit of the file is kept as long as every
save writes a configuration which the edit has reached.
-/

namespace MeshController

open LabelledRun

/-! ## What a status command leaves of an edit -/

/-- Of what the operator wrote, `config` has everything which the edits of
`requests` do not set. -/
structure EditKept
    (edit config : Config) (requests : List RepeaterUpsert) : Prop where
  outer : { config with managedRepeaters := [] } =
    { edit with managedRepeaters := [] }
  others : ∀ publicKeyPrefixHex,
    (∀ request ∈ requests,
      ¬SameRepeater publicKeyPrefixHex request.publicKeyPrefixHex) →
    entriesFor config.managedRepeaters publicKeyPrefixHex =
      entriesFor edit.managedRepeaters publicKeyPrefixHex
  passwords : (∀ request ∈ requests, request.status ≠ none) →
    config.managedRepeaters.filterMap ManagedRepeater.password =
      edit.managedRepeaters.filterMap ManagedRepeater.password

theorem EditKept.refl (edit : Config) (requests : List RepeaterUpsert) :
    EditKept edit edit requests :=
  ⟨rfl, fun _ _ => rfl, fun _ => rfl⟩

theorem EditKept.afterRequest
    {edit config : Config} {requests : List RepeaterUpsert}
    (hkept : EditKept edit config requests) (request : RepeaterUpsert) :
    EditKept edit config (request :: requests) := by
  refine ⟨hkept.outer, ?_, ?_⟩
  · intro publicKeyPrefixHex hdistinct
    exact hkept.others publicKeyPrefixHex (List.forall_mem_cons.mp hdistinct).2
  · intro hset
    exact hkept.passwords (List.forall_mem_cons.mp hset).2

theorem passwords_upsertManagedRepeater
    (repeaters : List ManagedRepeater) {request : RepeaterUpsert}
    (hset : request.status ≠ none) :
    (upsertManagedRepeater repeaters request).filterMap
        ManagedRepeater.password =
      repeaters.filterMap ManagedRepeater.password := by
  obtain ⟨newStatus, hstatus⟩ := Option.ne_none_iff_exists'.mp hset
  induction repeaters with
  | nil =>
      rw [upsertManagedRepeater_nil, hstatus]
      rfl
  | cons repeater rest ih =>
      cases hmatches : repeater.matches request.publicKeyPrefixHex with
      | true =>
          rw [upsertManagedRepeater_cons_of_matches hmatches, hstatus]
          rfl
      | false =>
          rw [upsertManagedRepeater_cons_of_not_matches hmatches,
            List.filterMap_cons, List.filterMap_cons, ih]

theorem EditKept.afterUpsert
    {edit config : Config} {requests : List RepeaterUpsert}
    (hkept : EditKept edit config requests) (request : RepeaterUpsert) :
    EditKept edit (config.upsertManagedRepeater request)
      (request :: requests) := by
  refine ⟨hkept.outer, ?_, ?_⟩
  · intro publicKeyPrefixHex hdistinct
    obtain ⟨hfirst, hrest⟩ := List.forall_mem_cons.mp hdistinct
    rw [← hkept.others publicKeyPrefixHex hrest]
    exact entriesFor_upsert_of_not_sameRepeater config.managedRepeaters hfirst
  · intro hset
    obtain ⟨hfirst, hrest⟩ := List.forall_mem_cons.mp hset
    rw [← hkept.passwords hrest]
    exact passwords_upsertManagedRepeater config.managedRepeaters hfirst

/-! ## Edits, reloads and commands together -/

/-- `edit` is what the operator last put into the file, `requests` what the
daemon has changed since, newest first.  `loaded` says that the reload under
way has read the file since then, `applied` that the running configuration
comes from such a reload. -/
structure EditLog where
  edit : Config
  requests : List RepeaterUpsert
  loaded : Bool
  applied : Bool

namespace EditLog

def note (log : EditLog) (before : SnapshotRun) (action : SnapshotAction)
    (_ : SnapshotRun) : EditLog :=
  match action with
  | .editFile (some config) =>
      { edit := config, requests := [], loaded := false, applied := false }
  | .load => { log with loaded := true }
  | .overwrite => { log with applied := log.loaded }
  | .proceed =>
      match before.script with
      | .mesh (.upsertConfig request) :: _ =>
          { log with requests := request :: log.requests }
      | _ => log
  | _ => log

end EditLog

/-- The daemon, the reloads and the operator, with a record of the edits. -/
abbrev EditRun := SnapshotRun × EditLog

namespace EditRun

/-- The daemon has loaded its configuration from the file. -/
def start (daemon : Daemon) : EditRun :=
  (.start daemon,
    { edit := daemon.config, requests := [], loaded := false
      applied := true })

def step : Machine EditRun SnapshotAction :=
  observed SnapshotRun.step EditLog.note

/-- The outcome of the save which comes next, if one does. -/
def saving (state : EditRun) : Option SaveOutcome :=
  match state.1.script with
  | .mesh (.saveConfig outcome) :: _ => some outcome
  | _ => none

/-- Every edit puts a valid configuration into the file, and the file can be
written. -/
def Regular (state : EditRun) : SnapshotAction → Prop
  | .editFile configFile => configFile.isSome = true
  | .proceed => ∀ outcome ∈ state.saving, outcome = .saved
  | _ => True

/-- A command saves only a configuration which the last edit has reached. -/
def SavesApplied (state : EditRun) : SnapshotAction → Prop
  | .proceed => state.saving.isSome = true → state.2.applied = true
  | _ => True

instance decidableRegular (state : EditRun) :
    ∀ action, Decidable (Regular state action)
  | .editFile configFile =>
      inferInstanceAs (Decidable (configFile.isSome = true))
  | .proceed =>
      inferInstanceAs (Decidable (∀ outcome ∈ state.saving, outcome = .saved))
  | .take _ | .load | .readOld | .overwrite | .nodeChanges _ => isTrue trivial

instance decidableSavesApplied (state : EditRun) :
    ∀ action, Decidable (SavesApplied state action)
  | .proceed =>
      inferInstanceAs (Decidable
        (state.saving.isSome = true → state.2.applied = true))
  | .take _ | .load | .readOld | .overwrite | .editFile _
  | .nodeChanges _ => isTrue trivial

/-- Nothing of the last edit is lost: not in the file, nor in what a reload
has read from it, nor, once it is applied, in the running configuration. -/
structure Kept (state : EditRun) : Prop where
  file : ∃ config, state.1.daemon.configFile = some config ∧
    EditKept state.2.edit config state.2.requests
  loaded : state.2.loaded = true → ∀ config,
    (state.1.reload = .loaded config ∨
      ∃ oldConfig, state.1.reload = .compared oldConfig config) →
      EditKept state.2.edit config state.2.requests
  applied : state.2.applied = true →
    EditKept state.2.edit state.1.daemon.config state.2.requests

theorem kept_start
    {daemon : Daemon} (hfile : daemon.configFile = some daemon.config) :
    (start daemon).Kept := by
  constructor
  · exact ⟨daemon.config, hfile, EditKept.refl _ _⟩
  · intro hloaded
    cases hloaded
  · intro _
    exact EditKept.refl _ _

theorem Kept.of_unchanged
    {state : EditRun} (hkept : state.Kept) {next : SnapshotRun}
    (hfile : next.daemon.configFile = state.1.daemon.configFile)
    (hconfig : next.daemon.config = state.1.daemon.config)
    (hreload : next.reload = state.1.reload) :
    EditRun.Kept (next, state.2) := by
  constructor
  · simpa only [hfile] using hkept.file
  · simpa only [hreload] using hkept.loaded
  · simpa only [hconfig] using hkept.applied

theorem Kept.of_upsertConfig
    {state : EditRun} (hkept : state.Kept) (request : RepeaterUpsert)
    (rest : List TaskStep) :
    EditRun.Kept
      ({ state.1 with
          daemon := state.1.daemon.afterStep (.upsertConfig request)
          script := rest },
        { state.2 with requests := request :: state.2.requests }) := by
  obtain ⟨file, hfile, hfilekept⟩ := hkept.file
  constructor
  · exact ⟨file, hfile, hfilekept.afterRequest request⟩
  · intro hloaded config hreload
    exact (hkept.loaded hloaded config hreload).afterRequest request
  · intro happlied
    exact (hkept.applied happlied).afterUpsert request

theorem Kept.of_saveConfig
    {state : EditRun} (hkept : state.Kept) (happlied : state.2.applied = true)
    (rest : List TaskStep) :
    EditRun.Kept
      ({ state.1 with
          daemon := state.1.daemon.afterStep (.saveConfig .saved)
          script := rest }, state.2) := by
  constructor
  · exact ⟨state.1.daemon.config, rfl, hkept.applied happlied⟩
  · exact hkept.loaded
  · exact hkept.applied

theorem Kept.afterProceed
    {state : EditRun} (hkept : state.Kept)
    (hregular : state.Regular .proceed)
    (hcurrent : state.SavesApplied .proceed) {next : SnapshotRun}
    (hstep : state.1.proceed = some next) :
    EditRun.Kept (next, state.2.note state.1 .proceed next) := by
  obtain ⟨run, log⟩ := state
  simp only [Regular, SavesApplied, saving] at hregular hcurrent
  unfold EditLog.note
  cases hscript : run.script with
  | nil =>
      rw [SnapshotRun.proceed, hscript] at hstep
      contradiction
  | cons head rest =>
      simp only [hscript] at hregular hcurrent ⊢
      rcases SnapshotRun.proceed_inversion hscript hstep with
        ⟨staleCache, rfl, _, rfl⟩ | ⟨staleCache, read, rfl, _, rfl⟩ |
        ⟨meshStep, rfl, hother, rfl⟩ | ⟨meshConnected, selfInfo, rfl, rfl⟩ |
        ⟨node, rfl, rfl⟩ | ⟨steps, hpass, rfl⟩
      · exact hkept.of_unchanged rfl rfl rfl
      · exact hkept.of_unchanged rfl rfl rfl
      · cases meshStep with
        | refreshContacts staleCache => exact absurd rfl (hother staleCache)
        | upsertConfig request => exact hkept.of_upsertConfig request rest
        | saveConfig outcome =>
            obtain rfl : outcome = .saved := hregular outcome rfl
            exact hkept.of_saveConfig (hcurrent rfl) rest
        | removeFromCompanion contact | addToCompanion contact
        | setTelemetry key telemetry | broadcast kind | reply result =>
            exact hkept.of_unchanged rfl rfl rfl
      · exact hkept.of_unchanged rfl rfl rfl
      · exact hkept.of_unchanged rfl rfl rfl
      · cases head with
        | mesh meshStep => cases hpass
        | setLink meshConnected selfInfo | hear node | reconcile view
        | enforce view => exact hkept.of_unchanged rfl rfl rfl

theorem Kept.afterLoad
    {state : EditRun} (hkept : state.Kept) {next : SnapshotRun}
    (hstep : state.1.step .load = some next) :
    EditRun.Kept (next, state.2.note state.1 .load next) := by
  rcases hkept.file with ⟨file, hfile, hfilekept⟩
  rcases SnapshotRun.load_inversion hstep with
    ⟨hnone, _⟩ | ⟨newConfig, hnew, rfl⟩
  · rw [hfile] at hnone
    contradiction
  · rw [hfile, Option.some.injEq] at hnew
    constructor
    · exact ⟨file, hfile, hfilekept⟩
    · rintro _ config (hloaded | ⟨oldConfig, hcompared⟩)
      · cases hloaded
        exact hnew ▸ hfilekept
      · cases hcompared
    · exact hkept.applied

theorem Kept.afterReadOld
    {state : EditRun} (hkept : state.Kept) {next : SnapshotRun}
    (hstep : state.1.step .readOld = some next) :
    EditRun.Kept (next, state.2.note state.1 .readOld next) := by
  rcases SnapshotRun.readOld_inversion hstep with ⟨newConfig, hreload, rfl⟩
  constructor
  · exact hkept.file
  · rintro hloaded config (hread | ⟨oldConfig, hcompared⟩)
    · cases hread
    · cases hcompared
      exact hkept.loaded hloaded newConfig (Or.inl hreload)
  · exact hkept.applied

theorem Kept.afterOverwrite
    {state : EditRun} (hkept : state.Kept) {next : SnapshotRun}
    (hstep : state.1.step .overwrite = some next) :
    EditRun.Kept (next, state.2.note state.1 .overwrite next) := by
  rcases SnapshotRun.overwrite_inversion hstep with
    ⟨oldConfig, newConfig, hreload, rfl⟩
  constructor
  · exact hkept.file
  · rintro _ config (hread | ⟨old, hcompared⟩)
    · cases hread
    · cases hcompared
  · intro hloaded
    exact hkept.loaded hloaded newConfig (Or.inr ⟨oldConfig, hreload⟩)

theorem kept_of_editFile
    {state : EditRun} {configFile : Option Config}
    (hvalid : configFile.isSome = true) {next : SnapshotRun}
    (hstep : state.1.step (.editFile configFile) = some next) :
    EditRun.Kept (next, state.2.note state.1 (.editFile configFile) next) := by
  obtain ⟨config, rfl⟩ := Option.isSome_iff_exists.mp hvalid
  simp only [SnapshotRun.step, Option.some.injEq] at hstep
  subst next
  constructor
  · exact ⟨config, rfl, EditKept.refl _ _⟩
  · intro hloaded
    cases hloaded
  · intro happlied
    cases happlied

theorem Kept.afterStep
    {state next : EditRun} {action : SnapshotAction} (hkept : state.Kept)
    (hregular : state.Regular action) (hcurrent : state.SavesApplied action)
    (hstep : step state action = some next) : next.Kept := by
  obtain ⟨run, hrun, rfl⟩ := observed_eq_some_iff.mp hstep
  cases action with
  | take work =>
      rcases LabelledRun.guarded_eq_some_iff.mp hrun with ⟨_, rfl⟩
      exact hkept.of_unchanged rfl rfl rfl
  | proceed => exact hkept.afterProceed hregular hcurrent hrun
  | load => exact hkept.afterLoad hrun
  | readOld => exact hkept.afterReadOld hrun
  | overwrite => exact hkept.afterOverwrite hrun
  | editFile configFile => exact kept_of_editFile hregular hrun
  | nodeChanges contacts =>
      simp only [SnapshotRun.step, Option.some.injEq] at hrun
      subst run
      exact hkept.of_unchanged rfl rfl rfl

end EditRun

open EditRun

/-- As long as no command saves a configuration which the last edit has not
reached, the file keeps that edit throughout, and so does the running
configuration from the end of a reload which has read it. -/
theorem externalEdit_kept_of_savesApplied
    {daemon : Daemon} (hfile : daemon.configFile = some daemon.config)
    {actions : List SnapshotAction} {final : EditRun}
    (hregular : MeetsAlong step Regular (start daemon) actions)
    (hcurrent : MeetsAlong step SavesApplied (start daemon) actions)
    (hrun : run step (start daemon) actions = some final) :
    (∃ config, final.1.daemon.configFile = some config ∧
      EditKept final.2.edit config final.2.requests) ∧
    (final.2.applied = true →
      EditKept final.2.edit final.1.daemon.config final.2.requests) := by
  have hkept := invariant_of_run
    (fun _ _ _ hkept hallowed hstep =>
      Kept.afterStep hkept hallowed.1 hallowed.2 hstep)
    (kept_start hfile) (hregular.and hcurrent) hrun
  exact ⟨hkept.file, hkept.applied⟩

/-! ## An edit which a command overwrites -/

def Config.withRegion (config : Config) (region : RegionConfig) : Config :=
  { config with regions := config.regions ++ [region] }

/-- The operator adds a region. -/
def addsRegion : SnapshotAction :=
  .editFile (some ((Config.hilltop .managed).withRegion
    { name := "Europe", parent := none }))

/-- The hilltop repeater is made a known one: the edit and the save. -/
def makesKnown : List SnapshotAction :=
  [.take (.command (.offline [.ofContact MeshController.hilltop])
      (.setRepeaterStatus "abababababab" "hilltop" (some .known))),
    .proceed, .proceed]

theorem externalEdit_kept_after_reload :
    ∃ final, run step (start (.hilltop .managed))
        (connected ++ addsRegion :: [.load, .readOld, .overwrite] ++
          makesKnown) = some final ∧
      EditKept final.2.edit final.1.daemon.config final.2.requests := by
  have hkept := @externalEdit_kept_of_savesApplied (.hilltop .managed) rfl
    (connected ++ addsRegion :: [.load, .readOld, .overwrite] ++ makesKnown) _
    (by decide) (by decide) rfl
  exact ⟨_, rfl, hkept.2 rfl⟩

/-- The command comes before any reload: its save takes the region away. -/
theorem externalEdit_lost_of_save :
    ¬ ∀ (daemon : Daemon) (actions : List SnapshotAction) (final : EditRun),
      daemon.configFile = some daemon.config →
      MeetsAlong step Regular (start daemon) actions →
      run step (start daemon) actions = some final →
        ∃ config, final.1.daemon.configFile = some config ∧
          EditKept final.2.edit config final.2.requests := by
  intro hclaim
  obtain ⟨config, hfile, hkept⟩ := hclaim (.hilltop .managed)
    (connected ++ addsRegion :: makesKnown) _ rfl (by decide) rfl
  have hregions : config.regions =
      [{ name := "Europe", parent := none }] :=
    congrArg Config.regions hkept.outer
  have hsaved : config.regions = [] := by
    rw [← Option.some.inj hfile]
    rfl
  rw [hsaved] at hregions
  cases hregions

end MeshController
