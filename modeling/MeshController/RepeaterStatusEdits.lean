import MeshController.MeshCommands

/-!
# Edits of a repeater's status

`upsert_managed_repeater_config` edits the configuration in memory and then
saves it.  A status which was set is read back in memory and from the file; a
status which was cleared is gone only if no other entry matches the repeater.
The edit stays in memory when the save fails.
-/

namespace MeshController

/-! ### The file -/

/-- The toml library, as far as a configuration goes. -/
structure Toml where
  toStringPretty : Config → Except String String
  fromStr : String → Option Config

/-- Loading a saved configuration gives it back. -/
def Toml.LoadsSaved (toml : Toml) : Prop :=
  ∀ config text, toml.toStringPretty config = .ok text →
    toml.fromStr text = some config

/-- What the file system answers to a save; a failed write may leave anything
in the file. -/
structure DiskAnswers where
  createDirAll : Except String Unit
  write : Except (String × Option String) Unit

def DiskAnswers.working : DiskAnswers where
  createDirAll := .ok ()
  write := .ok ()

/-- The configuration in memory, and the text of its file. -/
structure ConfigState where
  config : Config
  file : Option String

def ConfigState.loadFrom (toml : Toml) (state : ConfigState) :
    Option Config :=
  state.file.bind toml.fromStr

def ConfigState.saveTo
    (toml : Toml) (disk : DiskAnswers) (state : ConfigState) :
    Except String Unit × ConfigState :=
  match disk.createDirAll with
  | .error reason => (.error reason, state)
  | .ok () =>
      match toml.toStringPretty state.config with
      | .error reason => (.error reason, state)
      | .ok content =>
          match disk.write with
          | .error (reason, left) =>
              (.error reason, { state with file := left })
          | .ok () => (.ok (), { state with file := some content })

def ConfigState.upsertManagedRepeaterConfig
    (toml : Toml) (disk : DiskAnswers) (state : ConfigState)
    (request : RepeaterUpsert) : Except String Unit × ConfigState :=
  let config := state.config.upsertManagedRepeater request
  let saved := { state with config := config }.saveTo toml disk
  (saved.1.mapError failedToSave, saved.2)

/-- A save which succeeds can be loaded again. -/
theorem ConfigState.loadFrom_saveTo
    {toml : Toml} (htoml : toml.LoadsSaved) {disk : DiskAnswers}
    {state : ConfigState} (hsaved : (state.saveTo toml disk).1 = .ok ()) :
    (state.saveTo toml disk).2.loadFrom toml = some state.config := by
  unfold saveTo at hsaved ⊢
  cases hdir : disk.createDirAll with
  | error reason => simp [hdir] at hsaved
  | ok done =>
      cases hcontent : toml.toStringPretty state.config with
      | error reason => simp [hdir, hcontent] at hsaved
      | ok content =>
          cases hwrite : disk.write with
          | error answer => simp [hdir, hcontent, hwrite] at hsaved
          | ok written =>
              simpa [loadFrom] using htoml state.config content hcontent

theorem ConfigState.config_saveTo
    (toml : Toml) (disk : DiskAnswers) (state : ConfigState) :
    (state.saveTo toml disk).2.config = state.config := by
  unfold saveTo
  split
  next => rfl
  next =>
    split
    next => rfl
    next => split <;> rfl

theorem ConfigState.config_upsertManagedRepeaterConfig
    (toml : Toml) (disk : DiskAnswers) (state : ConfigState)
    (request : RepeaterUpsert) :
    (state.upsertManagedRepeaterConfig toml disk request).2.config =
      state.config.upsertManagedRepeater request :=
  config_saveTo toml disk _

theorem ConfigState.loadFrom_upsertManagedRepeaterConfig
    {toml : Toml} (htoml : toml.LoadsSaved) {disk : DiskAnswers}
    {state : ConfigState} {request : RepeaterUpsert}
    (hsuccess :
      (state.upsertManagedRepeaterConfig toml disk request).1 = .ok ()) :
    (state.upsertManagedRepeaterConfig toml disk request).2.loadFrom toml =
      some (state.config.upsertManagedRepeater request) := by
  apply loadFrom_saveTo htoml
  unfold upsertManagedRepeaterConfig at hsuccess
  cases hresult : (saveTo toml disk { state with
      config := state.config.upsertManagedRepeater request }).1 with
  | ok done => rfl
  | error reason => simp [hresult, Except.mapError] at hsuccess

/-- How the mesh task sees the save. -/
def ConfigState.saveOutcome
    (toml : Toml) (disk : DiskAnswers) (state : ConfigState) : SaveOutcome :=
  match (state.saveTo toml disk).1 with
  | .ok () => .saved
  | .error reason =>
      .failed reason ((state.saveTo toml disk).2.loadFrom toml)

/-- The two steps of the mesh task do what the function does. -/
theorem Daemon.afterStep_upsertManagedRepeaterConfig
    {toml : Toml} (htoml : toml.LoadsSaved) (disk : DiskAnswers)
    {daemon : Daemon} {state : ConfigState}
    (hconfig : daemon.config = state.config) (request : RepeaterUpsert) :
    let edited :=
      { state with config := state.config.upsertManagedRepeater request }
    let after := (daemon.afterStep (.upsertConfig request)).afterStep
      (.saveConfig (edited.saveOutcome toml disk))
    let saved := state.upsertManagedRepeaterConfig toml disk request
    after.config = saved.2.config ∧
      after.configFile = saved.2.loadFrom toml := by
  intro edited after saved
  have hedited : saved.2 = (edited.saveTo toml disk).2 := rfl
  constructor
  · have hlast : after.config =
        (daemon.afterStep (.upsertConfig request)).config :=
      Daemon.config_afterStep _ _ (by simp)
    rw [hlast, hedited, ConfigState.config_saveTo]
    simp only [Daemon.afterStep, hconfig, edited]
  · cases hresult : (edited.saveTo toml disk).1 with
    | ok done =>
        have hloaded := ConfigState.loadFrom_saveTo htoml hresult
        rw [hedited, hloaded]
        simp [after, ConfigState.saveOutcome, hresult, Daemon.afterStep,
          hconfig, edited]
    | error reason =>
        simp [after, ConfigState.saveOutcome, hresult, Daemon.afterStep,
          hedited]

/-! ### Setting a status -/

/-- What setting a status makes of the list: the first matching entry gets the
name, the status and the resolved key, and keeps its password and its place;
without a matching entry one is appended. -/
structure StatusSet (request : RepeaterUpsert) (status : RepeaterStatus)
    (before after : List ManagedRepeater) : Prop where
  readBack :
    matchingRepeaterStatus after request.publicKeyPrefixHex = some status
  updated : ∀ earlier first later, before = earlier ++ first :: later →
    (∀ r ∈ earlier, r.matches request.publicKeyPrefixHex = false) →
      first.matches request.publicKeyPrefixHex = true →
        after = earlier ++
          { name := request.name
            publicKeyHex :=
              request.resolvedFullKeyHex.getD first.publicKeyHex
            password := first.password
            status := status } :: later
  appended :
    (∀ r ∈ before, r.matches request.publicKeyPrefixHex = false) →
      after = before ++
        [{ name := request.name
           publicKeyHex :=
             request.resolvedFullKeyHex.getD request.publicKeyPrefixHex
           password := none
           status := status }]

theorem statusSet_upsertManagedRepeater
    (repeaters : List ManagedRepeater) {request : RepeaterUpsert}
    {status : RepeaterStatus} (hstatus : request.status = some status) :
    StatusSet request status repeaters
      (upsertManagedRepeater repeaters request) := by
  constructor
  · exact matchingRepeaterStatus_upsert repeaters hstatus
  · rintro earlier first later rfl hearlier hfirst
    rw [upsertManagedRepeater_first hearlier hfirst, hstatus]
    rfl
  · intro hnone
    rw [upsertManagedRepeater_of_not_matches hnone, hstatus]
    rfl

/-- After a successful call the status is read back in memory and from the
file, at most one entry has changed or one was appended, and nothing else in
the configuration is touched. -/
theorem upsertManagedRepeaterConfig_sets
    {toml : Toml} (htoml : toml.LoadsSaved) {disk : DiskAnswers}
    {state after : ConfigState} {request : RepeaterUpsert}
    {status : RepeaterStatus} (hstatus : request.status = some status)
    (hsuccess : state.upsertManagedRepeaterConfig toml disk request =
      (.ok (), after)) :
    StatusSet request status state.config.managedRepeaters
        after.config.managedRepeaters ∧
      { after.config with
        managedRepeaters := state.config.managedRepeaters } = state.config ∧
      after.loadFrom toml = some after.config ∧
      (after.loadFrom toml).bind (fun reloaded =>
        matchingRepeaterStatus reloaded.managedRepeaters
          request.publicKeyPrefixHex) = some status := by
  have hafter : after =
      (state.upsertManagedRepeaterConfig toml disk request).2 := by
    rw [hsuccess]
  have hconfig : after.config =
      state.config.upsertManagedRepeater request := by
    rw [hafter, ConfigState.config_upsertManagedRepeaterConfig]
  have hset := statusSet_upsertManagedRepeater
    state.config.managedRepeaters hstatus
  have hlist : after.config.managedRepeaters =
      upsertManagedRepeater state.config.managedRepeaters request := by
    rw [hconfig]
    rfl
  have hloaded : after.loadFrom toml = some after.config := by
    rw [hafter, ConfigState.config_upsertManagedRepeaterConfig]
    exact ConfigState.loadFrom_upsertManagedRepeaterConfig htoml
      (congrArg Prod.fst hsuccess)
  rw [hlist]
  refine ⟨hset, ?_, hloaded, ?_⟩
  · rw [hconfig]
    rfl
  · rw [hloaded, Option.bind_some, hlist]
    exact hset.readBack

/-- A library which prints one configuration as `content`. -/
def Toml.printing (config : Config) (content : String) : Toml where
  toStringPretty := fun other =>
    if other = config then .ok content else .error "unsupported type"
  fromStr := fun text => if text = content then some config else none

theorem Toml.loadsSaved_printing (config : Config) (content : String) :
    (Toml.printing config content).LoadsSaved := by
  intro other text hprinted
  unfold printing at hprinted ⊢
  by_cases hsame : other = config
  · simp only [hsame, if_true, Except.ok.injEq] at hprinted
    simp [hsame, hprinted]
  · simp [hsame] at hprinted

theorem Toml.printing_succeeds
    (state : ConfigState) (request : RepeaterUpsert) (content : String) :
    (state.upsertManagedRepeaterConfig
      (.printing (state.config.upsertManagedRepeater request) content)
      .working request).1 = .ok () := by
  simp [ConfigState.upsertManagedRepeaterConfig, ConfigState.saveTo,
    DiskAnswers.working, printing, Except.mapError]

def Config.withRepeaters (publicKeys : List String) : Config :=
  { Config.bare with
    managedRepeaters := publicKeys.map fun publicKeyHex =>
      { name := "Repeater A"
        publicKeyHex := publicKeyHex
        password := none
        status := .managed } }

def repeaterRequest (status : Option RepeaterStatus) : RepeaterUpsert where
  publicKeyPrefixHex := "aabbccddeeff"
  name := "Repeater A"
  status := status
  resolvedFullKeyHex := none
  resolved_matches := by simp

/-- The head of the file of `Config.withRepeaters`, then its repeaters. -/
def printedConfig (repeaters : String) : String :=
  "node_label = \"test-node\"\nregions = []\nhashtag_channels = []\n" ++
  "mqtt_brokers = []\n\n[connection]\ntype = \"tcp\"\n" ++
  "host = \"127.0.0.1\"\nport = 5000\n\n[daemon]\n" ++
  "socket_path = \"/tmp/fez-mesh-controller-test.sock\"\n" ++
  "refresh_interval_secs = 5\nlog_level = \"info\"\n" ++
  "log_dir = \"/tmp/fez-mesh-controller-test/logs\"\n" ++
  "packet_log_capacity = 500\ndb_path = \":memory:\"\n" ++
  "observer_node_managed_config = true\n" ++ repeaters

def printedRepeater (publicKeyHex managed : String) : String :=
  "\n[[managed_repeaters]]\nname = \"Repeater A\"\npublic_key_hex = \"" ++
    publicKeyHex ++ "\"\nmanaged = \"" ++ managed ++ "\"\n"

/-- A repeater becomes known, in memory and in the file. -/
theorem upsertManagedRepeaterConfig_sets_known :
    let request := repeaterRequest (some .known)
    let state : ConfigState :=
      { config := .withRepeaters ["AABBCCDDEEFF"], file := none }
    let toml := Toml.printing (state.config.upsertManagedRepeater request)
      (printedConfig (printedRepeater "AABBCCDDEEFF" "known"))
    ((state.upsertManagedRepeaterConfig toml .working request).2.loadFrom
      toml).bind (fun reloaded =>
        matchingRepeaterStatus reloaded.managedRepeaters "aabbccddeeff") =
          some .known := by
  intro request state toml
  have hprinted := Toml.loadsSaved_printing
    (state.config.upsertManagedRepeater request)
    (printedConfig (printedRepeater "AABBCCDDEEFF" "known"))
  have hsuccess := Toml.printing_succeeds state request
    (printedConfig (printedRepeater "AABBCCDDEEFF" "known"))
  exact (@upsertManagedRepeaterConfig_sets toml hprinted .working state _
    request .known rfl (Prod.ext hsuccess rfl)).2.2.2

/-! ### Clearing a status -/

/-- What clearing a status promises: no entry of the repeater is left, and
every other entry stays. -/
structure StatusCleared (publicKeyPrefixHex : String)
    (before after : List ManagedRepeater) : Prop where
  gone : ∀ r ∈ after, r.matches publicKeyPrefixHex = false
  noStatus : matchingRepeaterStatus after publicKeyPrefixHex = none
  others :
    after.filter (fun r => !r.matches publicKeyPrefixHex) =
      before.filter fun r => !r.matches publicKeyPrefixHex

theorem filter_not_matches_upsert_of_cleared
    (repeaters : List ManagedRepeater) {request : RepeaterUpsert}
    (hstatus : request.status = none) :
    (upsertManagedRepeater repeaters request).filter
        (fun r => !r.matches request.publicKeyPrefixHex) =
      repeaters.filter fun r => !r.matches request.publicKeyPrefixHex := by
  induction repeaters with
  | nil => simp [upsertManagedRepeater_nil, hstatus]
  | cons repeater rest ih =>
      cases hmatches : repeater.matches request.publicKeyPrefixHex with
      | true =>
          rw [upsertManagedRepeater_cons_of_matches hmatches, hstatus]
          simp [hmatches]
      | false =>
          rw [upsertManagedRepeater_cons_of_not_matches hmatches]
          simp [hmatches, ih]

theorem statusCleared_iff_entriesFor
    {publicKeyPrefixHex : String} {before after : List ManagedRepeater}
    (hothers : after.filter (fun r => !r.matches publicKeyPrefixHex) =
      before.filter fun r => !r.matches publicKeyPrefixHex) :
    StatusCleared publicKeyPrefixHex before after ↔
      entriesFor after publicKeyPrefixHex = [] := by
  have hgone : entriesFor after publicKeyPrefixHex = [] ↔
      ∀ r ∈ after, r.matches publicKeyPrefixHex = false := by
    simp [entriesFor]
  constructor
  · intro hcleared
    exact hgone.mpr hcleared.gone
  · intro hnone
    constructor
    · exact hgone.mp hnone
    · rw [matchingRepeaterStatus_eq_head_entriesFor, hnone]
      rfl
    · exact hothers

/-- Only the first matching entry is removed, so that a status is cleared
exactly when at most one entry matched. -/
theorem upsertManagedRepeaterConfig_clears_iff
    {toml : Toml} {disk : DiskAnswers} {state after : ConfigState}
    {request : RepeaterUpsert} (hstatus : request.status = none)
    (hsuccess : state.upsertManagedRepeaterConfig toml disk request =
      (.ok (), after)) :
    StatusCleared request.publicKeyPrefixHex state.config.managedRepeaters
        after.config.managedRepeaters ↔
      (state.config.managedRepeaters.countP fun r =>
        r.matches request.publicKeyPrefixHex) ≤ 1 := by
  have hlist : after.config.managedRepeaters =
      upsertManagedRepeater state.config.managedRepeaters request := by
    have hafter := congrArg Prod.snd hsuccess
    rw [← show _ = after from hafter,
      ConfigState.config_upsertManagedRepeaterConfig]
    rfl
  rw [hlist, statusCleared_iff_entriesFor
    (filter_not_matches_upsert_of_cleared _ hstatus),
    entriesFor_upsert_of_cleared _ hstatus, ← List.length_eq_zero_iff,
    List.length_tail, Nat.sub_eq_zero_iff_le, List.countP_eq_length_filter,
    entriesFor]

/-- The same repeater is listed twice, by its prefix and by a longer key. -/
def twiceListed : ConfigState where
  config := .withRepeaters ["AABBCCDDEEFF", "aabbccddeeff0011"]
  file := none

/-- Clearing succeeds, and the repeater is still managed. -/
theorem clearing_leaves_second_entry :
    let request := repeaterRequest none
    let toml := Toml.printing
      (twiceListed.config.upsertManagedRepeater request)
      (printedConfig (printedRepeater "aabbccddeeff0011" "managed"))
    let called :=
      twiceListed.upsertManagedRepeaterConfig toml .working request
    called.1 = .ok () ∧
      ¬StatusCleared request.publicKeyPrefixHex
        twiceListed.config.managedRepeaters
        called.2.config.managedRepeaters := by
  intro request toml called
  constructor
  · exact Toml.printing_succeeds twiceListed request _
  · intro hcleared
    have hstill : matchingRepeaterStatus called.2.config.managedRepeaters
        "aabbccddeeff" = some .managed := by
      have hconfig : called.2.config =
          twiceListed.config.upsertManagedRepeater request :=
        ConfigState.config_upsertManagedRepeaterConfig _ _ _ _
      rw [hconfig]
      decide
    rw [show request.publicKeyPrefixHex = "aabbccddeeff" from rfl] at hcleared
    rw [hcleared.noStatus] at hstill
    cases hstill

/-- The only entry of the repeater goes. -/
theorem upsertManagedRepeaterConfig_clears_single :
    let request := repeaterRequest none
    let state : ConfigState :=
      { config := .withRepeaters ["AABBCCDDEEFF", "112233445566"]
        file := none }
    let toml := Toml.printing (state.config.upsertManagedRepeater request)
      (printedConfig (printedRepeater "112233445566" "managed"))
    StatusCleared "aabbccddeeff" state.config.managedRepeaters
      (state.upsertManagedRepeaterConfig toml .working
        request).2.config.managedRepeaters := by
  intro request state toml
  have hsuccess := Toml.printing_succeeds state request
    (printedConfig (printedRepeater "112233445566" "managed"))
  apply (@upsertManagedRepeaterConfig_clears_iff toml .working state _ request
    rfl (Prod.ext hsuccess rfl)).mpr
  decide

end MeshController
