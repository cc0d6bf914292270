import MeshController.Config
import MeshController.LabelledRun
import MeshController.RegionEditor

/-!
# Running the setup wizard again

The wizard seeds its working variables from the configuration, lets the user
visit its three sections in any order, and assembles a new configuration field
by field.  Whatever belongs to no visited section comes back as it was, except
for the capacity of the packet log, which is set to its default.
-/

namespace MeshController

/-! ### Connection -/

/-- The answer to a prompt which offers a default; `none` takes it. -/
abbrev Answer (α : Type) := Option α

inductive ConnectionChoice where
  | serial
  | tcp
  | ble
deriving DecidableEq

def ConnectionConfig.choice : ConnectionConfig → ConnectionChoice
  | .serial _ _ => .serial
  | .tcp _ _ => .tcp
  | .ble _ => .ble

/-- The item after the detected ports is the manual entry. -/
structure SerialAnswers where
  available : List String
  typedPort : Answer String
  portIndex : Answer ℕ
  baudRate : Answer UInt32

structure TcpAnswers where
  host : Answer String
  port : Answer UInt16

/-- `discovered` is what a scan finds, nothing when it fails. -/
structure BleAnswers where
  scan : Answer Bool
  discovered : List String
  typedName : Answer String
  nameIndex : Answer ℕ
  manualName : String

structure ConnectionAnswers where
  choice : Answer ConnectionChoice
  serial : SerialAnswers
  tcp : TcpAnswers
  ble : BleAnswers
  observerNodeManagedConfig : Answer Bool

def existingPort : Option ConnectionConfig → Option String
  | some (.serial port _) => some port
  | _ => none

def existingBaudRate : Option ConnectionConfig → Option UInt32
  | some (.serial _ baudRate) => some baudRate
  | _ => none

def askSerial (existing : Option ConnectionConfig) (answers : SerialAnswers) :
    ConnectionConfig :=
  let typed := fun offered => answers.typedPort.getD offered
  let port :=
    if answers.available = [] then
      typed ((existingPort existing).getD "/dev/ttyUSB0")
    else
      let offered := (existingPort existing).bind answers.available.idxOf?
      let index := answers.portIndex.getD (offered.getD 0)
      (answers.available[index]?).getD (typed "/dev/ttyUSB0")
  .serial port
    (answers.baudRate.getD ((existingBaudRate existing).getD 115200))

def askTcp (existing : Option ConnectionConfig) (answers : TcpAnswers) :
    ConnectionConfig :=
  match existing with
  | some (.tcp host port) =>
      .tcp (answers.host.getD host) (answers.port.getD port)
  | _ => .tcp (answers.host.getD "192.168.1.50") (answers.port.getD 5000)

def askBle (existing : Option ConnectionConfig) (answers : BleAnswers) :
    ConnectionConfig :=
  let discovered := if answers.scan.getD true then answers.discovered else []
  if discovered = [] then
    match existing with
    | some (.ble name) => .ble (answers.typedName.getD name)
    | _ => .ble (answers.typedName.getD "")
  else .ble ((discovered[answers.nameIndex.getD 0]?).getD answers.manualName)

def askConnection
    (existing : Option ConnectionConfig) (answers : ConnectionAnswers) :
    ConnectionConfig :=
  let offered := (existing.map ConnectionConfig.choice).getD .serial
  match answers.choice.getD offered with
  | .serial => askSerial existing answers.serial
  | .tcp => askTcp existing answers.tcp
  | .ble => askBle existing answers.ble

/-! ### General -/

structure GeneralAnswers where
  nodeLabel : Answer String
  refreshIntervalSecs : Answer UInt64
  keys : List Key

/-- `none` unless the keys bring the tree editor to its end. -/
def askRegions (existing : List RegionConfig) (keys : List Key) :
    Option (List RegionConfig) :=
  (LabelledRun.run RegionEditor.step (.start existing) keys).bind
    RegionEditor.result

/-! ### MQTT -/

structure BrokerAnswers where
  name : String
  host : String
  port : Answer UInt16
  transportProtocol : Answer MqttTransportProtocol
  websocketPath : Answer String
  authMethod : Answer MqttAuthMethod
  username : String
  password : String
  topicPrefix : Answer String
  statusTopic : Answer String
  statusRefreshIntervalSecs : Answer UInt32
  enableHighLevelMessages : Answer Bool
  enablePacketTraficMessages : Answer Bool
  tlsEnabled : Answer Bool
  tlsCaCert : String
  tlsClientCert : String
  tlsClientKey : String

def askOptionalText (value : String) : Option String :=
  let text := trim value.toList
  if text = [] then none else some (String.ofList text)

def askBroker (answers : BrokerAnswers) : MqttBrokerConfig :=
  let defaults := MqttBrokerConfig.withDefaults answers.name answers.host
  let transportProtocol := answers.transportProtocol.getD .tcp
  let authMethod := answers.authMethod.getD .passwd
  let username :=
    if authMethod = .passwd then askOptionalText answers.username else none
  let tlsEnabled := answers.tlsEnabled.getD false
  let path := fun value =>
    if tlsEnabled then askOptionalText value else none
  let clientCert := path answers.tlsClientCert
  { defaults with
    port := answers.port.getD defaults.port
    username := username
    password :=
      if username.isSome ∧ answers.password ≠ "" then some answers.password
      else none
    authMethod := authMethod
    topicPrefix := answers.topicPrefix.getD defaults.topicPrefix
    tlsEnabled := tlsEnabled
    tlsCaCert := path answers.tlsCaCert
    tlsClientCert := clientCert
    tlsClientKey :=
      if clientCert.isSome then askOptionalText answers.tlsClientKey else none
    statusRefreshIntervalSecs :=
      answers.statusRefreshIntervalSecs.getD defaults.statusRefreshIntervalSecs
    enableHighLevelMessages :=
      answers.enableHighLevelMessages.getD defaults.enableHighLevelMessages
    enablePacketTraficMessages :=
      answers.enablePacketTraficMessages.getD
        defaults.enablePacketTraficMessages
    statusTopic := answers.statusTopic.getD defaults.statusTopic
    transportProtocol := transportProtocol
    websocketPath :=
      if transportProtocol = .websocket then
        answers.websocketPath.getD defaults.websocketPath
      else defaults.websocketPath }

def askMqttBrokers
    (existing : List MqttBrokerConfig) (added : List BrokerAnswers) :
    List MqttBrokerConfig :=
  existing ++ added.map askBroker

/-! ### The wizard -/

inductive WizardSection where
  | general
  | connection
  | mqtt
deriving DecidableEq

inductive SectionVisit where
  | general (answers : GeneralAnswers)
  | connection (answers : ConnectionAnswers)
  | mqtt (added : List BrokerAnswers)

def SectionVisit.visited : SectionVisit → WizardSection
  | .general _ => .general
  | .connection _ => .connection
  | .mqtt _ => .mqtt

/-- What a first run starts from. -/
structure WizardDefaults where
  nodeLabel : String
  socketPath : String
  logDir : String
  dbPath : String

def defaultPacketLogCapacity : ℕ := 500

structure WizardState where
  nodeLabel : String
  refreshIntervalSecs : UInt64
  regions : List RegionConfig
  connection : Option ConnectionConfig
  mqttBrokers : List MqttBrokerConfig
  observerNodeManagedConfig : Bool

namespace WizardState

def seed (existing : Option Config) (defaults : WizardDefaults) :
    WizardState where
  nodeLabel := (existing.map Config.nodeLabel).getD defaults.nodeLabel
  refreshIntervalSecs :=
    (existing.map fun config => config.daemon.refreshIntervalSecs).getD 5
  regions := (existing.map Config.regions).getD []
  connection := existing.map Config.connection
  mqttBrokers := (existing.map Config.mqttBrokers).getD []
  observerNodeManagedConfig :=
    (existing.map fun config =>
      config.daemon.observerNodeManagedConfig).getD true

def visit (state : WizardState) : SectionVisit → Option WizardState
  | .general answers =>
      (askRegions state.regions answers.keys).map fun regions =>
        { state with
          nodeLabel := answers.nodeLabel.getD state.nodeLabel
          refreshIntervalSecs :=
            answers.refreshIntervalSecs.getD state.refreshIntervalSecs
          regions := regions }
  | .connection answers =>
      some { state with
        connection := some (askConnection state.connection answers)
        observerNodeManagedConfig :=
          answers.observerNodeManagedConfig.getD
            state.observerNodeManagedConfig }
  | .mqtt added =>
      some { state with mqttBrokers := askMqttBrokers state.mqttBrokers added }

/-- The configuration assembled from the working variables; what has none
comes from the existing one. -/
def assemble (state : WizardState) (connection : ConnectionConfig)
    (existing : Option Config) (defaults : WizardDefaults) : Config where
  nodeLabel := state.nodeLabel
  connection := connection
  daemon := {
    socketPath :=
      (existing.map fun config => config.daemon.socketPath).getD
        defaults.socketPath
    refreshIntervalSecs := state.refreshIntervalSecs
    logLevel :=
      (existing.map fun config => config.daemon.logLevel).getD "info"
    logDir :=
      (existing.map fun config => config.daemon.logDir).getD defaults.logDir
    packetLogCapacity := defaultPacketLogCapacity
    dbPath :=
      (existing.map fun config => config.daemon.dbPath).getD defaults.dbPath
    observerNodeManagedConfig := state.observerNodeManagedConfig }
  managedRepeaters := (existing.map Config.managedRepeaters).getD []
  regions := state.regions
  hashtagChannels := (existing.map Config.hashtagChannels).getD []
  mqttBrokers := state.mqttBrokers

end WizardState

/-- A first run goes through the sections in order, a re-run through those the
user picks until Terminate. -/
def Offered (existing : Option Config) (visits : List SectionVisit) : Prop :=
  existing.isSome ∨
    visits.map SectionVisit.visited = [.general, .connection, .mqtt]

instance (existing : Option Config) (visits : List SectionVisit) :
    Decidable (Offered existing visits) :=
  inferInstanceAs (Decidable (_ ∨ _))

/-- `none` for a session which never reaches the last question; then `none`
again if the answer to it is no. -/
def runWizard (existing : Option Config) (defaults : WizardDefaults)
    (visits : List SectionVisit) (confirmed : Bool) :
    Option (Option Config) :=
  if Offered existing visits then
    (LabelledRun.run WizardState.visit (.seed existing defaults) visits).bind
      fun state =>
        state.connection.map fun connection =>
          if confirmed then some (state.assemble connection existing defaults)
          else none
  else none

/-! ### What a visit leaves alone -/

namespace WizardState

def SameSection (state other : WizardState) : WizardSection → Prop
  | .general =>
      other.nodeLabel = state.nodeLabel ∧
        other.refreshIntervalSecs = state.refreshIntervalSecs ∧
        other.regions = state.regions
  | .connection =>
      other.connection = state.connection ∧
        other.observerNodeManagedConfig = state.observerNodeManagedConfig
  | .mqtt => other.mqttBrokers = state.mqttBrokers

theorem SameSection.refl (state : WizardState) (area : WizardSection) :
    state.SameSection state area := by
  cases area with
  | general => exact ⟨rfl, rfl, rfl⟩
  | connection => exact ⟨rfl, rfl⟩
  | mqtt => rfl

theorem SameSection.trans
    {first second third : WizardState} {area : WizardSection}
    (hfirst : first.SameSection second area)
    (hsecond : second.SameSection third area) :
    first.SameSection third area := by
  cases area with
  | general =>
      exact ⟨hsecond.1.trans hfirst.1, hsecond.2.1.trans hfirst.2.1,
        hsecond.2.2.trans hfirst.2.2⟩
  | connection =>
      exact ⟨hsecond.1.trans hfirst.1, hsecond.2.trans hfirst.2⟩
  | mqtt => exact Eq.trans hsecond hfirst

theorem sameSection_visit
    {state next : WizardState} {action : SectionVisit}
    (hvisit : state.visit action = some next) {area : WizardSection}
    (hother : action.visited ≠ area) :
    state.SameSection next area := by
  cases action with
  | general answers =>
      rcases Option.map_eq_some_iff.mp hvisit with ⟨regions, _, rfl⟩
      cases area with
      | general => exact absurd rfl hother
      | connection => exact ⟨rfl, rfl⟩
      | mqtt => rfl
  | connection answers =>
      cases hvisit
      cases area with
      | general => exact ⟨rfl, rfl, rfl⟩
      | connection => exact absurd rfl hother
      | mqtt => rfl
  | mqtt added =>
      cases hvisit
      cases area with
      | general => exact ⟨rfl, rfl, rfl⟩
      | connection => exact ⟨rfl, rfl⟩
      | mqtt => exact absurd rfl hother

theorem sameSection_run
    {start final : WizardState} {visits : List SectionVisit}
    (hrun : LabelledRun.run visit start visits = some final)
    {area : WizardSection}
    (hunvisited : area ∉ visits.map SectionVisit.visited) :
    start.SameSection final area := by
  have hothers : ∀ action ∈ visits, action.visited ≠ area := by
    rintro action hmem rfl
    exact hunvisited (List.mem_map_of_mem hmem)
  have hpreserved : ∀ state action next, start.SameSection state area →
      action.visited ≠ area → state.visit action = some next →
        start.SameSection next area := by
    intro state action next hsame hother hvisit
    exact hsame.trans (sameSection_visit hvisit hother)
  exact LabelledRun.invariant_of_run hpreserved (SameSection.refl start area)
    (LabelledRun.MeetsAlong.of_mem hothers start) hrun

end WizardState

/-- Every field is as it was unless a visited section asks for it. -/
structure KeptByRerun (visits : List SectionVisit)
    (existing result : Config) : Prop where
  general : .general ∉ visits.map SectionVisit.visited →
    result.nodeLabel = existing.nodeLabel ∧
      result.daemon.refreshIntervalSecs =
        existing.daemon.refreshIntervalSecs ∧
      result.regions = existing.regions
  connection : .connection ∉ visits.map SectionVisit.visited →
    result.connection = existing.connection ∧
      result.daemon.observerNodeManagedConfig =
        existing.daemon.observerNodeManagedConfig
  mqtt : .mqtt ∉ visits.map SectionVisit.visited →
    result.mqttBrokers = existing.mqttBrokers
  socketPath : result.daemon.socketPath = existing.daemon.socketPath
  logLevel : result.daemon.logLevel = existing.daemon.logLevel
  logDir : result.daemon.logDir = existing.daemon.logDir
  packetLogCapacity :
    result.daemon.packetLogCapacity = existing.daemon.packetLogCapacity
  dbPath : result.daemon.dbPath = existing.daemon.dbPath
  managedRepeaters : result.managedRepeaters = existing.managedRepeaters
  hashtagChannels : result.hashtagChannels = existing.hashtagChannels

/-- A saved re-run is assembled from the state its visits lead to. -/
theorem runWizard_rerun
    {existing result : Config} {defaults : WizardDefaults}
    {visits : List SectionVisit}
    (hrun : runWizard (some existing) defaults visits true =
      some (some result)) :
    ∃ state connection,
      LabelledRun.run WizardState.visit (.seed (some existing) defaults)
        visits = some state ∧
      state.connection = some connection ∧
      result = state.assemble connection (some existing) defaults := by
  have hoffered : Offered (some existing) visits := Or.inl rfl
  rw [runWizard, if_pos hoffered, Option.bind_eq_some_iff] at hrun
  rcases hrun with ⟨state, hstate, hrun⟩
  rcases Option.map_eq_some_iff.mp hrun with ⟨connection, hconn, hsaved⟩
  rw [if_pos rfl, Option.some.injEq] at hsaved
  exact ⟨state, connection, hstate, hconn, hsaved.symm⟩

/-- Running the wizard again keeps what it does not ask for if and only if the
packet log had its default capacity. -/
theorem rerun_keeps_iff_default_capacity
    {existing result : Config} {defaults : WizardDefaults}
    {visits : List SectionVisit}
    (hrun : runWizard (some existing) defaults visits true =
      some (some result)) :
    KeptByRerun visits existing result ↔
      existing.daemon.packetLogCapacity = defaultPacketLogCapacity := by
  rcases runWizard_rerun hrun with ⟨state, connection, hstate, hconn, rfl⟩
  constructor
  · intro hkept
    exact hkept.packetLogCapacity.symm
  · intro hcapacity
    constructor
    · exact WizardState.sameSection_run hstate
    · intro hunvisited
      rcases WizardState.sameSection_run hstate hunvisited with
        ⟨hsame, hobserver⟩
      rw [hconn] at hsame
      exact ⟨Option.some.inj hsame, hobserver⟩
    · exact WizardState.sameSection_run hstate
    · rfl
    · rfl
    · rfl
    · exact hcapacity.symm
    · rfl
    · rfl
    · rfl

def platformDefaults : WizardDefaults where
  nodeLabel := "rusty-nail"
  socketPath := "/run/fez-mesh-controller.sock"
  logDir := "/var/lib/fez-mesh-controller/logs"
  dbPath := "/var/lib/fez-mesh-controller/repeaters.sqlite3"

/-- A new name, and the tree editor confirmed at once. -/
def renameController : SectionVisit :=
  .general {
    nodeLabel := some "attic"
    refreshIntervalSecs := none
    keys := [.enter] }

theorem rerun_keeps_iff_default_capacity_renamed :
    KeptByRerun [renameController] Config.bare
      { Config.bare with nodeLabel := "attic" } := by
  have hrun : runWizard (some Config.bare) platformDefaults
      [renameController] true =
        some (some { Config.bare with nodeLabel := "attic" }) := by
    rfl
  exact (rerun_keeps_iff_default_capacity hrun).mpr rfl

/-- A larger packet log, and a re-run which visits no section at all. -/
theorem rerun_resets_packet_log_capacity :
    ∃ existing result,
      existing.daemon.packetLogCapacity = 2000 ∧
        runWizard (some existing) platformDefaults [] true =
          some (some result) ∧
        result.daemon.packetLogCapacity = 500 := by
  use { Config.bare with
    daemon := { Config.bare.daemon with packetLogCapacity := 2000 } }
  exact ⟨_, rfl, rfl, rfl⟩

end MeshController
