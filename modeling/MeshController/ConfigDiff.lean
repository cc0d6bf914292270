import MeshController.Ipc
import MeshController.TaskRegistry

/-!
# Reloading the configuration

`reload_once` compares the running configuration with the file, restarts the
tasks of the brokers which differ, and warns of every field which is bound at
startup and differs.
-/

namespace MeshController

/-- The fields which are bound once, at startup. -/
inductive StartupField where
  | connection
  | socketPath
  | refreshIntervalSecs
  | logLevel
  | logDir
  | packetLogCapacity
  | dbPath
deriving DecidableEq

/-- In the order in which they are compared. -/
def StartupField.all : List StartupField :=
  [.connection, .socketPath, .refreshIntervalSecs, .logLevel, .logDir,
    .packetLogCapacity, .dbPath]

inductive StartupValue where
  | connection (target : ConnectionConfig)
  | text (value : String)
  | number (value : ℕ)
deriving DecidableEq

def ConnectionConfig.display : ConnectionConfig → String
  | .serial port baudRate =>
      "serial " ++ port ++ " @ " ++ toString baudRate ++ " baud"
  | .tcp host port => "TCP " ++ host ++ ":" ++ toString port
  | .ble name => "BLE \"" ++ name ++ "\""

def StartupValue.display : StartupValue → String
  | .connection target => target.display
  | .text value => value
  | .number value => toString value

def StartupField.label : StartupField → String
  | connection => "connection"
  | socketPath => "daemon.socket_path"
  | refreshIntervalSecs => "daemon.refresh_interval_secs"
  | logLevel => "daemon.log_level"
  | logDir => "daemon.log_dir"
  | packetLogCapacity => "daemon.packet_log_capacity"
  | dbPath => "daemon.db_path"

def StartupField.value (field : StartupField) (config : Config) :
    StartupValue :=
  match field with
  | connection => .connection config.connection
  | socketPath => .text config.daemon.socketPath
  | refreshIntervalSecs => .number config.daemon.refreshIntervalSecs.toNat
  | logLevel => .text config.daemon.logLevel
  | logDir => .text config.daemon.logDir
  | packetLogCapacity => .number config.daemon.packetLogCapacity
  | dbPath => .text config.daemon.dbPath

def StartupField.warning (field : StartupField) (old new : Config) : String :=
  field.label ++ ": " ++ (field.value old).display ++ " -> " ++
    (field.value new).display

structure ConfigDiff where
  restartRequired : List String
  mqttAdded : List MqttBrokerConfig
  mqttRemoved : List String
  mqttChanged : List MqttBrokerConfig

def diffConfig (old new : Config) : ConfigDiff where
  restartRequired :=
    (StartupField.all.filter fun field =>
      field.value old ≠ field.value new).map fun field =>
        field.warning old new
  mqttAdded :=
    TaskRegistry.added MqttBrokerConfig.name old.mqttBrokers new.mqttBrokers
  mqttRemoved :=
    TaskRegistry.removed MqttBrokerConfig.name old.mqttBrokers new.mqttBrokers
  mqttChanged :=
    TaskRegistry.changed MqttBrokerConfig.name old.mqttBrokers new.mqttBrokers

/-- The daemon as far as reloads go: what it was started with, the running
configuration, the broker tasks with the handles in `mqtt_broker_tasks`, the
broker states, and what the last reload warned of. -/
structure ReloadableDaemon where
  startup : Config
  config : Config
  brokerTasks : TaskRegistry.Registry MqttBrokerConfig String
  mqttBrokerStatus : String → Option MqttBrokerStatus
  warnings : List String

/-- `run`: every configured broker gets its task. -/
def ReloadableDaemon.run (config : Config) : ReloadableDaemon where
  startup := config
  config := config
  brokerTasks :=
    config.mqttBrokers.foldl (TaskRegistry.start MqttBrokerConfig.name)
      TaskRegistry.Registry.empty
  mqttBrokerStatus := fun _ => none
  warnings := []

/-- A file which cannot be loaded is `none`. -/
def ReloadableDaemon.reloadOnce
    (daemon : ReloadableDaemon) : Option Config → ReloadableDaemon
  | none => { daemon with warnings := [] }
  | some newConfig =>
      let diff := diffConfig daemon.config newConfig
      { daemon with
        config := newConfig
        brokerTasks :=
          (diff.mqttChanged ++ diff.mqttAdded).foldl
            (TaskRegistry.restart MqttBrokerConfig.name)
            (diff.mqttRemoved.foldl TaskRegistry.stop daemon.brokerTasks)
        mqttBrokerStatus := fun name =>
          if name ∈ diff.mqttRemoved then none
          else daemon.mqttBrokerStatus name
        warnings := diff.restartRequired }

/-- The daemon after its startup and some reloads. -/
def ReloadableDaemon.after
    (startup : Config) (loads : List (Option Config)) : ReloadableDaemon :=
  loads.foldl ReloadableDaemon.reloadOnce (.run startup)

end MeshController
