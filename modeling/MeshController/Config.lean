import Mathlib.Tactic

/-!
# The application configuration

`Config` as it is persisted in `config.toml` and held in memory by the
daemon.  Paths and addresses are plain strings; numeric fields have the width
of the source.
-/

namespace MeshController

inductive ConnectionConfig where
  | serial (port : String) (baudRate : UInt32)
  | tcp (host : String) (port : UInt16)
  | ble (name : String)
deriving DecidableEq

structure DaemonConfig where
  socketPath : String
  refreshIntervalSecs : UInt64
  logLevel : String
  logDir : String
  packetLogCapacity : ℕ
  dbPath : String
  observerNodeManagedConfig : Bool
deriving DecidableEq

inductive RepeaterStatus where
  | managed
  | known
  | supervised
deriving DecidableEq

/-- The name under which a status is saved and sent. -/
def RepeaterStatus.tag : RepeaterStatus → String
  | .managed => "managed"
  | .known => "known"
  | .supervised => "supervised"

/-- A repeater managed by this application.  `publicKeyHex` is the full key
or a prefix of it. -/
structure ManagedRepeater where
  name : String
  publicKeyHex : String
  password : Option String
  status : RepeaterStatus
deriving DecidableEq

structure RegionConfig where
  name : String
  parent : Option String
deriving DecidableEq

inductive MqttTransportProtocol where
  | tcp
  | websocket
deriving DecidableEq

inductive MqttAuthMethod where
  | passwd
  | device
  | none
deriving DecidableEq

structure MqttBrokerConfig where
  name : String
  host : String
  port : UInt16
  username : Option String
  password : Option String
  authMethod : MqttAuthMethod
  jwtTtlSecs : UInt32
  jwtAudience : Option String
  topicPrefix : String
  tlsEnabled : Bool
  tlsCaCert : Option String
  tlsClientCert : Option String
  tlsClientKey : Option String
  statusRefreshIntervalSecs : UInt32
  enableHighLevelMessages : Bool
  enablePacketTraficMessages : Bool
  packetTraficTopic : String
  enableRawMessages : Bool
  rawTopic : String
  statusTopic : String
  transportProtocol : MqttTransportProtocol
  websocketPath : String
deriving DecidableEq

/-- A broker for which the file sets nothing but its name and host. -/
def MqttBrokerConfig.withDefaults (name host : String) : MqttBrokerConfig where
  name := name
  host := host
  port := 1883
  username := none
  password := none
  authMethod := .passwd
  jwtTtlSecs := 3600
  jwtAudience := none
  topicPrefix := "meshcore"
  tlsEnabled := false
  tlsCaCert := none
  tlsClientCert := none
  tlsClientKey := none
  statusRefreshIntervalSecs := 300
  enableHighLevelMessages := true
  enablePacketTraficMessages := true
  packetTraficTopic := "\x7bprefix\x7d/packets"
  enableRawMessages := false
  rawTopic := "\x7bprefix\x7d/raw"
  statusTopic := "\x7bprefix\x7d/status"
  transportProtocol := .tcp
  websocketPath := "/mqtt"

structure Config where
  nodeLabel : String
  connection : ConnectionConfig
  daemon : DaemonConfig
  managedRepeaters : List ManagedRepeater
  regions : List RegionConfig
  hashtagChannels : List String
  mqttBrokers : List MqttBrokerConfig
deriving DecidableEq

/-- A configuration without any repeater, region, channel or broker. -/
def Config.bare : Config where
  nodeLabel := "test-node"
  connection := .tcp "127.0.0.1" 5000
  daemon := {
    socketPath := "/tmp/fez-mesh-controller-test.sock"
    refreshIntervalSecs := 5
    logLevel := "info"
    logDir := "/tmp/fez-mesh-controller-test/logs"
    packetLogCapacity := 500
    dbPath := ":memory:"
    observerNodeManagedConfig := true }
  managedRepeaters := []
  regions := []
  hashtagChannels := []
  mqttBrokers := []

end MeshController
