import MeshController.Contacts

/-!
# Messages between the daemon and its clients

On connect a client gets a greeting, a snapshot and the packet backlog; from
then on it gets every broadcast event and every newly captured packet, and
answers to what it asks for.
-/

namespace MeshController

structure SelfInfoDto where
  name : String
  publicKeyHex : String
  radioFreqMhz : ℚ
  radioBwKhz : ℚ
  spreadingFactor : UInt8
  codingRate : UInt8
  txPowerDbm : UInt8
  lat : ℚ
  lon : ℚ
deriving DecidableEq

inductive MqttBrokerStatus where
  | connecting
  | connected
  | disconnected
  | error (reason : String)
deriving DecidableEq

structure MqttBrokerStatusDto where
  name : String
  status : MqttBrokerStatus
deriving DecidableEq

structure Snapshot where
  meshConnected : Bool
  selfInfo : Option SelfInfoDto
  contacts : List ContactDto
  regions : List RegionConfig
  hashtagChannels : List String
  mqttBrokers : List MqttBrokerStatusDto
deriving DecidableEq

def Snapshot.default : Snapshot where
  meshConnected := false
  selfInfo := none
  contacts := []
  regions := []
  hashtagChannels := []
  mqttBrokers := []

structure MeshEvent where
  atUnix : ℤ
  kind : MeshEventKind
deriving DecidableEq

inductive ClientMessage where
  | requestSnapshot
  | removeContact (publicKeyPrefixHex : String)
  | setRepeaterStatus (publicKeyPrefixHex name : String)
      (status : Option RepeaterStatus)
  | addRepeater (publicKeyHex name : String) (managed : Bool)
  | requestTelemetry (publicKeyPrefixHex : String)
  | requestRepeaterDetail (publicKeyPrefixHex : String)
deriving DecidableEq

def protocolVersion : ℕ := 3

inductive ServerMessage where
  | hello (version : ℕ)
  | snapshot (snapshot : Snapshot)
  | event (event : MeshEvent)
  | packetLog (backlog : List PacketLogEntry)
  | packetLogEntry (entry : PacketLogEntry)
  | error (message : String)
  | telemetryResult (publicKeyPrefixHex : String) (telemetry : TelemetryDto)
deriving DecidableEq

/-- The snapshot as it is served: what the daemon keeps, completed from the
running configuration and the broker table. -/
def currentSnapshot
    (snapshot : Snapshot) (config : Config)
    (brokerStatus : String → Option MqttBrokerStatus) : Snapshot :=
  { snapshot with
    regions := config.regions
    hashtagChannels := config.hashtagChannels
    mqttBrokers := config.mqttBrokers.map fun broker =>
      { name := broker.name
        status := (brokerStatus broker.name).getD .connecting } }

@[simp] theorem contacts_currentSnapshot
    (snapshot : Snapshot) (config : Config)
    (brokerStatus : String → Option MqttBrokerStatus) :
    (currentSnapshot snapshot config brokerStatus).contacts =
      snapshot.contacts := rfl

end MeshController
