import MeshController.Ipc
import MeshController.RawPacket

/-!
# Messages published to a broker

Which message each input of a broker worker leads to.  A body is kept as the
fields of its JSON object: times as one timestamp, the packet hash as the text
it is the digest of, and a mesh event as the event itself.
-/

namespace MeshController

structure DeviceInfoDto where
  model : String
  firmwareVersion : String
deriving DecidableEq

structure PacketStatsDto where
  recv : ℕ
  sent : ℕ
  floodTx : ℕ
  directTx : ℕ
  floodRx : ℕ
  directRx : ℕ
  recvErrors : Option ℕ
deriving DecidableEq

structure CoreStatsDto where
  batteryMv : ℕ
  uptimeSecs : ℕ
  errors : ℕ
  queueLen : ℕ
deriving DecidableEq

structure RadioStatsDto where
  noiseFloor : ℤ
  lastRssi : ℤ
  lastSnr : ℚ
  txAirSecs : ℕ
  rxAirSecs : ℕ
deriving DecidableEq

structure NodeStatsDto where
  core : Option CoreStatsDto
  radio : Option RadioStatsDto
  packets : Option PacketStatsDto
deriving DecidableEq

def NodeStatsDto.isEmpty (stats : NodeStatsDto) : Bool :=
  stats.core.isNone && stats.radio.isNone && stats.packets.isNone

structure PacketTraficFields where
  origin : String
  originId : String
  timestamp : ℤ
  len : ℕ
  packetType : UInt8
  route : String
  payloadLen : ℕ
  raw : String
  snr : ℚ
  rssi : ℤ
  hashOf : String
deriving DecidableEq

structure RawFields where
  origin : String
  originId : String
  timestamp : ℤ
  data : String
deriving DecidableEq

structure StatusFields where
  status : String
  timestamp : ℤ
  origin : String
  originId : String
  device : Option DeviceInfoDto
  radio : ℚ × ℚ × UInt8 × UInt8
  stats : Option NodeStatsDto
deriving DecidableEq

structure LastWillFields where
  status : String
  timestamp : ℤ
  origin : String
  originId : String
deriving DecidableEq

inductive MqttBody where
  | event (event : MeshCoreEvent)
  | packetTrafic (fields : PacketTraficFields)
  | raw (fields : RawFields)
  | status (fields : StatusFields)
  | lastWill (fields : LastWillFields)
deriving DecidableEq

structure MqttMessage where
  topic : String
  retain : Bool
  body : MqttBody
deriving DecidableEq

/-- Topic for a raw mesh event, `none` for anything which is not
forwarded. -/
def topicFor (event : MeshCoreEvent) (topicPrefix : String) : Option String :=
  match event.eventType, event.payload with
  | .connected, _ => some (topicPrefix ++ "/events/connection")
  | .disconnected, _ => some (topicPrefix ++ "/events/connection")
  | .loginSuccess, _ => some (topicPrefix ++ "/login")
  | .loginFailed, _ => some (topicPrefix ++ "/login")
  | .deviceInfo, _ => some (topicPrefix ++ "/device_info")
  | .battery, _ => some (topicPrefix ++ "/battery")
  | .newContact, _ => some (topicPrefix ++ "/new_contact")
  | .advertisement, _ => some (topicPrefix ++ "/advertisement")
  | .telemetryResponse, _ => some (topicPrefix ++ "/telemetry")
  | .contacts, _ => some (topicPrefix ++ "/contacts")
  | .selfInfo, _ => some (topicPrefix ++ "/self_info")
  | .channelInfo, _ => some (topicPrefix ++ "/channel_info")
  | .traceData, _ => some (topicPrefix ++ "/traceroute/unknown")
  | .contactMsgRecv, .contactMessage msg =>
      some (topicPrefix ++ "/message/direct/" ++
        HexEncoding.hexEncode msg.senderPrefix.toList)
  | .channelMsgRecv, .channelMessage msg =>
      some (topicPrefix ++ "/message/channel/" ++ toString msg.channelIdx)
  | _, _ => none

def originId (selfInfo : Option SelfInfoDto) : String :=
  (selfInfo.map fun s => s.publicKeyHex.toUpper).getD "DEVICE"

def resolveTopicTemplateBestEffort
    (template : String) (config : MqttBrokerConfig)
    (selfInfo : Option SelfInfoDto) : String :=
  (template.replace "\x7bprefix\x7d" config.topicPrefix).replace
    "\x7bpublic_key\x7d" (originId selfInfo)

def resolveTopicTemplate
    (template : String) (config : MqttBrokerConfig)
    (selfInfo : SelfInfoDto) : String :=
  resolveTopicTemplateBestEffort template config (some selfInfo)

def packetTraficJson
    (entry : PacketLogEntry) (selfInfo : SelfInfoDto) (now : ℤ) :
    Option PacketTraficFields :=
  match entry.header, reconstructRawPacketHex entry with
  | some header, some fullHex =>
      let rawHex := String.ofList (fullHex.toList.take 2048)
      let transportCodeLen := if header.transportCodeHex.isSome then 4 else 0
      some {
        origin := selfInfo.name
        originId := selfInfo.publicKeyHex.toUpper
        timestamp := now
        len := 1 + transportCodeLen + 1 + header.pathHex.utf8ByteSize / 2 +
          entry.payloadLen
        packetType := header.payloadTypeRaw
        route :=
          if header.routeType = "Direct" ∨ header.routeType = "TransportDirect"
          then "direct"
          else toString header.hops
        payloadLen := entry.payloadLen
        raw := rawHex
        snr := entry.snr
        rssi := entry.rssi
        hashOf := rawHex }
  | _, _ => none

def rawJson
    (entry : PacketLogEntry) (selfInfo : SelfInfoDto) (now : ℤ) :
    Option RawFields :=
  (reconstructRawPacketHex entry).map fun rawHex =>
    { origin := selfInfo.name
      originId := selfInfo.publicKeyHex.toUpper
      timestamp := now
      data := rawHex.toUpper }

/-- `"online"` only when the mesh is connected and the device is known;
statistics go only with that. -/
def statusMessageJson
    (meshConnected : Bool) (selfInfo : SelfInfoDto)
    (deviceInfo : Option DeviceInfoDto) (nodeStats : Option NodeStatsDto)
    (now : ℤ) : StatusFields :=
  let online := meshConnected && deviceInfo.isSome
  { status := if online then "online" else "offline"
    timestamp := now
    origin := selfInfo.name
    originId := selfInfo.publicKeyHex.toUpper
    device := deviceInfo
    radio := (selfInfo.radioFreqMhz, selfInfo.radioBwKhz,
      selfInfo.spreadingFactor, selfInfo.codingRate)
    stats :=
      if online then nodeStats.filter fun stats => !stats.isEmpty else none }

def offlineLwtPayload (selfInfo : Option SelfInfoDto) (now : ℤ) :
    LastWillFields where
  status := "offline"
  timestamp := now
  origin := (selfInfo.map fun s => s.name).getD "unknown"
  originId := originId selfInfo

/-! ## The publish paths -/

/-- What a worker reads of the daemon while it handles one input; the
statistics are those of `refresh_node_stats`, fresh or cached. -/
structure WorkerView where
  selfInfo : Option SelfInfoDto
  meshConnected : Bool
  deviceInfo : Option DeviceInfoDto
  nodeStats : Option NodeStatsDto
  now : ℤ
deriving DecidableEq

def publishEvent
    (config : MqttBrokerConfig) (event : MeshCoreEvent) : List MqttMessage :=
  if !config.enableHighLevelMessages then []
  else
    match topicFor event config.topicPrefix with
    | none => []
    | some topic => [{ topic := topic, retain := false, body := .event event }]

def publishRawPacket [MeshcoreRs]
    (config : MqttBrokerConfig) (view : WorkerView) (event : MeshCoreEvent) :
    List MqttMessage :=
  if !config.enablePacketTraficMessages && !config.enableRawMessages then []
  else
    match view.selfInfo, buildPacketLogEntry event 0 view.now with
    | some selfInfo, some entry =>
        (if config.enablePacketTraficMessages then
          (packetTraficJson entry selfInfo view.now).toList.map fun fields =>
            { topic := resolveTopicTemplate config.packetTraficTopic config
                selfInfo
              retain := false
              body := .packetTrafic fields }
        else []) ++
        (if config.enableRawMessages then
          (rawJson entry selfInfo view.now).toList.map fun fields =>
            { topic := resolveTopicTemplate config.rawTopic config selfInfo
              retain := false
              body := .raw fields }
        else [])
    | _, _ => []

def publishCurrentStatus
    (config : MqttBrokerConfig) (view : WorkerView) (meshConnected : Bool) :
    List MqttMessage :=
  if !config.enableHighLevelMessages then []
  else
    match view.selfInfo with
    | none => []
    | some selfInfo =>
        [{ topic := resolveTopicTemplate config.statusTopic config selfInfo
           retain := true
           body := .status (statusMessageJson meshConnected selfInfo
             view.deviceInfo view.nodeStats view.now) }]

def lastWill
    (config : MqttBrokerConfig) (view : WorkerView) : Option MqttMessage :=
  if config.enableHighLevelMessages then
    some {
      topic :=
        resolveTopicTemplateBestEffort config.statusTopic config view.selfInfo
      retain := true
      body := .lastWill (offlineLwtPayload view.selfInfo view.now) }
  else none

theorem packetTraficJson_eq_none_iff
    (entry : PacketLogEntry) (selfInfo : SelfInfoDto) (now : ℤ) :
    packetTraficJson entry selfInfo now = none ↔ entry.header = none := by
  unfold packetTraficJson reconstructRawPacketHex
  cases entry.header <;> simp

theorem rawJson_eq_none_iff
    (entry : PacketLogEntry) (selfInfo : SelfInfoDto) (now : ℤ) :
    rawJson entry selfInfo now = none ↔ entry.header = none := by
  rw [rawJson, Option.map_eq_none_iff, reconstructRawPacketHex_eq_none_iff]

/-- A packet whose header could be decoded. -/
def MeshCoreEvent.hasPacketHeader (event : MeshCoreEvent) : Bool :=
  match event.payload with
  | .logData log => log.header.isSome
  | _ => false

theorem header_of_buildPacketLogEntry [MeshcoreRs]
    {event : MeshCoreEvent} {id : ℕ} {nowUnix : ℤ} {entry : PacketLogEntry}
    (hbuild : buildPacketLogEntry event id nowUnix = some entry) :
    entry.header.isSome = event.hasPacketHeader := by
  unfold buildPacketLogEntry at hbuild
  unfold MeshCoreEvent.hasPacketHeader
  cases hpayload : event.payload with
  | logData log =>
      simp only [hpayload, Option.some.injEq] at hbuild
      subst entry
      simp
  | none | advertisement adv | contact advName | contactMessage msg
  | channelMessage msg | pathUpdate update | ack tag | other =>
      simp [hpayload] at hbuild

theorem hasPacketHeader_of_buildPacketLogEntry_eq_none [MeshcoreRs]
    {event : MeshCoreEvent} {id : ℕ} {nowUnix : ℤ}
    (hbuild : buildPacketLogEntry event id nowUnix = none) :
    event.hasPacketHeader = false := by
  unfold buildPacketLogEntry at hbuild
  unfold MeshCoreEvent.hasPacketHeader
  cases hpayload : event.payload with
  | logData log => simp [hpayload] at hbuild
  | none | advertisement adv | contact advName | contactMessage msg
  | channelMessage msg | pathUpdate update | ack tag | other => rfl

/-- The raw-packet topics have switches of their own and no other. -/
theorem publishRawPacket_eq_nil_iff [MeshcoreRs]
    (config : MqttBrokerConfig) (view : WorkerView) (event : MeshCoreEvent) :
    publishRawPacket config view event = [] ↔
      (config.enablePacketTraficMessages = false ∧
        config.enableRawMessages = false) ∨
      view.selfInfo = none ∨ event.hasPacketHeader = false := by
  unfold publishRawPacket
  cases hself : view.selfInfo with
  | none => simp
  | some selfInfo =>
      cases hbuild : buildPacketLogEntry event 0 view.now with
      | none =>
          have hheader := hasPacketHeader_of_buildPacketLogEntry_eq_none hbuild
          simp [hheader]
      | some entry =>
          have hheader := header_of_buildPacketLogEntry hbuild
          have htrafic := packetTraficJson_eq_none_iff entry selfInfo view.now
          have hraw := rawJson_eq_none_iff entry selfInfo view.now
          rw [← Option.isNone_iff_eq_none] at htrafic hraw
          cases henableTrafic : config.enablePacketTraficMessages <;>
            cases henableRaw : config.enableRawMessages <;>
            cases hpresent : entry.header <;>
            simp_all

theorem publishCurrentStatus_eq_nil_iff
    (config : MqttBrokerConfig) (view : WorkerView) (meshConnected : Bool) :
    publishCurrentStatus config view meshConnected = [] ↔
      config.enableHighLevelMessages = false ∨ view.selfInfo = none := by
  unfold publishCurrentStatus
  cases config.enableHighLevelMessages <;> cases view.selfInfo <;> simp

theorem publishEvent_eq_nil_iff
    (config : MqttBrokerConfig) (event : MeshCoreEvent) :
    publishEvent config event = [] ↔
      config.enableHighLevelMessages = false ∨
        topicFor event config.topicPrefix = none := by
  unfold publishEvent
  cases config.enableHighLevelMessages <;>
    cases topicFor event config.topicPrefix <;> simp

end MeshController
