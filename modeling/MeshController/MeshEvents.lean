import MeshController.Config
import MeshController.HexEncoding

/-!
# Events of the companion link

The part of the `meshcore_rs` event data which the program reads, and the
simplified events which the daemon broadcasts to its clients.  Radio readings
and positions are exact rationals.  The numbers behind the two header
enumerations belong to `meshcore_rs`, so they are a parameter, see
`MeshcoreRs`.
-/

namespace MeshController

open HexEncoding

inductive RouteType where
  | transportFlood
  | flood
  | direct
  | transportDirect
deriving DecidableEq

inductive PayloadType where
  | req
  | response
  | textMsg
  | ack
  | advert
  | groupText
  | groupData
  | anonReq
  | path
  | trace
  | multipart
  | control
  | rawCustom
deriving DecidableEq

/-- The casts `route_type as u8` and `payload_type as u8`. -/
class MeshcoreRs where
  routeTypeRaw : RouteType → UInt8
  payloadTypeRaw : PayloadType → UInt8

def RouteType.debugName : RouteType → String
  | transportFlood => "TransportFlood"
  | flood => "Flood"
  | direct => "Direct"
  | transportDirect => "TransportDirect"

def RouteType.isTransport : RouteType → Bool
  | transportFlood => true
  | flood => false
  | direct => false
  | transportDirect => true

def PayloadType.debugName : PayloadType → String
  | req => "Req"
  | response => "Response"
  | textMsg => "TextMsg"
  | ack => "Ack"
  | advert => "Advert"
  | groupText => "GroupText"
  | groupData => "GroupData"
  | anonReq => "AnonReq"
  | path => "Path"
  | trace => "Trace"
  | multipart => "Multipart"
  | control => "Control"
  | rawCustom => "RawCustom"

structure MeshPacketHeader where
  routeType : RouteType
  payloadType : PayloadType
  payloadVersion : UInt8
  transportCode : Option (Vector UInt8 4)
  pathLen : UInt8
  pathHashSize : UInt8
  path : List UInt8
deriving DecidableEq

/-- A decoded advertisement; positions are in millionths of a degree. -/
structure RawAdvertisement where
  publicKey : Vector UInt8 32
  advType : UInt8
  lat : Option ℤ
  lon : Option ℤ
  name : Option String
deriving DecidableEq

structure LogData where
  snr : ℚ
  rssi : ℤ
  header : Option MeshPacketHeader
  advertisement : Option RawAdvertisement
  payload : List UInt8
deriving DecidableEq

structure AdvertisementData where
  prefixBytes : Vector UInt8 6
  name : String
  lat : ℤ
  lon : ℤ
deriving DecidableEq

structure ContactMessage where
  senderPrefix : Vector UInt8 6
  pathLen : UInt8
  text : String
deriving DecidableEq

structure ChannelMessage where
  channelIdx : UInt8
  pathLen : UInt8
  text : String
deriving DecidableEq

structure PathUpdateData where
  prefixBytes : Vector UInt8 6
  pathLen : ℤ
  path : List UInt8
deriving DecidableEq

/-- The event types the program tells apart; `other` carries the debug name
of any further one. -/
inductive EventType where
  | connected
  | disconnected
  | selfInfo
  | deviceInfo
  | battery
  | contacts
  | newContact
  | nextContact
  | contactMsgRecv
  | channelMsgRecv
  | msgSent
  | advertisement
  | pathUpdate
  | ack
  | channelInfo
  | traceData
  | telemetryResponse
  | loginSuccess
  | loginFailed
  | logData
  | ok
  | error
  | other (name : String)
deriving DecidableEq

def EventType.debugName : EventType → String
  | connected => "Connected"
  | disconnected => "Disconnected"
  | selfInfo => "SelfInfo"
  | deviceInfo => "DeviceInfo"
  | battery => "Battery"
  | contacts => "Contacts"
  | newContact => "NewContact"
  | nextContact => "NextContact"
  | contactMsgRecv => "ContactMsgRecv"
  | channelMsgRecv => "ChannelMsgRecv"
  | msgSent => "MsgSent"
  | advertisement => "Advertisement"
  | pathUpdate => "PathUpdate"
  | ack => "Ack"
  | channelInfo => "ChannelInfo"
  | traceData => "TraceData"
  | telemetryResponse => "TelemetryResponse"
  | loginSuccess => "LoginSuccess"
  | loginFailed => "LoginFailed"
  | logData => "LogData"
  | ok => "Ok"
  | error => "Error"
  | other name => name

inductive EventPayload where
  | none
  | logData (log : LogData)
  | advertisement (adv : AdvertisementData)
  | contact (advName : String)
  | contactMessage (msg : ContactMessage)
  | channelMessage (msg : ChannelMessage)
  | pathUpdate (update : PathUpdateData)
  | ack (tag : Vector UInt8 4)
  | other
deriving DecidableEq

structure MeshCoreEvent where
  eventType : EventType
  payload : EventPayload
deriving DecidableEq

inductive MeshEventKind where
  | connected
  | disconnected
  | advertisement (name prefixHex : String) (lat lon : ℚ)
  | newContact (name : String)
  | contactMessage (fromPrefixHex : String) (hops : UInt8) (text : String)
  | channelMessage (channel hops : UInt8) (text : String)
  | messageSent
  | pathUpdate (prefixHex : String) (hops : ℤ) (pathHex : String)
  | ack (tagHex : String)
  | managedRepeaterDeclared (name : String)
  | repeaterStatusChanged (name : String) (status : Option RepeaterStatus)
  | observerNodeConfigEnforced (detail : String)
  | repeaterHeard (name prefixHex : String)
  | contactRemoved (name prefixHex : String)
  | configReloaded (summary : String)
  | telemetryReceived (name summary : String)
  | other (label : String)
deriving DecidableEq

def degrees (micros : ℤ) : ℚ := micros / 1000000

/-- Converts a raw event into a broadcast event, or `none` if the event
carries no actionable information. -/
def mapEvent (event : MeshCoreEvent) : Option MeshEventKind :=
  match event.eventType, event.payload with
  | .connected, _ => some .connected
  | .disconnected, _ => some .disconnected
  | .advertisement, .advertisement a =>
      some (.advertisement a.name (hexEncode a.prefixBytes.toList)
        (degrees a.lat) (degrees a.lon))
  | .newContact, .contact advName => some (.newContact advName)
  | .contactMsgRecv, .contactMessage m =>
      some (.contactMessage (hexEncode m.senderPrefix.toList) m.pathLen m.text)
  | .channelMsgRecv, .channelMessage m =>
      some (.channelMessage m.channelIdx m.pathLen m.text)
  | .msgSent, _ => some .messageSent
  | .pathUpdate, .pathUpdate p =>
      some (.pathUpdate (hexEncode p.prefixBytes.toList) p.pathLen
        (hexEncode p.path))
  | .ack, .ack tag => some (.ack (hexEncode tag.toList))
  | .ok, _ => none
  | .nextContact, _ => none
  | .logData, _ => none
  | other, _ => some (.other other.debugName)

theorem mapEvent_eq_disconnected_iff (event : MeshCoreEvent) :
    mapEvent event = some .disconnected ↔ event.eventType = .disconnected := by
  obtain ⟨eventType, payload⟩ := event
  cases eventType <;> cases payload <;> simp [mapEvent]

theorem mapEvent_eq_connected_iff (event : MeshCoreEvent) :
    mapEvent event = some .connected ↔ event.eventType = .connected := by
  obtain ⟨eventType, payload⟩ := event
  cases eventType <;> cases payload <;> simp [mapEvent]

/-- Only the daemon itself announces a changed contact list. -/
theorem mapEvent_ne_contactRemoved
    (event : MeshCoreEvent) (name prefixHex : String) :
    mapEvent event ≠ some (.contactRemoved name prefixHex) := by
  obtain ⟨eventType, payload⟩ := event
  cases eventType <;> cases payload <;> simp [mapEvent]

end MeshController
