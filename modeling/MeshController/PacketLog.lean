import MeshController.MeshEvents

/-!
# Packet log entries

Every received packet is turned into one `PacketLogEntry`: its decoded header,
what the payload says in the clear, and the payload itself as text.
`reconstructRawPacketHex` goes back to the bytes which were on air.
-/

namespace MeshController

open HexEncoding

structure PacketAdvertInfo where
  publicKeyHex : String
  name : Option String
  advTypeName : String
  lat : Option ℚ
  lon : Option ℚ
deriving DecidableEq

inductive ControlPayloadInfo where
  | discoverReq (prefixOnly : Bool) (typeFilter : UInt8) (tagHex : String)
      (sinceUnix : Option ℕ)
  | discoverResp (nodeTypeName : String) (snr : ℚ) (tagHex pubkeyHex : String)
deriving DecidableEq

structure PacketHeaderInfo where
  routeType : String
  routeTypeRaw : UInt8
  payloadType : String
  payloadTypeRaw : UInt8
  payloadVersion : UInt8
  hops : UInt8
  pathHashSize : UInt8
  pathHex : String
  transportCodeHex : Option String
  destHashHex : Option String
  srcHashHex : Option String
  channelHashHex : Option String
  anonReqSenderPublicKeyHex : Option String
  advertisement : Option PacketAdvertInfo
  control : Option ControlPayloadInfo
deriving DecidableEq

structure PacketLogEntry where
  id : ℕ
  atUnix : ℤ
  snr : ℚ
  rssi : ℤ
  header : Option PacketHeaderInfo
  payloadHex : String
  payloadLen : ℕ
deriving DecidableEq

def advTypeName (advType : UInt8) : String :=
  if advType = 1 then "Chat"
  else if advType = 2 then "Repeater"
  else if advType = 3 then "Room"
  else if advType = 4 then "Sensor"
  else "Unknown(" ++ toString advType ++ ")"

def addressHashSize : ℕ := 1

def pubKeySize : ℕ := 32

/-- Destination and source address hashes at the front of a payload. -/
def extractDestSrcHashes
    (payloadType : PayloadType) (payloadVersion : UInt8)
    (payload : List UInt8) : Option String × Option String :=
  if payloadVersion ≠ 0 then (none, none)
  else
    match payloadType with
    | .req | .response | .textMsg | .path =>
        if payload.length < addressHashSize * 2 then (none, none)
        else
          (some (hexEncode (payload.take addressHashSize)),
            some (hexEncode
              ((payload.drop addressHashSize).take addressHashSize)))
    | .anonReq =>
        if payload.length < addressHashSize then (none, none)
        else (some (hexEncode (payload.take addressHashSize)), none)
    | _ => (none, none)

def extractChannelHash
    (payloadType : PayloadType) (payloadVersion : UInt8)
    (payload : List UInt8) : Option String :=
  if payloadVersion ≠ 0 then none
  else if payloadType ≠ .groupText ∧ payloadType ≠ .groupData then none
  else if payload.length < addressHashSize then none
  else some (hexEncode (payload.take addressHashSize))

def extractAnonReqSenderPublicKey
    (payloadType : PayloadType) (payloadVersion : UInt8)
    (payload : List UInt8) : Option String :=
  if payloadType ≠ .anonReq ∨ payloadVersion ≠ 0 then none
  else if payload.length < addressHashSize + pubKeySize then none
  else some (hexEncode ((payload.drop addressHashSize).take pubKeySize))

/-- The number four little-endian bytes stand for. -/
def u32FromLeBytes (bytes : List UInt8) : ℕ :=
  bytes.foldr (fun byte rest => byte.toNat + 256 * rest) 0

/-- The signed reading of a byte. -/
def asI8 (byte : UInt8) : ℤ :=
  if byte.toNat < 128 then byte.toNat else byte.toNat - 256

def decodeControlPayload
    (payloadType : PayloadType) (payloadVersion : UInt8)
    (payload : List UInt8) : Option ControlPayloadInfo :=
  if payloadType ≠ .control ∨ payloadVersion ≠ 0 then none
  else
    match payload with
    | flags :: second :: rest =>
        if payload.length < 6 then none
        else
          let tagHex := hexEncode (rest.take 4)
          if flags &&& 0xF0 = 0x80 then
            some (.discoverReq (flags &&& 0x01 ≠ 0) second tagHex
              (if payload.length ≥ 10 then
                some (u32FromLeBytes ((payload.drop 6).take 4))
              else none))
          else if flags &&& 0xF0 = 0x90 then
            let respond := fun pubkey : List UInt8 =>
              some (ControlPayloadInfo.discoverResp
                (advTypeName (flags &&& 0x0F)) (asI8 second / 4) tagHex
                (hexEncode pubkey))
            if payload.length ≥ 6 + pubKeySize then
              respond ((payload.drop 6).take pubKeySize)
            else if payload.length ≥ 6 + 8 then
              respond ((payload.drop 6).take 8)
            else none
          else none
    | _ => none

def packetAdvertInfo (a : RawAdvertisement) : PacketAdvertInfo where
  publicKeyHex := hexEncode a.publicKey.toList
  name := a.name
  advTypeName := advTypeName a.advType
  lat := a.lat.map degrees
  lon := a.lon.map degrees

variable [MeshcoreRs]

/-- The header part of an entry, from the parsed header, the payload and the
advertisement decoded from it. -/
def packetHeaderInfo
    (h : MeshPacketHeader) (payload : List UInt8)
    (advertisement : Option RawAdvertisement) : PacketHeaderInfo :=
  let hashes := extractDestSrcHashes h.payloadType h.payloadVersion payload
  { routeType := h.routeType.debugName
    routeTypeRaw := MeshcoreRs.routeTypeRaw h.routeType
    payloadType := h.payloadType.debugName
    payloadTypeRaw := MeshcoreRs.payloadTypeRaw h.payloadType
    payloadVersion := h.payloadVersion
    hops := h.pathLen
    pathHashSize := h.pathHashSize
    pathHex := hexEncode h.path
    transportCodeHex := h.transportCode.map fun c => hexEncode c.toList
    destHashHex := hashes.1
    srcHashHex := hashes.2
    channelHashHex := extractChannelHash h.payloadType h.payloadVersion payload
    anonReqSenderPublicKeyHex :=
      extractAnonReqSenderPublicKey h.payloadType h.payloadVersion payload
    advertisement := advertisement.map packetAdvertInfo
    control := decodeControlPayload h.payloadType h.payloadVersion payload }

def buildPacketLogEntry
    (event : MeshCoreEvent) (id : ℕ) (nowUnix : ℤ) : Option PacketLogEntry :=
  match event.payload with
  | .logData log =>
      some {
        id := id
        atUnix := nowUnix
        snr := log.snr
        rssi := log.rssi
        header := log.header.map fun h =>
          packetHeaderInfo h log.payload log.advertisement
        payloadHex := hexEncode log.payload
        payloadLen := log.payload.length }
  | _ => none

omit [MeshcoreRs] in
/-- `saturating_sub` of a byte. -/
def saturatingPred (byte : UInt8) : UInt8 :=
  if byte = 0 then 0 else byte - 1

def reconstructRawPacketHex (entry : PacketLogEntry) : Option String :=
  match entry.header with
  | none => none
  | some header =>
      let headerByte :=
        (header.payloadVersion <<< 6) |||
          ((header.payloadTypeRaw &&& 0x0F) <<< 2) |||
          (header.routeTypeRaw &&& 0x03)
      let pathByte :=
        (saturatingPred header.pathHashSize <<< 6) ||| (header.hops &&& 0x3F)
      some (hexEncode [headerByte] ++ header.transportCodeHex.getD "" ++
        hexEncode [pathByte] ++ header.pathHex ++ entry.payloadHex)

theorem buildPacketLogEntry_isSome_iff
    (event : MeshCoreEvent) (id : ℕ) (nowUnix : ℤ) :
    (buildPacketLogEntry event id nowUnix).isSome ↔
      ∃ log, event.payload = .logData log := by
  unfold buildPacketLogEntry
  cases event.payload <;> simp

theorem id_of_buildPacketLogEntry
    {event : MeshCoreEvent} {id : ℕ} {nowUnix : ℤ} {entry : PacketLogEntry}
    (hbuild : buildPacketLogEntry event id nowUnix = some entry) :
    entry.id = id := by
  unfold buildPacketLogEntry at hbuild
  split at hbuild
  next =>
    simp only [Option.some.injEq] at hbuild
    subst entry
    rfl
  next => contradiction

omit [MeshcoreRs] in
theorem reconstructRawPacketHex_eq_none_iff (entry : PacketLogEntry) :
    reconstructRawPacketHex entry = none ↔ entry.header = none := by
  unfold reconstructRawPacketHex
  cases entry.header <;> simp

end MeshController
