import MeshController.PacketLog

/-!
# The wire layout of a packet

The header byte, an optional transport code, the path byte, the hop hashes
and the payload.  `PacketLayout` relates the bytes on air to what a parser is
expected to read from them; rebuilding the bytes from a log entry undoes any
parser which follows it.
-/

namespace MeshController

open HexEncoding

def MeshPacketHeader.transportBytes (header : MeshPacketHeader) : List UInt8 :=
  match header.transportCode with
  | none => []
  | some code => code.toList

/-- `raw` is laid out as `header` followed by `payload`. -/
structure PacketLayout [MeshcoreRs]
    (raw : List UInt8) (headerByte pathByte : UInt8)
    (header : MeshPacketHeader) (payload : List UInt8) : Prop where
  bytes : raw = headerByte :: (header.transportBytes ++
    pathByte :: (header.path ++ payload))
  routeType : MeshcoreRs.routeTypeRaw header.routeType = headerByte &&& 0x03
  payloadType :
    MeshcoreRs.payloadTypeRaw header.payloadType = (headerByte >>> 2) &&& 0x0F
  payloadVersion : header.payloadVersion = headerByte >>> 6
  transportCode :
    header.transportCode.isSome = header.routeType.isTransport
  pathHashSize : header.pathHashSize = (pathByte >>> 6) + 1
  pathLen : header.pathLen = pathByte &&& 0x3F
  path : header.path.length = header.pathLen.toNat * header.pathHashSize.toNat

/-- The parser accepts exactly what is laid out so, and returns its parts. -/
def FollowsLayout [MeshcoreRs]
    (parseMeshPacketHeader :
      List UInt8 → Option (MeshPacketHeader × List UInt8)) : Prop :=
  ∀ raw header payload,
    parseMeshPacketHeader raw = some (header, payload) ↔
      ∃ headerByte pathByte,
        PacketLayout raw headerByte pathByte header payload

/-- The log data of an accepted byte string: its header and its inner
payload, whatever the radio readings and the decoded advertisement. -/
def ParsedFrom
    (parseMeshPacketHeader :
      List UInt8 → Option (MeshPacketHeader × List UInt8))
    (raw : List UInt8) (log : LogData) : Prop :=
  ∃ header, log.header = some header ∧
    parseMeshPacketHeader raw = some (header, log.payload)

/-! ## The layout can be parsed

A parser which follows the layout, for the numbering on the wire.
-/

@[reducible] def wireValues : MeshcoreRs where
  routeTypeRaw
    | .transportFlood => 0
    | .flood => 1
    | .direct => 2
    | .transportDirect => 3
  payloadTypeRaw
    | .req => 0
    | .response => 1
    | .textMsg => 2
    | .ack => 3
    | .advert => 4
    | .groupText => 5
    | .groupData => 6
    | .anonReq => 7
    | .path => 8
    | .trace => 9
    | .multipart => 10
    | .control => 11
    | .rawCustom => 15

def routeTypeOfWire (raw : UInt8) : Option RouteType :=
  [.transportFlood, .flood, .direct, .transportDirect].find? fun r =>
    wireValues.routeTypeRaw r = raw

def payloadTypeOfWire (raw : UInt8) : Option PayloadType :=
  [.req, .response, .textMsg, .ack, .advert, .groupText, .groupData, .anonReq,
    .path, .trace, .multipart, .control, .rawCustom].find? fun p =>
      wireValues.payloadTypeRaw p = raw

def splitTransportCode (routeType : RouteType) (bytes : List UInt8) :
    Option (Option (Vector UInt8 4) × List UInt8) :=
  if routeType.isTransport then
    if hlong : 4 ≤ bytes.length then
      some (some ⟨(bytes.take 4).toArray, by simpa using hlong⟩, bytes.drop 4)
    else none
  else some (none, bytes)

def splitPath (bytes : List UInt8) :
    Option (UInt8 × List UInt8 × List UInt8) :=
  match bytes with
  | [] => none
  | pathByte :: rest =>
      let size := (pathByte &&& 0x3F).toNat * ((pathByte >>> 6) + 1).toNat
      if size ≤ rest.length then
        some (pathByte, rest.take size, rest.drop size)
      else none

def layoutParser (raw : List UInt8) :
    Option (MeshPacketHeader × List UInt8) :=
  match raw with
  | [] => none
  | headerByte :: afterHeader => do
      let routeType ← routeTypeOfWire (headerByte &&& 0x03)
      let payloadType ← payloadTypeOfWire ((headerByte >>> 2) &&& 0x0F)
      let (transportCode, afterCode) ← splitTransportCode routeType afterHeader
      let (pathByte, path, payload) ← splitPath afterCode
      some ({
        routeType := routeType
        payloadType := payloadType
        payloadVersion := headerByte >>> 6
        transportCode := transportCode
        pathLen := pathByte &&& 0x3F
        pathHashSize := (pathByte >>> 6) + 1
        path := path }, payload)

theorem routeTypeOfWire_eq_some_iff (raw : UInt8) (routeType : RouteType) :
    routeTypeOfWire raw = some routeType ↔
      wireValues.routeTypeRaw routeType = raw := by
  constructor
  · intro hfind
    simpa using List.find?_some hfind
  · intro hraw
    subst raw
    cases routeType <;> rfl

theorem payloadTypeOfWire_eq_some_iff
    (raw : UInt8) (payloadType : PayloadType) :
    payloadTypeOfWire raw = some payloadType ↔
      wireValues.payloadTypeRaw payloadType = raw := by
  constructor
  · intro hfind
    simpa using List.find?_some hfind
  · intro hraw
    subst raw
    cases payloadType <;> rfl

theorem splitTransportCode_eq_some_iff
    {routeType : RouteType} {bytes rest : List UInt8}
    {transportCode : Option (Vector UInt8 4)} :
    splitTransportCode routeType bytes = some (transportCode, rest) ↔
      transportCode.isSome = routeType.isTransport ∧
        bytes = (transportCode.map fun c => c.toList).getD [] ++ rest := by
  unfold splitTransportCode
  cases htransport : routeType.isTransport with
  | false =>
      cases transportCode with
      | none => simp
      | some code => simp
  | true =>
      cases transportCode with
      | none =>
          simp only [if_true]
          split <;> simp
      | some code =>
          have hfour : code.toList.length = 4 := by simp
          simp only [if_true, Option.isSome_some, true_and, Option.map_some,
            Option.getD_some]
          constructor
          · intro hsplit
            split at hsplit
            next hlong =>
              simp only [Option.some.injEq, Prod.mk.injEq] at hsplit
              obtain ⟨rfl, rfl⟩ := hsplit
              simp [Vector.toList]
            next => contradiction
          · intro hbytes
            have hlong : 4 ≤ bytes.length := by
              rw [hbytes, List.length_append, hfour]
              omega
            have htake : bytes.take 4 = code.toList := by
              rw [hbytes]
              exact List.take_left' hfour
            have hdrop : bytes.drop 4 = rest := by
              rw [hbytes]
              exact List.drop_left' hfour
            simp [hlong, htake, hdrop, Vector.toList]

theorem splitPath_eq_some_iff
    {bytes path payload : List UInt8} {pathByte : UInt8} :
    splitPath bytes = some (pathByte, path, payload) ↔
      bytes = pathByte :: (path ++ payload) ∧
        path.length =
          (pathByte &&& 0x3F).toNat * ((pathByte >>> 6) + 1).toNat := by
  cases bytes with
  | nil => simp [splitPath]
  | cons head rest =>
      simp only [splitPath, List.cons.injEq]
      constructor
      · intro hsplit
        split at hsplit
        next hfits =>
          simp only [Option.some.injEq, Prod.mk.injEq] at hsplit
          obtain ⟨rfl, rfl, rfl⟩ := hsplit
          refine ⟨⟨rfl, (List.take_append_drop _ _).symm⟩, ?_⟩
          exact List.length_take_of_le hfits
        next => contradiction
      · rintro ⟨⟨rfl, rfl⟩, hlength⟩
        rw [← hlength]
        simp

theorem layoutParser_followsLayout :
    @FollowsLayout wireValues layoutParser := by
  let _ : MeshcoreRs := wireValues
  intro raw header payload
  constructor
  · intro hparse
    cases raw with
    | nil => simp [layoutParser] at hparse
    | cons headerByte afterHeader =>
        simp only [layoutParser, Option.bind_eq_bind,
          Option.bind_eq_some_iff, Option.some.injEq, Prod.mk.injEq,
          Prod.exists] at hparse
        obtain ⟨routeType, hroute, payloadType, htype, code, afterCode,
          hcode, pathByte, path, rest, hpath, rfl, rfl⟩ := hparse
        obtain ⟨hpresent, hbytes⟩ := splitTransportCode_eq_some_iff.mp hcode
        obtain ⟨hafter, hlength⟩ := splitPath_eq_some_iff.mp hpath
        have hrouteRaw := (routeTypeOfWire_eq_some_iff _ _).mp hroute
        have htypeRaw := (payloadTypeOfWire_eq_some_iff _ _).mp htype
        refine ⟨headerByte, pathByte, ?_, hrouteRaw, htypeRaw, rfl, hpresent,
          rfl, rfl, hlength⟩
        rw [hbytes, hafter]
        cases code with
        | none => rfl
        | some bytes => rfl
  · rintro ⟨headerByte, pathByte, hlayout⟩
    have hroute := (routeTypeOfWire_eq_some_iff _ _).mpr hlayout.routeType
    have htype := (payloadTypeOfWire_eq_some_iff _ _).mpr hlayout.payloadType
    have hcode : splitTransportCode header.routeType
        (header.transportBytes ++ pathByte :: (header.path ++ payload)) =
          some (header.transportCode,
            pathByte :: (header.path ++ payload)) := by
      apply splitTransportCode_eq_some_iff.mpr
      refine ⟨hlayout.transportCode, ?_⟩
      unfold MeshPacketHeader.transportBytes
      cases header.transportCode with
      | none => rfl
      | some code => rfl
    have hpath : splitPath (pathByte :: (header.path ++ payload)) =
        some (pathByte, header.path, payload) := by
      apply splitPath_eq_some_iff.mpr
      refine ⟨rfl, ?_⟩
      rw [hlayout.path, hlayout.pathLen, hlayout.pathHashSize]
    rw [hlayout.bytes]
    simp only [layoutParser, hroute, htype, hcode, hpath, Option.bind_eq_bind,
      Option.bind_some, ← hlayout.payloadVersion, ← hlayout.pathHashSize,
      ← hlayout.pathLen]

/-! ## Packing bits back together -/

theorem forall_uint8 {P : UInt8 → Prop}
    (hall : ∀ n : Fin 256, P (UInt8.ofNat n.val)) (byte : UInt8) : P byte := by
  have hbyte := hall ⟨byte.toNat, byte.toNat_lt⟩
  rwa [UInt8.ofNat_toNat] at hbyte

theorem headerByte_packed (byte : UInt8) :
    ((byte >>> 6) <<< 6) ||| ((((byte >>> 2) &&& 0x0F) &&& 0x0F) <<< 2) |||
      ((byte &&& 0x03) &&& 0x03) = byte := by
  apply forall_uint8 (P := fun byte =>
    ((byte >>> 6) <<< 6) ||| ((((byte >>> 2) &&& 0x0F) &&& 0x0F) <<< 2) |||
      ((byte &&& 0x03) &&& 0x03) = byte)
  decide +kernel

theorem pathByte_packed (byte : UInt8) :
    (saturatingPred ((byte >>> 6) + 1) <<< 6) ||| ((byte &&& 0x3F) &&& 0x3F) =
      byte := by
  apply forall_uint8 (P := fun byte =>
    (saturatingPred ((byte >>> 6) + 1) <<< 6) ||| ((byte &&& 0x3F) &&& 0x3F) =
      byte)
  decide +kernel

/-! ## Rebuilding the bytes -/

section Rebuilding

variable [MeshcoreRs]

theorem PacketLayout.headerByte_eq
    {raw : List UInt8} {headerByte pathByte : UInt8}
    {header : MeshPacketHeader} {payload : List UInt8}
    (hlayout : PacketLayout raw headerByte pathByte header payload) :
    (header.payloadVersion <<< 6) |||
        ((MeshcoreRs.payloadTypeRaw header.payloadType &&& 0x0F) <<< 2) |||
        (MeshcoreRs.routeTypeRaw header.routeType &&& 0x03) = headerByte := by
  rw [hlayout.payloadVersion, hlayout.payloadType, hlayout.routeType]
  exact headerByte_packed headerByte

theorem PacketLayout.pathByte_eq
    {raw : List UInt8} {headerByte pathByte : UInt8}
    {header : MeshPacketHeader} {payload : List UInt8}
    (hlayout : PacketLayout raw headerByte pathByte header payload) :
    (saturatingPred header.pathHashSize <<< 6) ||| (header.pathLen &&& 0x3F) =
      pathByte := by
  rw [hlayout.pathHashSize, hlayout.pathLen]
  exact pathByte_packed pathByte

omit [MeshcoreRs] in
theorem hexEncode_transportBytes (header : MeshPacketHeader) :
    (header.transportCode.map fun c => hexEncode c.toList).getD "" =
      hexEncode header.transportBytes := by
  unfold MeshPacketHeader.transportBytes
  cases header.transportCode with
  | none => rfl
  | some code => rfl

theorem reconstructRawPacketHex_of_layout
    {raw : List UInt8} {headerByte pathByte : UInt8}
    {header : MeshPacketHeader} {payload : List UInt8}
    (hlayout : PacketLayout raw headerByte pathByte header payload)
    {entry : PacketLogEntry} {advertisement : Option RawAdvertisement}
    (hheader :
      entry.header = some (packetHeaderInfo header payload advertisement))
    (hpayload : entry.payloadHex = hexEncode payload) :
    reconstructRawPacketHex entry = some (hexEncode raw) := by
  have hraw : hexEncode raw =
      hexEncode [headerByte] ++ hexEncode header.transportBytes ++
        hexEncode [pathByte] ++ hexEncode header.path ++ hexEncode payload := by
    rw [hlayout.bytes]
    simp only [← hexEncode_append, List.append_assoc, List.cons_append,
      List.nil_append]
  have hfirst := hlayout.headerByte_eq
  have hpath := hlayout.pathByte_eq
  have htransport := hexEncode_transportBytes header
  rw [hraw]
  simp only [reconstructRawPacketHex, hheader, hpayload, packetHeaderInfo,
    hfirst, hpath, htransport]

theorem reconstructRawPacketHex_build_of_parsed
    {parseMeshPacketHeader :
      List UInt8 → Option (MeshPacketHeader × List UInt8)}
    (hfollows : FollowsLayout parseMeshPacketHeader)
    {raw : List UInt8} {log : LogData}
    (hparsed : ParsedFrom parseMeshPacketHeader raw log)
    {event : MeshCoreEvent} (hevent : event.payload = .logData log)
    (id : ℕ) (nowUnix : ℤ) :
    (buildPacketLogEntry event id nowUnix).bind reconstructRawPacketHex =
      some (hexEncode raw) := by
  obtain ⟨header, hheader, hparse⟩ := hparsed
  obtain ⟨headerByte, pathByte, hlayout⟩ := (hfollows _ _ _).mp hparse
  simp only [buildPacketLogEntry, hevent, Option.bind_some]
  apply reconstructRawPacketHex_of_layout hlayout
  · rw [hheader]
    rfl
  · rfl

/-- Rebuilding the packet undoes parsing it, and different packets never
share a log entry. -/
theorem reconstructRawPacketHex_round_trip
    {parseMeshPacketHeader :
      List UInt8 → Option (MeshPacketHeader × List UInt8)}
    (hfollows : FollowsLayout parseMeshPacketHeader) :
    (∀ raw log, ParsedFrom parseMeshPacketHeader raw log →
      ∀ event, event.payload = .logData log → ∀ id nowUnix,
        (buildPacketLogEntry event id nowUnix).bind reconstructRawPacketHex =
          some (hexEncode raw)) ∧
    (∀ first firstLog second secondLog,
      ParsedFrom parseMeshPacketHeader first firstLog →
      ParsedFrom parseMeshPacketHeader second secondLog →
      first ≠ second →
      ∀ firstEvent secondEvent,
        firstEvent.payload = .logData firstLog →
        secondEvent.payload = .logData secondLog →
        ∀ firstId secondId firstNow secondNow,
          buildPacketLogEntry firstEvent firstId firstNow ≠
            buildPacketLogEntry secondEvent secondId secondNow) := by
  constructor
  · intro raw log hparsed event hevent id nowUnix
    exact reconstructRawPacketHex_build_of_parsed hfollows hparsed hevent
      id nowUnix
  · intro first firstLog second secondLog hfirst hsecond hne firstEvent
      secondEvent hfirstEvent hsecondEvent firstId secondId firstNow secondNow
      hsame
    have hfirstHex := reconstructRawPacketHex_build_of_parsed hfollows hfirst
      hfirstEvent firstId firstNow
    have hsecondHex := reconstructRawPacketHex_build_of_parsed hfollows
      hsecond hsecondEvent secondId secondNow
    rw [hsame, hsecondHex, Option.some.injEq] at hfirstHex
    exact hne (hexEncode_injective hfirstHex).symm

end Rebuilding

/-- A flooded advertisement with a transport code, heard over one hop. -/
theorem reconstructRawPacketHex_round_trip_transportFlood :
    (@buildPacketLogEntry wireValues
      ⟨.logData, .logData
        ⟨1, -80,
          some ⟨.transportFlood, .advert, 0, some #v[0xaa, 0xbb, 0xcc, 0xdd],
            1, 2, [0x33, 0x44]⟩,
          none, [0x01, 0x02]⟩⟩ 1 0).bind reconstructRawPacketHex =
      some "10aabbccdd4133440102" :=
  (@reconstructRawPacketHex_round_trip wireValues layoutParser
    layoutParser_followsLayout).1
      [0x10, 0xaa, 0xbb, 0xcc, 0xdd, 0x41, 0x33, 0x44, 0x01, 0x02] _
      ⟨_, rfl, by decide⟩ _ rfl 1 0

end MeshController
