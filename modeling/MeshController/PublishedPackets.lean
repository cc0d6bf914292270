import MeshController.MqttMessages

/-!
# The two messages about one packet

A received packet is published twice: the `PACKET` message adds its length up
from the decoded header and shows the beginning of the rebuilt packet, the
`RAW` message has all of it.  For a packet laid out as the parser expects, the
header and the rebuilt packet tell the same.
-/

namespace MeshController

open HexEncoding

section Published

variable [MeshcoreRs]

/-- Both messages tell of the same bytes. -/
structure AgreeOn (bytes payload : List UInt8) (packet : PacketTraficFields)
    (rawMessage : RawFields) : Prop where
  len : packet.len = bytes.length
  payloadLen : packet.payloadLen = payload.length
  raw : packet.raw.toList = (hexEncode bytes).toList.take 2048
  data : rawMessage.data = (hexEncode bytes).toUpper
  untruncated : bytes.length ≤ 1024 → packet.raw.toUpper = rawMessage.data

omit [MeshcoreRs] in
theorem length_transportBytes (header : MeshPacketHeader) :
    header.transportBytes.length =
      if header.transportCode.isSome then 4 else 0 := by
  unfold MeshPacketHeader.transportBytes
  cases header.transportCode with
  | none => rfl
  | some code => exact code.length_toList

/-- The length added up from the header is the one of the packet. -/
theorem PacketLayout.length_eq
    {raw payload : List UInt8} {headerByte pathByte : UInt8}
    {header : MeshPacketHeader}
    (hlayout : PacketLayout raw headerByte pathByte header payload)
    (advertisement : Option RawAdvertisement) :
    let info := packetHeaderInfo header payload advertisement
    1 + (if info.transportCodeHex.isSome then 4 else 0) + 1 +
        info.pathHex.utf8ByteSize / 2 + payload.length =
      raw.length := by
  have hraw := congrArg List.length hlayout.bytes
  simp only [List.length_cons, List.length_append, length_transportBytes]
    at hraw
  simp only [packetHeaderInfo, Option.isSome_map, utf8ByteSize_hexEncode]
  rw [hraw, Nat.mul_div_cancel_left _ (by decide)]
  omega

omit [MeshcoreRs] in
theorem ofList_take_hexEncode
    {raw : List UInt8} (hshort : raw.length ≤ 1024) :
    String.ofList ((hexEncode raw).toList.take 2048) = hexEncode raw := by
  rw [List.take_of_length_le, String.ofList_toList]
  rw [toList_hexEncode, length_hexDigits]
  omega

theorem exists_published_of_layout
    {raw payload : List UInt8} {headerByte pathByte : UInt8}
    {header : MeshPacketHeader} {advertisement : Option RawAdvertisement}
    (hlayout : PacketLayout raw headerByte pathByte header payload)
    {entry : PacketLogEntry}
    (hheader :
      entry.header = some (packetHeaderInfo header payload advertisement))
    (hpayload : entry.payloadHex = hexEncode payload)
    (hlength : entry.payloadLen = payload.length)
    (selfInfo : SelfInfoDto) (packetNow rawNow : ℤ) :
    ∃ packet rawMessage,
      packetTraficJson entry selfInfo packetNow = some packet ∧
        rawJson entry selfInfo rawNow = some rawMessage ∧
        AgreeOn raw payload packet rawMessage := by
  have hrebuilt := reconstructRawPacketHex_of_layout hlayout hheader hpayload
  have hadded := hlayout.length_eq advertisement
  rw [packetTraficJson, rawJson, hheader, hrebuilt]
  refine ⟨_, _, rfl, rfl, ?_⟩
  constructor
  · rw [hlength]
    exact hadded
  · exact hlength
  · exact String.toList_ofList
  · rfl
  · intro hshort
    exact congrArg String.toUpper (ofList_take_hexEncode hshort)

/-- Of one entry both messages exist or neither does, and for a packet which
the parser accepts they exist and agree on its bytes. -/
theorem published_packets_agree
    {parseMeshPacketHeader :
      List UInt8 → Option (MeshPacketHeader × List UInt8)}
    (hfollows : FollowsLayout parseMeshPacketHeader) :
    (∀ entry selfInfo packetNow rawNow,
      (packetTraficJson entry selfInfo packetNow).isSome =
        (rawJson entry selfInfo rawNow).isSome) ∧
    (∀ raw log, ParsedFrom parseMeshPacketHeader raw log →
      ∀ event, event.payload = .logData log → ∀ id nowUnix,
        ∃ entry, buildPacketLogEntry event id nowUnix = some entry ∧
          ∀ selfInfo packetNow rawNow, ∃ packet rawMessage,
            packetTraficJson entry selfInfo packetNow = some packet ∧
              rawJson entry selfInfo rawNow = some rawMessage ∧
              AgreeOn raw log.payload packet rawMessage) := by
  constructor
  · intro entry selfInfo packetNow rawNow
    rw [Bool.eq_iff_iff, Option.isSome_iff_ne_none, Option.isSome_iff_ne_none,
      Ne, packetTraficJson_eq_none_iff, Ne, rawJson_eq_none_iff]
  · rintro raw log ⟨header, hheader, hparse⟩ event hevent id nowUnix
    rcases (hfollows _ _ _).mp hparse with ⟨headerByte, pathByte, hlayout⟩
    rw [buildPacketLogEntry, hevent]
    refine ⟨_, rfl, ?_⟩
    intro selfInfo packetNow rawNow
    apply exists_published_of_layout hlayout
    · rw [hheader]
      rfl
    · rfl
    · rfl

end Published

def gateway : SelfInfoDto where
  name := "gateway"
  publicKeyHex := "aabbccdd"
  radioFreqMhz := 869
  radioBwKhz := 250
  spreadingFactor := 11
  codingRate := 5
  txPowerDbm := 22
  lat := 0
  lon := 0

/-- A flooded advertisement with a transport code, heard over one hop. -/
def floodedAdvert : LogData :=
  ⟨1, -80,
    some ⟨.transportFlood, .advert, 0, some #v[0xaa, 0xbb, 0xcc, 0xdd], 1, 2,
      [0x33, 0x44]⟩,
    none, [0x01, 0x02]⟩

theorem published_packets_agree_transportFlood :
    ∃ entry packet rawMessage,
      @buildPacketLogEntry wireValues ⟨.logData, .logData floodedAdvert⟩ 1 0 =
          some entry ∧
        packetTraficJson entry gateway 0 = some packet ∧
        rawJson entry gateway 0 = some rawMessage ∧
        packet.len = 10 ∧ packet.payloadLen = 2 ∧
        packet.raw.toUpper = rawMessage.data := by
  have hparsed : ParsedFrom layoutParser
      [0x10, 0xaa, 0xbb, 0xcc, 0xdd, 0x41, 0x33, 0x44, 0x01, 0x02]
      floodedAdvert :=
    ⟨_, rfl, by decide⟩
  rcases (@published_packets_agree wireValues layoutParser
    layoutParser_followsLayout).2 _ _ hparsed
      ⟨.logData, .logData floodedAdvert⟩ rfl 1 0 with ⟨entry, hbuild, hagree⟩
  rcases hagree gateway 0 0 with ⟨packet, rawMessage, hpacket, hraw, hsame⟩
  exact ⟨entry, packet, rawMessage, hbuild, hpacket, hraw, hsame.len,
    hsame.payloadLen, hsame.untruncated (by decide)⟩

end MeshController
