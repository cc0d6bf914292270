import MeshController.CompanionNode
import MeshController.MeshcoreCrypto
import MeshController.RawPacket

/-!
# The region of a packet

A packet with a transport code belongs to the first configured region which
produces the first half of that code for the packet's type and payload.  The
code is compared as bytes, after it went through the hexadecimal text of the
packet's log entry.
-/

namespace MeshController

open HexEncoding

section Attribution

variable [HashFunctions]

def precomputeRegionKeys (regions : List RegionConfig) :
    List (String × Vector UInt8 16) :=
  regions.map fun region => (region.name, deriveRegionKey region.name)

/-- The name of the region whose code is the one observed; the text of a code
is hexadecimal, so that its bytes are its characters. -/
def matchingRegionName [HexDecoder]
    (entry : PacketLogEntry) (regionKeys : List (String × Vector UInt8 16)) :
    Option String := do
  let header ← entry.header
  let transportCodeHex ← header.transportCodeHex
  if transportCodeHex.utf8ByteSize < 4 then none
  else
    let observed ← (HexDecoder.hexDecode
      (String.ofList (transportCodeHex.toList.take 4))).toOption
    let payload ← (HexDecoder.hexDecode entry.payloadHex).toOption
    regionKeys.findSome? fun regionKey =>
      let computed :=
        calcTransportCode regionKey.2 header.payloadTypeRaw payload
      if computed.toList = observed then some regionKey.1 else none

variable [MeshcoreRs]

/-- What a sender in the region puts first into the transport code of a
packet. -/
def RegionConfig.transportCode
    (region : RegionConfig) (header : MeshPacketHeader)
    (payload : List UInt8) : Vector UInt8 2 :=
  nudgedCode (deriveRegionKey region.name)
    (MeshcoreRs.payloadTypeRaw header.payloadType) payload

/-- The first half of a transport code; the second is reserved. -/
def codeFront (code : Vector UInt8 4) : Vector UInt8 2 := #v[code[0], code[1]]

omit [HashFunctions] [MeshcoreRs] in
theorem take_hexEncode_code (code : Vector UInt8 4) :
    String.ofList ((hexEncode code.toList).toList.take 4) =
      hexEncode (codeFront code).toList := by
  have hfront : (codeFront code).toList = code.toList.take 2 := by
    apply List.ext_getElem
    · simp
    · intro i hi _
      have hcases : i = 0 ∨ i = 1 := by
        simp only [Vector.length_toList] at hi
        omega
      rcases hcases with rfl | rfl <;> simp [codeFront]
  rw [toList_hexEncode, hfront, hexEncode, hexDigits_take]

omit [MeshcoreRs] in
theorem findSome_precomputeRegionKeys
    (regions : List RegionConfig) (accepts : Vector UInt8 16 → Prop)
    [DecidablePred accepts] :
    ((precomputeRegionKeys regions).findSome? fun regionKey =>
      if accepts regionKey.2 then some regionKey.1 else none) =
    (regions.find? fun region =>
      accepts (deriveRegionKey region.name)).map RegionConfig.name := by
  induction regions with
  | nil => rfl
  | cons region rest ih =>
      rw [precomputeRegionKeys, List.map_cons, List.findSome?_cons]
      by_cases haccepts : accepts (deriveRegionKey region.name)
      · simp [haccepts]
      · simpa [haccepts, precomputeRegionKeys] using ih

variable [HexDecoder]

/-- The entry of a packet with a transport code is given to the first region
which produces the front of the code. -/
theorem matchingRegionName_eq_find
    (hdecodes : DecodesHex) {event : MeshCoreEvent} {id : ℕ} {nowUnix : ℤ}
    {entry : PacketLogEntry}
    (hbuild : buildPacketLogEntry event id nowUnix = some entry)
    {log : LogData} (hevent : event.payload = .logData log)
    {header : MeshPacketHeader} (hheader : log.header = some header)
    {code : Vector UInt8 4} (hcode : header.transportCode = some code)
    (regions : List RegionConfig) :
    matchingRegionName entry (precomputeRegionKeys regions) =
      (regions.find? fun region =>
        region.transportCode header log.payload = codeFront code).map
          RegionConfig.name := by
  unfold buildPacketLogEntry at hbuild
  simp only [hevent, Option.some.injEq] at hbuild
  have hsize : ¬ (hexEncode code.toList).utf8ByteSize < 4 := by
    rw [utf8ByteSize_hexEncode, Vector.length_toList]
    decide
  unfold matchingRegionName
  rw [← hbuild]
  simp only [hheader, Option.map_some, packetHeaderInfo, hcode,
    Option.bind_eq_bind, Option.bind_some, hsize, if_false,
    take_hexEncode_code, hexDecode_hexEncode hdecodes, Except.toOption,
    calcTransportCode_eq_nudgedCode, Vector.toList_inj]
  exact findSome_precomputeRegionKeys regions fun key =>
    nudgedCode key (MeshcoreRs.payloadTypeRaw header.payloadType)
      log.payload = codeFront code

/-- The entry of a packet is given to the first configured region whose nudged
code is the front of the packet's code, and to no region if there is none.  A
reserved code is given to no region, and a code made with the key of a
configured region is given to some. -/
theorem packet_attributed_to_first_region
    (hdecodes : DecodesHex) {event : MeshCoreEvent} {id : ℕ} {nowUnix : ℤ}
    {entry : PacketLogEntry}
    (hbuild : buildPacketLogEntry event id nowUnix = some entry)
    {log : LogData} (hevent : event.payload = .logData log)
    {header : MeshPacketHeader} (hheader : log.header = some header)
    {code : Vector UInt8 4} (hcode : header.transportCode = some code)
    (regions : List RegionConfig) :
    matchingRegionName entry (precomputeRegionKeys regions) =
        (regions.find? fun region =>
          region.transportCode header log.payload = codeFront code).map
            RegionConfig.name ∧
      (matchingRegionName entry (precomputeRegionKeys regions) = none ↔
        ∀ region ∈ regions,
          region.transportCode header log.payload ≠ codeFront code) ∧
      (codeFront code = #v[0x00, 0x00] ∨ codeFront code = #v[0xFF, 0xFF] →
        matchingRegionName entry (precomputeRegionKeys regions) = none) ∧
      ∀ region ∈ regions,
        codeFront code = region.transportCode header log.payload →
          (matchingRegionName entry (precomputeRegionKeys regions)).isSome := by
  have hfind := matchingRegionName_eq_find hdecodes hbuild hevent hheader hcode
    regions
  have hnone : matchingRegionName entry (precomputeRegionKeys regions) =
      none ↔ ∀ region ∈ regions,
        region.transportCode header log.payload ≠ codeFront code := by
    rw [hfind, Option.map_eq_none_iff, List.find?_eq_none]
    simp only [decide_eq_true_eq, ne_eq]
  constructor
  · exact hfind
  constructor
  · exact hnone
  constructor
  · intro hreserved
    rw [hnone]
    intro region _ hsame
    have hnot := nudgedCode_not_reserved (deriveRegionKey region.name)
      (MeshcoreRs.payloadTypeRaw header.payloadType) log.payload
    rw [← hsame] at hreserved
    exact hreserved.elim hnot.1 hnot.2
  · intro region hmem hsent
    rw [Option.isSome_iff_ne_none, ne_eq, hnone]
    intro habsent
    exact habsent region hmem hsent.symm

end Attribution

/-! ## One packet -/

/-- The hash functions on the names `TestRegion` and `SomeOtherRegion`, and
under their keys on the packet below. -/
@[reducible] def testRegionHashes : HashFunctions where
  sha256 text :=
    if text.head? = some 0x54 then #v[
        0xfb, 0x70, 0x5f, 0x20, 0xc7, 0x1a, 0xfb, 0x2c, 0xf4, 0x17, 0xeb, 0x2e,
        0xda, 0xba, 0x6e, 0x26, 0xd1, 0x0f, 0x84, 0xcf, 0x56, 0x24, 0x9f, 0xe6,
        0x06, 0xbb, 0xc6, 0x17, 0xb6, 0x6f, 0xa3, 0x24]
    else #v[
        0x12, 0xe4, 0x06, 0x60, 0x43, 0xe8, 0x9a, 0x5d, 0x1e, 0x71, 0x1c, 0xdc,
        0xea, 0x01, 0xb5, 0xe1, 0x22, 0x47, 0x14, 0x1c, 0xdd, 0x91, 0x7a, 0x77,
        0x5d, 0xce, 0x2f, 0xb9, 0xc6, 0x7b, 0x48, 0x7e]
  hmacSha256 key _ :=
    if key.head? = some 0xfb then #v[
        0xa5, 0x18, 0x59, 0x2a, 0xac, 0xd1, 0xe4, 0xae, 0xf4, 0xc3, 0xcb, 0x2b,
        0x88, 0x38, 0x48, 0xa3, 0xba, 0x5f, 0x05, 0x43, 0x55, 0x85, 0xd3, 0x1d,
        0xa2, 0x67, 0x92, 0x8e, 0x00, 0x66, 0xad, 0x85]
    else #v[
        0xca, 0xad, 0xdc, 0x9d, 0x0a, 0x2d, 0x68, 0xe6, 0xcf, 0x16, 0x2e, 0x7c,
        0x62, 0x56, 0x32, 0xad, 0x50, 0xa4, 0x36, 0x9b, 0xa6, 0xd9, 0x3e, 0xc6,
        0x18, 0x42, 0x5a, 0x07, 0xa2, 0x5a, 0x33, 0x2c]

def testRegionHeader : MeshPacketHeader where
  routeType := .transportFlood
  payloadType := .textMsg
  payloadVersion := 0
  transportCode := some #v[0xa5, 0x18, 0x00, 0x00]
  pathLen := 0
  pathHashSize := 1
  path := []

def testRegionEvent : MeshCoreEvent where
  eventType := .logData
  payload := .logData {
    snr := 5
    rssi := -90
    header := some testRegionHeader
    advertisement := none
    payload := [0xde, 0xad, 0xbe, 0xef] }

def testRegions : List RegionConfig :=
  [⟨"SomeOtherRegion", none⟩, ⟨"TestRegion", none⟩]

theorem packet_attributed_to_test_region :
    (@buildPacketLogEntry wireValues testRegionEvent 1 0).bind (fun entry =>
      @matchingRegionName testRegionHashes plainDecoder entry
        (@precomputeRegionKeys testRegionHashes testRegions)) =
      some "TestRegion" := by
  have hfirst := @packet_attributed_to_first_region testRegionHashes
    wireValues plainDecoder decodesHex_plainDecoder testRegionEvent 1 0 _ rfl
    _ rfl testRegionHeader rfl #v[0xa5, 0x18, 0x00, 0x00] rfl testRegions
  exact hfirst.1.trans (by decide)

end MeshController
