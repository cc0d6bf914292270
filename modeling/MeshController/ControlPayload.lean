import MeshController.GroupTexts
import MeshController.PacketLog

/-!
# Control payloads

The two documented sub-types of a control payload, as they are sent.  A
payload is read back as the message it was made of; bytes after a message are
passed over, unless they make it one of the longer forms.
-/

namespace MeshController

open HexEncoding

/-- The front of a public key, or all of it. -/
inductive ControlKey where
  | front (bytes : Vector UInt8 8)
  | full (bytes : Vector UInt8 32)
deriving DecidableEq

def ControlKey.bytes : ControlKey → List UInt8
  | .front bytes => bytes.toList
  | .full bytes => bytes.toList

/-- `reserved` are the bits of the flags which nothing is known about. -/
inductive ControlMessage where
  | discoverReq (reserved : Fin 8) (prefixOnly : Bool) (typeFilter : UInt8)
      (tag : Vector UInt8 4) (since : Option UInt32)
  | discoverResp (nodeType : Fin 16) (snrQuarters : Int8)
      (tag : Vector UInt8 4) (pubkey : ControlKey)
deriving DecidableEq

namespace ControlMessage

def reqFlags (reserved : Fin 8) (prefixOnly : Bool) : UInt8 :=
  UInt8.ofNat (0x80 + 2 * reserved.val + prefixOnly.toNat)

def respFlags (nodeType : Fin 16) : UInt8 := UInt8.ofNat (0x90 + nodeType.val)

def encode : ControlMessage → List UInt8
  | discoverReq reserved prefixOnly typeFilter tag since =>
      reqFlags reserved prefixOnly :: typeFilter ::
        (tag.toList ++ (since.map u32ToLeBytes).getD [])
  | discoverResp nodeType snrQuarters tag pubkey =>
      respFlags nodeType :: snrQuarters.toUInt8 :: (tag.toList ++ pubkey.bytes)

/-- What a packet log entry shows of a message. -/
def shown : ControlMessage → ControlPayloadInfo
  | discoverReq _ prefixOnly typeFilter tag since =>
      .discoverReq prefixOnly typeFilter (hexEncode tag.toList)
        (since.map UInt32.toNat)
  | discoverResp nodeType snrQuarters tag pubkey =>
      .discoverResp (advTypeName (UInt8.ofNat nodeType.val))
        (snrQuarters.toInt / 4) (hexEncode tag.toList) (hexEncode pubkey.bytes)

/-- What follows is too short for the message to be one of the longer
forms. -/
def EndsBefore : ControlMessage → List UInt8 → Prop
  | discoverReq _ _ _ _ none, trailing => trailing.length < 4
  | discoverReq _ _ _ _ (some _), _ => True
  | discoverResp _ _ _ (.front _), trailing => trailing.length < pubKeySize - 8
  | discoverResp _ _ _ (.full _), _ => True

end ControlMessage

/-! ## Single bytes -/

theorem kind_reqFlags (reserved : Fin 8) (prefixOnly : Bool) :
    ControlMessage.reqFlags reserved prefixOnly &&& 0xF0 = 0x80 ∧
      (ControlMessage.reqFlags reserved prefixOnly &&& 0x01 ≠ 0 ↔
        prefixOnly = true) := by
  revert reserved prefixOnly
  decide

theorem kind_respFlags (nodeType : Fin 16) :
    ControlMessage.respFlags nodeType &&& 0xF0 = 0x90 ∧
      ControlMessage.respFlags nodeType &&& 0x0F =
        UInt8.ofNat nodeType.val := by
  revert nodeType
  decide

theorem exists_reqFlags (flags : UInt8) (hkind : flags &&& 0xF0 = 0x80) :
    ∃ reserved prefixOnly,
      flags = ControlMessage.reqFlags reserved prefixOnly := by
  revert hkind
  apply forall_uint8 (P := fun flags => flags &&& 0xF0 = 0x80 →
    ∃ reserved prefixOnly,
      flags = ControlMessage.reqFlags reserved prefixOnly)
  decide +kernel

theorem exists_respFlags (flags : UInt8) (hkind : flags &&& 0xF0 = 0x90) :
    ∃ nodeType, flags = ControlMessage.respFlags nodeType := by
  revert hkind
  apply forall_uint8 (P := fun flags => flags &&& 0xF0 = 0x90 →
    ∃ nodeType, flags = ControlMessage.respFlags nodeType)
  decide +kernel

theorem asI8_toUInt8 (snrQuarters : Int8) :
    asI8 snrQuarters.toUInt8 = snrQuarters.toInt := by
  have hbyte : ∀ byte : UInt8, asI8 byte = byte.toInt8.toInt := by
    apply forall_uint8
    decide +kernel
  rw [hbyte, Int8.toInt8_toUInt8]

theorem u32FromLeBytes_u32ToLeBytes (number : UInt32) :
    u32FromLeBytes (u32ToLeBytes number) = number.toNat := by
  have hlt := number.toNat_lt
  simp only [u32FromLeBytes, u32ToLeBytes, List.foldr_cons, List.foldr_nil,
    UInt8.toNat_ofNat']
  omega

theorem exists_u32ToLeBytes {bytes : List UInt8} (hlength : bytes.length = 4) :
    ∃ number, bytes = u32ToLeBytes number := by
  rcases bytes with _ | ⟨first, _ | ⟨second, _ | ⟨third, _ | ⟨fourth, rest⟩⟩⟩⟩
  case cons.cons.cons.cons =>
    have hrest : rest = [] := by simpa using hlength
    have hfirst := first.toNat_lt
    have hsecond := second.toNat_lt
    have hthird := third.toNat_lt
    have hfourth := fourth.toNat_lt
    use UInt32.ofNat (u32FromLeBytes [first, second, third, fourth])
    simp only [hrest, u32ToLeBytes, u32FromLeBytes, List.foldr_cons,
      List.foldr_nil, UInt32.toNat_ofNat', List.cons.injEq, and_true]
    refine ⟨?_, ?_, ?_, ?_⟩ <;> apply UInt8.toNat_inj.mp <;>
      rw [UInt8.toNat_ofNat'] <;> omega
  all_goals cases hlength

/-! ## Reading -/

section Reading

variable (tag : Vector UInt8 4) (rest : List UInt8)

theorem take_tag : (tag.toList ++ rest).take 4 = tag.toList := by
  rw [List.take_append_of_le_length (by simp), List.take_of_length_le (by simp)]

theorem drop_tag (flags second : UInt8) :
    (flags :: second :: (tag.toList ++ rest)).drop 6 = rest := by
  simp

theorem length_control (flags second : UInt8) :
    (flags :: second :: (tag.toList ++ rest)).length = rest.length + 6 := by
  simp
  omega

theorem decodeControlPayload_req
    (reserved : Fin 8) (prefixOnly : Bool) (typeFilter : UInt8) :
    decodeControlPayload .control 0
        (ControlMessage.reqFlags reserved prefixOnly :: typeFilter ::
          (tag.toList ++ rest)) =
      some (.discoverReq prefixOnly typeFilter (hexEncode tag.toList)
        (if 4 ≤ rest.length then some (u32FromLeBytes (rest.take 4))
        else none)) := by
  obtain ⟨hkind, hprefixOnly⟩ := kind_reqFlags reserved prefixOnly
  have hlong : ¬ rest.length + 6 < 6 := by omega
  have hsince : (10 ≤ rest.length + 6) = (4 ≤ rest.length) :=
    propext ⟨fun _ => by omega, fun _ => by omega⟩
  have hbit : decide (ControlMessage.reqFlags reserved prefixOnly &&& 0x01 ≠
      0) = prefixOnly := by
    rw [Bool.eq_iff_iff, decide_eq_true_eq]
    exact hprefixOnly
  unfold decodeControlPayload
  simp only [length_control, if_neg hlong, take_tag, hkind, drop_tag, ge_iff_le,
    hsince, hbit, ne_eq, not_true_eq_false, or_self, if_false, if_true]

theorem decodeControlPayload_resp
    (nodeType : Fin 16) (snrQuarters : Int8) :
    decodeControlPayload .control 0
        (ControlMessage.respFlags nodeType :: snrQuarters.toUInt8 ::
          (tag.toList ++ rest)) =
      if pubKeySize ≤ rest.length then
        some (.discoverResp (advTypeName (UInt8.ofNat nodeType.val))
          (snrQuarters.toInt / 4) (hexEncode tag.toList)
          (hexEncode (rest.take pubKeySize)))
      else if 8 ≤ rest.length then
        some (.discoverResp (advTypeName (UInt8.ofNat nodeType.val))
          (snrQuarters.toInt / 4) (hexEncode tag.toList)
          (hexEncode (rest.take 8)))
      else none := by
  obtain ⟨hkind, hnodeType⟩ := kind_respFlags nodeType
  have hlong : ¬ rest.length + 6 < 6 := by omega
  have hother : ¬ (0x90 : UInt8) = 0x80 := by decide
  have hfull : (6 + pubKeySize ≤ rest.length + 6) =
      (pubKeySize ≤ rest.length) :=
    propext ⟨fun _ => by omega, fun _ => by omega⟩
  have hfront : (6 + 8 ≤ rest.length + 6) = (8 ≤ rest.length) :=
    propext ⟨fun _ => by omega, fun _ => by omega⟩
  unfold decodeControlPayload
  simp only [length_control, if_neg hlong, take_tag, hkind, if_neg hother,
    drop_tag, ge_iff_le, hfull, hfront, hnodeType, asI8_toUInt8, ne_eq,
    not_true_eq_false, or_self, if_false, if_true]

end Reading

/-! ## Keys -/

namespace ControlKey

theorem length_bytes_front (front : Vector UInt8 8) :
    (ControlKey.front front).bytes.length = 8 :=
  front.length_toList

theorem length_bytes_full (full : Vector UInt8 32) :
    (ControlKey.full full).bytes.length = pubKeySize :=
  full.length_toList

theorem take_length_bytes (key : ControlKey) (trailing : List UInt8) :
    (key.bytes ++ trailing).take key.bytes.length = key.bytes := by
  simp

end ControlKey

/-! ## Messages -/

/-- A message which is sent is the message which is shown. -/
theorem ControlMessage.decodeControlPayload_encode
    (message : ControlMessage) {trailing : List UInt8}
    (hends : message.EndsBefore trailing) :
    decodeControlPayload .control 0 (message.encode ++ trailing) =
      some message.shown := by
  rcases message with ⟨reserved, prefixOnly, typeFilter, tag, since⟩ |
    ⟨nodeType, snrQuarters, tag, pubkey⟩
  · rcases since with _ | since
    · have hshort : ¬ 4 ≤ trailing.length := by
        simp only [EndsBefore] at hends
        omega
      simp only [encode, List.cons_append, List.append_assoc]
      rw [decodeControlPayload_req]
      simp [shown, hshort]
    · have hlong : 4 ≤ (u32ToLeBytes since ++ trailing).length := by
        simp [u32ToLeBytes]
      have htake : (u32ToLeBytes since ++ trailing).take 4 =
          u32ToLeBytes since := rfl
      simp only [encode, List.cons_append, List.append_assoc, Option.map_some,
        Option.getD_some]
      rw [decodeControlPayload_req, if_pos hlong, htake,
        u32FromLeBytes_u32ToLeBytes]
      rfl
  · simp only [encode, List.cons_append, List.append_assoc]
    rw [decodeControlPayload_resp]
    rcases pubkey with front | full
    · have hlength := ControlKey.length_bytes_front front
      have htake := ControlKey.take_length_bytes (.front front) trailing
      have hends : trailing.length < pubKeySize - 8 := hends
      have hfront :
          8 ≤ ((ControlKey.front front).bytes ++ trailing).length := by
        simp [hlength]
      have hshort : ¬ pubKeySize ≤
          ((ControlKey.front front).bytes ++ trailing).length := by
        simp only [List.length_append, hlength]
        omega
      rw [hlength] at htake
      rw [if_neg hshort, if_pos hfront, htake]
      rfl
    · have hlength := ControlKey.length_bytes_full full
      have htake := ControlKey.take_length_bytes (.full full) trailing
      have hfull : pubKeySize ≤
          ((ControlKey.full full).bytes ++ trailing).length := by
        simp [hlength]
      rw [hlength] at htake
      rw [if_pos hfull, htake]
      rfl

theorem exists_tag {bytes : List UInt8} (hlength : 4 ≤ bytes.length) :
    ∃ (tag : Vector UInt8 4) (rest : List UInt8), bytes = tag.toList ++ rest := by
  use ⟨(bytes.take 4).toArray, by simp [hlength]⟩, bytes.drop 4
  exact (List.take_append_drop 4 bytes).symm

/-- Only what has a tag and one of the two sub-types is read. -/
theorem exists_parts_of_decodeControlPayload
    {payload : List UInt8} {info : ControlPayloadInfo}
    (hread : decodeControlPayload .control 0 payload = some info) :
    ∃ (flags second : UInt8) (tag : Vector UInt8 4) (rest : List UInt8),
      payload = flags :: second :: (tag.toList ++ rest) ∧
        (flags &&& 0xF0 = 0x80 ∨ flags &&& 0xF0 = 0x90) := by
  rcases payload with _ | ⟨flags, _ | ⟨second, bytes⟩⟩
  · simp [decodeControlPayload] at hread
  · simp [decodeControlPayload] at hread
  · have htag : 4 ≤ bytes.length := by
      by_contra hshort
      simp [decodeControlPayload, hshort] at hread
    obtain ⟨tag, rest, rfl⟩ := exists_tag htag
    refine ⟨flags, second, tag, rest, rfl, ?_⟩
    by_contra hkind
    rw [not_or] at hkind
    simp [decodeControlPayload, hkind] at hread

theorem exists_discoverReq
    {flags : UInt8} (hkind : flags &&& 0xF0 = 0x80) (typeFilter : UInt8)
    (tag : Vector UInt8 4) (rest : List UInt8) :
    ∃ (message : ControlMessage) (trailing : List UInt8),
      flags :: typeFilter :: (tag.toList ++ rest) =
          message.encode ++ trailing ∧
        message.EndsBefore trailing := by
  obtain ⟨reserved, prefixOnly, rfl⟩ := exists_reqFlags flags hkind
  rcases Nat.lt_or_ge rest.length 4 with hshort | hlong
  · use .discoverReq reserved prefixOnly typeFilter tag none, rest
    constructor
    · simp [ControlMessage.encode]
    · exact hshort
  · have hlength : (rest.take 4).length = 4 := by simp [hlong]
    obtain ⟨since, hsince⟩ := exists_u32ToLeBytes hlength
    use .discoverReq reserved prefixOnly typeFilter tag (some since),
      rest.drop 4
    constructor
    · simp only [ControlMessage.encode, Option.map_some, Option.getD_some,
        ← hsince, List.cons_append, List.append_assoc, List.take_append_drop]
    · trivial

theorem exists_discoverResp
    {flags : UInt8} (hkind : flags &&& 0xF0 = 0x90) (snr : UInt8)
    (tag : Vector UInt8 4) {rest : List UInt8} (hfront : 8 ≤ rest.length) :
    ∃ (message : ControlMessage) (trailing : List UInt8),
      flags :: snr :: (tag.toList ++ rest) = message.encode ++ trailing ∧
        message.EndsBefore trailing := by
  obtain ⟨nodeType, rfl⟩ := exists_respFlags flags hkind
  rcases Nat.lt_or_ge rest.length pubKeySize with hshort | hfull
  · use .discoverResp nodeType snr.toInt8 tag
        (.front ⟨(rest.take 8).toArray, by simp [hfront]⟩), rest.drop 8
    constructor
    · simp [ControlMessage.encode, ControlKey.bytes]
    · simp only [ControlMessage.EndsBefore, List.length_drop]
      omega
  · use .discoverResp nodeType snr.toInt8 tag
        (.full ⟨(rest.take pubKeySize).toArray, by
          simpa [pubKeySize] using hfull⟩), rest.drop pubKeySize
    constructor
    · simp [ControlMessage.encode, ControlKey.bytes]
    · trivial

/-- Whatever is read is a message of the documented layout. -/
theorem exists_message_of_decodeControlPayload
    {payload : List UInt8} {info : ControlPayloadInfo}
    (hread : decodeControlPayload .control 0 payload = some info) :
    ∃ (message : ControlMessage) (trailing : List UInt8),
      payload = message.encode ++ trailing ∧ message.EndsBefore trailing := by
  obtain ⟨flags, second, tag, rest, rfl, hreq | hresp⟩ :=
    exists_parts_of_decodeControlPayload hread
  · exact exists_discoverReq hreq second tag rest
  · have hfront : 8 ≤ rest.length := by
      by_contra hshort
      obtain ⟨nodeType, rfl⟩ := exists_respFlags flags hresp
      have hsecond : second.toInt8.toUInt8 = second := rfl
      have hnotFull : ¬ pubKeySize ≤ rest.length := by
        simp only [pubKeySize]
        omega
      rw [← hsecond, decodeControlPayload_resp, if_neg hnotFull,
        if_neg hshort] at hread
      cases hread
    exact exists_discoverResp hresp second tag hfront

theorem decodeControlPayload_isSome
    {payloadType : PayloadType} {payloadVersion : UInt8} {payload : List UInt8}
    {info : ControlPayloadInfo}
    (hread : decodeControlPayload payloadType payloadVersion payload =
      some info) :
    payloadType = .control ∧ payloadVersion = 0 := by
  unfold decodeControlPayload at hread
  split at hread
  · cases hread
  · next hpasses => simpa [not_or] using hpasses

/-! ## One message only -/

theorem reqFlags_inj
    {reserved reserved' : Fin 8} {prefixOnly prefixOnly' : Bool}
    (hflags : ControlMessage.reqFlags reserved prefixOnly =
      ControlMessage.reqFlags reserved' prefixOnly') :
    reserved = reserved' ∧ prefixOnly = prefixOnly' := by
  revert reserved reserved' prefixOnly prefixOnly'
  decide

theorem respFlags_inj
    {nodeType nodeType' : Fin 16}
    (hflags : ControlMessage.respFlags nodeType =
      ControlMessage.respFlags nodeType') :
    nodeType = nodeType' := by
  revert nodeType nodeType'
  decide

theorem reqFlags_ne_respFlags
    (reserved : Fin 8) (prefixOnly : Bool) (nodeType : Fin 16) :
    ControlMessage.reqFlags reserved prefixOnly ≠
      ControlMessage.respFlags nodeType := by
  revert reserved prefixOnly nodeType
  decide

theorem tag_append_inj
    {tag tag' : Vector UInt8 4} {rest rest' : List UInt8}
    (heq : tag.toList ++ rest = tag'.toList ++ rest') :
    tag = tag' ∧ rest = rest' := by
  obtain ⟨htag, hrest⟩ := List.append_inj heq (by simp)
  exact ⟨Vector.toList_inj.mp htag, hrest⟩

theorem u32ToLeBytes_append_inj
    {since since' : UInt32} {rest rest' : List UInt8}
    (heq : u32ToLeBytes since ++ rest = u32ToLeBytes since' ++ rest') :
    since = since' := by
  obtain ⟨hsince, -⟩ := List.append_inj heq rfl
  apply UInt32.toNat_inj.mp
  rw [← u32FromLeBytes_u32ToLeBytes since, hsince, u32FromLeBytes_u32ToLeBytes]

theorem unique_since
    {since since' : Option UInt32} {trailing trailing' : List UInt8}
    (hends : since = none → trailing.length < 4)
    (hends' : since' = none → trailing'.length < 4)
    (heq : (since.map u32ToLeBytes).getD [] ++ trailing =
      (since'.map u32ToLeBytes).getD [] ++ trailing') :
    since = since' := by
  have hlength := congrArg List.length heq
  rcases since with _ | since <;> rcases since' with _ | since'
  · rfl
  · have hshort := hends rfl
    simp [u32ToLeBytes] at hlength
    omega
  · have hshort := hends' rfl
    simp [u32ToLeBytes] at hlength
    omega
  · rw [u32ToLeBytes_append_inj heq]

theorem unique_pubkey
    {pubkey pubkey' : ControlKey} {trailing trailing' : List UInt8}
    (hends : ∀ front, pubkey = .front front →
      trailing.length < pubKeySize - 8)
    (hends' : ∀ front, pubkey' = .front front →
      trailing'.length < pubKeySize - 8)
    (heq : pubkey.bytes ++ trailing = pubkey'.bytes ++ trailing') :
    pubkey = pubkey' := by
  have hlength := congrArg List.length heq
  rcases pubkey with front | full <;> rcases pubkey' with front' | full'
  · obtain ⟨hfront, -⟩ := List.append_inj heq (by simp [ControlKey.bytes])
    rw [Vector.toList_inj.mp hfront]
  · have hshort := hends front rfl
    simp only [List.length_append, ControlKey.length_bytes_front,
      ControlKey.length_bytes_full] at hlength
    simp only [pubKeySize] at hlength hshort
    omega
  · have hshort := hends' front' rfl
    simp only [List.length_append, ControlKey.length_bytes_front,
      ControlKey.length_bytes_full] at hlength
    simp only [pubKeySize] at hlength hshort
    omega
  · obtain ⟨hfull, -⟩ := List.append_inj heq (by simp [ControlKey.bytes])
    rw [Vector.toList_inj.mp hfull]

theorem unique_message
    {message message' : ControlMessage} {trailing trailing' : List UInt8}
    (hends : message.EndsBefore trailing)
    (hends' : message'.EndsBefore trailing')
    (heq : message.encode ++ trailing = message'.encode ++ trailing') :
    message = message' := by
  rcases message with ⟨reserved, prefixOnly, typeFilter, tag, since⟩ |
      ⟨nodeType, snrQuarters, tag, pubkey⟩ <;>
    rcases message' with ⟨reserved', prefixOnly', typeFilter', tag', since'⟩ |
      ⟨nodeType', snrQuarters', tag', pubkey'⟩ <;>
    simp only [ControlMessage.encode, List.cons_append, List.append_assoc,
      List.cons.injEq] at heq <;>
    obtain ⟨hflags, hsecond, hrest⟩ := heq
  · obtain ⟨rfl, rfl⟩ := reqFlags_inj hflags
    obtain ⟨rfl, hsince⟩ := tag_append_inj hrest
    have heqSince := unique_since (fun hnone => by subst hnone; exact hends)
      (fun hnone => by subst hnone; exact hends') hsince
    rw [hsecond, heqSince]
  · exact absurd hflags (reqFlags_ne_respFlags _ _ _)
  · exact absurd hflags.symm (reqFlags_ne_respFlags _ _ _)
  · obtain ⟨rfl⟩ := respFlags_inj hflags
    obtain ⟨rfl, hpubkey⟩ := tag_append_inj hrest
    have heqPubkey := unique_pubkey
      (fun front hfront => by subst hfront; exact hends)
      (fun front hfront => by subst hfront; exact hends') hpubkey
    have hsnr : snrQuarters = snrQuarters' := by
      rw [← Int8.toInt8_toUInt8 snrQuarters, hsecond, Int8.toInt8_toUInt8]
    rw [hsnr, heqPubkey]

/-- A control payload is shown as the one message it starts with, and what
does not start with a message is not shown. -/
theorem decodeControlPayload_iff_encoded
    (payloadType : PayloadType) (payloadVersion : UInt8) (payload : List UInt8)
    (info : ControlPayloadInfo) :
    decodeControlPayload payloadType payloadVersion payload = some info ↔
      payloadType = .control ∧ payloadVersion = 0 ∧
        ∃ (message : ControlMessage) (trailing : List UInt8),
          payload = message.encode ++ trailing ∧
            message.EndsBefore trailing ∧ message.shown = info ∧
            ∀ (message' : ControlMessage) (trailing' : List UInt8),
              payload = message'.encode ++ trailing' →
                message'.EndsBefore trailing' → message' = message := by
  constructor
  · intro hread
    obtain ⟨rfl, rfl⟩ := decodeControlPayload_isSome hread
    obtain ⟨message, trailing, rfl, hends⟩ :=
      exists_message_of_decodeControlPayload hread
    rw [message.decodeControlPayload_encode hends] at hread
    refine ⟨rfl, rfl, message, trailing, rfl, hends, Option.some.inj hread, ?_⟩
    intro message' trailing' heq hends'
    exact unique_message hends' hends heq.symm
  · rintro ⟨rfl, rfl, message, trailing, rfl, hends, rfl, -⟩
    exact message.decodeControlPayload_encode hends

end MeshController
