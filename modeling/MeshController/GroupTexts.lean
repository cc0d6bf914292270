import MeshController.CompanionNode
import MeshController.MeshcoreCrypto
import MeshController.RawPacket

/-!
# Group texts

A group text carries the hash byte of its channel, a truncated code and the
encrypted message.  It is tried with every channel whose key is known and whose
hash byte it has, so that a text which the firmware encoded for one of them is
read as it was written, if no earlier channel takes it.
-/

namespace MeshController

open BlockMap HexEncoding

def publicChannelName : String := "Public"

/-- The key of the well-known channel, the same in every firmware. -/
def publicChannelPsk : Vector UInt8 16 :=
  #v[0x8b, 0x33, 0x87, 0xe9, 0xc5, 0xcd, 0xea, 0x6a, 0xc9, 0xe5, 0xed, 0xba,
    0xa1, 0x15, 0xcd, 0x72]

structure DecodedChannelText where
  channelName : String
  text : String
deriving DecidableEq

/-- A candidate: its name, its shared secret and its hash byte. -/
structure ChannelKey where
  name : String
  secret : Vector UInt8 32
  hash : UInt8

/-- The text behind a timestamp and a type, up to its terminator if there is
one. -/
def parseGroupTextPlaintext : List UInt8 → Option String
  | _ :: _ :: _ :: _ :: txtType :: text =>
      if txtType >>> 2 ≠ 0 then none
      else some (Utf8Lossy.decode (text.takeWhile fun byte => byte ≠ 0))
  | _ => none

section Decoding

variable [HashFunctions]

def ChannelKey.ofPsk (name : String) (psk : Vector UInt8 16) : ChannelKey :=
  let secretAndHash := groupChannelSecretAndHash psk.toList
  { name := name, secret := secretAndHash.1, hash := secretAndHash.2 }

def precomputeChannelKeys (hashtagChannels : List String) : List ChannelKey :=
  .ofPsk publicChannelName publicChannelPsk ::
    hashtagChannels.map fun name => .ofPsk name (hashtagChannelKey name)

variable [BlockDecrypt]

/-- What a candidate makes of the bytes behind the hash byte. -/
def ChannelKey.read (key : ChannelKey) (macAndCiphertext : List UInt8) :
    Option String :=
  (macThenDecrypt key.secret macAndCiphertext).bind parseGroupTextPlaintext

def ChannelKey.decode
    (key : ChannelKey) (channelHash : UInt8) (macAndCiphertext : List UInt8) :
    Option DecodedChannelText :=
  if channelHash ≠ key.hash then none
  else
    (key.read macAndCiphertext).map fun text =>
      { channelName := key.name, text := text }

/-- Every candidate is tried, in their order. -/
def decodeGroupText [HexDecoder]
    (entry : PacketLogEntry) (channelKeys : List ChannelKey) :
    Option DecodedChannelText := do
  let header ← entry.header
  if header.payloadType ≠ "GroupText" ∨ header.payloadVersion ≠ 0 then none
  else
    let payload ← (HexDecoder.hexDecode entry.payloadHex).toOption
    match payload with
    | [] => none
    | channelHash :: macAndCiphertext =>
        channelKeys.findSome? fun key =>
          key.decode channelHash macAndCiphertext

end Decoding

/-! ## The documented encoding -/

/-- `Aes128::encrypt_block` under a key. -/
class BlockEncrypt where
  encryptBlock : Vector UInt8 16 → Vector UInt8 16 → Vector UInt8 16

/-- Decryption inverts encryption, block by block. -/
def DecryptInvertsEncrypt [BlockDecrypt] [BlockEncrypt] : Prop :=
  ∀ key block, BlockDecrypt.decryptBlock key
    (BlockEncrypt.encryptBlock key block) = block

/-- What a user sends: a supported type, and a text without the terminator. -/
structure GroupMessage where
  timestamp : UInt32
  txtType : UInt8
  text : String
  supported : txtType < 4
  nulFree : Char.ofNat 0 ∉ text.toList

def u32ToLeBytes (number : UInt32) : List UInt8 :=
  [UInt8.ofNat number.toNat, UInt8.ofNat (number.toNat / 256),
    UInt8.ofNat (number.toNat / 256 ^ 2), UInt8.ofNat (number.toNat / 256 ^ 3)]

def GroupMessage.plaintext (message : GroupMessage) : List UInt8 :=
  fillUp 0 cipherKeySize
    (u32ToLeBytes message.timestamp ++
      message.txtType :: Utf8Lossy.bytes message.text)

/-- A channel as its users know it. -/
structure ChatChannel where
  name : String
  psk : Vector UInt8 16

section Encoding

variable [HashFunctions]

/-- The well-known channel, and the hashtag channels. -/
def chatChannels (hashtagChannels : List String) : List ChatChannel :=
  ⟨publicChannelName, publicChannelPsk⟩ ::
    hashtagChannels.map fun name => ⟨name, hashtagChannelKey name⟩

/-- The key in the buffer of the firmware, which is filled up with zeros. -/
def ChatChannel.secret (channel : ChatChannel) : Vector UInt8 32 :=
  padded 0 32 channel.psk.toList

def ChatChannel.hash (channel : ChatChannel) : UInt8 :=
  (HashFunctions.sha256 channel.psk.toList).get 0

def ChatChannel.key (channel : ChatChannel) : ChannelKey :=
  ⟨channel.name, channel.secret, channel.hash⟩

variable [BlockEncrypt]

def ChatChannel.ciphertext
    (channel : ChatChannel) (message : GroupMessage) : List UInt8 :=
  mapBlocks cipherKeySize
    (fun block =>
      (BlockEncrypt.encryptBlock channel.psk (padded 0 16 block)).toList)
    (message.plaintext.length / cipherKeySize) message.plaintext

/-- Code and ciphertext, behind the hash byte. -/
def ChatChannel.body
    (channel : ChatChannel) (message : GroupMessage) : List UInt8 :=
  expectedMac channel.secret (channel.ciphertext message) ++
    channel.ciphertext message

def ChatChannel.encode
    (channel : ChatChannel) (message : GroupMessage) : List UInt8 :=
  channel.hash :: channel.body message

end Encoding

/-! ## Decoding undoes the encoding -/

theorem shiftRight_two_of_lt {txtType : UInt8} (hsupported : txtType < 4) :
    txtType >>> 2 = 0 := by
  have hlt : txtType.toNat < 4 := UInt8.lt_iff_toNat_lt.mp hsupported
  apply UInt8.toNat_inj.mp
  rw [UInt8.toNat_shiftRight]
  change txtType.toNat >>> (2 % 8) = 0
  rw [Nat.shiftRight_eq_div_pow]
  exact Nat.div_eq_of_lt hlt

/-- The terminator, or the end of the last block, ends the text. -/
theorem takeWhile_filled (text : List UInt8) (count : ℕ)
    (hnull : (0 : UInt8) ∉ text) :
    (text ++ List.replicate count 0).takeWhile (fun byte => byte ≠ 0) =
      text := by
  rw [List.takeWhile_append_of_pos]
  · simp
  · intro byte hmem
    rw [decide_eq_true_eq]
    rintro rfl
    exact hnull hmem

theorem parse_plaintext (message : GroupMessage) :
    parseGroupTextPlaintext message.plaintext = some message.text := by
  have htext := takeWhile_filled (Utf8Lossy.bytes message.text)
    ((cipherKeySize - (u32ToLeBytes message.timestamp ++
      message.txtType :: Utf8Lossy.bytes message.text).length %
        cipherKeySize) % cipherKeySize)
    (Utf8Lossy.zero_not_mem_bytes message.nulFree)
  unfold GroupMessage.plaintext fillUp
  rw [u32ToLeBytes] at htext ⊢
  simp only [List.cons_append, List.nil_append, parseGroupTextPlaintext,
    shiftRight_two_of_lt message.supported, ne_eq, not_true_eq_false,
    if_false]
  simp only [ne_eq, List.cons_append, List.nil_append] at htext
  rw [htext, Utf8Lossy.decode_bytes]

section RoundTrip

variable [HashFunctions]

theorem ofPsk_eq_key (channel : ChatChannel) :
    ChannelKey.ofPsk channel.name channel.psk = channel.key := by
  have htake : channel.psk.toList.take 32 = channel.psk.toList := by
    rw [List.take_of_length_le]
    simp
  unfold ChannelKey.ofPsk groupChannelSecretAndHash
  simp only [htake]
  rfl

theorem precomputeChannelKeys_eq (hashtagChannels : List String) :
    precomputeChannelKeys hashtagChannels =
      (chatChannels hashtagChannels).map ChatChannel.key := by
  have hmap : precomputeChannelKeys hashtagChannels =
      (chatChannels hashtagChannels).map fun channel =>
        .ofPsk channel.name channel.psk := by
    simp [precomputeChannelKeys, chatChannels]
  rw [hmap]
  exact List.map_congr_left fun channel _ => ofPsk_eq_key channel

omit [HashFunctions] in
/-- The cipher's key is the front of the secret, which is the channel's key. -/
theorem padded_secret (channel : ChatChannel) :
    padded 0 16 channel.secret.toList = channel.psk := by
  apply Vector.ext
  intro i hi
  have hwide : i < 32 := by omega
  simp [padded, ChatChannel.secret, hwide]

variable [BlockEncrypt]

omit [HashFunctions] in
theorem length_ciphertext (channel : ChatChannel) (message : GroupMessage) :
    (channel.ciphertext message).length = message.plaintext.length := by
  have hdvd : cipherKeySize ∣ message.plaintext.length :=
    dvd_length_fillUp 0 (by decide) _
  have hblocks := Nat.mul_div_cancel' hdvd
  unfold ChatChannel.ciphertext
  rw [length_mapBlocks _ hblocks.symm, hblocks]
  intro block _
  simp [cipherKeySize]

variable [BlockDecrypt]

omit [HashFunctions] in
theorem decryptBlocks_ciphertext
    (hinverts : DecryptInvertsEncrypt)
    (channel : ChatChannel) (message : GroupMessage) :
    decryptBlocks channel.secret (channel.ciphertext message) =
      message.plaintext := by
  have hdvd : cipherKeySize ∣ message.plaintext.length :=
    dvd_length_fillUp 0 (by decide) _
  unfold decryptBlocks
  rw [length_ciphertext, padded_secret, ChatChannel.ciphertext]
  apply mapBlocks_mapBlocks
  · intro block _
    simp [cipherKeySize]
  · intro block hlength
    rw [padded_toList, hinverts]
    exact toList_padded 0 hlength
  · exact (Nat.mul_div_cancel' hdvd).symm

theorem read_body
    (hinverts : DecryptInvertsEncrypt)
    (channel : ChatChannel) (message : GroupMessage) :
    channel.key.read (channel.body message) = some message.text := by
  have hdvd : cipherKeySize ∣ (channel.ciphertext message).length := by
    rw [length_ciphertext]
    exact dvd_length_fillUp 0 (by decide) _
  have hnonempty : channel.ciphertext message ≠ [] := by
    rw [← List.length_pos_iff, length_ciphertext, GroupMessage.plaintext,
      fillUp, List.length_append, List.length_append, List.length_cons]
    omega
  unfold ChannelKey.read ChatChannel.body ChatChannel.key
  simp only
  rw [macThenDecrypt_append hnonempty hdvd, decryptBlocks_ciphertext hinverts,
    Option.bind_some, parse_plaintext]

omit [BlockEncrypt] in
theorem decode_eq_none
    {channel : ChatChannel} {channelHash : UInt8}
    {macAndCiphertext : List UInt8}
    (hsilent : channelHash = channel.hash →
      channel.key.read macAndCiphertext = none) :
    channel.key.decode channelHash macAndCiphertext = none := by
  unfold ChannelKey.decode
  by_cases hhash : channelHash = channel.hash
  · rw [hsilent hhash, Option.map_none, ite_self]
  · exact if_pos hhash

omit [BlockEncrypt] in
theorem read_of_not_verifies
    {key : ChannelKey} {macAndCiphertext : List UInt8}
    (hnot : ¬ MacVerifies key.secret macAndCiphertext) :
    key.read macAndCiphertext = none := by
  rw [ChannelKey.read, macThenDecrypt_of_not_verifies hnot, Option.bind_none]

theorem decode_encoded
    (hinverts : DecryptInvertsEncrypt)
    (channel : ChatChannel) (message : GroupMessage) :
    channel.key.decode channel.hash (channel.body message) =
      some { channelName := channel.name, text := message.text } := by
  have hown : ¬ channel.hash ≠ channel.key.hash := not_not_intro rfl
  rw [ChannelKey.decode, if_neg hown, read_body hinverts]
  rfl

theorem findSome?_decode_encoded
    (hinverts : DecryptInvertsEncrypt) {before after : List ChatChannel}
    {channel : ChatChannel} {message : GroupMessage}
    (hearlier : ∀ other ∈ before, channel.hash = other.hash →
      other.key.read (channel.body message) = none) :
    ((before ++ channel :: after).map ChatChannel.key).findSome? (fun key =>
      key.decode channel.hash (channel.body message)) =
        some { channelName := channel.name, text := message.text } := by
  have hbefore : (before.map ChatChannel.key).findSome? (fun key =>
      key.decode channel.hash (channel.body message)) = none := by
    rw [List.findSome?_eq_none_iff]
    intro key hmem
    rcases List.mem_map.mp hmem with ⟨other, hother, rfl⟩
    exact decode_eq_none (hearlier other hother)
  rw [List.map_append, List.map_cons, List.findSome?_append, hbefore,
    Option.none_or, List.findSome?_cons, decode_encoded hinverts]

section Entries

variable [MeshcoreRs] [HexDecoder]

omit [BlockEncrypt] in
/-- Only the payload of a group text of the first version is tried. -/
theorem decodeGroupText_of_entry
    (hdecodes : DecodesHex) {event : MeshCoreEvent} {id : ℕ} {nowUnix : ℤ}
    {entry : PacketLogEntry}
    (hbuild : buildPacketLogEntry event id nowUnix = some entry)
    {log : LogData} (hevent : event.payload = .logData log)
    (channelKeys : List ChannelKey) :
    decodeGroupText entry channelKeys =
      if log.header.any fun header =>
        header.payloadType = .groupText ∧ header.payloadVersion = 0 then
        match log.payload with
        | [] => none
        | channelHash :: macAndCiphertext =>
            channelKeys.findSome? fun key =>
              key.decode channelHash macAndCiphertext
      else none := by
  unfold buildPacketLogEntry at hbuild
  simp only [hevent, Option.some.injEq] at hbuild
  unfold decodeGroupText
  rw [← hbuild]
  cases hheader : log.header with
  | none => simp
  | some header =>
      have hname : header.payloadType.debugName = "GroupText" ↔
          header.payloadType = .groupText := by
        cases header.payloadType <;> simp [PayloadType.debugName]
      by_cases hgroup : header.payloadType = .groupText ∧
          header.payloadVersion = 0
      · simp only [packetHeaderInfo, hgroup, PayloadType.debugName,
          hexDecode_hexEncode hdecodes, Except.toOption, Option.map_some,
          Option.bind_eq_bind, Option.bind_some, ne_eq, not_true_eq_false,
          or_self, if_false, and_self, decide_true, Option.any_some, if_true]
      · have hother : header.payloadType.debugName ≠ "GroupText" ∨
            header.payloadVersion ≠ 0 := by
          rw [ne_eq, hname]
          exact not_and_or.mp hgroup
        simp [packetHeaderInfo, hgroup, hother]

/-- What the firmware encodes for a known channel is decoded as it was
written, under the name of the channel, unless an earlier channel with the same
hash byte reads something else into it; and nothing is decoded if no channel
with the hash byte of the payload verifies its code. -/
theorem decodeGroupText_of_encoded
    (hdecodes : DecodesHex) (hinverts : DecryptInvertsEncrypt)
    (hashtagChannels : List String) {event : MeshCoreEvent} {id : ℕ}
    {nowUnix : ℤ} {entry : PacketLogEntry}
    (hbuild : buildPacketLogEntry event id nowUnix = some entry)
    {log : LogData} (hevent : event.payload = .logData log) :
    (∀ (header : MeshPacketHeader) (before after : List ChatChannel)
      (channel : ChatChannel) (message : GroupMessage),
        log.header = some header →
        header.payloadType = .groupText → header.payloadVersion = 0 →
        chatChannels hashtagChannels = before ++ channel :: after →
        log.payload = channel.encode message →
        (∀ other ∈ before, channel.hash = other.hash →
          other.key.read (channel.body message) = none) →
        decodeGroupText entry (precomputeChannelKeys hashtagChannels) =
          some { channelName := channel.name, text := message.text }) ∧
      ((∀ channel ∈ chatChannels hashtagChannels,
        log.payload.head? = some channel.hash →
          ¬ MacVerifies channel.secret log.payload.tail) →
        decodeGroupText entry (precomputeChannelKeys hashtagChannels) =
          none) := by
  constructor
  · intro header before after channel message hheader htype hversion hchannels
      hpayload hearlier
    have hgroup : log.header.any fun header =>
        header.payloadType = .groupText ∧ header.payloadVersion = 0 := by
      simp [hheader, htype, hversion]
    rw [decodeGroupText_of_entry hdecodes hbuild hevent, if_pos hgroup,
      hpayload, ChatChannel.encode, precomputeChannelKeys_eq, hchannels]
    exact findSome?_decode_encoded hinverts hearlier
  · intro hnone
    rw [decodeGroupText_of_entry hdecodes hbuild hevent]
    split
    · cases hpayload : log.payload with
      | nil => rfl
      | cons channelHash macAndCiphertext =>
          rw [precomputeChannelKeys_eq, List.findSome?_eq_none_iff]
          intro key hmem
          rcases List.mem_map.mp hmem with ⟨channel, hchannel, rfl⟩
          apply decode_eq_none
          intro hhash
          have hnot := hnone channel hchannel (by simp [hpayload, hhash])
          rw [hpayload] at hnot
          exact read_of_not_verifies hnot
    · rfl

end Entries

end RoundTrip

/-! ## One message -/

/-- The hash functions on the well-known key, and on the ciphertext below. -/
@[reducible] def publicHashes : HashFunctions where
  sha256 _ :=
    #v[
      0x11, 0x55, 0xf1, 0x87, 0x0f, 0x91, 0x77, 0x86, 0x46, 0x97, 0x2b, 0x7b,
      0xde, 0x74, 0x7d, 0x98, 0x9c, 0xf9, 0xf9, 0x54, 0x16, 0xb5, 0x08, 0x29,
      0x66, 0x60, 0x36, 0x56, 0x33, 0x65, 0x42, 0x4d]
  hmacSha256 _ _ :=
    #v[
      0xec, 0xe6, 0x85, 0xb6, 0xbc, 0xe9, 0x12, 0x5c, 0x63, 0xf7, 0x36, 0x1c,
      0x66, 0xcb, 0x22, 0x9d, 0x72, 0xeb, 0x79, 0xd1, 0xc0, 0x32, 0x3e, 0xe3,
      0xfc, 0xeb, 0x16, 0xb6, 0x7c, 0xa0, 0xcb, 0xbe]

/-- The cipher under the well-known key, on the two blocks of the message. -/
def publicCipher : Equiv.Perm (Vector UInt8 16) :=
  Equiv.swap
      #v[
        0x12, 0xcd, 0xab, 0x64, 0x00, 0x48, 0x65, 0x6c, 0x6c, 0x6f, 0x2c, 0x20,
        0x6d, 0x65, 0x73, 0x68]
      #v[
        0xf1, 0xd5, 0x9f, 0x9d, 0x82, 0xb8, 0x91, 0x39, 0xe8, 0xf5, 0x14, 0xbe,
        0x20, 0xfe, 0x91, 0x4a] *
    Equiv.swap
      #v[
        0x21, 0x00, 0x00, 0x00, 0x00, 0x00, 0x00, 0x00, 0x00, 0x00, 0x00, 0x00,
        0x00, 0x00, 0x00, 0x00]
      #v[
        0xb3, 0xd7, 0x62, 0xd2, 0x9a, 0x9a, 0x22, 0x43, 0x8c, 0xb6, 0x9d, 0x87,
        0x89, 0xf9, 0x9c, 0xe3]

@[reducible] def publicEncrypt : BlockEncrypt where
  encryptBlock _ block := publicCipher block

@[reducible] def publicDecrypt : BlockDecrypt where
  decryptBlock _ block := publicCipher.symm block

def helloMesh : GroupMessage where
  timestamp := 0x64ABCD12
  txtType := 0
  text := "Hello, mesh!"
  supported := by decide
  nulFree := by decide

def helloMeshEvent : MeshCoreEvent where
  eventType := .logData
  payload := .logData {
    snr := 5
    rssi := -90
    header := some {
      routeType := .flood
      payloadType := .groupText
      payloadVersion := 0
      transportCode := none
      pathLen := 0
      pathHashSize := 1
      path := [] }
    advertisement := none
    payload := [
      0x11, 0xec, 0xe6, 0xf1, 0xd5, 0x9f, 0x9d, 0x82, 0xb8, 0x91, 0x39, 0xe8,
      0xf5, 0x14, 0xbe, 0x20, 0xfe, 0x91, 0x4a, 0xb3, 0xd7, 0x62, 0xd2, 0x9a,
      0x9a, 0x22, 0x43, 0x8c, 0xb6, 0x9d, 0x87, 0x89, 0xf9, 0x9c, 0xe3] }

theorem decodeGroupText_hello_mesh :
    (@buildPacketLogEntry wireValues helloMeshEvent 1 0).bind (fun entry =>
      @decodeGroupText publicHashes publicDecrypt plainDecoder entry
        (@precomputeChannelKeys publicHashes [])) =
      some { channelName := "Public", text := "Hello, mesh!" } := by
  have hencoded : [
      0x11, 0xec, 0xe6, 0xf1, 0xd5, 0x9f, 0x9d, 0x82, 0xb8, 0x91, 0x39, 0xe8,
      0xf5, 0x14, 0xbe, 0x20, 0xfe, 0x91, 0x4a, 0xb3, 0xd7, 0x62, 0xd2, 0x9a,
      0x9a, 0x22, 0x43, 0x8c, 0xb6, 0x9d, 0x87, 0x89, 0xf9, 0x9c, 0xe3] =
        @ChatChannel.encode publicHashes publicEncrypt
          ⟨publicChannelName, publicChannelPsk⟩ helloMesh := by
    decide +kernel
  have hdecode := @decodeGroupText_of_encoded publicHashes publicEncrypt
    publicDecrypt wireValues plainDecoder decodesHex_plainDecoder
    (fun _ block => publicCipher.symm_apply_apply block) [] helloMeshEvent 1 0
    _ rfl _ rfl
  exact hdecode.1 _ [] [] ⟨publicChannelName, publicChannelPsk⟩ helloMesh rfl
    rfl rfl rfl hencoded (by simp)

end MeshController
