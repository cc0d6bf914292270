import MeshController.BlockMap
import MeshController.Utf8Lossy

/-!
# The firmware's keys, codes and ciphers

Region keys and channel keys are derived from names, a transport code is a
truncated keyed hash of the packet, and a group payload is encrypted and
authenticated with its channel's secret.  The hash functions and the block
cipher belong to other packages, so they are parameters.
-/

namespace MeshController

open BlockMap

/-- `Sha256`, and `Hmac<Sha256>` of a key and what is hashed. -/
class HashFunctions where
  sha256 : List UInt8 → Vector UInt8 32
  hmacSha256 : List UInt8 → List UInt8 → Vector UInt8 32

/-- `Aes128::decrypt_block` under a key. -/
class BlockDecrypt where
  decryptBlock : Vector UInt8 16 → Vector UInt8 16 → Vector UInt8 16

def cipherMacSize : ℕ := 2

def cipherKeySize : ℕ := 16

/-- `u16::from_le_bytes`. -/
def u16FromLeBytes (low high : UInt8) : UInt16 :=
  UInt16.ofNat (low.toNat + 256 * high.toNat)

/-- `u16::to_le_bytes`. -/
def u16ToLeBytes (code : UInt16) : Vector UInt8 2 :=
  #v[UInt8.ofNat (code.toNat % 256), UInt8.ofNat (code.toNat / 256)]

/-- The firmware reserves two values, which are nudged to the nearest other
ones. -/
def avoidReservedCodes (code : UInt16) : UInt16 :=
  if code = 0 then 1
  else if code = 0xFFFF then 0xFFFE
  else code

section Hashes

variable [HashFunctions]

def deriveRegionKey (name : String) : Vector UInt8 16 :=
  padded 0 16 (HashFunctions.sha256 (Utf8Lossy.bytes name)).toList

def hashtagChannelKey (name : String) : Vector UInt8 16 :=
  if name.toList.head? = some '#' then deriveRegionKey name
  else deriveRegionKey ("#" ++ name)

def calcTransportCode
    (key : Vector UInt8 16) (payloadTypeRaw : UInt8) (payload : List UInt8) :
    Vector UInt8 2 :=
  let digest := HashFunctions.hmacSha256 key.toList (payloadTypeRaw :: payload)
  u16ToLeBytes (avoidReservedCodes (u16FromLeBytes digest[0] digest[1]))

def groupChannelSecretAndHash (psk : List UInt8) : Vector UInt8 32 × UInt8 :=
  (padded 0 32 (psk.take 32), (HashFunctions.sha256 (psk.take 32))[0])

/-- The first bytes of the keyed hash of the ciphertext. -/
def expectedMac (secret : Vector UInt8 32) (ciphertext : List UInt8) :
    List UInt8 :=
  (HashFunctions.hmacSha256 secret.toList ciphertext).toList.take cipherMacSize

variable [BlockDecrypt]

def decryptBlocks (secret : Vector UInt8 32) (ciphertext : List UInt8) :
    List UInt8 :=
  let key := padded 0 16 secret.toList
  mapBlocks cipherKeySize
    (fun block => (BlockDecrypt.decryptBlock key (padded 0 16 block)).toList)
    (ciphertext.length / cipherKeySize) ciphertext

/-- `none` if there is no ciphertext in whole blocks, or if the code in front
is not the one expected. -/
def macThenDecrypt
    (secret : Vector UInt8 32) (macAndCiphertext : List UInt8) :
    Option (List UInt8) :=
  if macAndCiphertext.length ≤ cipherMacSize then none
  else
    let mac := macAndCiphertext.take cipherMacSize
    let ciphertext := macAndCiphertext.drop cipherMacSize
    if ciphertext = [] ∨ ciphertext.length % cipherKeySize ≠ 0 then none
    else if expectedMac secret ciphertext ≠ mac then none
    else some (decryptBlocks secret ciphertext)

end Hashes

/-! ## Transport codes -/

theorem toNat_u16FromLeBytes (low high : UInt8) :
    (u16FromLeBytes low high).toNat = low.toNat + 256 * high.toNat := by
  have hlow := low.toNat_lt
  have hhigh := high.toNat_lt
  apply UInt16.toNat_ofNat_of_lt'
  simp only [UInt16.size]
  omega

theorem u16ToLeBytes_fromLeBytes (low high : UInt8) :
    u16ToLeBytes (u16FromLeBytes low high) = #v[low, high] := by
  have hlow := low.toNat_lt
  have hhigh := high.toNat_lt
  have hfirst : (low.toNat + 256 * high.toNat) % 256 = low.toNat := by omega
  have hsecond : (low.toNat + 256 * high.toNat) / 256 = high.toNat := by omega
  rw [u16ToLeBytes, toNat_u16FromLeBytes, hfirst, hsecond, UInt8.ofNat_toNat,
    UInt8.ofNat_toNat]

theorem u16FromLeBytes_injective
    {low high otherLow otherHigh : UInt8}
    (heq : u16FromLeBytes low high = u16FromLeBytes otherLow otherHigh) :
    low = otherLow ∧ high = otherHigh := by
  have hbytes := congrArg u16ToLeBytes heq
  rw [u16ToLeBytes_fromLeBytes, u16ToLeBytes_fromLeBytes] at hbytes
  simpa using hbytes

variable [HashFunctions]

/-- What a sender puts in front of its packet, byte by byte: the hash, unless
both of its first bytes are `0x00` or both are `0xff`. -/
def nudgedCode
    (key : Vector UInt8 16) (payloadTypeRaw : UInt8) (payload : List UInt8) :
    Vector UInt8 2 :=
  let digest := HashFunctions.hmacSha256 key.toList (payloadTypeRaw :: payload)
  if digest[0] = 0x00 ∧ digest[1] = 0x00 then #v[0x01, 0x00]
  else if digest[0] = 0xFF ∧ digest[1] = 0xFF then #v[0xFE, 0xFF]
  else #v[digest[0], digest[1]]

theorem calcTransportCode_eq_nudgedCode
    (key : Vector UInt8 16) (payloadTypeRaw : UInt8) (payload : List UInt8) :
    calcTransportCode key payloadTypeRaw payload =
      nudgedCode key payloadTypeRaw payload := by
  unfold calcTransportCode nudgedCode
  generalize HashFunctions.hmacSha256 key.toList (payloadTypeRaw :: payload) =
    digest
  simp only
  generalize digest[0] = low
  generalize digest[1] = high
  have hzero : u16FromLeBytes low high = 0 ↔ low = 0x00 ∧ high = 0x00 := by
    constructor
    · intro heq
      exact u16FromLeBytes_injective
        (heq.trans (show (0 : UInt16) = u16FromLeBytes 0x00 0x00 by decide))
    · rintro ⟨rfl, rfl⟩
      decide
  have hfull : u16FromLeBytes low high = 0xFFFF ↔
      low = 0xFF ∧ high = 0xFF := by
    constructor
    · intro heq
      exact u16FromLeBytes_injective (heq.trans
        (show (0xFFFF : UInt16) = u16FromLeBytes 0xFF 0xFF by decide))
    · rintro ⟨rfl, rfl⟩
      decide
  unfold avoidReservedCodes
  by_cases hcodeZero : low = 0x00 ∧ high = 0x00
  · rw [if_pos (hzero.mpr hcodeZero), if_pos hcodeZero]
    decide
  · rw [if_neg fun heq => hcodeZero (hzero.mp heq), if_neg hcodeZero]
    by_cases hcodeFull : low = 0xFF ∧ high = 0xFF
    · rw [if_pos (hfull.mpr hcodeFull), if_pos hcodeFull]
      decide
    · rw [if_neg fun heq => hcodeFull (hfull.mp heq), if_neg hcodeFull]
      exact u16ToLeBytes_fromLeBytes low high

/-- No region ever has a reserved code. -/
theorem nudgedCode_not_reserved
    (key : Vector UInt8 16) (payloadTypeRaw : UInt8) (payload : List UInt8) :
    nudgedCode key payloadTypeRaw payload ≠ #v[0x00, 0x00] ∧
      nudgedCode key payloadTypeRaw payload ≠ #v[0xFF, 0xFF] := by
  unfold nudgedCode
  generalize HashFunctions.hmacSha256 key.toList (payloadTypeRaw :: payload) =
    digest
  simp only
  split
  · decide
  next hnotZero =>
    split
    · decide
    next hnotFull =>
      constructor
      · intro heq
        exact hnotZero (by simpa using heq)
      · intro heq
        exact hnotFull (by simpa using heq)

/-! ## Decryption -/

variable [BlockDecrypt]

/-- The code in front is the one expected of the rest. -/
def MacVerifies
    (secret : Vector UInt8 32) (macAndCiphertext : List UInt8) : Prop :=
  expectedMac secret (macAndCiphertext.drop cipherMacSize) =
    macAndCiphertext.take cipherMacSize

theorem macThenDecrypt_of_not_verifies
    {secret : Vector UInt8 32} {macAndCiphertext : List UInt8}
    (hnot : ¬ MacVerifies secret macAndCiphertext) :
    macThenDecrypt secret macAndCiphertext = none := by
  unfold macThenDecrypt
  split
  · rfl
  · simp only
    split
    · rfl
    · exact if_pos hnot

theorem macThenDecrypt_append
    {secret : Vector UInt8 32} {ciphertext : List UInt8}
    (hnonempty : ciphertext ≠ [])
    (hblocks : cipherKeySize ∣ ciphertext.length) :
    macThenDecrypt secret (expectedMac secret ciphertext ++ ciphertext) =
      some (decryptBlocks secret ciphertext) := by
  have hmac : (expectedMac secret ciphertext).length = cipherMacSize := by
    simp [expectedMac, cipherMacSize]
  have hpos : 0 < ciphertext.length := List.length_pos_iff.mpr hnonempty
  have hwhole : ciphertext.length % cipherKeySize = 0 :=
    Nat.mod_eq_zero_of_dvd hblocks
  unfold macThenDecrypt
  rw [if_neg (by rw [List.length_append, hmac]; omega),
    List.take_left' hmac, List.drop_left' hmac]
  simp only
  rw [if_neg (by simp [hnonempty, hwhole]), if_neg (by simp)]

end MeshController
