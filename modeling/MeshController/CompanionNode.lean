import MeshController.ContactPruning

/-!
# The companion node

What the daemon changes on the node it is connected to, and the client through
which it does.  The client keeps the contact list it read on connecting;
neither adding nor removing a contact changes that copy.
-/

namespace MeshController

open HexEncoding

structure ChannelInfoData where
  name : String
  secret : Vector UInt8 16
deriving DecidableEq

/-- A slot without a channel. -/
def ChannelInfoData.empty : ChannelInfoData where
  name := ""
  secret := Vector.replicate 16 0

/-- `autoaddConfig` is the bitmask of the contact types the node adds by
itself. -/
@[ext] structure Companion where
  autoaddConfig : UInt8
  maxChannels : Option UInt8
  channels : ℕ → ChannelInfoData
  contacts : List Contact

/-- The requests which change the node. -/
inductive MutatingRpc where
  | setAutoaddConfig (flags : UInt8)
  | setChannel (idx : ℕ) (channel : ChannelInfoData)
  | addContact (contact : Contact)
  | removeContact (contact : Contact)
deriving DecidableEq

def Companion.perform (companion : Companion) : MutatingRpc → Companion
  | .setAutoaddConfig flags => { companion with autoaddConfig := flags }
  | .setChannel idx channel =>
      { companion with
        channels := Function.update companion.channels idx channel }
  | .addContact contact =>
      { companion with
        contacts := (companion.contacts.filter fun c =>
          c.publicKey ≠ contact.publicKey) ++ [contact] }
  | .removeContact contact =>
      { companion with
        contacts := companion.contacts.filter fun c =>
          c.publicKey ≠ contact.publicKey }

/-- A request whose answer is lost has taken effect all the same. -/
inductive RpcOutcome where
  | ok
  | failed (reason : String)
  | unanswered (reason : String)
deriving DecidableEq

def RpcOutcome.takesEffect : RpcOutcome → Bool
  | ok => true
  | failed _ => false
  | unanswered _ => true

def RpcOutcome.answer : RpcOutcome → Except String Unit
  | ok => .ok ()
  | failed reason => .error reason
  | unanswered reason => .error reason

/-- The function `hex_decode` of `meshcore_rs`. -/
class HexDecoder where
  hexDecode : String → Except String (List UInt8)

/-- Exactly the hexadecimal text of bytes is decoded, in either case. -/
def DecodesHex [HexDecoder] : Prop :=
  ∀ text bytes, HexDecoder.hexDecode text = .ok bytes ↔
    asciiLowercase text = hexDigits bytes

theorem hexDecode_hexEncode [HexDecoder]
    (hdecodes : DecodesHex) (bytes : List UInt8) :
    HexDecoder.hexDecode (hexEncode bytes) = .ok bytes :=
  (hdecodes _ _).mpr (asciiLowercase_hexEncode bytes)

/-- A decoder which accepts nothing else. -/
@[reducible] def plainDecoder : HexDecoder where
  hexDecode text := (HexEncoding.hexDecode text).elim
    (.error "invalid hex string") .ok

theorem decodesHex_plainDecoder : @DecodesHex plainDecoder := by
  intro text bytes
  change (HexEncoding.hexDecode text).elim _ Except.ok = _ ↔ _
  rw [asciiLowercase, ← decodeDigits_eq_some_iff]
  unfold HexEncoding.hexDecode
  cases decodeDigits text.toList <;> simp

/-- A connected client: the node, the contact list as it was read, and what
was requested and announced so far. -/
structure MeshClient where
  companion : Companion
  cache : List Contact
  issued : List MutatingRpc
  announced : List MeshEventKind

namespace MeshClient

/-- A client which has just connected and read the contacts in some order. -/
def connect (companion : Companion) (cache : List Contact) : MeshClient where
  companion := companion
  cache := cache
  issued := []
  announced := []

def contacts (client : MeshClient) : List ContactDto :=
  client.cache.map ContactDto.ofContact

def call (client : MeshClient) (rpc : MutatingRpc) (outcome : RpcOutcome) :
    MeshClient × Except String Unit :=
  ({ client with
     companion := if outcome.takesEffect then client.companion.perform rpc
       else client.companion
     issued := client.issued ++ [rpc] }, outcome.answer)

def announce (client : MeshClient) (kind : MeshEventKind) : MeshClient :=
  { client with announced := client.announced ++ [kind] }

/-- A correction is announced if it was answered, and else only logged. -/
def announceIfDone (kind : MeshEventKind) :
    MeshClient × Except String Unit → MeshClient
  | (client, .ok _) => client.announce kind
  | (client, .error _) => client

section Decoding

variable [HexDecoder]

/-- The contact a repeater is declared as, if its full key is known. -/
def contactToDeclare (repeater : ManagedRepeater) : Except String Contact :=
  match HexDecoder.hexDecode repeater.publicKeyHex with
  | .error reason => .error reason
  | .ok keyBytes =>
      if hlength : keyBytes.length = 32 then
        .ok (declaredContact repeater.name
          ⟨keyBytes.toArray, by simpa using hlength⟩)
      else
        .error ("managed repeater \"" ++ repeater.name ++ "\" needs its " ++
          "full 32-byte public key to be declared (got " ++
          toString keyBytes.length ++ " bytes)")

def declareContact
    (client : MeshClient) (repeater : ManagedRepeater)
    (outcome : RpcOutcome) : MeshClient × Except String Unit :=
  match contactToDeclare repeater with
  | .error reason => (client, .error reason)
  | .ok contact => client.call (.addContact contact) outcome

/-- `get_contact_by_prefix` on the cached contacts. -/
def resolveContact
    (cache : List Contact) (publicKeyPrefixHex : String) :
    Except String Contact :=
  match HexDecoder.hexDecode publicKeyPrefixHex with
  | .error reason => .error reason
  | .ok prefixBytes =>
      match cache.find? fun c =>
          prefixBytes.isPrefixOf c.publicKey.toList with
      | none => .error ("no contact matches prefix " ++ publicKeyPrefixHex)
      | some contact => .ok contact

def removeContact
    (client : MeshClient) (publicKeyPrefixHex : String)
    (outcome : RpcOutcome) : MeshClient × Except String Unit :=
  match resolveContact client.cache publicKeyPrefixHex with
  | .error reason => (client, .error reason)
  | .ok contact => client.call (.removeContact contact) outcome

end Decoding

def disableAutoAddContacts (client : MeshClient) (outcome : RpcOutcome) :
    MeshClient × Except String Unit :=
  client.call (.setAutoaddConfig 0) outcome

def removeChannel (client : MeshClient) (idx : ℕ) (outcome : RpcOutcome) :
    MeshClient × Except String Unit :=
  client.call (.setChannel idx .empty) outcome

end MeshClient

/-! ## What a repeater is declared as -/

theorem Contact.prefixHex_congr
    {first second : Contact} (hkey : first.publicKey = second.publicKey) :
    first.prefixHex = second.prefixHex := by
  simp [Contact.prefixHex, Contact.prefixBytes, hkey]

section Declared

open MeshClient

variable [HexDecoder]

theorem fullKey_of_contactToDeclare
    (hdecodes : DecodesHex) {repeater : ManagedRepeater} {d : Contact}
    (hdeclare : contactToDeclare repeater = .ok d) :
    asciiLowercase repeater.publicKeyHex = hexDigits d.publicKey.toList := by
  unfold contactToDeclare at hdeclare
  cases hdecode : HexDecoder.hexDecode repeater.publicKeyHex with
  | error reason => simp [hdecode] at hdeclare
  | ok keyBytes =>
      simp only [hdecode] at hdeclare
      split at hdeclare
      · have hcontact := Except.ok.inj hdeclare
        rw [(hdecodes _ _).mp hdecode, ← hcontact]
        simp [declaredContact, Vector.toList]
      · contradiction

theorem contactToDeclare_of_fullKey
    (hdecodes : DecodesHex) {repeater : ManagedRepeater}
    {key : Vector UInt8 32}
    (hkey : asciiLowercase repeater.publicKeyHex = hexDigits key.toList) :
    contactToDeclare repeater = .ok (declaredContact repeater.name key) := by
  have hdecode := (hdecodes _ _).mpr hkey
  unfold contactToDeclare
  simp only [hdecode, Vector.length_toList, dite_true, Except.ok.injEq]
  congr 1

/-- A declared contact is a contact which the entry matches. -/
theorem matches_of_contactToDeclare
    (hdecodes : DecodesHex) {repeater : ManagedRepeater} {d : Contact}
    (hdeclare : contactToDeclare repeater = .ok d) :
    repeater.matches d.prefixHex = true := by
  have hfull := fullKey_of_contactToDeclare hdecodes hdeclare
  apply ManagedRepeater.matches_of_names
  · unfold ManagedRepeater.Names
    rw [hfull, asciiLowercase_hexEncode]
  · rw [← length_asciiLowercase, hfull]
    simp

end Declared

end MeshController
