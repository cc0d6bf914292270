import MeshController.Base64Url
import MeshController.BrokerTransport
import MeshController.JsonText
import MeshController.LineFraming

/-!
# The token of a device-signed broker

A token is made of a header, the claims and a signature, with dots between
them.  The first two are JSON in URL-safe base64, the signature is hexadecimal
text, and what the node signs are the bytes in front of the last dot.  Whoever
gets a token can take it apart again.
-/

namespace MeshController

open JsonText HexEncoding

structure AuthTokenClaims where
  publicKeyHex : String
  iat : ℤ
  exp : ℤ
  aud : String
deriving DecidableEq

def tokenHeader : Json :=
  .obj [("alg", .str "Ed25519"), ("typ", .str "JWT")]

/-- The key is hexadecimal text, whatever its letters were. -/
def tokenPayload (claims : AuthTokenClaims) : Json :=
  .obj [("publicKey", .str claims.publicKeyHex.toUpper),
    ("iat", .int claims.iat), ("exp", .int claims.exp),
    ("aud", .str claims.aud)]

/-- `serde_json::to_vec` in base64. -/
def tokenPart (json : Json) : List Char :=
  Base64Url.encode (Utf8Lossy.bytes (String.ofList (write json)))

def signingInput (claims : AuthTokenClaims) : String :=
  String.ofList
    (tokenPart tokenHeader ++ '.' :: tokenPart (tokenPayload claims))

def assembleToken (signingInput : String) (signature : List UInt8) : String :=
  signingInput ++ "." ++ (hexEncode signature).toUpper

/-- `sign` is the answer of the node to `sign_via_mesh`. -/
def buildDeviceSignedCredentials
    (sign : List UInt8 → Except String (List UInt8)) (selfInfo : SelfInfoDto)
    (config : MqttBrokerConfig) (iat : ℤ) :
    Except String (String × String) := do
  let username := "v1_" ++ selfInfo.publicKeyHex.toUpper
  let claims : AuthTokenClaims :=
    { publicKeyHex := selfInfo.publicKeyHex
      iat := iat
      exp := iat + config.jwtTtlSecs.toNat
      aud := config.jwtAudience.getD config.host }
  let input := signingInput claims
  let signature ← sign (Utf8Lossy.bytes input)
  pure (username, assembleToken input signature)

/-! ## Taking a token apart -/

/-- The parts between the dots. -/
def splitDots : List Char → List (List Char)
  | [] => [[]]
  | c :: rest =>
      if c = '.' then [] :: splitDots rest
      else
        match splitDots rest with
        | [] => [[c]]
        | part :: others => (c :: part) :: others

def readPart (part : List Char) : Option Json :=
  ((Base64Url.decode part).bind LineFraming.readUtf8).bind JsonText.read

/-- What a token says: its claims, the text which was signed, and the
signature. -/
structure TokenReading where
  claims : AuthTokenClaims
  signed : String
  signature : List UInt8

/-- Other fields are passed over. -/
def claimsOf : Json → Option AuthTokenClaims
  | .obj fields =>
      match fields.lookup "publicKey", fields.lookup "iat",
          fields.lookup "exp", fields.lookup "aud" with
      | some (.str key), some (.int iat), some (.int exp), some (.str aud) =>
          some { publicKeyHex := key, iat := iat, exp := exp, aud := aud }
      | _, _, _, _ => none
  | _ => none

/-- Only the header of a device-signed token is taken. -/
def isTokenHeader : Json → Bool
  | .obj fields =>
      match fields.lookup "alg", fields.lookup "typ" with
      | some (.str alg), some (.str typ) => alg = "Ed25519" && typ = "JWT"
      | _, _ => false
  | _ => false

/-- A verifier, up to the check of the signature. -/
def readToken (token : String) : Option TokenReading :=
  match splitDots token.toList with
  | [header, payload, signature] => do
      let headerJson ← readPart header
      let claims ← (readPart payload).bind claimsOf
      let bytes ← decodeDigits signature
      if isTokenHeader headerJson then
        some
          { claims := claims
            signed := String.ofList (header ++ '.' :: payload)
            signature := bytes }
      else none
  | _ => none

theorem readPart_tokenPart (json : Json) :
    readPart (tokenPart json) = some json := by
  rw [readPart, tokenPart, Base64Url.decode_encodedBytes, Option.bind_some,
    LineFraming.readUtf8_bytes, Option.bind_some, read_write]

theorem splitDots_append
    {part : List Char} (hpart : '.' ∉ part) (rest : List Char) :
    splitDots (part ++ '.' :: rest) = part :: splitDots rest := by
  induction part with
  | nil => rfl
  | cons c part ih =>
      rw [List.mem_cons, not_or] at hpart
      rw [List.cons_append, splitDots, if_neg (Ne.symm hpart.1), ih hpart.2]

theorem splitDots_of_not_mem {part : List Char} (hpart : '.' ∉ part) :
    splitDots part = [part] := by
  induction part with
  | nil => rfl
  | cons c part ih =>
      rw [List.mem_cons, not_or] at hpart
      rw [splitDots, if_neg (Ne.symm hpart.1), ih hpart.2]

theorem toList_toUpper (text : String) :
    text.toUpper.toList = text.toList.map Char.toUpper :=
  String.toList_map

theorem hexDigit_cases {signature : List UInt8} {c : Char}
    (hc : c ∈ hexDigits signature) :
    c.toUpper ≠ '.' ∧ c.toUpper.toLower = c := by
  have hdigit : ∀ i : Fin 16, (Nat.digitChar i.val).toUpper ≠ '.' ∧
      (Nat.digitChar i.val).toUpper.toLower = Nat.digitChar i.val := by
    decide
  obtain ⟨byte, _, hbyte⟩ := List.mem_flatMap.mp hc
  have hlt := byte.toNat_lt
  simp only [byteDigits, List.mem_cons, List.not_mem_nil, or_false] at hbyte
  rcases hbyte with rfl | rfl
  · exact hdigit ⟨byte.toNat / 16, by omega⟩
  · exact hdigit ⟨byte.toNat % 16, by omega⟩

/-- The digits of a signature are read in upper case too. -/
theorem decodeDigits_toUpper (signature : List UInt8) :
    decodeDigits ((hexDigits signature).map Char.toUpper) =
      some signature := by
  rw [decodeDigits_eq_some_iff, List.map_map]
  conv_rhs => rw [← List.map_id (hexDigits signature)]
  apply List.map_congr_left
  intro c hc
  exact (hexDigit_cases hc).2

theorem dot_not_mem_toUpper (signature : List UInt8) :
    '.' ∉ (hexDigits signature).map Char.toUpper := by
  intro hmem
  obtain ⟨c, hc, hdot⟩ := List.mem_map.mp hmem
  exact (hexDigit_cases hc).1 hdot

theorem dot_not_mem_tokenPart (json : Json) : '.' ∉ tokenPart json :=
  Base64Url.dot_not_mem_encode _

theorem claimsOf_tokenPayload (claims : AuthTokenClaims) :
    claimsOf (tokenPayload claims) =
      some { claims with publicKeyHex := claims.publicKeyHex.toUpper } := rfl

theorem toList_assembleToken (input : List Char) (signature : List UInt8) :
    (assembleToken (String.ofList input) signature).toList =
      input ++ '.' :: (hexDigits signature).map Char.toUpper := by
  rw [assembleToken, String.toList_append, String.toList_append,
    String.toList_ofList, toList_toUpper, toList_hexEncode,
    List.append_assoc]
  rfl

/-- Three parts without dots. -/
theorem readToken_of_parts
    {header payload : List Char} (hheader : '.' ∉ header)
    (hpayload : '.' ∉ payload) (signature : List UInt8) :
    readToken (assembleToken (String.ofList (header ++ '.' :: payload))
      signature) =
      (readPart header).bind fun headerJson =>
        ((readPart payload).bind claimsOf).bind fun claims =>
          if isTokenHeader headerJson then
            some
              { claims := claims
                signed := String.ofList (header ++ '.' :: payload)
                signature := signature }
          else none := by
  rw [readToken, toList_assembleToken, List.append_assoc, List.cons_append,
    splitDots_append hheader, splitDots_append hpayload,
    splitDots_of_not_mem (dot_not_mem_toUpper signature)]
  simp only [decodeDigits_toUpper, Option.bind_eq_bind, Option.bind_some]

/-- A token is read back, with the text which was signed. -/
theorem readToken_assembleToken
    (claims : AuthTokenClaims) (signature : List UInt8) :
    readToken (assembleToken (signingInput claims) signature) =
      some
        { claims := { claims with
            publicKeyHex := claims.publicKeyHex.toUpper }
          signed := signingInput claims
          signature := signature } := by
  rw [signingInput, readToken_of_parts (dot_not_mem_tokenPart _)
    (dot_not_mem_tokenPart _), readPart_tokenPart, Option.bind_some,
    readPart_tokenPart, Option.bind_some, claimsOf_tokenPayload,
    Option.bind_some, if_pos (by decide)]

/-- Whoever gets the credentials of a device-signed broker reads from the
token the key in the user name, the audience and the lifetime which are
configured, and the signature of the node for just the text in front of it. -/
theorem deviceCredentials_read_back
    {sign : List UInt8 → Except String (List UInt8)} {selfInfo : SelfInfoDto}
    {config : MqttBrokerConfig} {iat : ℤ} {username password : String}
    (hbuilt : buildDeviceSignedCredentials sign selfInfo config iat =
      .ok (username, password)) :
    ∃ reading, readToken password = some reading ∧
      username = "v1_" ++ reading.claims.publicKeyHex ∧
      reading.claims =
        { publicKeyHex := selfInfo.publicKeyHex.toUpper
          iat := iat
          exp := iat + config.jwtTtlSecs.toNat
          aud := config.jwtAudience.getD config.host } ∧
      password = reading.signed ++ "." ++
        (hexEncode reading.signature).toUpper ∧
      sign (Utf8Lossy.bytes reading.signed) = .ok reading.signature := by
  simp only [buildDeviceSignedCredentials] at hbuilt
  obtain ⟨signature, hsigned, hcredentials⟩ := bind_eq_ok_iff.mp hbuilt
  cases hcredentials
  exact ⟨_, readToken_assembleToken _ signature, rfl, rfl, rfl, hsigned⟩

def signingNode : SelfInfoDto where
  name := "node"
  publicKeyHex := "ab01"
  radioFreqMhz := 869
  radioBwKhz := 250
  spreadingFactor := 11
  codingRate := 5
  txPowerDbm := 22
  lat := 0
  lon := 0

/-- The signature is the first bytes of the text. -/
theorem deviceCredentials_read_back_short_signature :
    ∃ username password reading,
      buildDeviceSignedCredentials (fun data => .ok (data.take 2))
        signingNode (.withDefaults "LetsMesh" "mqtt.example.org")
        1700000000 = .ok (username, password) ∧
      readToken password = some reading ∧
      reading.claims.exp = 1700003600 := by
  have hbuilt : buildDeviceSignedCredentials
      (fun data => .ok (data.take 2)) signingNode
      (.withDefaults "LetsMesh" "mqtt.example.org") 1700000000 =
        .ok (_, _) := rfl
  obtain ⟨reading, hread, _, hclaims, _⟩ := deviceCredentials_read_back hbuilt
  exact ⟨_, _, reading, hbuilt, hread, by rw [hclaims]; rfl⟩

end MeshController
