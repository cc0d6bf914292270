import Mathlib.Data.Nat.Bitwise
import MeshController.BigEndian
import MeshController.Contacts

/-!
# Telemetry payloads

A payload is a sequence of records of different sizes: a channel, a type code
and one number, or three for a position.  Decoding stops at the first record
it does not know, so what is padded with zero bytes is decoded in full.
-/

namespace MeshController

namespace Telemetry

/-- A row of `TYPES`: a reading is the number divided by `mult`. -/
structure FieldType where
  code : UInt8
  size : ℕ
  signed : Bool
  mult : ℚ
  label : String
  unit : String
deriving DecidableEq

def types : List FieldType := [
  ⟨2, 2, true, 100, "Analog input", ""⟩,
  ⟨100, 4, false, 1, "Generic sensor", ""⟩,
  ⟨101, 2, false, 1, "Luminosity", "lux"⟩,
  ⟨103, 2, true, 10, "Temperature", "°C"⟩,
  ⟨104, 1, false, 2, "Relative humidity", "%"⟩,
  ⟨115, 2, false, 10, "Barometric pressure", "hPa"⟩,
  ⟨116, 2, true, 100, "Voltage", "V"⟩,
  ⟨117, 2, true, 1000, "Current", "A"⟩,
  ⟨118, 4, false, 1, "Frequency", "Hz"⟩,
  ⟨120, 1, false, 1, "Percentage", "%"⟩,
  ⟨121, 2, true, 1, "Altitude", "m"⟩,
  ⟨128, 2, false, 1, "Power", "W"⟩,
  ⟨130, 4, false, 1000, "Distance", "m"⟩]

def lppGps : UInt8 := 136

def gpsComponentSize : ℕ := 3

def gpsLatLonMult : ℚ := 10000

def gpsAltMult : ℚ := 100

/-- At most four bytes are read, so the source's `i64` cannot overflow. -/
def readUnsigned (bytes : List UInt8) : ℕ :=
  bytes.foldl (fun acc byte => acc <<< 8 ||| byte.toNat) 0

def readSigned (bytes : List UInt8) : ℤ :=
  let raw := readUnsigned bytes
  let bits := bytes.length * 8
  let signBit := 1 <<< (bits - 1)
  if raw &&& signBit ≠ 0 then raw - (1 <<< bits : ℕ) else raw

/-- `data.get(first..last)`. -/
def getRange (data : List UInt8) (first last : ℕ) : Option (List UInt8) :=
  if last ≤ data.length then some ((data.drop first).take (last - first))
  else none

def decodeGps (channel : UInt8) (data : List UInt8) :
    Option (List TelemetryReading) := do
  let lat ← getRange data 0 gpsComponentSize
  let lon ← getRange data gpsComponentSize (gpsComponentSize * 2)
  let alt ← getRange data (gpsComponentSize * 2) (gpsComponentSize * 3)
  some [
    ⟨channel, "GPS latitude", readSigned lat / gpsLatLonMult, "°"⟩,
    ⟨channel, "GPS longitude", readSigned lon / gpsLatLonMult, "°"⟩,
    ⟨channel, "GPS altitude", readSigned alt / gpsAltMult, "m"⟩]

def FieldType.read (type : FieldType) (bytes : List UInt8) : ℤ :=
  if type.signed then readSigned bytes else readUnsigned bytes

/-- The loop of `decode`, on what is left of the payload. -/
def decode : List UInt8 → List TelemetryReading
  | channel :: typeCode :: data =>
      if typeCode = lppGps then
        match decodeGps channel data with
        | none => []
        | some fields => fields ++ decode (data.drop (gpsComponentSize * 3))
      else
        match types.find? fun type => type.code = typeCode with
        | none => []
        | some type =>
            match getRange data 0 type.size with
            | none => []
            | some bytes =>
                ⟨channel, type.label, type.read bytes / type.mult,
                  type.unit⟩ :: decode (data.drop type.size)
  | _ => []
termination_by raw => raw.length

/-! ## Numbers -/

theorem readUnsigned_eq_value (bytes : List UInt8) :
    readUnsigned bytes = BigEndian.value bytes := by
  unfold readUnsigned BigEndian.value
  congr 1
  funext acc byte
  rw [← Nat.shiftLeft_add_eq_or_of_lt byte.toNat_lt, Nat.shiftLeft_eq]

theorem readSigned_eq_unwrap (bytes : List UInt8) :
    readSigned bytes =
      BigEndian.unwrap (bytes.length * 8) (BigEndian.value bytes) := by
  unfold readSigned BigEndian.unwrap
  simp only [readUnsigned_eq_value, Nat.one_shiftLeft, Nat.and_two_pow]
  cases (BigEndian.value bytes).testBit (bytes.length * 8 - 1) <;> simp

/-- The numbers which a field of `size` bytes holds. -/
def FitsField (size : ℕ) (signed : Bool) (number : ℤ) : Prop :=
  if signed then
    -(2 ^ (size * 8 - 1)) ≤ number ∧ number < 2 ^ (size * 8 - 1)
  else 0 ≤ number ∧ number < 2 ^ (size * 8)

def encodeField (size : ℕ) (number : ℤ) : List UInt8 :=
  BigEndian.bytes size (BigEndian.wrap (size * 8) number)

@[simp] theorem length_encodeField (size : ℕ) (number : ℤ) :
    (encodeField size number).length = size :=
  BigEndian.length_bytes size _

theorem value_encodeField (size : ℕ) (number : ℤ) :
    BigEndian.value (encodeField size number) =
      BigEndian.wrap (size * 8) number := by
  apply BigEndian.value_bytes_of_lt
  have hlt := BigEndian.wrap_lt (size * 8) number
  have hpow : 2 ^ (size * 8) = 256 ^ size := by
    rw [mul_comm, pow_mul]
    norm_num
  exact hpow ▸ hlt

theorem readUnsigned_encodeField
    {size : ℕ} {number : ℤ} (hfits : FitsField size false number) :
    (readUnsigned (encodeField size number) : ℤ) = number := by
  have hbounds : 0 ≤ number ∧ number < 2 ^ (size * 8) := by
    simpa [FitsField] using hfits
  rw [readUnsigned_eq_value, value_encodeField,
    BigEndian.wrap_of_nonneg hbounds.1 hbounds.2]
  exact Int.toNat_of_nonneg hbounds.1

theorem readSigned_encodeField
    {size : ℕ} (hsize : 0 < size) {number : ℤ}
    (hfits : FitsField size true number) :
    readSigned (encodeField size number) = number := by
  have hbounds : -(2 ^ (size * 8 - 1)) ≤ number ∧
      number < 2 ^ (size * 8 - 1) := by
    simpa [FitsField] using hfits
  have hbits : size * 8 = (size * 8 - 1) + 1 := by omega
  rw [readSigned_eq_unwrap, length_encodeField, value_encodeField, hbits]
  exact BigEndian.unwrap_wrap hbounds.1 hbounds.2

theorem FieldType.read_encodeField
    {type : FieldType} (hsize : 0 < type.size) {number : ℤ}
    (hfits : FitsField type.size type.signed number) :
    type.read (encodeField type.size number) = number := by
  unfold FieldType.read
  cases hsigned : type.signed with
  | true =>
      rw [hsigned] at hfits
      simpa using readSigned_encodeField hsize hfits
  | false =>
      rw [hsigned] at hfits
      simpa using readUnsigned_encodeField hfits

/-! ## Records -/

/-- A record as a node sends it, of a type of the table or a position. -/
inductive SensorRecord where
  | field (channel : UInt8) (type : FieldType) (number : ℤ)
      (known : type ∈ types)
      (fits : FitsField type.size type.signed number)
  | gps (channel : UInt8) (lat lon alt : ℤ)
      (lat_fits : FitsField gpsComponentSize true lat)
      (lon_fits : FitsField gpsComponentSize true lon)
      (alt_fits : FitsField gpsComponentSize true alt)

def SensorRecord.encode : SensorRecord → List UInt8
  | .field channel type number _ _ =>
      channel :: type.code :: encodeField type.size number
  | .gps channel lat lon alt _ _ _ =>
      channel :: lppGps :: (encodeField gpsComponentSize lat ++
        (encodeField gpsComponentSize lon ++
          encodeField gpsComponentSize alt))

def SensorRecord.readings : SensorRecord → List TelemetryReading
  | .field channel type number _ _ =>
      [⟨channel, type.label, number / type.mult, type.unit⟩]
  | .gps channel lat lon alt _ _ _ => [
      ⟨channel, "GPS latitude", lat / gpsLatLonMult, "°"⟩,
      ⟨channel, "GPS longitude", lon / gpsLatLonMult, "°"⟩,
      ⟨channel, "GPS altitude", alt / gpsAltMult, "m"⟩]

/-- A type of the table is found by its code, which is neither the one of a
position nor a zero byte. -/
theorem find_types
    {type : FieldType} (hknown : type ∈ types) :
    (types.find? fun other => other.code = type.code) = some type ∧
      type.code ≠ lppGps ∧ 0 < type.size := by
  revert type
  decide

theorem find_types_zero :
    (types.find? fun type => type.code = 0) = none := by
  decide

theorem getRange_append (before field after : List UInt8) :
    getRange (before ++ (field ++ after)) before.length
      (before.length + field.length) = some field := by
  simp [getRange]

theorem getRange_front (field after : List UInt8) :
    getRange (field ++ after) 0 field.length = some field := by
  simpa using getRange_append [] field after

theorem decode_field
    (channel : UInt8) {type : FieldType} {number : ℤ}
    (hknown : type ∈ types)
    (hfits : FitsField type.size type.signed number) (rest : List UInt8) :
    decode (channel :: type.code ::
        (encodeField type.size number ++ rest)) =
      ⟨channel, type.label, number / type.mult, type.unit⟩ :: decode rest := by
  rcases find_types hknown with ⟨hfind, hgps, hsize⟩
  have hrange := getRange_front (encodeField type.size number) rest
  rw [length_encodeField] at hrange
  have hdrop : (encodeField type.size number ++ rest).drop type.size =
      rest := List.drop_left' (length_encodeField _ _)
  rw [decode, if_neg hgps]
  simp only [hfind, hrange, hdrop, FieldType.read_encodeField hsize hfits]

theorem decodeGps_encode
    (channel : UInt8) {lat lon alt : ℤ}
    (hlat : FitsField gpsComponentSize true lat)
    (hlon : FitsField gpsComponentSize true lon)
    (halt : FitsField gpsComponentSize true alt) (rest : List UInt8) :
    decodeGps channel (encodeField gpsComponentSize lat ++
        (encodeField gpsComponentSize lon ++
          (encodeField gpsComponentSize alt ++ rest))) =
      some [
        ⟨channel, "GPS latitude", lat / gpsLatLonMult, "°"⟩,
        ⟨channel, "GPS longitude", lon / gpsLatLonMult, "°"⟩,
        ⟨channel, "GPS altitude", alt / gpsAltMult, "m"⟩] := by
  have hfirst := getRange_front (encodeField gpsComponentSize lat)
    (encodeField gpsComponentSize lon ++
      (encodeField gpsComponentSize alt ++ rest))
  have hsecond := getRange_append (encodeField gpsComponentSize lat)
    (encodeField gpsComponentSize lon)
    (encodeField gpsComponentSize alt ++ rest)
  have hthird := getRange_append
    (encodeField gpsComponentSize lat ++ encodeField gpsComponentSize lon)
    (encodeField gpsComponentSize alt) rest
  simp only [List.append_assoc, List.length_append, length_encodeField]
    at hfirst hsecond hthird
  have hpositive : 0 < gpsComponentSize := by decide
  unfold decodeGps
  rw [hfirst, mul_comm gpsComponentSize 2, two_mul, hsecond,
    show gpsComponentSize * 3 =
      gpsComponentSize + gpsComponentSize + gpsComponentSize by rfl, hthird]
  simp [readSigned_encodeField hpositive hlat,
    readSigned_encodeField hpositive hlon,
    readSigned_encodeField hpositive halt]

theorem decode_record (record : SensorRecord) (rest : List UInt8) :
    decode (record.encode ++ rest) = record.readings ++ decode rest := by
  cases record with
  | field channel type number known fits =>
      exact decode_field channel known fits rest
  | gps channel lat lon alt latFits lonFits altFits =>
      have hfields := decodeGps_encode channel latFits lonFits altFits rest
      have hdrop : (encodeField gpsComponentSize lat ++
          (encodeField gpsComponentSize lon ++
            (encodeField gpsComponentSize alt ++ rest))).drop
              (gpsComponentSize * 3) = rest := by
        rw [← List.append_assoc, ← List.append_assoc]
        apply List.drop_left'
        simp [gpsComponentSize]
      simp only [SensorRecord.encode, List.cons_append, List.append_assoc]
      rw [decode, if_pos rfl, hfields]
      simp only [hdrop]
      rfl

theorem decode_zeros (padding : ℕ) :
    decode (List.replicate padding 0) = [] := by
  match padding with
  | 0 => simp [decode]
  | 1 => simp [decode]
  | more + 2 =>
      rw [List.replicate_succ, List.replicate_succ, decode]
      simp [find_types_zero, lppGps]

/-- Decoding undoes encoding, whatever the padding. -/
theorem decode_encode (records : List SensorRecord) (padding : ℕ) :
    decode (records.flatMap SensorRecord.encode ++
        List.replicate padding 0) =
      records.flatMap SensorRecord.readings := by
  induction records with
  | nil => simpa using decode_zeros padding
  | cons record rest ih =>
      rw [List.flatMap_cons, List.flatMap_cons, List.append_assoc,
        decode_record, ih]

end Telemetry

end MeshController
