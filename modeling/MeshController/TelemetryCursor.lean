import MeshController.CheckedVec
import MeshController.Telemetry

/-!
# The telemetry decoder cannot panic

The decoder once more, as the loop over a cursor which the source runs, with
every index, slice and shift checked, and every number kept within the width
of its field.  On any payload no check fails, the loop ends, and its readings
are those of `decode`, at most one for each byte.
-/

namespace MeshController

namespace Telemetry

open CheckedVec

namespace Cursor

/-! ### Numbers -/

/-- A shift of an `i64` which leaves its sign alone; `none` otherwise. -/
def shiftLeft (number amount : ℕ) : Option ℕ :=
  if amount < 63 then some (number <<< amount) else none

/-- One byte more, within a field of `width` bytes and within an `i64`. -/
def accumulate (width acc : ℕ) (byte : UInt8) : Option ℕ :=
  (shiftLeft acc 8).bind fun shifted =>
    let next := shifted ||| byte.toNat
    if next < 2 ^ (width * 8) ∧ next < 2 ^ 63 then some next else none

def readUnsigned (bytes : List UInt8) : Option ℕ :=
  if bytes = [] then none
  else bytes.foldlM (accumulate bytes.length) 0

def readSigned (bytes : List UInt8) : Option ℤ := do
  let raw ← readUnsigned bytes
  let bits := bytes.length * 8
  let top ← sub bits 1
  let signBit ← shiftLeft 1 top
  let range ← shiftLeft 1 bits
  let number : ℤ := if raw &&& signBit ≠ 0 then raw - range else raw
  if -(2 ^ top) ≤ number ∧ number < 2 ^ top then some number else none

/-! ### The loop -/

/-- `some none` for a payload which is too short, `none` for a panic. -/
def decodeGps (channel : UInt8) (data : List UInt8) :
    Option (Option (List TelemetryReading)) :=
  match getRange data 0 gpsComponentSize,
    getRange data gpsComponentSize (gpsComponentSize * 2),
    getRange data (gpsComponentSize * 2) (gpsComponentSize * 3) with
  | some lat, some lon, some alt => do
      let lat ← readSigned lat
      let lon ← readSigned lon
      let alt ← readSigned alt
      some (some [
        ⟨channel, "GPS latitude", lat / gpsLatLonMult, "°"⟩,
        ⟨channel, "GPS longitude", lon / gpsLatLonMult, "°"⟩,
        ⟨channel, "GPS altitude", alt / gpsAltMult, "m"⟩])
  | _, _, _ => some none

end Cursor

structure Cursor where
  i : ℕ
  readings : List TelemetryReading

namespace Cursor

def readField (type : FieldType) (bytes : List UInt8) : Option ℤ :=
  if type.signed then readSigned bytes
  else (readUnsigned bytes).map Nat.cast

/-- One turn of the loop: `some none` where it breaks, `none` for a panic. -/
def iterate (raw : List UInt8) (cursor : Cursor) : Option (Option Cursor) :=
  if cursor.i + 2 ≤ raw.length then do
    let channel ← raw[cursor.i]?
    let typeCode ← raw[cursor.i + 1]?
    let dataStart := cursor.i + 2
    if typeCode = lppGps then
      let data ← slice raw dataStart raw.length
      let fields ← decodeGps channel data
      some (fields.map fun fields =>
        { i := dataStart + gpsComponentSize * 3
          readings := cursor.readings ++ fields })
    else
      match types.find? fun type => type.code = typeCode with
      | none => some none
      | some type =>
          match getRange raw dataStart (dataStart + type.size) with
          | none => some none
          | some bytes => do
              let rawValue ← readField type bytes
              some (some
                { i := dataStart + type.size
                  readings := cursor.readings ++
                    [⟨channel, type.label, rawValue / type.mult,
                      type.unit⟩] })
  else some none

/-- The loop ends with these readings, and without a panic on the way. -/
inductive Returns (raw : List UInt8) :
    Cursor → List TelemetryReading → Prop where
  | stop {cursor : Cursor} (hturn : iterate raw cursor = some none) :
      Returns raw cursor cursor.readings
  | turn {cursor next : Cursor} {readings : List TelemetryReading}
      (hturn : iterate raw cursor = some (some next))
      (hrest : Returns raw next readings) : Returns raw cursor readings

/-! ### No number leaves its field -/

theorem accumulate_eq
    {width acc count : ℕ} (hacc : acc < 2 ^ (count * 8))
    (hcount : count < width) (hwidth : width ≤ 7) (byte : UInt8) :
    accumulate width acc byte = some (acc <<< 8 ||| byte.toNat) ∧
      acc <<< 8 ||| byte.toNat < 2 ^ ((count + 1) * 8) := by
  have hbyte := byte.toNat_lt
  have hnext : acc <<< 8 ||| byte.toNat < 2 ^ ((count + 1) * 8) := by
    have hpow : 2 ^ ((count + 1) * 8) = 2 ^ (count * 8) * 256 := by
      rw [Nat.succ_mul, pow_add]
      norm_num
    rw [← Nat.shiftLeft_add_eq_or_of_lt byte.toNat_lt, Nat.shiftLeft_eq]
    omega
  have hfield : 2 ^ ((count + 1) * 8) ≤ 2 ^ (width * 8) :=
    Nat.pow_le_pow_right (by decide) (by omega)
  have hsigned : 2 ^ ((count + 1) * 8) ≤ 2 ^ 63 :=
    Nat.pow_le_pow_right (by decide) (by omega)
  constructor
  · rw [accumulate, shiftLeft, if_pos (by decide), Option.bind_some,
      if_pos ⟨hnext.trans_le hfield, hnext.trans_le hsigned⟩]
  · exact hnext

theorem foldlM_accumulate
    {width acc count : ℕ} {bytes : List UInt8}
    (hacc : acc < 2 ^ (count * 8)) (hcount : count + bytes.length ≤ width)
    (hwidth : width ≤ 7) :
    bytes.foldlM (accumulate width) acc =
        some (bytes.foldl (fun acc byte => acc <<< 8 ||| byte.toNat) acc) ∧
      bytes.foldl (fun acc byte => acc <<< 8 ||| byte.toNat) acc <
        2 ^ ((count + bytes.length) * 8) := by
  induction bytes generalizing acc count with
  | nil => exact ⟨rfl, hacc⟩
  | cons byte rest ih =>
      rw [List.length_cons] at hcount
      rcases accumulate_eq hacc (by omega) hwidth byte with ⟨hbyte, hnext⟩
      have hrest := ih hnext (by omega)
      rw [List.foldlM_cons, hbyte, List.foldl_cons, List.length_cons,
        Nat.add_comm rest.length 1, ← Nat.add_assoc]
      exact hrest

/-- A field is not empty and, as every field of a record, narrower than an
`i64`. -/
structure FieldSized (bytes : List UInt8) : Prop where
  nonempty : bytes ≠ []
  narrow : bytes.length ≤ 7

variable {bytes : List UInt8}

theorem readUnsigned_eq (hsized : FieldSized bytes) :
    readUnsigned bytes = some (Telemetry.readUnsigned bytes) ∧
      Telemetry.readUnsigned bytes < 2 ^ (bytes.length * 8) := by
  have hfold := @foldlM_accumulate bytes.length 0 0 bytes (by simp)
    (by simp) hsized.narrow
  rw [Nat.zero_add] at hfold
  rw [readUnsigned, if_neg hsized.nonempty]
  exact hfold

theorem readSigned_fits (hsized : FieldSized bytes) :
    FitsField bytes.length true (Telemetry.readSigned bytes) := by
  have hlength := List.length_pos_of_ne_nil hsized.nonempty
  have hlt := (readUnsigned_eq hsized).2
  rw [readUnsigned_eq_value] at hlt
  rw [readSigned_eq_unwrap, FitsField, if_pos rfl]
  exact BigEndian.unwrap_bounds (by omega) hlt

theorem readSigned_eq (hsized : FieldSized bytes) :
    readSigned bytes = some (Telemetry.readSigned bytes) := by
  have hlength := List.length_pos_of_ne_nil hsized.nonempty
  have hnarrow := hsized.narrow
  have hfits := readSigned_fits hsized
  rw [FitsField, if_pos rfl] at hfits
  rw [readSigned, (readUnsigned_eq hsized).1]
  simp only [Option.bind_eq_bind, Option.bind_some]
  rw [sub_of_le (by omega), Option.bind_some, shiftLeft, if_pos (by omega),
    Option.bind_some, shiftLeft, if_pos (by omega), Option.bind_some]
  exact if_pos hfits

theorem fieldSized_of_getRange
    {data : List UInt8} {first last : ℕ}
    (hrange : getRange data first last = some bytes) (hlt : first < last)
    (hnarrow : last - first ≤ 7) : FieldSized bytes := by
  rw [getRange] at hrange
  by_cases hlast : last ≤ data.length
  · rw [if_pos hlast, Option.some.injEq] at hrange
    have hlength : bytes.length = last - first := by
      rw [← hrange, List.length_take, List.length_drop]
      omega
    constructor
    · apply List.ne_nil_of_length_pos
      omega
    · omega
  · rw [if_neg hlast] at hrange
    cases hrange

theorem decodeGps_eq (channel : UInt8) (data : List UInt8) :
    decodeGps channel data = some (Telemetry.decodeGps channel data) := by
  rw [decodeGps, Telemetry.decodeGps]
  cases hlat : getRange data 0 gpsComponentSize with
  | none => rfl
  | some lat =>
      cases hlon : getRange data gpsComponentSize (gpsComponentSize * 2) with
      | none => rfl
      | some lon =>
          cases halt : getRange data (gpsComponentSize * 2)
              (gpsComponentSize * 3) with
          | none => rfl
          | some alt =>
              have hlatsized := fieldSized_of_getRange hlat (by decide)
                (by decide)
              have hlonsized := fieldSized_of_getRange hlon (by decide)
                (by decide)
              have haltsized := fieldSized_of_getRange halt (by decide)
                (by decide)
              simp only [readSigned_eq hlatsized, readSigned_eq hlonsized,
                readSigned_eq haltsized, Option.bind_eq_bind,
                Option.bind_some]

theorem readField_eq
    (type : FieldType) (hsized : FieldSized bytes) :
    readField type bytes = some (type.read bytes) := by
  rw [readField, FieldType.read]
  by_cases hsigned : type.signed
  · rw [if_pos hsigned, if_pos hsigned]
    exact readSigned_eq hsized
  · rw [if_neg hsigned, if_neg hsigned, (readUnsigned_eq hsized).1]
    rfl

theorem types_sized {type : FieldType} (hknown : type ∈ types) :
    0 < type.size ∧ type.size ≤ 7 := by
  revert type
  decide

/-! ### The cursor and what is left of the payload -/

/-- The header of a record is at the cursor, and its data behind it. -/
structure HeaderAt (raw : List UInt8) (i : ℕ) (channel typeCode : UInt8)
    (data : List UInt8) : Prop where
  fits : i + 2 ≤ raw.length
  channel : raw[i]? = some channel
  typeCode : raw[i + 1]? = some typeCode
  data : raw.drop (i + 2) = data

theorem headerAt_of_drop
    {raw data : List UInt8} {i : ℕ} {channel typeCode : UInt8}
    (hdrop : raw.drop i = channel :: typeCode :: data) :
    HeaderAt raw i channel typeCode data := by
  have hlength := congrArg List.length hdrop
  rw [List.length_drop, List.length_cons, List.length_cons] at hlength
  constructor
  · omega
  · rw [← Nat.add_zero i, ← List.getElem?_drop, hdrop]
    rfl
  · rw [← List.getElem?_drop, hdrop]
    rfl
  · rw [← List.drop_drop, hdrop]
    rfl

theorem HeaderAt.slice_eq
    {raw data : List UInt8} {i : ℕ} {channel typeCode : UInt8}
    (hheader : HeaderAt raw i channel typeCode data) :
    slice raw (i + 2) raw.length = some data := by
  rw [slice_of_le hheader.fits le_rfl, List.take_length, hheader.data]

theorem HeaderAt.getRange_eq
    {raw data : List UInt8} {i : ℕ} {channel typeCode : UInt8}
    (hheader : HeaderAt raw i channel typeCode data) (size : ℕ) :
    getRange raw (i + 2) (i + 2 + size) = getRange data 0 size := by
  have hfits := hheader.fits
  have hlength : data.length = raw.length - (i + 2) := by
    rw [← hheader.data, List.length_drop]
  have hbound : i + 2 + size ≤ raw.length ↔ size ≤ data.length := by omega
  rw [getRange, getRange, hheader.data, Nat.add_sub_cancel_left, List.drop_zero,
    Nat.sub_zero]
  simp only [hbound]

section Turn

variable {raw data : List UInt8} {i : ℕ} {channel typeCode : UInt8}
  (readings : List TelemetryReading)

theorem iterate_gps (hheader : HeaderAt raw i channel lppGps data) :
    iterate raw ⟨i, readings⟩ =
      some ((Telemetry.decodeGps channel data).map fun fields =>
        { i := i + 2 + gpsComponentSize * 3
          readings := readings ++ fields }) := by
  rw [iterate, if_pos hheader.fits, hheader.channel, hheader.typeCode]
  simp only [Option.bind_eq_bind, Option.bind_some, if_true]
  rw [hheader.slice_eq, Option.bind_some, decodeGps_eq, Option.bind_some]

theorem iterate_field
    (hheader : HeaderAt raw i channel typeCode data)
    (hother : typeCode ≠ lppGps) :
    iterate raw ⟨i, readings⟩ =
      some ((types.find? fun type => type.code = typeCode).bind fun type =>
        (getRange data 0 type.size).map fun bytes =>
          { i := i + 2 + type.size
            readings := readings ++
              [⟨channel, type.label, type.read bytes / type.mult,
                type.unit⟩] }) := by
  rw [iterate, if_pos hheader.fits, hheader.channel, hheader.typeCode]
  simp only [Option.bind_eq_bind, Option.bind_some, if_neg hother,
    hheader.getRange_eq]
  cases hfind : types.find? fun type => type.code = typeCode with
  | none => rfl
  | some type =>
      rcases types_sized (List.mem_of_find?_eq_some hfind) with
        ⟨hsize, hnarrow⟩
      cases hrange : getRange data 0 type.size with
      | none => simp [hrange]
      | some bytes =>
          have hsized := fieldSized_of_getRange hrange hsize (by omega)
          simp only [hrange, readField_eq type hsized, Option.bind_some,
            Option.map_some]

/-- Less than a header is left. -/
theorem iterate_short
    (hshort : ∀ channel typeCode data,
      raw.drop i ≠ channel :: typeCode :: data) :
    iterate raw ⟨i, readings⟩ = some none := by
  rw [iterate, if_neg]
  intro (hfits : i + 2 ≤ raw.length)
  have hlength : (raw.drop i).length = raw.length - i := List.length_drop
  rcases hrest : raw.drop i with _ | ⟨channel, _ | ⟨typeCode, data⟩⟩
  · rw [hrest, List.length_nil] at hlength
    omega
  · rw [hrest, List.length_singleton] at hlength
    omega
  · exact hshort channel typeCode data hrest

end Turn

/-- From any cursor the loop ends, without a panic, with the readings of what
is left of the payload. -/
theorem returns_drop
    (raw : List UInt8) (i : ℕ) (readings : List TelemetryReading) :
    Returns raw ⟨i, readings⟩ (readings ++ decode (raw.drop i)) := by
  generalize hrest : raw.drop i = rest
  induction rest using decode.induct generalizing i readings with
  | case1 channel data hgps =>
      have hturn := iterate_gps readings (headerAt_of_drop hrest)
      rw [hgps, Option.map_none] at hturn
      rw [decode, if_pos rfl, hgps, List.append_nil]
      exact .stop hturn
  | case2 channel data fields hgps ih =>
      have hheader := headerAt_of_drop hrest
      have hturn := iterate_gps readings hheader
      rw [hgps, Option.map_some] at hturn
      rw [decode, if_pos rfl, hgps, ← List.append_assoc]
      refine .turn hturn (ih _ _ ?_)
      rw [← hheader.data, List.drop_drop]
  | case3 channel typeCode data hother hfind =>
      have hturn := iterate_field readings (headerAt_of_drop hrest) hother
      rw [hfind, Option.bind_none] at hturn
      rw [decode, if_neg hother, hfind, List.append_nil]
      exact .stop hturn
  | case4 channel typeCode data hother type hfind hrange =>
      have hturn := iterate_field readings (headerAt_of_drop hrest) hother
      rw [hfind, Option.bind_some, hrange, Option.map_none] at hturn
      rw [decode, if_neg hother, hfind]
      simp only [hrange, List.append_nil]
      exact .stop hturn
  | case5 channel typeCode data hother type hfind bytes hrange ih =>
      have hheader := headerAt_of_drop hrest
      have hturn := iterate_field readings hheader hother
      rw [hfind, Option.bind_some, hrange, Option.map_some] at hturn
      rw [decode, if_neg hother, hfind]
      simp only [hrange]
      rw [List.append_cons]
      refine .turn hturn (ih _ _ ?_)
      rw [← hheader.data, List.drop_drop]
  | case6 rest hshort =>
      rw [decode]
      · rw [List.append_nil]
        exact .stop (iterate_short readings (hrest ▸ hshort))
      · exact hshort

theorem length_decodeGps
    {channel : UInt8} {data : List UInt8} {fields : List TelemetryReading}
    (hgps : Telemetry.decodeGps channel data = some fields) :
    fields.length = 3 ∧ gpsComponentSize * 3 ≤ data.length := by
  rw [Telemetry.decodeGps] at hgps
  simp only [Option.bind_eq_bind, Option.bind_eq_some_iff,
    Option.some.injEq] at hgps
  rcases hgps with ⟨lat, _, lon, _, alt, halt, rfl⟩
  constructor
  · rfl
  · rw [getRange] at halt
    by_contra hshort
    rw [if_neg hshort] at halt
    cases halt

/-- A record takes more bytes than it yields readings. -/
theorem length_decode_le (raw : List UInt8) :
    (decode raw).length ≤ raw.length := by
  induction raw using decode.induct with
  | case1 channel data hgps =>
      rw [decode, if_pos rfl, hgps]
      exact Nat.zero_le _
  | case2 channel data fields hgps ih =>
      rcases length_decodeGps hgps with ⟨hfields, hfits⟩
      rw [decode, if_pos rfl, hgps]
      simp only [List.length_append, List.length_cons, List.length_drop]
        at ih ⊢
      have hsize : gpsComponentSize * 3 = 9 := rfl
      omega
  | case3 channel typeCode data hother hfind =>
      rw [decode, if_neg hother, hfind]
      exact Nat.zero_le _
  | case4 channel typeCode data hother type hfind hrange =>
      rw [decode, if_neg hother, hfind]
      simp only [hrange]
      exact Nat.zero_le _
  | case5 channel typeCode data hother type hfind bytes hrange ih =>
      rw [decode, if_neg hother, hfind]
      simp only [hrange, List.length_cons, List.length_drop] at ih ⊢
      omega
  | case6 rest hshort =>
      rw [decode]
      · exact Nat.zero_le _
      · exact hshort

/-- Whatever the payload, the loop ends without a panic, with the readings of
`decode`, and there are no more of them than bytes. -/
theorem decode_cannot_panic (raw : List UInt8) :
    Returns raw ⟨0, []⟩ (decode raw) ∧ (decode raw).length ≤ raw.length :=
  ⟨returns_drop raw 0 [], length_decode_le raw⟩

end Cursor

end Telemetry

end MeshController
