import MeshController.Telemetry

/-!
# Truncated telemetry

Any bytes of the right number are some field, so a payload is a sequence of
complete records and a rest at which decoding stops: too short, cut within a
record, or of an unknown type.  What is appended to a payload cannot change
its records, and what follows an unknown type is not read at all.
-/

namespace MeshController

namespace Telemetry

/-- The length of the payload up to and with the type code which decoding
does not know, if that is where it stops. -/
def unknownTypeAt : List UInt8 → Option ℕ
  | channel :: typeCode :: data =>
      if typeCode = lppGps then
        match decodeGps channel data with
        | none => none
        | some _ =>
            (unknownTypeAt (data.drop (gpsComponentSize * 3))).map
              (2 + gpsComponentSize * 3 + ·)
      else
        match types.find? fun type => type.code = typeCode with
        | none => some 2
        | some type =>
            match getRange data 0 type.size with
            | none => none
            | some _ =>
                (unknownTypeAt (data.drop type.size)).map (2 + type.size + ·)
  | _ => none
termination_by raw => raw.length

/-! ## Any bytes are a field -/

section Field

variable {bytes : List UInt8}

theorem encodeField_readUnsigned (bytes : List UInt8) :
    FitsField bytes.length false (readUnsigned bytes) ∧
      encodeField bytes.length (readUnsigned bytes) = bytes := by
  have hlt := BigEndian.value_lt_two_pow bytes
  have hfits : (BigEndian.value bytes : ℤ) < 2 ^ (bytes.length * 8) := by
    exact_mod_cast hlt
  rw [readUnsigned_eq_value]
  constructor
  · rw [FitsField, if_neg (by decide)]
    exact ⟨Int.natCast_nonneg _, hfits⟩
  · rw [encodeField, BigEndian.wrap_of_nonneg (Int.natCast_nonneg _) hfits,
      Int.toNat_natCast, BigEndian.bytes_value]

theorem encodeField_readSigned (hnonempty : bytes ≠ []) :
    FitsField bytes.length true (readSigned bytes) ∧
      encodeField bytes.length (readSigned bytes) = bytes := by
  have hlength := List.length_pos_of_ne_nil hnonempty
  have hlt := BigEndian.value_lt_two_pow bytes
  rw [readSigned_eq_unwrap]
  constructor
  · rw [FitsField, if_pos rfl]
    exact BigEndian.unwrap_bounds (by omega) hlt
  · rw [encodeField, BigEndian.wrap_unwrap hlt, BigEndian.bytes_value]

theorem encodeField_read
    (type : FieldType) (hnonempty : bytes ≠ []) :
    FitsField bytes.length type.signed (type.read bytes) ∧
      encodeField bytes.length (type.read bytes) = bytes := by
  unfold FieldType.read
  cases type.signed with
  | true => simpa using encodeField_readSigned hnonempty
  | false => simpa using encodeField_readUnsigned bytes

end Field

theorem exists_field
    (channel : UInt8) {type : FieldType} {data : List UInt8}
    (hknown : type ∈ types) (hlength : type.size ≤ data.length) :
    ∃ record : SensorRecord,
      channel :: type.code :: data =
        record.encode ++ data.drop type.size := by
  have hsize := (find_types hknown).2.2
  have htake : (data.take type.size).length = type.size :=
    List.length_take_of_le hlength
  have hnonempty : data.take type.size ≠ [] :=
    List.ne_nil_of_length_pos (by omega)
  rcases encodeField_read type hnonempty with ⟨hfits, hencode⟩
  rw [htake] at hfits hencode
  use .field channel type (type.read (data.take type.size)) hknown hfits
  rw [SensorRecord.encode, hencode, List.cons_append, List.cons_append,
    List.take_append_drop]

theorem exists_gps
    (channel : UInt8) {data : List UInt8}
    (hlength : gpsComponentSize * 3 ≤ data.length) :
    ∃ record : SensorRecord,
      channel :: lppGps :: data =
        record.encode ++ data.drop (gpsComponentSize * 3) := by
  have hcomponent : ∀ first, first ≤ gpsComponentSize * 2 →
      ((data.drop first).take gpsComponentSize).length =
        gpsComponentSize := by
    intro first hfirst
    rw [List.length_take_of_le]
    rw [List.length_drop]
    have hsize : gpsComponentSize = 3 := rfl
    omega
  have hfield : ∀ first, first ≤ gpsComponentSize * 2 → ∃ number,
      FitsField gpsComponentSize true number ∧
        encodeField gpsComponentSize number =
          (data.drop first).take gpsComponentSize := by
    intro first hfirst
    have hlength := hcomponent first hfirst
    have hnonempty : (data.drop first).take gpsComponentSize ≠ [] := by
      apply List.ne_nil_of_length_pos
      rw [hlength]
      decide
    have hsigned := encodeField_readSigned hnonempty
    rw [hlength] at hsigned
    exact ⟨_, hsigned⟩
  rcases hfield 0 (by decide) with ⟨lat, hlat, hlatbytes⟩
  rcases hfield gpsComponentSize (by decide) with ⟨lon, hlon, hlonbytes⟩
  rcases hfield (gpsComponentSize * 2) le_rfl with ⟨alt, halt, haltbytes⟩
  use .gps channel lat lon alt hlat hlon halt
  have hrest : ∀ first,
      (data.drop first).take gpsComponentSize ++
        data.drop (first + gpsComponentSize) = data.drop first := by
    intro first
    rw [← List.drop_drop, List.take_append_drop]
  have hthree : gpsComponentSize * 3 =
      gpsComponentSize * 2 + gpsComponentSize := rfl
  have htwo : gpsComponentSize * 2 = gpsComponentSize + gpsComponentSize := rfl
  rw [SensorRecord.encode, hlatbytes, hlonbytes, haltbytes]
  simp only [List.cons_append, List.append_assoc]
  rw [hthree, hrest, htwo, hrest, List.drop_zero, List.take_append_drop]

/-! ## Where decoding stops -/

/-- A rest with no complete record at its beginning. -/
inductive Stops : List UInt8 → Prop where
  | short {rest : List UInt8} (hlength : rest.length < 2) : Stops rest
  | unknown {channel typeCode : UInt8} {data : List UInt8}
      (hother : typeCode ≠ lppGps)
      (hfind : (types.find? fun type => type.code = typeCode) = none) :
      Stops (channel :: typeCode :: data)
  | cutField {channel : UInt8} {type : FieldType} {data : List UInt8}
      (hknown : type ∈ types) (hlength : data.length < type.size) :
      Stops (channel :: type.code :: data)
  | cutGps {channel : UInt8} {data : List UInt8}
      (hlength : data.length < gpsComponentSize * 3) :
      Stops (channel :: lppGps :: data)

theorem exists_record_or_stops (raw : List UInt8) :
    (∃ (record : SensorRecord) (rest : List UInt8),
      raw = record.encode ++ rest ∧ rest.length < raw.length) ∨
      Stops raw := by
  match raw with
  | [] => exact Or.inr (.short (by simp))
  | [only] => exact Or.inr (.short (by simp))
  | channel :: typeCode :: data =>
      by_cases hgps : typeCode = lppGps
      · subst hgps
        by_cases hlength : gpsComponentSize * 3 ≤ data.length
        · rcases exists_gps channel hlength with ⟨record, hraw⟩
          refine Or.inl ⟨record, _, hraw, ?_⟩
          simp only [List.length_drop, List.length_cons]
          omega
        · exact Or.inr (.cutGps (Nat.not_le.mp hlength))
      · cases hfind : types.find? fun type => type.code = typeCode with
        | none => exact Or.inr (.unknown hgps hfind)
        | some type =>
            have hknown := List.mem_of_find?_eq_some hfind
            have hcode : type.code = typeCode := by
              simpa using List.find?_some hfind
            subst hcode
            by_cases hlength : type.size ≤ data.length
            · rcases exists_field channel hknown hlength with
                ⟨record, hraw⟩
              refine Or.inl ⟨record, _, hraw, ?_⟩
              simp only [List.length_drop, List.length_cons]
              omega
            · exact Or.inr (.cutField hknown (Nat.not_le.mp hlength))

/-- Every payload is complete records and such a rest. -/
theorem exists_records (raw : List UInt8) :
    ∃ (records : List SensorRecord) (rest : List UInt8),
      raw = records.flatMap SensorRecord.encode ++ rest ∧ Stops rest := by
  induction hlength : raw.length using Nat.strong_induction_on
    generalizing raw with
  | _ length ih =>
      rcases exists_record_or_stops raw with
        ⟨record, rest, hraw, hless⟩ | hstops
      · rcases ih rest.length (hlength ▸ hless) rest rfl with
          ⟨records, last, hrest, hstops⟩
        use record :: records, last
        constructor
        · rw [List.flatMap_cons, List.append_assoc, ← hrest]
          exact hraw
        · exact hstops
      · exact ⟨[], raw, rfl, hstops⟩

/-! ## What follows the records -/

theorem decode_records
    (records : List SensorRecord) (rest : List UInt8) :
    decode (records.flatMap SensorRecord.encode ++ rest) =
      records.flatMap SensorRecord.readings ++ decode rest := by
  induction records with
  | nil => rfl
  | cons record others ih =>
      rw [List.flatMap_cons, List.flatMap_cons, List.append_assoc,
        decode_record, ih, List.append_assoc]

theorem decode_unknown
    {typeCode : UInt8} (hother : typeCode ≠ lppGps)
    (hfind : (types.find? fun type => type.code = typeCode) = none)
    (channel : UInt8) (data : List UInt8) :
    decode (channel :: typeCode :: data) = [] := by
  rw [decode, if_neg hother, hfind]

theorem getRange_of_lt
    {data : List UInt8} {first last : ℕ} (hlt : data.length < last) :
    getRange data first last = none :=
  if_neg (Nat.not_le.mpr hlt)

theorem decodeGps_of_lt
    {data : List UInt8} (hlt : data.length < gpsComponentSize * 3)
    (channel : UInt8) : decodeGps channel data = none := by
  rw [decodeGps, getRange_of_lt hlt]
  cases getRange data 0 gpsComponentSize with
  | none => rfl
  | some lat =>
      cases getRange data gpsComponentSize (gpsComponentSize * 2) <;> rfl

/-- Such a rest has no readings, and what makes its type unknown is all that is
read of it. -/
theorem decode_of_stops {rest : List UInt8} (hstops : Stops rest) :
    decode rest = [] ∧ ∀ stop ∈ unknownTypeAt rest,
      ∀ after, decode (rest.take stop ++ after) = [] := by
  cases hstops with
  | short hlength =>
      match rest with
      | [] => simp [decode, unknownTypeAt]
      | [only] => simp [decode, unknownTypeAt]
      | channel :: typeCode :: data =>
          rw [List.length_cons, List.length_cons] at hlength
          omega
  | unknown hother hfind =>
      rename_i channel typeCode data
      constructor
      · exact decode_unknown hother hfind channel data
      · intro stop hstop
        rw [unknownTypeAt, if_neg hother, hfind, Option.mem_some] at hstop
        subst hstop
        exact decode_unknown hother hfind channel
  | cutField hknown hlength =>
      rcases find_types hknown with ⟨hfind, hother, _⟩
      constructor
      · rw [decode, if_neg hother, hfind]
        simp only [getRange_of_lt hlength]
      · intro stop hstop
        rw [unknownTypeAt, if_neg hother, hfind] at hstop
        simp only [getRange_of_lt hlength] at hstop
        cases hstop
  | cutGps hlength =>
      rename_i channel data
      have hnone := decodeGps_of_lt hlength channel
      constructor
      · rw [decode, if_pos rfl, hnone]
      · intro stop hstop
        rw [unknownTypeAt, if_pos rfl, hnone] at hstop
        cases hstop

theorem unknownTypeAt_record (record : SensorRecord) (rest : List UInt8) :
    unknownTypeAt (record.encode ++ rest) =
      (unknownTypeAt rest).map (record.encode.length + ·) := by
  cases record with
  | field channel type number known fits =>
      rcases find_types known with ⟨hfind, hother, _⟩
      have hrange := getRange_front (encodeField type.size number) rest
      rw [length_encodeField] at hrange
      have hdrop : (encodeField type.size number ++ rest).drop type.size =
          rest := List.drop_left' (length_encodeField _ _)
      have hlength : (channel :: type.code ::
          encodeField type.size number).length = 2 + type.size := by
        rw [List.length_cons, List.length_cons, length_encodeField]
        omega
      rw [SensorRecord.encode, hlength, List.cons_append, List.cons_append,
        unknownTypeAt, if_neg hother, hfind]
      simp only [hrange, hdrop]
  | gps channel lat lon alt latFits lonFits altFits =>
      have hfields := decodeGps_encode channel latFits lonFits altFits rest
      have hdata : (encodeField gpsComponentSize lat ++
          (encodeField gpsComponentSize lon ++
            encodeField gpsComponentSize alt)).length =
              gpsComponentSize * 3 := by
        simp only [List.length_append, length_encodeField]
        rfl
      have hlength : (channel :: lppGps ::
          (encodeField gpsComponentSize lat ++
            (encodeField gpsComponentSize lon ++
              encodeField gpsComponentSize alt))).length =
                2 + gpsComponentSize * 3 := by
        rw [List.length_cons, List.length_cons, hdata]
        omega
      rw [SensorRecord.encode, hlength, List.cons_append, List.cons_append,
        unknownTypeAt, if_pos rfl, List.drop_left' hdata]
      rw [List.append_assoc, List.append_assoc, hfields]

theorem unknownTypeAt_records
    (records : List SensorRecord) (rest : List UInt8) :
    unknownTypeAt (records.flatMap SensorRecord.encode ++ rest) =
      (unknownTypeAt rest).map
        ((records.flatMap SensorRecord.encode).length + ·) := by
  induction records with
  | nil => simp
  | cons record others ih =>
      rw [List.flatMap_cons, List.append_assoc, unknownTypeAt_record, ih,
        Option.map_map, List.length_append]
      congr 1
      funext stop
      exact (Nat.add_assoc _ _ _).symm

/-- The readings of a payload are the first ones of any longer payload, and
behind a type which is not known nothing matters. -/
theorem decode_truncated (front rest : List UInt8) :
    decode front <+: decode (front ++ rest) ∧
      ∀ stop ∈ unknownTypeAt front, ∀ after,
        decode (front.take stop ++ after) = decode front := by
  rcases exists_records front with ⟨records, last, rfl, hstops⟩
  rcases decode_of_stops hstops with ⟨hlast, hunknown⟩
  constructor
  · rw [List.append_assoc, decode_records, decode_records, hlast,
      List.append_nil]
    exact List.prefix_append _ _
  · intro stop hstop after
    rw [unknownTypeAt_records, Option.mem_map] at hstop
    rcases hstop with ⟨inner, hinner, rfl⟩
    rw [List.take_length_add_append, List.append_assoc, decode_records,
      decode_records, hunknown inner hinner after, hlast]

end Telemetry

end MeshController
