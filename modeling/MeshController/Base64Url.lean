import Mathlib.Tactic

/-!
# URL-safe base64 without padding

Three bytes make four digits of six bits; one or two bytes at the end make two
or three.  Decoding refuses what no encoding gives: other characters, a digit
too many, and bits at the end which no byte has.
-/

namespace Base64Url

/-! ## The digits -/

def digit (value : ℕ) : Char :=
  if value < 26 then Char.ofNat ('A'.toNat + value)
  else if value < 52 then Char.ofNat ('a'.toNat + (value - 26))
  else if value < 62 then Char.ofNat ('0'.toNat + (value - 52))
  else if value = 62 then '-'
  else '_'

def digitValue (c : Char) : Option ℕ :=
  (List.range 64).find? fun value => digit value = c

theorem digitValue_digit {value : ℕ} (hvalue : value < 64) :
    digitValue (digit value) = some value := by
  have hall : ∀ i : Fin 64, digitValue (digit i.val) = some i.val := by
    decide +kernel
  exact hall ⟨value, hvalue⟩

theorem digit_ne_dot {value : ℕ} (hvalue : value < 64) : digit value ≠ '.' := by
  have hall : ∀ i : Fin 64, digit i.val ≠ '.' := by decide +kernel
  exact hall ⟨value, hvalue⟩

theorem mapM_digitValue_map_digit
    {values : List ℕ} (hvalues : ∀ value ∈ values, value < 64) :
    (values.map digit).mapM digitValue = some values := by
  induction values with
  | nil => rfl
  | cons value values ih =>
      rw [List.forall_mem_cons] at hvalues
      rw [List.map_cons, List.mapM_cons, digitValue_digit hvalues.1,
        ih hvalues.2]
      rfl

/-! ## Encoding and decoding -/

def encodeValues : List UInt8 → List ℕ
  | [] => []
  | [a] => [a.toNat / 4, a.toNat % 4 * 16]
  | [a, b] =>
      [a.toNat / 4, a.toNat % 4 * 16 + b.toNat / 16, b.toNat % 16 * 4]
  | a :: b :: c :: rest =>
      a.toNat / 4 :: (a.toNat % 4 * 16 + b.toNat / 16) ::
        (b.toNat % 16 * 4 + c.toNat / 64) :: c.toNat % 64 ::
          encodeValues rest

def encode (bytes : List UInt8) : List Char :=
  (encodeValues bytes).map digit

def decodeValues : List ℕ → Option (List UInt8)
  | [] => some []
  | [_] => none
  | [p, q] =>
      if q % 16 = 0 then some [UInt8.ofNat (p * 4 + q / 16)] else none
  | [p, q, r] =>
      if r % 4 = 0 then
        some [UInt8.ofNat (p * 4 + q / 16),
          UInt8.ofNat (q % 16 * 16 + r / 4)]
      else none
  | p :: q :: r :: s :: rest =>
      (decodeValues rest).map fun bytes =>
        UInt8.ofNat (p * 4 + q / 16) :: UInt8.ofNat (q % 16 * 16 + r / 4) ::
          UInt8.ofNat (r % 4 * 64 + s) :: bytes

def decode (text : List Char) : Option (List UInt8) :=
  (text.mapM digitValue).bind decodeValues

theorem lt_of_mem_encodeValues
    {bytes : List UInt8} {value : ℕ} (hmem : value ∈ encodeValues bytes) :
    value < 64 := by
  fun_induction encodeValues bytes with
  | case1 => cases hmem
  | case2 a =>
      have ha := a.toNat_lt
      simp only [List.mem_cons, List.not_mem_nil, or_false] at hmem
      omega
  | case3 a b =>
      have ha := a.toNat_lt
      have hb := b.toNat_lt
      simp only [List.mem_cons, List.not_mem_nil, or_false] at hmem
      omega
  | case4 a b c rest ih =>
      have ha := a.toNat_lt
      have hb := b.toNat_lt
      have hc := c.toNat_lt
      simp only [List.mem_cons] at hmem
      rcases hmem with hmem | hmem | hmem | hmem | hmem
      · omega
      · omega
      · omega
      · omega
      · exact ih hmem

theorem ofNat_eq {byte : UInt8} {number : ℕ} (heq : number = byte.toNat) :
    UInt8.ofNat number = byte := by
  rw [heq, UInt8.ofNat_toNat]

/-- The six bits of a digit and the two above them in the next one. -/
theorem firstByte_eq (a : UInt8) {low : ℕ} (hlow : low < 16) :
    UInt8.ofNat (a.toNat / 4 * 4 + (a.toNat % 4 * 16 + low) / 16) = a :=
  ofNat_eq (by omega)

theorem secondByte_eq (high : ℕ) (b : UInt8) {low : ℕ} (hlow : low < 4) :
    UInt8.ofNat ((high * 16 + b.toNat / 16) % 16 * 16 +
      (b.toNat % 16 * 4 + low) / 4) = b := by
  have hb := b.toNat_lt
  exact ofNat_eq (by omega)

theorem thirdByte_eq (high : ℕ) (c : UInt8) :
    UInt8.ofNat ((high * 4 + c.toNat / 64) % 4 * 64 + c.toNat % 64) = c := by
  have hc := c.toNat_lt
  exact ofNat_eq (by omega)

theorem decodeValues_encodeValues (bytes : List UInt8) :
    decodeValues (encodeValues bytes) = some bytes := by
  fun_induction encodeValues bytes with
  | case1 => rfl
  | case2 a =>
      have hfirst := @firstByte_eq a 0 (by omega)
      rw [Nat.add_zero] at hfirst
      rw [decodeValues, if_pos (by omega), hfirst]
  | case3 a b =>
      have hb := b.toNat_lt
      have hsecond := @secondByte_eq (a.toNat % 4) b 0 (by omega)
      rw [Nat.add_zero] at hsecond
      rw [decodeValues, if_pos (by omega), firstByte_eq a (by omega), hsecond]
  | case4 a b c rest ih =>
      have hb := b.toNat_lt
      have hc := c.toNat_lt
      rw [decodeValues, ih, firstByte_eq a (by omega),
        secondByte_eq (a.toNat % 4) b (by omega),
        thirdByte_eq (b.toNat % 16) c, Option.map_some]

theorem decode_encodedBytes (bytes : List UInt8) :
    decode (encode bytes) = some bytes := by
  rw [decode, encode,
    mapM_digitValue_map_digit fun value hmem => lt_of_mem_encodeValues hmem,
    Option.bind_some, decodeValues_encodeValues]

theorem dot_not_mem_encode (bytes : List UInt8) : '.' ∉ encode bytes := by
  intro hmem
  obtain ⟨value, hvalue, heq⟩ := List.mem_map.mp hmem
  exact digit_ne_dot (lt_of_mem_encodeValues hvalue) heq

end Base64Url
