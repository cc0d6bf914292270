import Mathlib.Tactic

/-!
# Lossy decoding of UTF-8

Text is read byte by byte.  A lead byte announces how many further bytes its
character has and in which range the first of them lies; a byte which does not
fit ends the sequence, gives one replacement character for what was read of
it, and is read again as the front of what follows.  Decoding what was encoded
gives the text back.
-/

namespace Utf8Lossy

/-- The UTF-8 bytes of a text. -/
def bytes (text : String) : List UInt8 :=
  text.toList.flatMap String.utf8EncodeChar

theorem toByteArray_bytes (text : String) :
    (bytes text).toByteArray = text.toUTF8 := by
  rw [String.toUTF8_eq_toByteArray, ← String.utf8Encode_toList]
  rfl

/-- `U+FFFD`. -/
def replacement : Char := '\uFFFD'

/-- A character of which some bytes were read: their bits, how many bytes it
still needs, and the range of the next of them. -/
structure Sequence where
  value : ℕ
  needed : ℕ
  low : ℕ
  high : ℕ
deriving DecidableEq

/-- The sequence a lead byte begins.  The range of the second byte leaves out
the overlong forms, the surrogates and what lies above the last character. -/
def Sequence.ofLead (byte : ℕ) : Option Sequence :=
  if byte < 0xC2 then none
  else if byte < 0xE0 then some ⟨byte - 0xC0, 1, 0x80, 0xBF⟩
  else if byte < 0xF0 then
    some ⟨byte - 0xE0, 2, if byte = 0xE0 then 0xA0 else 0x80,
      if byte = 0xED then 0x9F else 0xBF⟩
  else if byte < 0xF5 then
    some ⟨byte - 0xF0, 3, if byte = 0xF0 then 0x90 else 0x80,
      if byte = 0xF4 then 0x8F else 0xBF⟩
  else none

/-- A byte at the front of a character. -/
def front (byte : ℕ) : List Char × Option Sequence :=
  if byte < 0x80 then ([Char.ofNat byte], none)
  else
    match Sequence.ofLead byte with
    | none => ([replacement], none)
    | some sequence => ([], some sequence)

/-- A byte, and what was read before it. -/
def step (pending : Option Sequence) (byte : ℕ) :
    List Char × Option Sequence :=
  match pending with
  | none => front byte
  | some sequence =>
      if sequence.low ≤ byte ∧ byte ≤ sequence.high then
        let value := sequence.value * 64 + byte % 64
        if sequence.needed = 1 then ([Char.ofNat value], none)
        else ([], some ⟨value, sequence.needed - 1, 0x80, 0xBF⟩)
      else (replacement :: (front byte).1, (front byte).2)

def decodeFrom (pending : Option Sequence) : List UInt8 → List Char
  | [] => if pending.isSome then [replacement] else []
  | byte :: rest =>
      (step pending byte.toNat).1 ++
        decodeFrom (step pending byte.toNat).2 rest

/-- `String::from_utf8_lossy`. -/
def decode (encoded : List UInt8) : String :=
  String.ofList (decodeFrom none encoded)

/-! ## What a well-formed sequence is read as -/

theorem decodeFrom_cons
    (pending : Option Sequence) (byte : UInt8) (rest : List UInt8) :
    decodeFrom pending (byte :: rest) =
      (step pending byte.toNat).1 ++
        decodeFrom (step pending byte.toNat).2 rest := rfl

theorem step_last
    {value low high byte : ℕ} (hlow : low ≤ byte) (hhigh : byte ≤ high) :
    step (some ⟨value, 1, low, high⟩) byte =
      ([Char.ofNat (value * 64 + byte % 64)], none) := by
  simp [step, hlow, hhigh]

theorem step_further
    {value needed low high byte : ℕ}
    (hlow : low ≤ byte) (hhigh : byte ≤ high) :
    step (some ⟨value, needed + 2, low, high⟩) byte =
      ([], some ⟨value * 64 + byte % 64, needed + 1, 0x80, 0xBF⟩) := by
  simp [step, hlow, hhigh]

theorem front_ascii {byte : ℕ} (hbyte : byte < 0x80) :
    front byte = ([Char.ofNat byte], none) := by
  simp [front, hbyte]

theorem front_of_lead
    {byte : ℕ} {sequence : Sequence} (hbyte : 0x80 ≤ byte)
    (hlead : Sequence.ofLead byte = some sequence) :
    front byte = ([], some sequence) := by
  simp [front, Nat.not_lt.mpr hbyte, hlead]

theorem ofLead_two {byte : ℕ} (hlow : 0xC2 ≤ byte) (hhigh : byte < 0xE0) :
    Sequence.ofLead byte = some ⟨byte - 0xC0, 1, 0x80, 0xBF⟩ := by
  simp [Sequence.ofLead, Nat.not_lt.mpr hlow, hhigh]

theorem ofLead_three {byte : ℕ} (hlow : 0xE0 ≤ byte) (hhigh : byte < 0xF0) :
    Sequence.ofLead byte =
      some ⟨byte - 0xE0, 2, if byte = 0xE0 then 0xA0 else 0x80,
        if byte = 0xED then 0x9F else 0xBF⟩ := by
  have htwo : ¬ byte < 0xC2 := by omega
  simp [Sequence.ofLead, htwo, Nat.not_lt.mpr hlow, hhigh]

theorem ofLead_four {byte : ℕ} (hlow : 0xF0 ≤ byte) (hhigh : byte < 0xF5) :
    Sequence.ofLead byte =
      some ⟨byte - 0xF0, 3, if byte = 0xF0 then 0x90 else 0x80,
        if byte = 0xF4 then 0x8F else 0xBF⟩ := by
  have htwo : ¬ byte < 0xC2 := by omega
  have hthree : ¬ byte < 0xE0 := by omega
  simp [Sequence.ofLead, htwo, hthree, Nat.not_lt.mpr hlow, hhigh]

theorem toNat_ofNat_byte {number : ℕ} (hfits : number < 256) :
    (UInt8.ofNat number).toNat = number :=
  UInt8.toNat_ofNat_of_lt' hfits

/-- A character is read back from the bytes it is encoded as.  Their number is
decided by its value, and so are the bounds of each byte. -/
theorem decodeFrom_utf8EncodeChar (c : Char) (rest : List UInt8) :
    decodeFrom none (String.utf8EncodeChar c ++ rest) =
      c :: decodeFrom none rest := by
  have hvalid : c.val.toNat < 0xD800 ∨
      0xDFFF < c.val.toNat ∧ c.val.toNat < 0x110000 := c.valid
  have hchar : Char.ofNat c.val.toNat = c := Char.ofNat_toNat c
  unfold String.utf8EncodeChar
  generalize c.val.toNat = v at hvalid hchar
  simp only
  split
  case isTrue hone =>
    rw [List.cons_append, List.nil_append, decodeFrom_cons,
      toNat_ofNat_byte (by omega), step, front_ascii (by omega), hchar]
    rfl
  case isFalse hone =>
    split
    case isTrue htwo =>
      rw [List.cons_append, List.cons_append, List.nil_append,
        decodeFrom_cons, toNat_ofNat_byte (by omega), step,
        front_of_lead (by omega) (ofLead_two (by omega) (by omega)),
        decodeFrom_cons, toNat_ofNat_byte (by omega),
        step_last (by omega) (by omega)]
      have hvalue : (v / 64 % 0x20 + 0xC0 - 0xC0) * 64 +
          (v % 0x40 + 0x80) % 64 = v := by omega
      rw [hvalue, hchar]
      rfl
    case isFalse htwo =>
      split
      case isTrue hthree =>
        rw [List.cons_append, List.cons_append, List.cons_append,
          List.nil_append, decodeFrom_cons, toNat_ofNat_byte (by omega), step,
          front_of_lead (by omega) (ofLead_three (by omega) (by omega)),
          decodeFrom_cons, toNat_ofNat_byte (by omega),
          step_further (by split <;> omega) (by split <;> omega),
          decodeFrom_cons, toNat_ofNat_byte (by omega),
          step_last (by omega) (by omega)]
        have hvalue : ((v / 4096 % 0x10 + 0xE0 - 0xE0) * 64 +
            (v / 64 % 0x40 + 0x80) % 64) * 64 + (v % 0x40 + 0x80) % 64 =
              v := by omega
        rw [hvalue, hchar]
        rfl
      case isFalse hthree =>
        rw [List.cons_append, List.cons_append, List.cons_append,
          List.cons_append, List.nil_append, decodeFrom_cons,
          toNat_ofNat_byte (by omega), step,
          front_of_lead (by omega) (ofLead_four (by omega) (by omega)),
          decodeFrom_cons, toNat_ofNat_byte (by omega),
          step_further (by split <;> omega) (by split <;> omega),
          decodeFrom_cons, toNat_ofNat_byte (by omega),
          step_further (by omega) (by omega),
          decodeFrom_cons, toNat_ofNat_byte (by omega),
          step_last (by omega) (by omega)]
        have hvalue : (((v / 262144 % 0x08 + 0xF0 - 0xF0) * 64 +
            (v / 4096 % 0x40 + 0x80) % 64) * 64 +
              (v / 64 % 0x40 + 0x80) % 64) * 64 + (v % 0x40 + 0x80) % 64 =
                v := by omega
        rw [hvalue, hchar]
        rfl

theorem decodeFrom_flatMap (text : List Char) (rest : List UInt8) :
    decodeFrom none (text.flatMap String.utf8EncodeChar ++ rest) =
      text ++ decodeFrom none rest := by
  induction text with
  | nil => rfl
  | cons c text ih =>
      rw [List.flatMap_cons, List.append_assoc, decodeFrom_utf8EncodeChar, ih]
      rfl

theorem decode_bytes (text : String) : decode (bytes text) = text := by
  have hread := decodeFrom_flatMap text.toList []
  rw [List.append_nil] at hread
  rw [decode, bytes, hread]
  simp [decodeFrom]

theorem zero_not_mem_utf8EncodeChar {c : Char} (hc : c.val.toNat ≠ 0) :
    (0 : UInt8) ∉ String.utf8EncodeChar c := by
  have hvalid : c.val.toNat < 0xD800 ∨
      0xDFFF < c.val.toNat ∧ c.val.toNat < 0x110000 := c.valid
  unfold String.utf8EncodeChar
  generalize c.val.toNat = v at hvalid hc
  have hbyte : ∀ number, number < 256 → number ≠ 0 →
      ¬ (0 : UInt8) = UInt8.ofNat number := by
    intro number hfits hne hzero
    have hnat := congrArg UInt8.toNat hzero
    rw [toNat_ofNat_byte hfits] at hnat
    exact hne hnat.symm
  simp only
  split
  · simpa using hbyte v (by omega) hc
  · split
    · simp only [List.mem_cons, List.not_mem_nil, or_false, not_or]
      exact ⟨hbyte _ (by omega) (by omega), hbyte _ (by omega) (by omega)⟩
    · split
      · simp only [List.mem_cons, List.not_mem_nil, or_false, not_or]
        exact ⟨hbyte _ (by omega) (by omega), hbyte _ (by omega) (by omega),
          hbyte _ (by omega) (by omega)⟩
      · simp only [List.mem_cons, List.not_mem_nil, or_false, not_or]
        exact ⟨hbyte _ (by omega) (by omega), hbyte _ (by omega) (by omega),
          hbyte _ (by omega) (by omega), hbyte _ (by omega) (by omega)⟩

theorem zero_not_mem_bytes
    {text : String} (hnull : Char.ofNat 0 ∉ text.toList) :
    (0 : UInt8) ∉ bytes text := by
  unfold bytes
  rw [List.mem_flatMap]
  intro hzero
  rcases hzero with ⟨c, hmem, hbyte⟩
  apply zero_not_mem_utf8EncodeChar _ hbyte
  intro hval
  have hchar : Char.ofNat c.val.toNat = c := Char.ofNat_toNat c
  rw [hval] at hchar
  exact hnull (hchar ▸ hmem)

end Utf8Lossy
