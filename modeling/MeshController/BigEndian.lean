import Mathlib.Tactic

/-!
# Big-endian numbers

Numbers in a fixed number of bytes, highest byte first.  Negative numbers are
wrapped around at the end of the range, in two's complement.
-/

namespace BigEndian

def value (bytes : List UInt8) : ℕ :=
  bytes.foldl (fun acc byte => acc * 256 + byte.toNat) 0

def bytes : ℕ → ℕ → List UInt8
  | 0, _ => []
  | size + 1, number => UInt8.ofNat (number / 256 ^ size) :: bytes size number

@[simp] theorem length_bytes (size number : ℕ) :
    (bytes size number).length = size := by
  induction size with
  | zero => rfl
  | succ size ih => simp [bytes, ih]

@[simp] theorem value_nil : value [] = 0 := rfl

theorem foldl_eq_value (acc : ℕ) (list : List UInt8) :
    list.foldl (fun acc byte => acc * 256 + byte.toNat) acc =
      acc * 256 ^ list.length + value list := by
  unfold value
  induction list generalizing acc with
  | nil => simp
  | cons byte rest ih =>
      rw [List.foldl_cons, List.foldl_cons, ih, ih (0 * 256 + byte.toNat),
        List.length_cons, pow_succ]
      ring

theorem value_cons (byte : UInt8) (rest : List UInt8) :
    value (byte :: rest) = byte.toNat * 256 ^ rest.length + value rest := by
  have hfold := foldl_eq_value (0 * 256 + byte.toNat) rest
  simpa [value] using hfold

/-- Only the part of a number which fits is kept. -/
theorem value_bytes (size number : ℕ) :
    value (bytes size number) = number % 256 ^ size := by
  induction size with
  | zero => simp [bytes, Nat.mod_one]
  | succ size ih =>
      have hbyte : (UInt8.ofNat (number / 256 ^ size)).toNat =
          number / 256 ^ size % 256 := UInt8.toNat_ofNat'
      have hsplit : number % 256 ^ (size + 1) =
          number % 256 ^ size + 256 ^ size * (number / 256 ^ size % 256) := by
        rw [pow_succ, Nat.mod_mul]
      rw [bytes, value_cons, length_bytes, ih, hbyte, hsplit, add_comm,
        mul_comm]

theorem value_bytes_of_lt {size number : ℕ} (hfits : number < 256 ^ size) :
    value (bytes size number) = number := by
  rw [value_bytes, Nat.mod_eq_of_lt hfits]

theorem value_lt (list : List UInt8) : value list < 256 ^ list.length := by
  induction list with
  | nil => simp
  | cons byte rest ih =>
      have hbyte := byte.toNat_lt
      rw [value_cons, List.length_cons, pow_succ]
      nlinarith

theorem value_lt_two_pow (list : List UInt8) :
    value list < 2 ^ (list.length * 8) := by
  rw [Nat.mul_comm, pow_mul]
  exact value_lt list

theorem bytes_add_mul (size number turns : ℕ) :
    bytes size (turns * 256 ^ size + number) = bytes size number := by
  induction size generalizing turns with
  | zero => rfl
  | succ size ih =>
      have hshift : turns * 256 ^ (size + 1) + number =
          turns * 256 * 256 ^ size + number := by ring
      have hpositive : 0 < 256 ^ size := by positivity
      rw [bytes, bytes, hshift, ih, Nat.add_comm,
        Nat.add_mul_div_right _ _ hpositive]
      congr 1
      apply UInt8.toNat_inj.mp
      simp

/-- Every list of bytes is the one of its number. -/
theorem bytes_value (list : List UInt8) :
    bytes list.length (value list) = list := by
  induction list with
  | nil => rfl
  | cons byte rest ih =>
      have hhead : (byte.toNat * 256 ^ rest.length + value rest) /
          256 ^ rest.length = byte.toNat := by
        rw [Nat.add_comm, Nat.add_mul_div_right _ _ (by positivity),
          Nat.div_eq_of_lt (value_lt rest), Nat.zero_add]
      rw [List.length_cons, bytes, value_cons, hhead, bytes_add_mul, ih,
        UInt8.ofNat_toNat]

/-! ## Two's complement -/

/-- The unsigned number which stands for `number` in `bits` bits. -/
def wrap (bits : ℕ) (number : ℤ) : ℕ := (number % 2 ^ bits).toNat

/-- The number an unsigned number of `bits` bits stands for. -/
def unwrap (bits : ℕ) (raw : ℕ) : ℤ :=
  if raw.testBit (bits - 1) then raw - 2 ^ bits else raw

theorem wrap_lt (bits : ℕ) (number : ℤ) : wrap bits number < 2 ^ bits := by
  have hpos : (0 : ℤ) < 2 ^ bits := by positivity
  have hnonneg := Int.emod_nonneg number hpos.ne'
  have hlt := Int.emod_lt_of_pos number hpos
  unfold wrap
  zify
  rw [Int.toNat_of_nonneg hnonneg]
  exact hlt

theorem wrap_of_nonneg
    {bits : ℕ} {number : ℤ} (hnonneg : 0 ≤ number)
    (hfits : number < 2 ^ bits) : wrap bits number = number.toNat := by
  rw [wrap, Int.emod_eq_of_lt hnonneg hfits]

theorem wrap_of_neg
    {bits : ℕ} {number : ℤ} (hneg : number < 0)
    (hfits : -(2 ^ bits) ≤ number) :
    wrap bits number = (number + 2 ^ bits).toNat := by
  have hshift : number % 2 ^ bits = (number + 2 ^ bits) % 2 ^ bits := by
    simp
  rw [wrap, hshift, Int.emod_eq_of_lt (by omega) (by omega)]

theorem testBit_top_iff {bits raw : ℕ} (hfits : raw < 2 ^ (bits + 1)) :
    raw.testBit bits = true ↔ 2 ^ bits ≤ raw := by
  rw [Nat.testBit_eq_decide_div_mod_eq, decide_eq_true_iff]
  have hdiv : raw / 2 ^ bits < 2 := by
    apply Nat.div_lt_of_lt_mul
    rw [← pow_succ]
    exact hfits
  rw [Nat.mod_eq_of_lt hdiv]
  constructor
  · intro hone
    have hmul := Nat.div_mul_le_self raw (2 ^ bits)
    rw [hone] at hmul
    omega
  · intro hle
    have hpos := Nat.div_pos hle (by positivity)
    omega

theorem wrap_unwrap {bits raw : ℕ} (hfits : raw < 2 ^ bits) :
    wrap bits (unwrap bits raw) = raw := by
  have hraw : (raw : ℤ) % 2 ^ bits = raw :=
    Int.emod_eq_of_lt (by positivity) (by exact_mod_cast hfits)
  rw [wrap, unwrap]
  by_cases hnegative : raw.testBit (bits - 1)
  · rw [if_pos hnegative, Int.sub_emod_right, hraw, Int.toNat_natCast]
  · rw [if_neg hnegative, hraw, Int.toNat_natCast]

theorem unwrap_bounds {bits raw : ℕ} (hpositive : 0 < bits)
    (hfits : raw < 2 ^ bits) :
    -(2 ^ (bits - 1)) ≤ unwrap bits raw ∧
      unwrap bits raw < 2 ^ (bits - 1) := by
  rcases Nat.exists_eq_add_one.mpr hpositive with ⟨top, rfl⟩
  have hdouble : (2 : ℤ) ^ (top + 1) = 2 * 2 ^ top := by ring
  have htop := testBit_top_iff hfits
  have hraw : (raw : ℤ) < 2 ^ (top + 1) := by exact_mod_cast hfits
  rw [Nat.add_sub_cancel, unwrap, Nat.add_sub_cancel]
  by_cases hnegative : raw.testBit top
  · have hlow : (2 : ℤ) ^ top ≤ raw := by exact_mod_cast htop.mp hnegative
    rw [if_pos hnegative]
    constructor <;> omega
  · have hhigh : (raw : ℤ) < 2 ^ top := by
      exact_mod_cast Nat.not_le.mp (mt htop.mpr hnegative)
    rw [if_neg hnegative]
    constructor
    · have hpow : (0 : ℤ) < 2 ^ top := by positivity
      omega
    · exact hhigh

theorem unwrap_wrap
    {bits : ℕ} {number : ℤ} (hlow : -(2 ^ bits) ≤ number)
    (hhigh : number < 2 ^ bits) :
    unwrap (bits + 1) (wrap (bits + 1) number) = number := by
  have hdouble : (2 : ℤ) ^ (bits + 1) = 2 * 2 ^ bits := by ring
  have htop := testBit_top_iff (wrap_lt (bits + 1) number)
  have hpow : (0 : ℤ) < 2 ^ bits := by positivity
  unfold unwrap
  rw [Nat.add_sub_cancel]
  rcases lt_or_ge number 0 with hneg | hnonneg
  · have hwrap : wrap (bits + 1) number =
        (number + 2 ^ (bits + 1)).toNat := wrap_of_neg hneg (by omega)
    have hraw : ((wrap (bits + 1) number : ℕ) : ℤ) =
        number + 2 ^ (bits + 1) := by
      rw [hwrap]
      exact Int.toNat_of_nonneg (by omega)
    rw [if_pos]
    · omega
    · rw [htop]
      zify
      omega
  · have hwrap : wrap (bits + 1) number = number.toNat :=
      wrap_of_nonneg hnonneg (by omega)
    have hraw : ((wrap (bits + 1) number : ℕ) : ℤ) = number := by
      rw [hwrap]
      exact Int.toNat_of_nonneg hnonneg
    rw [if_neg]
    · exact hraw
    · rw [htop]
      zify
      omega

end BigEndian
