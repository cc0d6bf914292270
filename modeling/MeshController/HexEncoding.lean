import Mathlib.Tactic

/-!
# Hexadecimal text

Two lower-case digits for each byte, high half first.  The encoding is
additive and loses nothing; decoding takes digits of either case.
-/

namespace HexEncoding

def byteDigits (byte : UInt8) : List Char :=
  [Nat.digitChar (byte.toNat / 16), Nat.digitChar (byte.toNat % 16)]

def hexDigits (bytes : List UInt8) : List Char :=
  bytes.flatMap byteDigits

/-- Encodes bytes as a lowercase hexadecimal string. -/
def hexEncode (bytes : List UInt8) : String :=
  String.ofList (hexDigits bytes)

@[simp] theorem hexDigits_nil : hexDigits [] = [] := rfl

@[simp] theorem hexDigits_cons (byte : UInt8) (rest : List UInt8) :
    hexDigits (byte :: rest) = byteDigits byte ++ hexDigits rest := rfl

theorem hexDigits_append (first second : List UInt8) :
    hexDigits (first ++ second) = hexDigits first ++ hexDigits second := by
  simp [hexDigits]

@[simp] theorem toList_hexEncode (bytes : List UInt8) :
    (hexEncode bytes).toList = hexDigits bytes := by
  simp [hexEncode]

theorem hexEncode_append (first second : List UInt8) :
    hexEncode (first ++ second) = hexEncode first ++ hexEncode second := by
  apply String.toList_inj.mp
  simp [hexDigits_append]

@[simp] theorem length_hexDigits (bytes : List UInt8) :
    (hexDigits bytes).length = 2 * bytes.length := by
  induction bytes with
  | nil => rfl
  | cons byte rest ih => simp [byteDigits, ih]; omega

theorem hexDigits_prefix {first second : List UInt8}
    (hfront : first <+: second) : hexDigits first <+: hexDigits second := by
  rcases hfront with ⟨rest, hrest⟩
  rw [← hrest, hexDigits_append]
  exact List.prefix_append _ _

theorem hexDigits_take (bytes : List UInt8) (n : ℕ) :
    hexDigits (bytes.take n) = (hexDigits bytes).take (2 * n) := by
  induction bytes generalizing n with
  | nil => simp
  | cons byte rest ih =>
      cases n with
      | zero => simp
      | succ n =>
          have hdouble : 2 * (n + 1) = 2 * n + 2 := by omega
          rw [List.take_succ_cons, hexDigits_cons, hexDigits_cons, ih, hdouble]
          rfl

theorem map_toLower_hexDigits (bytes : List UInt8) :
    (hexDigits bytes).map Char.toLower = hexDigits bytes := by
  have hdigit : ∀ i : Fin 16,
      (Nat.digitChar i.val).toLower = Nat.digitChar i.val := by decide
  induction bytes with
  | nil => rfl
  | cons byte rest ih =>
      have hbyte := byte.toNat_lt
      have hhigh := hdigit ⟨byte.toNat / 16, by omega⟩
      have hlow := hdigit ⟨byte.toNat % 16, by omega⟩
      simp only at hhigh hlow
      simp [byteDigits, ih, hhigh, hlow]

theorem digitChar_injective {first second : ℕ}
    (hfirst : first < 16) (hsecond : second < 16)
    (heq : Nat.digitChar first = Nat.digitChar second) : first = second := by
  have hall : ∀ i j : Fin 16,
      Nat.digitChar i.val = Nat.digitChar j.val → i = j := by decide
  have hfin := hall ⟨first, hfirst⟩ ⟨second, hsecond⟩ heq
  exact congrArg Fin.val hfin

theorem byteDigits_injective {first second : UInt8}
    (heq : byteDigits first = byteDigits second) : first = second := by
  simp only [byteDigits, List.cons.injEq, and_true] at heq
  have hfirst := first.toNat_lt
  have hsecond := second.toNat_lt
  have hhigh := digitChar_injective (by omega) (by omega) heq.1
  have hlow := digitChar_injective (by omega) (by omega) heq.2
  apply UInt8.toNat_inj.mp
  omega

theorem hexDigits_injective {first second : List UInt8}
    (heq : hexDigits first = hexDigits second) : first = second := by
  induction first generalizing second with
  | nil =>
      cases second with
      | nil => rfl
      | cons byte rest => simp [byteDigits] at heq
  | cons byte rest ih =>
      cases second with
      | nil => simp [byteDigits] at heq
      | cons other others =>
          have hsplit := List.append_inj heq (by rfl)
          have hbyte := byteDigits_injective hsplit.1
          have hrest := ih hsplit.2
          rw [hbyte, hrest]

theorem hexEncode_injective {first second : List UInt8}
    (heq : hexEncode first = hexEncode second) : first = second := by
  apply hexDigits_injective
  have htext := congrArg String.toList heq
  simpa using htext

theorem utf8ByteSize_ofList_of_ascii
    {text : List Char} (hascii : ∀ c ∈ text, c.toNat < 128) :
    (String.ofList text).utf8ByteSize = text.length := by
  induction text using List.reverseRecOn with
  | nil => rfl
  | append_singleton rest c ih =>
      have hc : c.utf8Size = 1 := by
        have hlt : c.val.toNat < 128 := hascii c (by simp)
        rw [Char.utf8Size, if_pos]
        rw [UInt32.le_iff_toNat_le]
        exact Nat.le_of_lt_succ hlt
      have hrest := ih fun other hmem => hascii other (by simp [hmem])
      rw [String.ofList_append, String.utf8ByteSize_append, hrest]
      simp [hc]

theorem utf8ByteSize_hexEncode (bytes : List UInt8) :
    (hexEncode bytes).utf8ByteSize = 2 * bytes.length := by
  have hdigit : ∀ i : Fin 16, (Nat.digitChar i.val).toNat < 128 := by decide
  rw [hexEncode, utf8ByteSize_ofList_of_ascii, length_hexDigits]
  intro c hmem
  rcases List.mem_flatMap.mp hmem with ⟨byte, _, hbyte⟩
  have hlt := byte.toNat_lt
  simp only [byteDigits, List.mem_cons, List.not_mem_nil, or_false] at hbyte
  rcases hbyte with rfl | rfl
  · exact hdigit ⟨byte.toNat / 16, by omega⟩
  · exact hdigit ⟨byte.toNat % 16, by omega⟩

/-! ## Decoding -/

def digitValue (c : Char) : Option ℕ :=
  (List.range 16).find? fun digit => Nat.digitChar digit = c.toLower

def decodeDigits : List Char → Option (List UInt8)
  | [] => some []
  | [_] => none
  | high :: low :: rest => do
      let first ← digitValue high
      let second ← digitValue low
      let others ← decodeDigits rest
      some (UInt8.ofNat (first * 16 + second) :: others)

def hexDecode (text : String) : Option (List UInt8) :=
  decodeDigits text.toList

theorem digitValue_eq_some_iff {c : Char} {digit : ℕ} :
    digitValue c = some digit ↔
      digit < 16 ∧ Nat.digitChar digit = c.toLower := by
  constructor
  · intro hfind
    constructor
    · simpa using List.mem_of_find?_eq_some hfind
    · simpa using List.find?_some hfind
  · rintro ⟨hlt, hdigit⟩
    cases hfind : digitValue c with
    | none =>
        have hnone := List.find?_eq_none.mp hfind digit (by simpa using hlt)
        simp [hdigit] at hnone
    | some other =>
        have hother : Nat.digitChar other = c.toLower := by
          simpa using List.find?_some hfind
        have hbound : other < 16 := by
          simpa using List.mem_of_find?_eq_some hfind
        rw [digitChar_injective hbound hlt (hother.trans hdigit.symm)]

theorem byteDigits_eq_iff {byte : UInt8} {first second : ℕ}
    (hfirst : first < 16) (hsecond : second < 16) :
    byteDigits byte = [Nat.digitChar first, Nat.digitChar second] ↔
      UInt8.ofNat (first * 16 + second) = byte := by
  have hvalue : (UInt8.ofNat (first * 16 + second)).toNat =
      first * 16 + second := UInt8.toNat_ofNat_of_lt (by
        simp only [UInt8.size]
        omega)
  constructor
  · intro heq
    apply byteDigits_injective
    rw [heq, byteDigits, hvalue]
    congr 2 <;> congr 1 <;> omega
  · intro heq
    rw [← heq, byteDigits, hvalue]
    congr 2 <;> congr 1 <;> omega

/-- Decoding accepts exactly the digits of bytes, in either case. -/
theorem decodeDigits_eq_some_iff {text : List Char} {bytes : List UInt8} :
    decodeDigits text = some bytes ↔
      text.map Char.toLower = hexDigits bytes := by
  induction text using decodeDigits.induct generalizing bytes with
  | case1 =>
      cases bytes <;> simp [decodeDigits, byteDigits]
  | case2 c =>
      cases bytes <;> simp [decodeDigits, byteDigits]
  | case3 high low rest ih =>
      simp only [decodeDigits, Option.bind_eq_bind, Option.bind_eq_some_iff,
        digitValue_eq_some_iff, Option.some.injEq]
      constructor
      · rintro ⟨first, ⟨hfirst, hhigh⟩, second, ⟨hsecond, hlow⟩, others,
          hothers, hbytes⟩
        rw [← hbytes, hexDigits_cons,
          (byteDigits_eq_iff hfirst hsecond).mpr rfl, ← ih.mp hothers, hhigh,
          hlow]
        rfl
      · intro heq
        cases bytes with
        | nil => simp at heq
        | cons byte others =>
            have hbyte := byte.toNat_lt
            simp only [List.map_cons, hexDigits_cons, byteDigits,
              List.cons_append, List.nil_append, List.cons.injEq] at heq
            refine ⟨byte.toNat / 16, ⟨by omega, heq.1.symm⟩,
              byte.toNat % 16, ⟨by omega, heq.2.1.symm⟩, others,
              ih.mpr heq.2.2, ?_⟩
            rw [(byteDigits_eq_iff (by omega) (by omega)).mp rfl]

end HexEncoding
