import MeshController.HexEncoding

/-!
# JSON text

Values are written without any blanks.  Everything a text must not contain is
escaped, so that what is written has no control characters in it.  The reader
takes blanks between the tokens and every escape, and gets back what was
written.
-/

namespace JsonText

open HexEncoding (digitValue)

inductive Json where
  | null
  | bool (value : Bool)
  | int (value : ℤ)
  | str (text : String)
  | arr (items : List Json)
  | obj (fields : List (String × Json))

/-! ## Writing -/

/-- A character inside a text. -/
def escape (c : Char) : List Char :=
  if c = '"' then ['\\', '"']
  else if c = '\\' then ['\\', '\\']
  else if c = '\x08' then ['\\', 'b']
  else if c = '\t' then ['\\', 't']
  else if c = '\n' then ['\\', 'n']
  else if c = '\x0c' then ['\\', 'f']
  else if c = '\r' then ['\\', 'r']
  else if c.toNat < 0x20 then
    ['\\', 'u', '0', '0', Nat.digitChar (c.toNat / 16),
      Nat.digitChar (c.toNat % 16)]
  else [c]

def writeText (text : List Char) : List Char :=
  '"' :: text.flatMap escape ++ ['"']

/-- The decimal digits of a number, at least one. -/
def decimal (number : ℕ) : List Char :=
  if number = 0 then ['0']
  else ((Nat.digits 10 number).map Nat.digitChar).reverse

def writeInt (value : ℤ) : List Char :=
  (if value < 0 then ['-'] else []) ++ decimal value.natAbs

mutual

def write : Json → List Char
  | .null => ['n', 'u', 'l', 'l']
  | .bool true => ['t', 'r', 'u', 'e']
  | .bool false => ['f', 'a', 'l', 's', 'e']
  | .int value => writeInt value
  | .str text => writeText text.toList
  | .arr items => '[' :: writeItems items ++ [']']
  | .obj fields => '{' :: writeFields fields ++ ['}']

def writeItems : List Json → List Char
  | [] => []
  | [item] => write item
  | item :: next :: rest => write item ++ ',' :: writeItems (next :: rest)

def writeFields : List (String × Json) → List Char
  | [] => []
  | [(key, value)] => writeText key.toList ++ ':' :: write value
  | (key, value) :: next :: rest =>
      writeText key.toList ++ ':' :: write value ++
        ',' :: writeFields (next :: rest)

end

/-! ## Reading -/

def isBlank (c : Char) : Bool :=
  c = ' ' || c = '\t' || c = '\n' || c = '\r'

def skipBlanks (text : List Char) : List Char :=
  text.dropWhile isBlank

/-- The number which four hexadecimal digits stand for. -/
def hexNumber (a b c d : Char) : Option ℕ := do
  let first ← digitValue a
  let second ← digitValue b
  let third ← digitValue c
  let fourth ← digitValue d
  some (((first * 16 + second) * 16 + third) * 16 + fourth)

def shortEscape : Char → Option Char
  | '"' => some '"'
  | '\\' => some '\\'
  | '/' => some '/'
  | 'b' => some '\x08'
  | 'f' => some '\x0c'
  | 'n' => some '\n'
  | 'r' => some '\r'
  | 't' => some '\t'
  | _ => none

/-- The character of two surrogates. -/
def surrogatePair (high low : ℕ) : Option Char :=
  if 0xD800 ≤ high ∧ high < 0xDC00 ∧ 0xDC00 ≤ low ∧ low < 0xE000 then
    some (Char.ofNat (0x10000 + (high - 0xD800) * 0x400 + (low - 0xDC00)))
  else none

/-- A text, from behind its opening quote. -/
def readText : List Char → Option (List Char × List Char)
  | [] => none
  | '"' :: rest => some ([], rest)
  | '\\' :: 'u' :: a :: b :: c :: d :: rest =>
      match hexNumber a b c d with
      | none => none
      | some number =>
          if number.isValidChar then
            (readText rest).map fun read =>
              (Char.ofNat number :: read.1, read.2)
          else
            match rest with
            | '\\' :: 'u' :: e :: f :: g :: h :: later =>
                match (hexNumber e f g h).bind (surrogatePair number) with
                | none => none
                | some paired =>
                    (readText later).map fun read => (paired :: read.1, read.2)
            | _ => none
  | '\\' :: c :: rest =>
      match shortEscape c with
      | none => none
      | some meant => (readText rest).map fun read => (meant :: read.1, read.2)
  | c :: rest =>
      if c = '\\' ∨ c.toNat < 0x20 then none
      else (readText rest).map fun read => (c :: read.1, read.2)

def digitsValue (digits : List Char) : ℕ :=
  digits.foldl (fun number c => number * 10 + (c.toNat - '0'.toNat)) 0

/-- Whole numbers only: a fraction or an exponent is not read. -/
def readNat (text : List Char) : Option (ℕ × List Char) :=
  let digits := text.takeWhile Char.isDigit
  let rest := text.dropWhile Char.isDigit
  if digits = [] ∨ (digits.head? = some '0' ∧ digits ≠ ['0']) ∨
      rest.head? ∈ [some '.', some 'e', some 'E'] then none
  else some (digitsValue digits, rest)

def readInt : List Char → Option (ℤ × List Char)
  | '-' :: rest =>
      match readNat rest with
      | some (number + 1, later) => some (Int.negSucc number, later)
      | _ => none
  | text => (readNat text).map fun read => ((read.1 : ℤ), read.2)

mutual

/-- `fuel` bounds the number of values which are read. -/
def readValue : ℕ → List Char → Option (Json × List Char)
  | 0, _ => none
  | fuel + 1, text =>
      match skipBlanks text with
      | 'n' :: 'u' :: 'l' :: 'l' :: rest => some (.null, rest)
      | 't' :: 'r' :: 'u' :: 'e' :: rest => some (.bool true, rest)
      | 'f' :: 'a' :: 'l' :: 's' :: 'e' :: rest => some (.bool false, rest)
      | '"' :: rest =>
          (readText rest).map fun read => (.str (String.ofList read.1), read.2)
      | '[' :: rest =>
          match skipBlanks rest with
          | ']' :: later => some (.arr [], later)
          | _ => (readItems fuel rest).map fun read => (.arr read.1, read.2)
      | '{' :: rest =>
          match skipBlanks rest with
          | '}' :: later => some (.obj [], later)
          | _ => (readFields fuel rest).map fun read => (.obj read.1, read.2)
      | other => (readInt other).map fun read => (.int read.1, read.2)

/-- The items up to the closing bracket, at least one. -/
def readItems : ℕ → List Char → Option (List Json × List Char)
  | 0, _ => none
  | fuel + 1, text =>
      match readValue fuel text with
      | none => none
      | some (item, rest) =>
          match skipBlanks rest with
          | ']' :: later => some ([item], later)
          | ',' :: later =>
              (readItems fuel later).map fun read => (item :: read.1, read.2)
          | _ => none

/-- The fields up to the closing brace, at least one. -/
def readFields : ℕ → List Char → Option (List (String × Json) × List Char)
  | 0, _ => none
  | fuel + 1, text =>
      match skipBlanks text with
      | '"' :: rest =>
          match readText rest with
          | none => none
          | some (key, behind) =>
              match skipBlanks behind with
              | ':' :: following =>
                  match readValue fuel following with
                  | none => none
                  | some (value, last) =>
                      match skipBlanks last with
                      | '}' :: later =>
                          some ([(String.ofList key, value)], later)
                      | ',' :: later =>
                          (readFields fuel later).map fun read =>
                            ((String.ofList key, value) :: read.1, read.2)
                      | _ => none
              | _ => none
      | _ => none

end

/-- A value and nothing behind it. -/
def read (text : String) : Option Json :=
  match readValue (text.toList.length + 1) text.toList with
  | some (value, rest) => if skipBlanks rest = [] then some value else none
  | none => none

/-! ## What is written is read back -/

theorem digitValue_digitChar {digit : ℕ} (hdigit : digit < 16) :
    digitValue (Nat.digitChar digit) = some digit := by
  have hall : ∀ i : Fin 16, digitValue (Nat.digitChar i.val) = some i.val := by
    decide
  exact hall ⟨digit, hdigit⟩

theorem hexNumber_control {number : ℕ} (hnumber : number < 0x20) :
    hexNumber '0' '0' (Nat.digitChar (number / 16))
      (Nat.digitChar (number % 16)) = some number := by
  have hzero : digitValue '0' = some 0 := by decide
  rw [hexNumber, hzero, digitValue_digitChar (by omega),
    digitValue_digitChar (by omega)]
  simp only [Option.bind_eq_bind, Option.bind_some, Option.some.injEq]
  omega

theorem readText_plain
    {c : Char} (hquote : c ≠ '"') (hplain : ¬ (c = '\\' ∨ c.toNat < 0x20))
    (rest : List Char) :
    readText (c :: rest) =
      (readText rest).map fun read => (c :: read.1, read.2) := by
  have hslash : c ≠ '\\' := fun hc => hplain (Or.inl hc)
  rw [readText.eq_def]
  split
  next hempty => cases hempty
  next heq => exact absurd (List.cons.inj heq).1 hquote
  next heq => exact absurd (List.cons.inj heq).1 hslash
  next heq => exact absurd (List.cons.inj heq).1 hslash
  next heq =>
    rcases List.cons.inj heq with ⟨rfl, rfl⟩
    rw [if_neg hplain]

theorem readText_short
    {c meant : Char} (hc : shortEscape c = some meant) (rest : List Char) :
    readText ('\\' :: c :: rest) =
      (readText rest).map fun read => (meant :: read.1, read.2) := by
  rw [readText.eq_def]
  split
  next hempty => cases hempty
  next heq => exact absurd (List.cons.inj heq).1 (by decide)
  next heq =>
    rw [(List.cons.inj (List.cons.inj heq).2).1] at hc
    cases hc
  next heq =>
    rcases List.cons.inj (List.cons.inj heq).2 with ⟨rfl, rfl⟩
    rw [hc]
  next hother heq =>
    exact absurd heq.symm (by
      rcases List.cons.inj heq with ⟨rfl, hrest⟩
      exact fun _ => hother _ _ rfl hrest.symm)

theorem readText_escape (c : Char) (rest : List Char) :
    readText (escape c ++ rest) =
      (readText rest).map fun read => (c :: read.1, read.2) := by
  unfold escape
  split_ifs with hquote hslash hb ht hn hf hr hcontrol
  · subst hquote
    rfl
  · subst hslash
    rfl
  · subst hb
    rfl
  · subst ht
    rfl
  · subst hn
    rfl
  · subst hf
    rfl
  · subst hr
    rfl
  · have hchar : Char.ofNat c.toNat = c := Char.ofNat_toNat c
    have hvalid : c.toNat.isValidChar := Or.inl (by omega)
    simp only [List.cons_append, List.nil_append, readText,
      hexNumber_control hcontrol, hvalid, if_true, hchar]
  · have hplain : ¬ (c = '\\' ∨ c.toNat < 0x20) := by
      rintro (hc | hc)
      · exact hslash hc
      · exact hcontrol hc
    rw [List.singleton_append, readText_plain hquote hplain]

theorem readText_flatMap_escape (text rest : List Char) :
    readText (text.flatMap escape ++ '"' :: rest) = some (text, rest) := by
  induction text with
  | nil => rfl
  | cons c text ih =>
      rw [List.flatMap_cons, List.append_assoc, readText_escape, ih]
      rfl

theorem digitsValue_append_singleton (digits : List Char) (c : Char) :
    digitsValue (digits ++ [c]) =
      digitsValue digits * 10 + (c.toNat - '0'.toNat) := by
  rw [digitsValue, List.foldl_append]
  rfl

theorem isDigit_digitChar {digit : ℕ} (hdigit : digit < 10) :
    (Nat.digitChar digit).isDigit = true := by
  have hall : ∀ i : Fin 10, (Nat.digitChar i.val).isDigit = true := by decide
  exact hall ⟨digit, hdigit⟩

theorem value_digitChar {digit : ℕ} (hdigit : digit < 10) :
    (Nat.digitChar digit).toNat - '0'.toNat = digit := by
  have hall : ∀ i : Fin 10,
      (Nat.digitChar i.val).toNat - '0'.toNat = i.val := by decide
  exact hall ⟨digit, hdigit⟩

theorem digitsValue_digits {digits : List ℕ} (hdigits : ∀ d ∈ digits, d < 10) :
    digitsValue (digits.map Nat.digitChar).reverse =
      Nat.ofDigits 10 digits := by
  induction digits with
  | nil => rfl
  | cons d digits ih =>
      rw [List.forall_mem_cons] at hdigits
      rw [List.map_cons, List.reverse_cons, digitsValue_append_singleton,
        ih hdigits.2, value_digitChar hdigits.1, Nat.ofDigits_cons]
      ring

theorem digitsValue_decimal (number : ℕ) :
    digitsValue (decimal number) = number := by
  unfold decimal
  split_ifs with hzero
  · subst hzero
    rfl
  · rw [digitsValue_digits fun d hd => Nat.digits_lt_base (by decide) hd,
      Nat.ofDigits_digits]

theorem isDigit_of_mem_decimal {number : ℕ} {c : Char}
    (hc : c ∈ decimal number) : c.isDigit = true := by
  unfold decimal at hc
  split_ifs at hc with hzero
  · rw [List.mem_singleton.mp hc]
    rfl
  · rw [List.mem_reverse, List.mem_map] at hc
    rcases hc with ⟨digit, hdigit, rfl⟩
    exact isDigit_digitChar (Nat.digits_lt_base (by decide) hdigit)

theorem decimal_ne_nil (number : ℕ) : decimal number ≠ [] := by
  unfold decimal
  split_ifs with hzero
  · exact List.cons_ne_nil _ _
  · simpa using Nat.digits_ne_nil_iff_ne_zero.mpr hzero

/-- A number does not begin with a zero, unless it is zero. -/
theorem decimal_head {number : ℕ}
    (hhead : (decimal number).head? = some '0') : decimal number = ['0'] := by
  unfold decimal at hhead ⊢
  split_ifs with hzero
  · rfl
  · rw [if_neg hzero, List.head?_reverse, List.getLast?_map,
      List.getLast?_eq_some_getLast
        (Nat.digits_ne_nil_iff_ne_zero.mpr hzero), Option.map_some,
      Option.some.injEq] at hhead
    have hlt : (Nat.digits 10 number).getLast
        (Nat.digits_ne_nil_iff_ne_zero.mpr hzero) < 10 :=
      Nat.digits_lt_base (by decide) (List.getLast_mem _)
    have hvalue := value_digitChar hlt
    rw [hhead] at hvalue
    exact absurd hvalue.symm (Nat.getLast_digit_ne_zero 10 hzero)

/-- Nothing which stands behind a number may continue it. -/
def Ends (rest : List Char) : Prop :=
  (∀ c ∈ rest.head?, c.isDigit = false) ∧
    rest.head? ∉ [some '.', some 'e', some 'E']

theorem takeWhile_isDigit_of_ends {rest : List Char} (hrest : Ends rest) :
    rest.takeWhile Char.isDigit = [] := by
  cases rest with
  | nil => rfl
  | cons c rest =>
      rw [List.takeWhile_cons, if_neg]
      simp [hrest.1 c rfl]

theorem dropWhile_isDigit_of_ends {rest : List Char} (hrest : Ends rest) :
    rest.dropWhile Char.isDigit = rest := by
  cases rest with
  | nil => rfl
  | cons c rest =>
      rw [List.dropWhile_cons, if_neg]
      simp [hrest.1 c rfl]

theorem readNat_decimal
    (number : ℕ) {rest : List Char} (hrest : Ends rest) :
    readNat (decimal number ++ rest) = some (number, rest) := by
  have htake : (decimal number ++ rest).takeWhile Char.isDigit =
      decimal number := by
    rw [List.takeWhile_append_of_pos fun c hc => isDigit_of_mem_decimal hc,
      takeWhile_isDigit_of_ends hrest, List.append_nil]
  have hdrop : (decimal number ++ rest).dropWhile Char.isDigit = rest := by
    rw [List.dropWhile_append_of_pos fun c hc => isDigit_of_mem_decimal hc,
      dropWhile_isDigit_of_ends hrest]
  rw [readNat]
  simp only [htake, hdrop]
  rw [if_neg, digitsValue_decimal]
  rintro (hnil | ⟨hhead, hne⟩ | hbehind)
  · exact decimal_ne_nil number hnil
  · exact hne (decimal_head hhead)
  · exact hrest.2 hbehind

theorem exists_cons_decimal (number : ℕ) :
    ∃ c rest, decimal number = c :: rest ∧ c.isDigit = true := by
  rcases List.exists_cons_of_ne_nil (decimal_ne_nil number) with
    ⟨c, rest, hcons⟩
  have hmem : c ∈ decimal number := by
    rw [hcons]
    exact List.mem_cons_self
  exact ⟨c, rest, hcons, isDigit_of_mem_decimal hmem⟩

theorem readInt_writeInt
    (value : ℤ) {rest : List Char} (hrest : Ends rest) :
    readInt (writeInt value ++ rest) = some (value, rest) := by
  unfold writeInt
  split_ifs with hneg
  · obtain ⟨number, rfl⟩ := Int.eq_negSucc_of_lt_zero hneg
    rw [List.append_assoc, List.singleton_append, readInt,
      readNat_decimal _ hrest]
    rfl
  · obtain ⟨number, rfl⟩ := Int.eq_ofNat_of_zero_le (Int.not_lt.mp hneg)
    obtain ⟨c, digits, hdecimal, hc⟩ := exists_cons_decimal number
    have hread := readNat_decimal number hrest
    rw [List.nil_append, Int.natAbs_natCast, hdecimal, List.cons_append,
      readInt]
    · rw [hdecimal, List.cons_append] at hread
      rw [hread]
      rfl
    · rintro later heq
      rw [(List.cons.inj heq).1] at hc
      cases hc

/-- What a value begins with: neither a blank nor a closing bracket. -/
def Opens (c : Char) : Prop := isBlank c = false ∧ c ≠ ']' ∧ c ≠ '}'

theorem opens_of_isDigit {c : Char} (hc : c.isDigit = true) : Opens c := by
  refine ⟨?_, ?_, ?_⟩
  · rw [Bool.eq_false_iff]
    intro hblank
    simp only [isBlank, Bool.or_eq_true, decide_eq_true_eq] at hblank
    rcases hblank with ((rfl | rfl) | rfl) | rfl <;> cases hc
  · rintro rfl
    cases hc
  · rintro rfl
    cases hc

theorem exists_cons_writeInt (value : ℤ) :
    ∃ c rest, writeInt value = c :: rest ∧ (c = '-' ∨ c.isDigit = true) := by
  unfold writeInt
  split_ifs with hneg
  · exact ⟨'-', _, rfl, Or.inl rfl⟩
  · obtain ⟨c, rest, hcons, hc⟩ := exists_cons_decimal value.natAbs
    exact ⟨c, rest, by rw [hcons]; rfl, Or.inr hc⟩

theorem exists_cons_write (value : Json) :
    ∃ c rest, write value = c :: rest ∧ Opens c := by
  cases value with
  | null => exact ⟨'n', _, rfl, by decide, by decide, by decide⟩
  | bool value =>
      cases value with
      | false => exact ⟨'f', _, rfl, by decide, by decide, by decide⟩
      | true => exact ⟨'t', _, rfl, by decide, by decide, by decide⟩
  | int value =>
      rcases exists_cons_writeInt value with ⟨c, rest, hcons, rfl | hc⟩
      · exact ⟨'-', rest, hcons, by decide, by decide, by decide⟩
      · exact ⟨c, rest, hcons, opens_of_isDigit hc⟩
  | str text => exact ⟨'"', _, rfl, by decide, by decide, by decide⟩
  | arr items => exact ⟨'[', _, rfl, by decide, by decide, by decide⟩
  | obj fields => exact ⟨'{', _, rfl, by decide, by decide, by decide⟩

theorem skipBlanks_cons {c : Char} (hc : isBlank c = false)
    (rest : List Char) : skipBlanks (c :: rest) = c :: rest := by
  rw [skipBlanks, List.dropWhile_cons, if_neg]
  simp [hc]

theorem readValue_number
    (fuel : ℕ) {c : Char} (hc : c = '-' ∨ c.isDigit = true)
    {text behind : List Char} (hskip : skipBlanks text = c :: behind) :
    readValue (fuel + 1) text =
      (readInt (c :: behind)).map fun read => (.int read.1, read.2) := by
  have hother : ∀ d ∈ ['n', 't', 'f', '"', '[', '{'], c ≠ d := by
    rintro d hd rfl
    simp only [List.mem_cons, List.not_mem_nil, or_false] at hd
    rcases hc with rfl | hc
    · simp at hd
    · rcases hd with rfl | rfl | rfl | rfl | rfl | rfl <;> cases hc
  rw [readValue, hskip]
  split
  next heq => exact absurd (List.cons.inj heq).1 (hother _ (by simp))
  next heq => exact absurd (List.cons.inj heq).1 (hother _ (by simp))
  next heq => exact absurd (List.cons.inj heq).1 (hother _ (by simp))
  next heq => exact absurd (List.cons.inj heq).1 (hother _ (by simp))
  next heq => exact absurd (List.cons.inj heq).1 (hother _ (by simp))
  next heq => exact absurd (List.cons.inj heq).1 (hother _ (by simp))
  next => rfl

theorem readValue_int
    (fuel : ℕ) (value : ℤ) {rest : List Char} (hrest : Ends rest) :
    readValue (fuel + 1) (writeInt value ++ rest) =
      some (.int value, rest) := by
  obtain ⟨c, digits, hcons, hc⟩ := exists_cons_writeInt value
  have hread := readInt_writeInt value hrest
  have hblank : isBlank c = false := by
    rcases hc with rfl | hc
    · rfl
    · exact (opens_of_isDigit hc).1
  rw [hcons, List.cons_append] at hread ⊢
  rw [readValue_number fuel hc (skipBlanks_cons hblank _), hread]
  rfl

theorem ends_of_closing {c : Char} (hc : c ∈ [',', ']', '}', ':'])
    (rest : List Char) : Ends (c :: rest) := by
  simp only [List.mem_cons, List.not_mem_nil, or_false] at hc
  constructor
  · intro d hd
    rw [List.head?_cons, Option.mem_some_iff] at hd
    subst hd
    rcases hc with rfl | rfl | rfl | rfl <;> rfl
  · rcases hc with rfl | rfl | rfl | rfl <;> simp

/-- The items do not look like the end of the list. -/
theorem exists_cons_writeItems
    {items : List Json} (hitems : items ≠ []) (rest : List Char) :
    ∃ c behind, writeItems items ++ rest = c :: behind ∧ Opens c := by
  cases items with
  | nil => exact absurd rfl hitems
  | cons item others =>
      obtain ⟨c, behind, hcons, hopens⟩ := exists_cons_write item
      cases others with
      | nil =>
          rw [writeItems, hcons]
          exact ⟨c, _, rfl, hopens⟩
      | cons next others =>
          rw [writeItems, hcons]
          exact ⟨c, _, rfl, hopens⟩

theorem exists_cons_writeFields
    {fields : List (String × Json)} (hfields : fields ≠ [])
    (rest : List Char) :
    ∃ behind, writeFields fields ++ rest = '"' :: behind := by
  cases fields with
  | nil => exact absurd rfl hfields
  | cons field others =>
      cases others with
      | nil => exact ⟨_, rfl⟩
      | cons next others => exact ⟨_, rfl⟩

theorem length_write_pos (value : Json) : 0 < (write value).length := by
  obtain ⟨c, rest, hcons, _⟩ := exists_cons_write value
  rw [hcons]
  exact Nat.succ_pos _

theorem readValue_arr
    (fuel : ℕ) {c : Char} (hopens : Opens c) (behind : List Char) :
    readValue (fuel + 1) ('[' :: c :: behind) =
      (readItems fuel (c :: behind)).map fun read =>
        (.arr read.1, read.2) := by
  rw [readValue, skipBlanks_cons (by rfl)]
  simp only [skipBlanks_cons hopens.1]
  split
  next heq => exact absurd (List.cons.inj heq).1 hopens.2.1
  next => rfl

theorem readValue_obj (fuel : ℕ) (behind : List Char) :
    readValue (fuel + 1) ('{' :: '"' :: behind) =
      (readFields fuel ('"' :: behind)).map fun read =>
        (.obj read.1, read.2) := rfl

/-- The key of a field and the colon behind it. -/
theorem readFields_field
    (fuel : ℕ) (key : String) (following : List Char) :
    readFields (fuel + 1) (writeText key.toList ++ ':' :: following) =
      match readValue fuel following with
      | none => none
      | some (value, last) =>
          match skipBlanks last with
          | '}' :: later => some ([(key, value)], later)
          | ',' :: later =>
              (readFields fuel later).map fun read =>
                ((key, value) :: read.1, read.2)
          | _ => none := by
  rw [writeText, List.append_assoc, List.cons_append, readFields,
    skipBlanks_cons (by rfl)]
  simp only [List.singleton_append, readText_flatMap_escape,
    skipBlanks_cons (show isBlank ':' = false from rfl), String.ofList_toList]

mutual

/-- With as much fuel as there are characters; one clause for each kind of
value, and the lists below. -/
theorem readValue_write :
    (value : Json) → (fuel : ℕ) → (rest : List Char) →
      (write value).length ≤ fuel → Ends rest →
      readValue fuel (write value ++ rest) = some (value, rest)
  | value, 0, rest, hfuel, hrest => by
      have hpos := length_write_pos value
      omega
  | .null, fuel + 1, rest, hfuel, hrest => rfl
  | .bool true, fuel + 1, rest, hfuel, hrest => rfl
  | .bool false, fuel + 1, rest, hfuel, hrest => rfl
  | .int value, fuel + 1, rest, hfuel, hrest => by
      rw [write]
      exact readValue_int fuel value hrest
  | .str text, fuel + 1, rest, hfuel, hrest => by
      rw [write, writeText, List.append_assoc, List.cons_append, readValue,
        skipBlanks_cons (by rfl)]
      simp only [List.singleton_append, readText_flatMap_escape,
        Option.map_some, String.ofList_toList]
  | .arr [], fuel + 1, rest, hfuel, hrest => rfl
  | .arr (item :: items), fuel + 1, rest, hfuel, hrest => by
      have hitems := readItems_writeItems item items fuel rest (by
        simp only [write, List.length_append, List.length_cons] at hfuel
        omega)
      obtain ⟨c, behind, hcons, hopens⟩ :=
        exists_cons_writeItems (List.cons_ne_nil item items) (']' :: rest)
      rw [write, List.append_assoc, List.cons_append, List.singleton_append,
        hcons, readValue_arr fuel hopens, ← hcons, hitems]
      rfl
  | .obj [], fuel + 1, rest, hfuel, hrest => rfl
  | .obj (field :: fields), fuel + 1, rest, hfuel, hrest => by
      have hfields := readFields_writeFields field fields fuel rest (by
        simp only [write, List.length_append, List.length_cons] at hfuel
        omega)
      obtain ⟨behind, hcons⟩ :=
        exists_cons_writeFields (List.cons_ne_nil field fields) ('}' :: rest)
      rw [write, List.append_assoc, List.cons_append, List.singleton_append,
        hcons, readValue_obj fuel, ← hcons, hfields]
      rfl

theorem readItems_writeItems :
    (item : Json) → (items : List Json) → (fuel : ℕ) → (rest : List Char) →
      (writeItems (item :: items)).length < fuel →
      readItems fuel (writeItems (item :: items) ++ ']' :: rest) =
        some (item :: items, rest)
  | item, items, 0, rest, hfuel => by omega
  | item, [], fuel + 1, rest, hfuel => by
      rw [writeItems] at hfuel ⊢
      rw [readItems, readValue_write item fuel (']' :: rest) (by omega)
        (ends_of_closing (by simp) rest)]
      rfl
  | item, next :: items, fuel + 1, rest, hfuel => by
      have hpos := length_write_pos item
      simp only [writeItems, List.length_append, List.length_cons] at hfuel
      rw [writeItems, List.append_assoc, List.cons_append, readItems,
        readValue_write item fuel _ (by omega) (ends_of_closing (by simp) _)]
      simp only [skipBlanks_cons (show isBlank ',' = false from rfl)]
      rw [readItems_writeItems next items fuel rest (by omega)]
      rfl

theorem readFields_writeFields :
    (field : String × Json) → (fields : List (String × Json)) →
      (fuel : ℕ) → (rest : List Char) →
      (writeFields (field :: fields)).length < fuel →
      readFields fuel (writeFields (field :: fields) ++ '}' :: rest) =
        some (field :: fields, rest)
  | field, fields, 0, rest, hfuel => by omega
  | (key, value), [], fuel + 1, rest, hfuel => by
      simp only [writeFields, List.length_append, List.length_cons] at hfuel
      rw [writeFields, List.append_assoc, List.cons_append,
        readFields_field fuel key,
        readValue_write value fuel ('}' :: rest) (by omega)
          (ends_of_closing (by simp) rest)]
      rfl
  | (key, value), next :: fields, fuel + 1, rest, hfuel => by
      have hpos := length_write_pos value
      simp only [writeFields, List.length_append, List.length_cons] at hfuel
      rw [writeFields, List.append_assoc, List.append_assoc,
        List.cons_append, List.cons_append, readFields_field fuel key,
        readValue_write value fuel _ (by omega) (ends_of_closing (by simp) _)]
      simp only [skipBlanks_cons (show isBlank ',' = false from rfl)]
      rw [readFields_writeFields next fields fuel rest (by omega)]
      rfl

end

theorem read_write (value : Json) :
    read (String.ofList (write value)) = some value := by
  have hread := readValue_write value ((write value).length + 1) []
    (Nat.le_succ _) ⟨by simp, by simp⟩
  rw [List.append_nil] at hread
  rw [read, String.toList_ofList, hread]
  rfl

/-! ## There are no control characters in what is written -/

def Printable (text : List Char) : Prop := ∀ c ∈ text, 0x20 ≤ c.toNat

instance (text : List Char) : Decidable (Printable text) :=
  @List.decidableBAll Char (fun c => 0x20 ≤ c.toNat) _ text

theorem printable_append {first second : List Char} :
    Printable (first ++ second) ↔ Printable first ∧ Printable second :=
  List.forall_mem_append

theorem printable_cons {c : Char} {rest : List Char} :
    Printable (c :: rest) ↔ 0x20 ≤ c.toNat ∧ Printable rest :=
  List.forall_mem_cons

theorem printable_digitChar {digit : ℕ} (hdigit : digit < 16) :
    0x20 ≤ (Nat.digitChar digit).toNat := by
  have hall : ∀ i : Fin 16, 0x20 ≤ (Nat.digitChar i.val).toNat := by decide
  exact hall ⟨digit, hdigit⟩

theorem printable_escape (c : Char) : Printable (escape c) := by
  unfold escape
  split_ifs with hquote hslash hb ht hn hf hr hcontrol
  · decide
  · decide
  · decide
  · decide
  · decide
  · decide
  · decide
  · have hhigh := @printable_digitChar (c.toNat / 16) (by omega)
    have hlow := @printable_digitChar (c.toNat % 16) (by omega)
    simp only [printable_cons]
    exact ⟨by decide, by decide, by decide, by decide, hhigh, hlow, by decide⟩
  · simpa [Printable] using hcontrol

theorem printable_writeText (text : List Char) :
    Printable (writeText text) := by
  rw [writeText, printable_append, printable_cons]
  refine ⟨⟨by decide, ?_⟩, by decide⟩
  intro c hc
  rcases List.mem_flatMap.mp hc with ⟨d, _, hmem⟩
  exact printable_escape d c hmem

theorem printable_writeInt (value : ℤ) : Printable (writeInt value) := by
  rw [writeInt, printable_append]
  constructor
  · split_ifs <;> decide
  · intro c hc
    have hdigit := isDigit_of_mem_decimal hc
    simp only [Char.isDigit, Bool.and_eq_true, decide_eq_true_eq,
      UInt32.le_iff_toNat_le] at hdigit
    exact le_trans (by decide) hdigit.1

mutual

theorem printable_write : (value : Json) → Printable (write value)
  | .null => by decide
  | .bool true => by decide
  | .bool false => by decide
  | .int value => printable_writeInt value
  | .str text => printable_writeText text.toList
  | .arr items => by
      rw [write, printable_append, printable_cons]
      exact ⟨⟨by decide, printable_writeItems items⟩, by decide⟩
  | .obj fields => by
      rw [write, printable_append, printable_cons]
      exact ⟨⟨by decide, printable_writeFields fields⟩, by decide⟩

theorem printable_writeItems :
    (items : List Json) → Printable (writeItems items)
  | [] => by decide
  | [item] => printable_write item
  | item :: next :: rest => by
      rw [writeItems, printable_append, printable_cons]
      exact ⟨printable_write item, by decide,
        printable_writeItems (next :: rest)⟩

theorem printable_writeFields :
    (fields : List (String × Json)) → Printable (writeFields fields)
  | [] => by decide
  | [(key, value)] => by
      rw [writeFields, printable_append, printable_cons]
      exact ⟨printable_writeText _, by decide, printable_write value⟩
  | (key, value) :: next :: rest => by
      rw [writeFields, printable_append, printable_append, printable_cons,
        printable_cons]
      exact ⟨⟨printable_writeText _, by decide, printable_write value⟩,
        by decide, printable_writeFields (next :: rest)⟩

end

end JsonText
