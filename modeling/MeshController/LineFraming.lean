import MeshController.Utf8Lossy

/-!
# Lines of a byte stream

A stream of bytes comes in pieces of any size.  A line is over at its line
feed, a carriage return in front of it is taken away, and what has come of an
unfinished line is kept for the next piece.  However a framed content is cut,
its lines come out in order, and what is kept is the front of the next one.
-/

namespace LineFraming

/-- A carriage return at the end is taken away. -/
def stripReturn (line : List UInt8) : List UInt8 :=
  if line.getLast? = some 13 then line.dropLast else line

/-- The lines which a piece completes, and what is then kept. -/
def drain (begun : List UInt8) : List UInt8 → List (List UInt8) × List UInt8
  | [] => ([], begun)
  | byte :: rest =>
      if byte = 10 then
        (stripReturn begun :: (drain [] rest).1, (drain [] rest).2)
      else drain (begun ++ [byte]) rest

/-- What is kept when the stream ends is a line of its own. -/
def lastLine (begun : List UInt8) : Option (List UInt8) :=
  if begun = [] ∨ begun = [13] then none else some (stripReturn begun)

/-- A line which can be written with a line feed behind it. -/
def Writable (line : List UInt8) : Prop :=
  (10 : UInt8) ∉ line ∧ line.getLast? ≠ some 13

theorem stripReturn_of_writable {line : List UInt8} (hline : Writable line) :
    stripReturn line = line :=
  if_neg hline.2

def framed (content : List (List UInt8)) : List UInt8 :=
  content.flatMap fun line => line ++ [10]

@[simp] theorem framed_nil : framed [] = [] := rfl

@[simp] theorem framed_cons (line : List UInt8) (content : List (List UInt8)) :
    framed (line :: content) = line ++ 10 :: framed content := by
  rw [framed, List.flatMap_cons, List.append_assoc]
  rfl

theorem framed_append (first second : List (List UInt8)) :
    framed (first ++ second) = framed first ++ framed second :=
  List.flatMap_append

theorem append_cons_inj_of_not_mem_front
    {α : Type*} {first second firstEnd secondEnd : List α} {separator : α}
    (hfirst : separator ∉ first) (hsecond : separator ∉ second)
    (heq : first ++ separator :: firstEnd = second ++ separator :: secondEnd) :
    first = second ∧ firstEnd = secondEnd := by
  rcases List.append_eq_append_iff.mp heq with
    ⟨middle, rfl, hend⟩ | ⟨middle, rfl, hend⟩
  · cases middle with
    | nil => simpa using hend
    | cons head rest =>
        rw [List.cons_append, List.cons.injEq] at hend
        exact absurd (by simp [hend.1]) hsecond
  · cases middle with
    | nil => simpa [eq_comm] using hend
    | cons head rest =>
        rw [List.cons_append, List.cons.injEq] at hend
        exact absurd (by simp [hend.1]) hfirst

/-- The first line feed of a framed content ends its first line. -/
theorem framed_eq_append_cons
    {begun rest : List UInt8} {content : List (List UInt8)}
    (hcontent : ∀ line ∈ content, Writable line)
    (hbegun : (10 : UInt8) ∉ begun)
    (heq : begun ++ 10 :: rest = framed content) :
    ∃ others, content = begun :: others ∧ rest = framed others := by
  cases content with
  | nil => simp at heq
  | cons line others =>
      rw [framed_cons] at heq
      have hline := (hcontent line List.mem_cons_self).1
      rcases append_cons_inj_of_not_mem_front hbegun hline heq with
        ⟨rfl, rfl⟩
      exact ⟨others, rfl, rfl⟩

/-- A piece of a framed content: some of its lines come out, and what is kept
is the front of the rest. -/
theorem drain_of_framed
    {content : List (List UInt8)} (hcontent : ∀ line ∈ content, Writable line)
    {begun piece later : List UInt8} (hbegun : (10 : UInt8) ∉ begun)
    (heq : begun ++ (piece ++ later) = framed content) :
    ∃ rest, content = (drain begun piece).1 ++ rest ∧
      (drain begun piece).2 ++ later = framed rest ∧
      (10 : UInt8) ∉ (drain begun piece).2 := by
  induction piece generalizing begun content with
  | nil => exact ⟨content, rfl, heq, hbegun⟩
  | cons byte piece ih =>
      by_cases hbyte : byte = 10
      · subst hbyte
        obtain ⟨others, rfl, hrest⟩ :=
          framed_eq_append_cons hcontent hbegun heq
        rw [List.forall_mem_cons] at hcontent
        obtain ⟨rest, hsplit, hkept, hclean⟩ :=
          ih hcontent.2 (List.not_mem_nil) hrest
        rw [drain, if_pos rfl, stripReturn_of_writable hcontent.1]
        refine ⟨rest, ?_, hkept, hclean⟩
        rw [List.cons_append, ← hsplit]
      · rw [drain, if_neg hbyte]
        apply ih hcontent
        · simp [hbegun, Ne.symm hbyte]
        · rw [← heq]
          simp

/-! ## Lines of text -/

/-- A byte below 128 is a character of its own. -/
theorem toNat_of_mem_utf8EncodeChar
    {c : Char} {byte : UInt8} (hmem : byte ∈ String.utf8EncodeChar c)
    (hlow : byte.toNat < 0x80) : byte.toNat = c.toNat := by
  have hvalid : c.val.toNat < 0xD800 ∨
      0xDFFF < c.val.toNat ∧ c.val.toNat < 0x110000 := c.valid
  change byte.toNat = c.val.toNat
  unfold String.utf8EncodeChar at hmem
  generalize c.val.toNat = v at hvalid hmem
  have hhigh : ∀ number, 0x80 ≤ number → number < 256 →
      byte ≠ UInt8.ofNat number := by
    rintro number hnumber hfits rfl
    rw [Utf8Lossy.toNat_ofNat_byte hfits] at hlow
    omega
  simp only at hmem
  split at hmem
  · rw [List.mem_singleton.mp hmem, Utf8Lossy.toNat_ofNat_byte (by omega)]
  · split at hmem
    · simp only [List.mem_cons, List.not_mem_nil, or_false] at hmem
      rcases hmem with hmem | hmem <;>
        exact absurd hmem (hhigh _ (by omega) (by omega))
    · split at hmem
      · simp only [List.mem_cons, List.not_mem_nil, or_false] at hmem
        rcases hmem with hmem | hmem | hmem <;>
          exact absurd hmem (hhigh _ (by omega) (by omega))
      · simp only [List.mem_cons, List.not_mem_nil, or_false] at hmem
        rcases hmem with hmem | hmem | hmem | hmem <;>
          exact absurd hmem (hhigh _ (by omega) (by omega))

theorem printable_bytes
    {text : String} (hprintable : ∀ c ∈ text.toList, 0x20 ≤ c.toNat) :
    ∀ byte ∈ Utf8Lossy.bytes text, 0x20 ≤ byte.toNat := by
  intro byte hmem
  obtain ⟨c, hc, hbyte⟩ := List.mem_flatMap.mp hmem
  by_cases hlow : byte.toNat < 0x80
  · rw [toNat_of_mem_utf8EncodeChar hbyte hlow]
    exact hprintable c hc
  · omega

theorem writable_bytes
    {text : String} (hprintable : ∀ c ∈ text.toList, 0x20 ≤ c.toNat) :
    Writable (Utf8Lossy.bytes text) := by
  constructor
  · intro hmem
    exact absurd (printable_bytes hprintable 10 hmem) (by decide)
  · intro hlast
    have hmem := List.mem_of_getLast? hlast
    exact absurd (printable_bytes hprintable 13 hmem) (by decide)

/-- The text of a line, if it is UTF-8. -/
def readUtf8 (line : List UInt8) : Option String :=
  String.fromUTF8? line.toByteArray

theorem readUtf8_bytes (text : String) :
    readUtf8 (Utf8Lossy.bytes text) = some text := by
  have hbytes : (Utf8Lossy.bytes text).toByteArray = text.toByteArray := by
    rw [Utf8Lossy.toByteArray_bytes, String.toUTF8_eq_toByteArray]
  have hvalid : (Utf8Lossy.bytes text).toByteArray.IsValidUTF8 := by
    rw [hbytes]
    exact text.isValidUTF8
  rw [readUtf8, String.fromUTF8?, dif_pos hvalid, Option.some.injEq]
  exact String.toByteArray_inj.mp hbytes

theorem bytes_of_readUtf8
    {line : List UInt8} {text : String} (hread : readUtf8 line = some text) :
    Utf8Lossy.bytes text = line := by
  rw [readUtf8, String.fromUTF8?, Option.dite_none_right_eq_some] at hread
  obtain ⟨hvalid, heq⟩ := hread
  rw [Option.some.injEq] at heq
  have hbytes : (Utf8Lossy.bytes text).toByteArray = line.toByteArray := by
    rw [Utf8Lossy.toByteArray_bytes, String.toUTF8_eq_toByteArray, ← heq]
    rfl
  exact List.toByteArray_inj.mp hbytes

/-- What was cut between two bytes is, if it is a text at all, cut between two
characters. -/
theorem exists_append_of_bytes_append
    {text front : String} {rest : List UInt8}
    (heq : Utf8Lossy.bytes text = Utf8Lossy.bytes front ++ rest) :
    ∃ behind, text.toList = front.toList ++ behind := by
  have hwhole := Utf8Lossy.decodeFrom_flatMap text.toList []
  have hfront := Utf8Lossy.decodeFrom_flatMap front.toList rest
  refine ⟨Utf8Lossy.decodeFrom none rest, ?_⟩
  rw [List.append_nil] at hwhole
  rw [← hfront]
  change _ = Utf8Lossy.decodeFrom none (Utf8Lossy.bytes front ++ rest)
  rw [← heq, Utf8Lossy.bytes, hwhole]
  exact (List.append_nil _).symm

end LineFraming
